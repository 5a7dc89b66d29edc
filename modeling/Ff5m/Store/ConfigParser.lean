import Ff5m.Text.Lines

/-!
# Python's `configparser`

Reading and writing an ini file with the default settings of `ConfigParser`:
`#` and `;` begin comment lines, `=` and `:` delimit an option from its value, an
indented line continues the value before it, a section or an option given twice
is an error, the section `DEFAULT` is the background of every other one, and `%`
begins an interpolation.  Option names go through `optionxform`, a parameter
here; so is the release of Python, as the releases do not agree on what a header
of a section is.

* `read` reads a file; every exception is `none`, as the callers catch them all;
* `items` are the options of a section with their values interpolated;
* `set` puts an option into a section, `writeSection` writes the section.
-/

namespace ConfigParser

open TextTools (Text Line lines)

/-! ## Texts -/

/-- `str.isspace` of a character. -/
def isSpace (c : Char) : Bool :=
  c ∈ [' ', '\t', '\n', '\r', '\x0b', '\x0c', '\x1c', '\x1d', '\x1e', '\x1f', '\x85', '\xa0',
    '\u1680', '\u2028', '\u2029', '\u202f', '\u205f', '\u3000'] ||
  ('\u2000' ≤ c && c ≤ '\u200a')

/-- `str.rstrip`. -/
def rstrip (t : Text) : Text := t.rdropWhile isSpace

/-- `str.strip`. -/
def strip (t : Text) : Text := rstrip (t.dropWhile isSpace)

/-- Universal newlines: a text file is read with `\r\n` and `\r` as `\n`. -/
def universal : Text → Text
  | [] => []
  | '\r' :: '\n' :: t => '\n' :: universal t
  | '\r' :: t => '\n' :: universal t
  | c :: t => c :: universal t

/-! ## Dictionaries -/

section Dict

variable {β : Type}

/-- `d[k] = v`: a key keeps its place. -/
def assign (d : List (Text × β)) (k : Text) (v : β) : List (Text × β) :=
  match d with
  | [] => [(k, v)]
  | e :: es => if e.1 = k then (k, v) :: es else e :: assign es k v

/-- `d.update(e)`. -/
def update (d e : List (Text × β)) : List (Text × β) := e.foldl (fun d p => assign d p.1 p.2) d

end Dict

/-! ## Reading -/

/-- An option of a section, with the lines of its value. -/
structure Entry where
  sect : Text
  option : Text
  body : List Text

/-- What has been read: the sections, the entries with the newest first, the
section and whether an option of it is open, and the indentation of that option. -/
structure Reader where
  sections : List Text
  entries : List Entry
  cur : Option Text
  inOption : Bool
  indent : ℕ

/-- Nothing read yet. -/
def Reader.start : Reader := ⟨[], [], none, false, 0⟩

/-- `cursect[optname].append(value)`. -/
def Reader.continueWith (v : Text) (r : Reader) : Reader :=
  match r.entries with
  | [] => r
  | e :: es => { r with entries := { e with body := e.body ++ [v] } :: es }

/-- `configparser.DEFAULTSECT`. -/
def defaultSection : Text := ['D', 'E', 'F', 'A', 'U', 'L', 'T']

/-- The releases of Python that Klipper runs on: 3.7, and 3.11 for Klipper 12. -/
inductive Release where
  | py37
  | py311
  deriving DecidableEq

/-- The match of `SECTCRE`: a bracketed name at the start.  The name is `[^]]+` in 3.7, up to
the first bracket that closes, and `.+` in 3.11, up to the last. -/
def sectionHeader (release : Release) : Text → Option Text
  | '[' :: t =>
    let name := match release with
      | .py37 => if ']' ∈ t then t.takeWhile (· ≠ ']') else []
      | .py311 => (t.rdropWhile (· ≠ ']')).dropLast
    if name = [] then none else some name
  | _ => none

/-- A character of `delimiters`. -/
def isDelimiter (c : Char) : Bool := c == '=' || c == ':'

/-- The match of `OPTCRE`: the option and its value. -/
def optionLine (value : Text) : Option (Text × Text) :=
  if value.any isDelimiter then
    some (rstrip (value.takeWhile (!isDelimiter ·)), strip (value.dropWhile (!isDelimiter ·)).tail)
  else none

/-- A whole line of comment. -/
def isComment (value : Text) : Bool := value.head? == some '#' || value.head? == some ';'

section Read

variable (release : Release) (optionxform : Text → Text)

/-- One line of the file.  Errors that `_read` raises at the end are raised at
once: the file is refused in either case. -/
def readLine (r : Reader) (line : Line) : Option Reader :=
  let value := strip line
  let depth := (line.takeWhile isSpace).length
  if isComment value then some r
  else if value = [] then some (if r.inOption then r.continueWith [] else r)
  else if r.inOption ∧ r.indent < depth then some (r.continueWith value)
  else
    match sectionHeader release value with
    | some name =>
      if name ∈ r.sections then none
      else some { r with
        sections := if name = defaultSection then r.sections else r.sections ++ [name]
        cur := some name
        inOption := false
        indent := depth }
    | none =>
      match r.cur with
      | none => none
      | some sect =>
        match optionLine value with
        | none => none
        | some (opt, val) =>
          if opt = [] then none
          else if r.entries.any fun e => e.sect = sect ∧ e.option = optionxform (rstrip opt) then none
          else some { r with
            entries := ⟨sect, optionxform (rstrip opt), [val]⟩ :: r.entries
            inOption := true
            indent := depth }

/-- A file as it was read: the sections, and the options with their values. -/
structure Config where
  sections : List Text
  entries : List (Text × Text × Text)
  deriving DecidableEq

/-- `_join_multiline_values`. -/
def joinBody (body : List Text) : Text := rstrip (['\n'].intercalate body)

/-- The end of the file. -/
def Reader.finish (r : Reader) : Config :=
  ⟨r.sections, r.entries.reverse.map fun e => (e.sect, e.option, joinBody e.body)⟩

/-- `read`, on the text of the file. -/
def read (t : Text) : Option Config :=
  ((lines (universal t)).foldlM (readLine release optionxform) Reader.start).map Reader.finish

/-- The options of a section, without the defaults. -/
def Config.options (c : Config) (sect : Text) : List (Text × Text) :=
  (c.entries.filter fun e => e.1 = sect).map fun e => e.2

/-! ## Interpolation -/

/-- A piece of a value: a character, or a reference to another option. -/
inductive Piece where
  | char (c : Char)
  | ref (key : Text)

/-- Where the reading of a value stands. -/
inductive Scan where
  | text
  | percent
  | key (k : Text)
  | closed (k : Text)

/-- The pieces of a value; `none` is an `InterpolationSyntaxError`. -/
def pieces : Scan → Text → Option (List Piece)
  | .text, [] => some []
  | .text, c :: t => if c = '%' then pieces .percent t else (pieces .text t).map (.char c :: ·)
  | .percent, [] => none
  | .percent, c :: t =>
      if c = '%' then (pieces .text t).map (.char '%' :: ·)
      else if c = '(' then pieces (.key []) t
      else none
  | .key _, [] => none
  | .key k, c :: t =>
      if c = ')' then if k = [] then none else pieces (.closed k) t
      else pieces (.key (k ++ [c])) t
  | .closed _, [] => none
  | .closed k, c :: t => if c = 's' then (pieces .text t).map (.ref k :: ·) else none

/-- What a piece stands for; the value of a reference is interpolated in turn. -/
def pieceText (d : List (Text × Text)) (inner : Text → Option Text) : Piece → Option Text
  | .char c => some [c]
  | .ref k =>
    match d.lookup (optionxform k) with
    | none => none
    | some v => if '%' ∈ v then inner v else some v

/-- `_interpolate_some` with so many levels left. -/
def interpolate (d : List (Text × Text)) : ℕ → Text → Option Text
  | 0, _ => none
  | n + 1, t =>
    (pieces .text t).bind fun ps =>
      (ps.mapM (pieceText optionxform d (interpolate d n))).map List.flatten

/-- `MAX_INTERPOLATION_DEPTH`. -/
def maxDepth : ℕ := 10

/-- `items`: the options of a section on top of the defaults. -/
def items (c : Config) (sect : Text) : Option (List (Text × Text)) :=
  let d := update [] (c.options defaultSection ++ c.options sect)
  d.mapM fun e => (interpolate optionxform d maxDepth e.2).map (e.1, ·)

/-! ## Setting and writing -/

/-- `value.replace('%%', '')`. -/
def removePairs : Text → Text
  | [] => []
  | '%' :: '%' :: t => removePairs t
  | c :: t => c :: removePairs t

/-- The length of a match of `%\(([^)]+)\)s` at the start. -/
def keyMatch : Text → Option ℕ
  | '%' :: '(' :: t =>
    let k := t.takeWhile (· ≠ ')')
    if k ≠ [] ∧ [')', 's'] <+: t.drop k.length then some (k.length + 4) else none
  | _ => none

/-- `_KEYCRE.sub('', value)`, with so many characters of a match left to skip. -/
def removeKeys : ℕ → Text → Text
  | _, [] => []
  | n + 1, _ :: t => removeKeys n t
  | 0, c :: t =>
    match keyMatch (c :: t) with
    | some len => removeKeys (len - 1) t
    | none => c :: removeKeys 0 t

/-- `set` puts the option into the section; `none` is the `ValueError` for an
interpolation that is not one. -/
def set (d : List (Text × Text)) (option value : Text) : Option (List (Text × Text)) :=
  if '%' ∈ removeKeys 0 (removePairs value) then none
  else some (assign d (optionxform option) value)

/-- An option line; the lines of a value are indented. -/
def writeOption (e : Text × Text) : Text :=
  e.1 ++ [' ', '=', ' '] ++ (e.2.flatMap fun c => if c = '\n' then ['\n', '\t'] else [c]) ++ ['\n']

/-- `_write_section`. -/
def writeSection (name : Text) (d : List (Text × Text)) : Text :=
  '[' :: name ++ [']', '\n'] ++ d.flatMap writeOption ++ ['\n']

end Read

end ConfigParser

import Ff5m.GCode.Params
import Ff5m.Store.ConfigParser

/-!
# Lines of G-code

A rendered script is a text, cut into lines that are parsed one by one.  A line is
stripped, cut at its first `;` and put into upper case, and then split at its letters: a
run of letters is a key, and what stands up to the next one its value.  So a value with a
letter in it ends there, and the rest makes further keys: `F1e3` has `F` at `1` and `E` at
`3`.

* `args`, `getArg`: the parameters of a command such as `G1`;
* `respondAccepts`: what `RESPOND` makes of its line;
* `PyFloat`: the floats of a template.
-/

namespace GCode

open TextTools (Text str)
open ConfigParser (strip)

/-! ## The parameters of a command -/

/-- `args_r.split`: what stands before the first key, and the keys with their values. -/
def splitArgs : Text → Text × List (Text × Text)
  | [] => ([], [])
  | c :: t =>
    match splitArgs t with
    | (v, ps) =>
      if isKeyChar c then
        match v, ps with
        | [], (k, w) :: rest => if k = ['*'] then ([], ([c], v) :: ps) else ([], (c :: k, w) :: rest)
        | _, _ => ([], ([c], v) :: ps)
      else if c = '*' then ([], (['*'], v) :: ps)
      else (c :: v, ps)

/-- The parameters of a command, as `_process_commands` reads them. -/
def args (up : Upper) (line : Text) : List (Text × Text) :=
  (splitArgs (up.toUpper ((strip line).takeWhile (· ≠ ';')))).2.map fun e => (e.1, strip e.2)

/-- `params.get`. -/
def getArg (up : Upper) (line key : Text) : Option Text := getParam (args up line) key

/-- `cmd_RESPOND` accepts the line with these parameters. -/
def respondAccepts (up : Upper) (raw : Text) : Bool :=
  match extendedParams up raw with
  | none => false
  | some ps =>
    match getParam ps (str "TYPE") with
    | none => true
    | some t => t.map Char.toLower ∈ [str "echo", str "command", str "error", str "echo_no_space"]

/-! ## Numbers -/

/-- A float of a template. -/
inductive PyFloat where
  | finite (q : ℚ)
  | infinite (negative : Bool)
  | nan
  deriving DecidableEq

def PyFloat.finite? : PyFloat → Option ℚ
  | .finite q => some q
  | _ => none

/-- `<` -/
def PyFloat.lt : PyFloat → PyFloat → Bool
  | .nan, _ => false
  | _, .nan => false
  | .finite a, .finite b => a < b
  | .infinite true, b => b ≠ .infinite true
  | .infinite false, _ => false
  | .finite _, .infinite negative => !negative

/-- `min` of a list of two. -/
def PyFloat.min (a b : PyFloat) : PyFloat := if b.lt a then b else a

/-- `max` of a list of two. -/
def PyFloat.max (a b : PyFloat) : PyFloat := if a.lt b then b else a

end GCode

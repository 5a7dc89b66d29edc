import Ff5m.Text.Edit

/-!
# Removing a section of `printer.base.cfg`

`fix_config` removes a section without parsing it: `sed` deletes the lines from the
section's header to the next header, `diff` and `grep` bring back what was deleted, the
last of these lines, the next header, is dropped, and so many lines are then deleted from
the header on.  The section of the bed is written into `printer.cfg` on the way.

* `removeSection_of_block`: what is left, by the number of lines that `grep` let through;
* `removeSection_exact_iff`: the section is removed and nothing else exactly when none of
  its lines, and not the next header, names `printer.base.cfg`;
* `section_removed`: the section is removed, and its lines are in `printer.cfg` behind a
  blank line.

A file that ends in a newline is the list of its lines.
-/

namespace Sections

open TextTools

/-! ## The newline step -/

/-- Are the last two lines of a file not two blank ones? -/
def needsBlank (ls : List Line) : Bool :=
  let last := ls.drop (ls.length - 2)
  last.length < 2 || last.any (· ≠ [])

/-- The two steps in front: a missing newline is added, and a blank line unless the last
two lines are blank. -/
def newlineStep (t : Text) : Text :=
  let t := if t = [] ∨ t.getLast? = some '\n' then t else t ++ ['\n']
  if needsBlank (lines t) then t ++ ['\n'] else t

/-! ## `sed` on lines -/

/-- `sed -e '/start/,/stop/d'`; the flag says that a range is open. -/
def rangeDelete (start stop : Line → Bool) : Bool → List Line → List Line
  | _, [] => []
  | false, l :: ls =>
    if start l then rangeDelete start stop true ls else l :: rangeDelete start stop false ls
  | true, l :: ls =>
    if stop l then rangeDelete start stop false ls else rangeDelete start stop true ls

/-- `sed -e '/start/,+num d'`; the counter is the number of lines still to delete. -/
def followDelete (start : Line → Bool) (num : ℕ) : ℕ → List Line → List Line
  | _, [] => []
  | 0, l :: ls => if start l then followDelete start num num ls else l :: followDelete start num 0 ls
  | k + 1, _ :: ls => followDelete start num k ls

/-! ## `diff` -/

/-- The program `diff -u`, as far as the script depends on it: between a file and the file
without one block of lines, whose first line differs from the line behind it, the lines
with a minus are one for the file's name and those of the block. -/
structure Diff where
  unified : List Line → List Line → List Line
  unified_block : ∀ pre block post : List Line, block ≠ [] → block.head? ≠ post.head? →
    ∃ name, occurs (dots "printer.base.cfg") name = true ∧
      (unified (pre ++ block ++ post) (pre ++ post)).filter (matchAt (lit "-")) =
        name :: block.map ('-' :: ·)

/-! ## The removal -/

/-- `^\[p` -/
def starts (p : String) (l : Line) : Bool := matchAt (lit ("[" ++ p)) l

/-- `^\[` -/
def isHeader (l : Line) : Bool := matchAt (lit "[") l

/-- `printer.base.cfg`, as `grep` takes it. -/
def mentionsBase (l : Line) : Bool := occurs (dots "printer.base.cfg") l

/-- `heater_bed.txt`, after its last line is deleted. -/
def removedText (d : Diff) (p : String) (base : List Line) : List Line :=
  let tmp := rangeDelete (starts p) isHeader false base
  let marked := ((d.unified base tmp).filter (!mentionsBase ·)).filter (matchAt (lit "-"))
  (marked.map (List.drop 1)).dropLast

/-- `printer.base.cfg` after a section is removed.  With a negative number `sed` refuses the
command and writes nothing. -/
def removeSection (d : Diff) (p : String) (base : List Line) : List Line :=
  let num : ℤ := (removedText d p base).length - 1
  if num < 0 then [] else followDelete (starts p) num.toNat 0 base

/-! ## The section of the bed -/

/-- The numbers of the lines that `cat -n printer.cfg | grep ./mod_data/user.cfg` finds.  In
front of a line there is a tab, which the first dot matches. -/
def userCfgNumbers (cfg : List Line) : List ℕ :=
  (cfg.zipIdx 1).filterMap fun (l, n) =>
    if occurs (dots "./mod_data/user.cfg") ('\t' :: l) then some n else none

/-- `printer.cfg` with a blank line and the section behind the line of a number. -/
def insertBed (num : ℕ) (bed cfg : List Line) : List Line :=
  cfg.take num ++ [[]] ++ bed ++ cfg.drop num

/-- The section that is written when `printer.base.cfg` has none. -/
def defaultBed : List Line :=
  ["[heater_bed]", "heater_pin: PB9", "sensor_type: Generic 3950", "sensor_pin: PC3",
    "pullup_resistor: 4700", "control: pid", "pid_Kp: 32.79", "pid_Ki: 4.970", "pid_Kd: 54.118",
    "#control: watermark", "#max_power: 1.0", "min_temp: -100", "max_temp: 130", "", ""].map str

/-- What the script does to both files when `printer.cfg` has no section of the bed.  Without
a line that has the path of `user.cfg` in it `head` fails, and the section goes to the front;
with two of them the arithmetic of the shell fails, and the script ends. -/
def moveBed (d : Diff) (base cfg : List Line) : Option (List Line × List Line) :=
  let found := base.any (starts "heater_bed")
  let bed := if found then removedText d "heater_bed" base else defaultBed
  let base := if found then removeSection d "heater_bed" base else base
  match userCfgNumbers cfg with
  | [] => some (base, insertBed 0 bed cfg)
  | [num] => some (base, insertBed num bed cfg)
  | _ => none

/-! ## The parts of a file -/

/-- The lines in front of the section. -/
def linesBefore (p : String) (base : List Line) : List Line := base.takeWhile (!starts p ·)

/-- The lines from the section's header up to the next header. -/
def sectionLines (p : String) (base : List Line) : List Line :=
  match base.dropWhile (!starts p ·) with
  | [] => []
  | h :: t => h :: t.takeWhile (!isHeader ·)

/-- The lines from the next header on. -/
def linesBehind (p : String) (base : List Line) : List Line :=
  (base.dropWhile (!starts p ·)).tail.dropWhile (!isHeader ·)

/-- A file with one header of a section. -/
structure OneSection (p : String) (pre : List Line) (header : Line) (body rest : List Line) : Prop where
  pre_starts : ∀ l ∈ pre, starts p l = false
  header_starts : starts p header = true
  body_header : ∀ l ∈ body, isHeader l = false
  rest_head : ∀ l ∈ rest.head?, isHeader l = true
  rest_starts : ∀ l ∈ rest, starts p l = false

theorem isHeader_of_starts {p : String} {l : Line} (h : starts p l = true) : isHeader l = true := by
  rw [starts, matchAt_lit_iff] at h
  rw [isHeader, matchAt_lit_iff]
  refine List.IsPrefix.trans ?_ h
  simp

variable {p : String} {pre body rest : List Line} {header : Line}

theorem OneSection.body_starts (h : OneSection p pre header body rest) :
    ∀ l ∈ body, starts p l = false := by
  intro l hl
  by_contra hs
  have := isHeader_of_starts (Bool.not_eq_false _ ▸ hs)
  simp [h.body_header l hl] at this

theorem OneSection.linesBefore_eq (h : OneSection p pre header body rest) :
    linesBefore p (pre ++ (header :: body) ++ rest) = pre := by
  rw [linesBefore, List.append_assoc,
    List.takeWhile_append_of_pos (by simpa using h.pre_starts)]
  simp [h.header_starts]

theorem OneSection.dropWhile_eq (h : OneSection p pre header body rest) :
    (pre ++ (header :: body) ++ rest).dropWhile (!starts p ·) = header :: (body ++ rest) := by
  rw [List.append_assoc, List.dropWhile_append_of_pos (by simpa using h.pre_starts)]
  simp [h.header_starts]

theorem OneSection.takeWhile_rest (h : OneSection p pre header body rest) :
    rest.takeWhile (!isHeader ·) = [] := by
  cases rest with
  | nil => rfl
  | cons l ls => simp [h.rest_head l rfl]

theorem OneSection.dropWhile_rest (h : OneSection p pre header body rest) :
    rest.dropWhile (!isHeader ·) = rest := by
  cases rest with
  | nil => rfl
  | cons l ls => simp [h.rest_head l rfl]

theorem OneSection.sectionLines_eq (h : OneSection p pre header body rest) :
    sectionLines p (pre ++ (header :: body) ++ rest) = header :: body := by
  rw [sectionLines, h.dropWhile_eq]
  simp only
  rw [List.takeWhile_append_of_pos (by simpa using h.body_header), h.takeWhile_rest, List.append_nil]

theorem OneSection.linesBehind_eq (h : OneSection p pre header body rest) :
    linesBehind p (pre ++ (header :: body) ++ rest) = rest := by
  rw [linesBehind, h.dropWhile_eq, List.tail_cons,
    List.dropWhile_append_of_pos (by simpa using h.body_header), h.dropWhile_rest]

/-- A file in which one line starts the section is made up of the parts. -/
theorem oneSection_of_countP {base : List Line} (h : base.countP (starts p) = 1) :
    ∃ pre header body rest, OneSection p pre header body rest ∧
      base = pre ++ (header :: body) ++ rest := by
  have hbase : base = base.takeWhile (!starts p ·) ++ base.dropWhile (!starts p ·) :=
    List.takeWhile_append_dropWhile.symm
  have hpre : ∀ l ∈ base.takeWhile (!starts p ·), starts p l = false := by
    intro l hl
    simpa using List.mem_takeWhile_imp hl
  have hhead : ∀ l ∈ (base.dropWhile (!starts p ·)).head?, starts p l = true := by
    intro l hl
    have := List.head?_dropWhile_not (!starts p ·) base
    rw [Option.mem_def.1 hl] at this
    simpa using this
  cases ht : base.dropWhile (!starts p ·) with
  | nil =>
    rw [hbase, ht, List.append_nil, List.countP_eq_zero.2 (by simpa using hpre)] at h
    cases h
  | cons header t =>
    rw [ht] at hhead hbase
    have hs : starts p header = true := hhead header rfl
    have ht0 : t.countP (starts p) = 0 := by
      rw [hbase, List.countP_append, List.countP_cons_of_pos hs] at h
      omega
    refine ⟨_, header, t.takeWhile (!isHeader ·), t.dropWhile (!isHeader ·),
      ⟨hpre, hs, ?_, ?_, ?_⟩, ?_⟩
    · intro l hl
      simpa using List.mem_takeWhile_imp hl
    · intro l hl
      have := List.head?_dropWhile_not (!isHeader ·) t
      rw [Option.mem_def.1 hl] at this
      simpa using this
    · intro l hl
      simpa using List.countP_eq_zero.1 ht0 l ((List.dropWhile_sublist _).subset hl)
    · rw [List.append_assoc, List.cons_append, List.takeWhile_append_dropWhile, ← hbase]

/-! ## What is deleted -/

/-- The lines of the section, and the next header. -/
def blockLines (p : String) (base : List Line) : List Line :=
  sectionLines p base ++ (linesBehind p base).take 1

/-- The number of lines of the block that `grep` lets through. -/
def keptLines (p : String) (base : List Line) : ℕ := (blockLines p base).countP (!mentionsBase ·)

theorem rangeDelete_of_none {start q : Line → Bool} {ls : List Line}
    (h : ∀ l ∈ ls, start l = false) (m : List Line) :
    rangeDelete start q false (ls ++ m) = ls ++ rangeDelete start q false m := by
  induction ls with
  | nil => rfl
  | cons l ls ih =>
    rw [List.forall_mem_cons] at h
    simp [rangeDelete, h.1, ih h.2]

theorem rangeDelete_open {start stop : Line → Bool} {ls : List Line}
    (h : ∀ l ∈ ls, stop l = false) (m : List Line) :
    rangeDelete start stop true (ls ++ m) = rangeDelete start stop true m := by
  induction ls with
  | nil => rfl
  | cons l ls ih =>
    rw [List.forall_mem_cons] at h
    simp [rangeDelete, h.1, ih h.2]

theorem followDelete_of_none {start : Line → Bool} {ls : List Line}
    (h : ∀ l ∈ ls, start l = false) (n : ℕ) (m : List Line) :
    followDelete start n 0 (ls ++ m) = ls ++ followDelete start n 0 m := by
  induction ls with
  | nil => rfl
  | cons l ls ih =>
    rw [List.forall_mem_cons] at h
    simp [followDelete, h.1, ih h.2]

theorem followDelete_open {start : Line → Bool} {ls : List Line} (h : ∀ l ∈ ls, start l = false)
    (n k : ℕ) : followDelete start n k ls = ls.drop k := by
  induction ls generalizing k with
  | nil => cases k <;> rfl
  | cons l ls ih =>
    rw [List.forall_mem_cons] at h
    cases k with
    | zero => rw [followDelete, if_neg (by simp [h.1]), ih h.2, List.drop_zero, List.drop_zero]
    | succ k => rw [followDelete, ih h.2, List.drop_succ_cons]

theorem OneSection.blockLines_eq (h : OneSection p pre header body rest) :
    blockLines p (pre ++ (header :: body) ++ rest) = header :: body ++ rest.take 1 := by
  rw [blockLines, h.sectionLines_eq, h.linesBehind_eq]

/-- The range takes the block out. -/
theorem OneSection.rangeDelete_eq (h : OneSection p pre header body rest) :
    rangeDelete (starts p) isHeader false (pre ++ (header :: body) ++ rest) = pre ++ rest.tail := by
  have hrest : ∀ l ∈ rest.tail, starts p l = false :=
    fun l hl => h.rest_starts l (List.mem_of_mem_tail hl)
  rw [List.append_assoc, rangeDelete_of_none h.pre_starts, List.cons_append, rangeDelete,
    if_pos h.header_starts, rangeDelete_open h.body_header]
  cases rest with
  | nil => rfl
  | cons l ls =>
    have := rangeDelete_of_none (q := isHeader) hrest []
    simp only [rangeDelete, List.append_nil, List.tail_cons] at this
    rw [rangeDelete, if_pos (h.rest_head l rfl), this, List.tail_cons]

/-- The number of lines deletes from the header on. -/
theorem OneSection.followDelete_eq (h : OneSection p pre header body rest) (n : ℕ) :
    followDelete (starts p) n 0 (pre ++ (header :: body) ++ rest) =
      pre ++ (header :: body ++ rest).drop (n + 1) := by
  have hbehind : ∀ l ∈ body ++ rest, starts p l = false := by
    intro l hl
    rcases List.mem_append.1 hl with hl | hl
    · exact h.body_starts l hl
    · exact h.rest_starts l hl
  rw [List.append_assoc, followDelete_of_none h.pre_starts, List.cons_append, followDelete,
    if_pos h.header_starts, followDelete_open hbehind, List.drop_succ_cons]

/-! ## What `diff` and `grep` bring back -/

theorem mentionsBase_minus (l : Line) : mentionsBase ('-' :: l) = mentionsBase l := by
  simp [mentionsBase, occurs, matchAt, dots]

theorem OneSection.removedText_eq (h : OneSection p pre header body rest) (d : Diff) :
    removedText d p (pre ++ (header :: body) ++ rest) =
      ((blockLines p (pre ++ (header :: body) ++ rest)).filter (!mentionsBase ·)).dropLast := by
  obtain ⟨name, hname, hblock⟩ := d.unified_block pre (header :: body ++ rest.take 1) rest.tail
    (by simp) (by
      intro he
      have hm : header ∈ rest.tail := List.mem_of_mem_head? (he ▸ rfl)
      have := h.rest_starts header (List.mem_of_mem_tail hm)
      simp [h.header_starts] at this)
  have hbase : pre ++ (header :: body ++ rest.take 1) ++ rest.tail = pre ++ (header :: body) ++ rest := by
    simp [← List.drop_one]
  rw [hbase] at hblock
  rw [removedText, h.rangeDelete_eq, h.blockLines_eq]
  simp only [List.filter_filter]
  simp only [Bool.and_comm]
  rw [← List.filter_filter, hblock, List.filter_cons_of_neg (by simpa [mentionsBase] using hname),
    List.filter_map, List.map_map]
  have hcut : List.drop 1 ∘ (fun l : Line => '-' :: l) = id := rfl
  have hmention : (fun l => !mentionsBase l) ∘ (fun l : Line => '-' :: l) = (!mentionsBase ·) := by
    funext l
    simp [mentionsBase_minus]
  rw [hcut, hmention, List.map_id]

theorem OneSection.length_removedText (h : OneSection p pre header body rest) (d : Diff) :
    (removedText d p (pre ++ (header :: body) ++ rest)).length =
      keptLines p (pre ++ (header :: body) ++ rest) - 1 := by
  rw [h.removedText_eq, List.length_dropLast, ← List.countP_eq_length_filter, keptLines]

/-- What is left: nothing when at most one line came through, else the file without as many
lines as came through, but one. -/
theorem OneSection.removeSection_eq (h : OneSection p pre header body rest) (d : Diff) :
    removeSection d p (pre ++ (header :: body) ++ rest) =
      if keptLines p (pre ++ (header :: body) ++ rest) ≤ 1 then []
      else pre ++ (header :: body ++ rest).drop (keptLines p (pre ++ (header :: body) ++ rest) - 1) := by
  rw [removeSection]
  simp only [h.length_removedText d]
  generalize keptLines p (pre ++ (header :: body) ++ rest) = k
  split
  · rw [if_pos (by omega)]
  · rw [if_neg (by omega), h.followDelete_eq]
    congr 2
    omega

/-! ## Exactly the section -/

/-- The section is removed and nothing else, but for one blank line at the end of the file. -/
def Removed (p : String) (base result : List Line) : Prop :=
  result = linesBefore p base ++ linesBehind p base ∨
    linesBehind p base = [] ∧ base.getLast? = some [] ∧ result = linesBefore p base ++ [[]]

theorem OneSection.removed_iff (h : OneSection p pre header body rest) {result : List Line} :
    Removed p (pre ++ (header :: body) ++ rest) result ↔
      result = pre ++ rest ∨
        rest = [] ∧ (pre ++ (header :: body) ++ rest).getLast? = some [] ∧ result = pre ++ [[]] := by
  rw [Removed, h.linesBefore_eq, h.linesBehind_eq]

theorem OneSection.keptLines_le (h : OneSection p pre header body rest) :
    keptLines p (pre ++ (header :: body) ++ rest) ≤ body.length + 1 + (rest.take 1).length := by
  rw [keptLines, h.blockLines_eq]
  exact List.countP_le_length.trans (by simp)

/-- Every line of the block comes through exactly when none names the file. -/
theorem OneSection.keptLines_eq_iff (h : OneSection p pre header body rest) :
    keptLines p (pre ++ (header :: body) ++ rest) = body.length + 1 + (rest.take 1).length ↔
      ∀ l ∈ blockLines p (pre ++ (header :: body) ++ rest), mentionsBase l = false := by
  have hlen : body.length + 1 + (rest.take 1).length =
      (blockLines p (pre ++ (header :: body) ++ rest)).length := by
    rw [h.blockLines_eq]
    simp
    omega
  rw [hlen, keptLines, List.countP_eq_length]
  simp

/-- At the end of a file whose last line is blank, the section has that line. -/
theorem OneSection.body_last (h : OneSection p pre header body rest) (hrest : rest = [])
    (hlast : (pre ++ (header :: body) ++ rest).getLast? = some []) :
    ∃ init, body = init ++ [[]] := by
  have hheader : header ≠ [] := by
    rintro rfl
    have := h.header_starts
    simp [starts, lit, matchAt] at this
  rw [hrest, List.append_nil, List.getLast?_append_of_ne_nil _ (by simp)] at hlast
  cases hb : body with
  | nil => simp [hb, hheader] at hlast
  | cons b bs =>
    rw [hb, List.getLast?_cons_cons] at hlast
    exact ⟨(b :: bs).dropLast, (List.dropLast_append_getLast? _ hlast).symm⟩

/-- When every line comes through, as many lines are deleted as the section has, but for the
last line of the file. -/
theorem OneSection.removeSection_of_eq (h : OneSection p pre header body rest) (d : Diff)
    (hlast : (pre ++ (header :: body) ++ rest).getLast? = some [])
    (heq : keptLines p (pre ++ (header :: body) ++ rest) = body.length + 1 + (rest.take 1).length) :
    removeSection d p (pre ++ (header :: body) ++ rest) =
      pre ++ (header :: body ++ rest).drop (body.length + (rest.take 1).length) := by
  have htwo : 1 ≤ body.length + (rest.take 1).length := by
    cases hr : rest with
    | nil =>
      obtain ⟨init, hinit⟩ := h.body_last hr hlast
      simp [hinit]
    | cons l ls => simp
  rw [h.removeSection_eq d, heq, if_neg (by omega), show body.length + 1 + (rest.take 1).length - 1 =
    body.length + (rest.take 1).length by omega]

theorem OneSection.removed_of_eq (h : OneSection p pre header body rest) (d : Diff)
    (hlast : (pre ++ (header :: body) ++ rest).getLast? = some [])
    (heq : keptLines p (pre ++ (header :: body) ++ rest) = body.length + 1 + (rest.take 1).length) :
    Removed p (pre ++ (header :: body) ++ rest) (removeSection d p (pre ++ (header :: body) ++ rest)) := by
  rw [h.removed_iff, h.removeSection_of_eq d hlast heq]
  cases hr : rest with
  | nil =>
    obtain ⟨init, hinit⟩ := h.body_last hr hlast
    right
    refine ⟨rfl, hr ▸ hlast, ?_⟩
    simp [hinit]
  | cons l ls =>
    left
    simp

theorem OneSection.removed_iff_of_ne (h : OneSection p pre header body rest) (d : Diff)
    (hlast : (pre ++ (header :: body) ++ rest).getLast? = some [])
    (hne : keptLines p (pre ++ (header :: body) ++ rest) ≠ body.length + 1 + (rest.take 1).length) :
    Removed p (pre ++ (header :: body) ++ rest)
        (removeSection d p (pre ++ (header :: body) ++ rest)) ↔
      pre = [] ∧ rest = [] ∧ keptLines p (pre ++ (header :: body) ++ rest) ≤ 1 := by
  have hle := h.keptLines_le
  rw [h.removed_iff, h.removeSection_eq d]
  generalize hk : keptLines p (pre ++ (header :: body) ++ rest) = k at hne hle
  split
  · next hk1 =>
    constructor
    · rintro (heq | ⟨-, -, heq⟩)
      · exact ⟨(List.append_eq_nil_iff.1 heq.symm).1, (List.append_eq_nil_iff.1 heq.symm).2, hk1⟩
      · simp at heq
    · rintro ⟨rfl, rfl, -⟩
      exact .inl rfl
  · next hk1 =>
    -- More lines are left than may be.
    have hlen : (pre ++ (header :: body ++ rest).drop (k - 1)).length =
        pre.length + (body.length + 1 + rest.length - (k - 1)) := by
      simp only [List.length_append, List.length_drop, List.length_cons]
    refine iff_of_false ?_ (fun hc => hk1 hc.2.2)
    rintro (heq | ⟨hr, -, heq⟩)
    · rw [heq, List.length_append] at hlen
      rw [List.length_take] at hne hle
      omega
    · rw [heq, List.length_append, List.length_singleton] at hlen
      rw [hr] at hlen hne hle
      simp only [List.take_nil, List.length_nil] at hlen hne hle
      omega

/-- The section is removed exactly when its lines and the next header do not name the file,
or the file is nothing but the section and becomes empty. -/
theorem removeSection_exact_iff (d : Diff) {base : List Line} (hone : base.countP (starts p) = 1)
    (hlast : base.getLast? = some []) :
    Removed p base (removeSection d p base) ↔
      (∀ l ∈ blockLines p base, mentionsBase l = false) ∨
        linesBefore p base = [] ∧ linesBehind p base = [] ∧ keptLines p base ≤ 1 := by
  obtain ⟨pre, header, body, rest, h, rfl⟩ := oneSection_of_countP hone
  by_cases heq : keptLines p (pre ++ (header :: body) ++ rest) =
      body.length + 1 + (rest.take 1).length
  · exact iff_of_true (h.removed_of_eq d hlast heq) (.inl (h.keptLines_eq_iff.1 heq))
  · rw [h.removed_iff_of_ne d hlast heq, ← h.keptLines_eq_iff, h.linesBefore_eq, h.linesBehind_eq]
    exact (or_iff_right heq).symm

/-! ## After the newline step -/

theorem newlineStep_eq (t : Text) :
    newlineStep t = unlines (lines t) ++ if needsBlank (lines t) then ['\n'] else [] := by
  have hterm : (if t = [] ∨ t.getLast? = some '\n' then t else t ++ ['\n']) = unlines (lines t) :=
    (unlines_lines t).symm
  rw [newlineStep]
  simp only [hterm, lines_unlines no_newline_of_mem_lines]
  split
  · rfl
  · rw [List.append_nil]

theorem lines_newlineStep (t : Text) :
    lines (newlineStep t) = lines t ++ if needsBlank (lines t) then [[]] else [] := by
  rw [newlineStep_eq, lines_append (terminated_unlines _), lines_unlines no_newline_of_mem_lines]
  split <;> rfl

theorem newlineStep_eq_self_iff {t : Text} :
    newlineStep t = t ↔ Terminated t ∧ needsBlank (lines t) = false := by
  rw [newlineStep_eq]
  constructor
  · intro h
    cases hb : needsBlank (lines t)
    · rw [hb, if_neg (by simp), List.append_nil, unlines_lines_eq_iff] at h
      exact ⟨h, rfl⟩
    · have hlines := congrArg (fun u => (lines u).length) h
      simp only [hb, if_true, lines_append (terminated_unlines _),
        lines_unlines no_newline_of_mem_lines] at hlines
      simp [lines] at hlines
  · rintro ⟨hterm, hb⟩
    rw [hb, if_neg (by simp), List.append_nil, unlines_lines_of_terminated hterm]

/-- A file that needs no blank line ends in two. -/
theorem blank_of_not_needsBlank {ls : List Line} (h : needsBlank ls = false) :
    2 ≤ ls.length ∧ ls.getLast? = some [] := by
  simp only [needsBlank, Bool.or_eq_false_iff, decide_eq_false_iff_not, not_lt, List.any_eq_false,
    decide_eq_true_eq, not_not] at h
  have hlen : 2 ≤ ls.length := h.1.trans (by simp)
  have hne : ls.drop (ls.length - 2) ≠ [] := by
    intro hnil
    simp [hnil] at h
  have hblank := h.2 _ (List.getLast_mem hne)
  rw [List.getLast_drop] at hblank
  rw [List.getLast?_eq_some_getLast (List.ne_nil_of_drop_ne_nil hne), hblank]
  exact ⟨hlen, rfl⟩

/-- The last line is blank after the newline step. -/
theorem getLast?_newlineStep (t : Text) : (lines (newlineStep t)).getLast? = some [] := by
  rw [lines_newlineStep]
  cases h : needsBlank (lines t)
  · simpa using (blank_of_not_needsBlank h).2
  · simp

/-- `printer.base.cfg` after the newline step. -/
def normalised (t : Text) : List Line := lines (newlineStep t)

/-- No line of a section, and not the next header, names `printer.base.cfg`. -/
def Unnamed (p : String) (base : List Line) : Prop := ∀ l ∈ blockLines p base, mentionsBase l = false

/-- The removed lines are those of the section, but for the last line of the file. -/
theorem OneSection.removedText_of_unnamed (h : OneSection p pre header body rest) (d : Diff)
    (hu : Unnamed p (pre ++ (header :: body) ++ rest)) :
    removedText d p (pre ++ (header :: body) ++ rest) =
      (header :: body ++ rest).take (body.length + (rest.take 1).length) := by
  have hall : (blockLines p (pre ++ (header :: body) ++ rest)).filter (!mentionsBase ·) =
      blockLines p (pre ++ (header :: body) ++ rest) := by
    rw [List.filter_eq_self]
    intro l hl
    simp [hu l hl]
  rw [h.removedText_eq, hall, h.blockLines_eq, List.dropLast_eq_take]
  cases rest <;> simp

instance {base result : List Line} : Decidable (Removed p base result) :=
  inferInstanceAs (Decidable (_ ∨ _))

instance {base : List Line} : Decidable (Unnamed p base) :=
  inferInstanceAs (Decidable (∀ l ∈ blockLines p base, mentionsBase l = false))

/-- What is removed stood in one place, and the rest of the file stays. -/
theorem removedText_cut (d : Diff) {base : List Line} (hone : base.countP (starts p) = 1)
    (hlast : base.getLast? = some []) (hu : Unnamed p base) :
    ∃ rest, base = linesBefore p base ++ removedText d p base ++ rest ∧
      removeSection d p base = linesBefore p base ++ rest := by
  obtain ⟨pre, header, body, rest, h, rfl⟩ := oneSection_of_countP hone
  have heq := h.keptLines_eq_iff.2 hu
  refine ⟨(header :: body ++ rest).drop (body.length + (rest.take 1).length), ?_, ?_⟩
  · rw [h.removedText_of_unnamed d hu, h.linesBefore_eq, List.append_assoc pre (List.take _ _),
      List.take_append_drop, List.append_assoc]
  · rw [h.removeSection_of_eq d hlast heq, h.linesBefore_eq]

/-- **A section is removed**: one that has one header, and does not name the file.  The
section of the bed is then in `printer.cfg`, line for line, behind the line of `user.cfg`
and a blank line. -/
theorem section_removed (d : Diff) (p : String) (t : Text) (cfg : List Line)
    (hone : (normalised t).countP (starts p) = 1) (hu : Unnamed p (normalised t)) :
    Removed p (normalised t) (removeSection d p (normalised t)) ∧
      ∃ removed rest, normalised t = linesBefore p (normalised t) ++ removed ++ rest ∧
        removeSection d p (normalised t) = linesBefore p (normalised t) ++ rest ∧
        (p = "heater_bed" → ∀ num, userCfgNumbers cfg = [num] →
          moveBed d (normalised t) cfg = some (linesBefore p (normalised t) ++ rest,
            cfg.take num ++ [[]] ++ removed ++ cfg.drop num)) := by
  have hlast : (normalised t).getLast? = some [] := getLast?_newlineStep t
  refine ⟨(removeSection_exact_iff d hone hlast).2 (.inl hu), removedText d p (normalised t), ?_⟩
  obtain ⟨rest, hcut, hrem⟩ := removedText_cut d hone hlast hu
  refine ⟨rest, hcut, hrem, ?_⟩
  rintro rfl num hnum
  have hfound : (normalised t).any (starts "heater_bed") = true := by
    rw [List.any_eq_true]
    exact List.countP_pos_iff.1 (hone ▸ Nat.one_pos)
  rw [moveBed, hnum]
  simp only [hfound, if_true, hrem, insertBed]

/-! ## A `diff` -/

/-- The first of two files from the first line on in which they differ. -/
def dropCommon : List Line → List Line → List Line
  | l :: ls, m :: ms => if l = m then dropCommon ls ms else l :: ls
  | ls, _ => ls

theorem dropCommon_append (pre : List Line) {block post : List Line} (hne : block ≠ [])
    (hhead : block.head? ≠ post.head?) :
    dropCommon (pre ++ block ++ post) (pre ++ post) = block ++ post := by
  induction pre with
  | nil =>
    cases block with
    | nil => exact absurd rfl hne
    | cons b bs =>
      cases post with
      | nil => rfl
      | cons q qs =>
        have hbq : b ≠ q := by simpa using hhead
        simp [dropCommon, hbq]
  | cons l ls ih => simpa [dropCommon] using ih

/-- For two files of which the second lacks a block of lines. -/
def blockDiff : Diff where
  unified a b := str "--- /tmp/printer.base.cfg" :: str "+++ printer.base.tmp" ::
    ((dropCommon a b).take (a.length - b.length)).map ('-' :: ·)
  unified_block := by
    intro pre block post hne hhead
    refine ⟨str "--- /tmp/printer.base.cfg", by decide, ?_⟩
    have hlen : (pre ++ block ++ post).length - (pre ++ post).length = block.length := by
      simp only [List.length_append]
      omega
    rw [dropCommon_append pre hne hhead, hlen, List.take_left, List.filter_cons_of_pos (by decide),
      List.filter_cons_of_neg (by decide), List.filter_eq_self.2]
    intro l hl
    obtain ⟨m, -, rfl⟩ := List.mem_map.1 hl
    simp [lit, matchAt]

theorem section_removed_bed :
    let base := normalised (str "[printer]\n[heater_bed]\nx: 1\n[next]\n")
    let cfg := [str "[include ./mod_data/user.cfg]", str "[mcu]"]
    Removed "heater_bed" base (removeSection blockDiff "heater_bed" base) ∧ ∃ removed rest,
      base = linesBefore "heater_bed" base ++ removed ++ rest ∧
      moveBed blockDiff base cfg = some (linesBefore "heater_bed" base ++ rest,
        cfg.take 1 ++ [[]] ++ removed ++ cfg.drop 1) := by
  obtain ⟨hremoved, removed, rest, hcut, -, hbed⟩ := section_removed blockDiff "heater_bed"
    (str "[printer]\n[heater_bed]\nx: 1\n[next]\n") [str "[include ./mod_data/user.cfg]", str "[mcu]"]
    (by decide) (by decide)
  exact ⟨hremoved, removed, rest, hcut, hbed rfl 1 (by decide)⟩

/-- A blank line is inserted with the section; a line that names `printer.base.cfg` leaves a
line of the section in the file; with two lines that name `user.cfg` nothing is inserted. -/
theorem section_not_exact :
    (moveBed blockDiff (normalised (str "[heater_bed]\nx: 1\n[next]\n"))
        [str "[include ./mod_data/user.cfg]"]).map Prod.snd ≠
      some [str "[include ./mod_data/user.cfg]", str "[heater_bed]", str "x: 1"] ∧
    (normalised (str "[heater_bed]\n# printer.base.cfg\nx: 1\n[next]\n")).countP
        (starts "heater_bed") = 1 ∧
    ¬ Removed "heater_bed" (normalised (str "[heater_bed]\n# printer.base.cfg\nx: 1\n[next]\n"))
      (removeSection blockDiff "heater_bed"
        (normalised (str "[heater_bed]\n# printer.base.cfg\nx: 1\n[next]\n"))) ∧
    moveBed blockDiff (normalised (str "[heater_bed]\nx: 1\n[next]\n"))
      [str "[include ./mod_data/user.cfg]", str "# ./mod_data/user.cfg"] = none := by
  decide

end Sections

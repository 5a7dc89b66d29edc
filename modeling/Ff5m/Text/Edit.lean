import Ff5m.Text.Tools

/-!
# Deleting and inserting lines

The `d` and `i` commands of `sed -i`.  Both work on a text cut into its lines *with*
their newlines, so that a missing final newline stays missing.

* `pieces` cuts a text, `IsCut` says which lists of pieces are cuts, and
  `pieces_flatten` that a cut is recovered from its text;
* `sedDelete` deletes the lines that pass a test, `sedInsert` writes a line before
  another one;
* `sedDelete_sedInsert`: a deletion forgets an insertion that it deletes.
-/

namespace TextTools

/-! ## Pieces -/

/-- The lines of a text, with their newlines. -/
def pieces : Text → List Text
  | [] => []
  | c :: cs =>
      if c = '\n' then ['\n'] :: pieces cs
      else
        match pieces cs with
        | [] => [[c]]
        | p :: ps => (c :: p) :: ps

/-- A line without its newline. -/
def chomp (p : Text) : Line := p.takeWhile (· ≠ '\n')

/-- Every piece is a line with its newline, but for the last one, which may be a line
without. -/
inductive IsCut : List Text → Prop
  | nil : IsCut []
  | last {l : Line} : '\n' ∉ l → l ≠ [] → IsCut [l]
  | cons {l : Line} {ps : List Text} : '\n' ∉ l → IsCut ps → IsCut ((l ++ ['\n']) :: ps)

@[simp] theorem chomp_append_newline {l : Line} (h : '\n' ∉ l) (t : Text) :
    chomp (l ++ '\n' :: t) = l :=
  takeWhile_ne_append h t

theorem chomp_of_no_newline {l : Line} (h : '\n' ∉ l) : chomp l = l := by
  rw [chomp, List.takeWhile_eq_self_iff]
  intro c hc
  simpa using fun hn : c = '\n' => h (hn ▸ hc)

theorem pieces_append_newline {l : Line} (h : '\n' ∉ l) (t : Text) :
    pieces (l ++ '\n' :: t) = (l ++ ['\n']) :: pieces t := by
  induction l with
  | nil => simp [pieces]
  | cons c cs ih =>
    simp only [List.mem_cons, not_or] at h
    rw [List.cons_append, pieces, if_neg (Ne.symm h.1), ih h.2]
    rfl

theorem pieces_of_no_newline {t : Text} (h : '\n' ∉ t) (hne : t ≠ []) : pieces t = [t] := by
  induction t with
  | nil => exact absurd rfl hne
  | cons c cs ih =>
    simp only [List.mem_cons, not_or] at h
    rw [pieces, if_neg (Ne.symm h.1)]
    cases cs with
    | nil => rfl
    | cons d ds => rw [ih h.2 (by simp)]

/-- A cut is recovered from its text. -/
theorem pieces_flatten {ps : List Text} (h : IsCut ps) : pieces ps.flatten = ps := by
  induction h with
  | nil => rfl
  | last hl hne => rw [List.flatten_singleton, pieces_of_no_newline hl hne]
  | cons hl _ ih =>
    rw [List.flatten_cons, List.append_assoc, List.singleton_append, pieces_append_newline hl, ih]

/-- The pieces of a text make it up. -/
theorem flatten_pieces (t : Text) : (pieces t).flatten = t := by
  induction t with
  | nil => rfl
  | cons c cs ih =>
    rw [pieces]
    split_ifs with hc
    · rw [List.flatten_cons, ih, hc]
      rfl
    · cases hp : pieces cs with
      | nil =>
        rw [hp] at ih
        simp [← ih]
      | cons p ps =>
        rw [hp] at ih
        simpa using ih

/-- The pieces of a text are a cut. -/
theorem isCut_pieces (t : Text) : IsCut (pieces t) := by
  induction t with
  | nil => exact .nil
  | cons c cs ih =>
    rw [pieces]
    split_ifs with hc
    · exact .cons (l := []) (by simp) ih
    · generalize pieces cs = ps at ih
      cases ih with
      | nil => exact .last (by simpa using Ne.symm hc) (by simp)
      | last hl _ => exact .last (by simpa using ⟨Ne.symm hc, hl⟩) (by simp)
      | cons hl hps => exact .cons (l := c :: _) (by simpa using ⟨Ne.symm hc, hl⟩) hps

/-- The lines of a text are its pieces without their newlines. -/
theorem lines_flatten {ps : List Text} (h : IsCut ps) : lines ps.flatten = ps.map chomp := by
  induction h with
  | nil => rfl
  | last hl hne => simp [lines_of_no_newline hl hne, chomp_of_no_newline hl]
  | cons hl _ ih =>
    rw [List.flatten_cons, List.append_assoc, List.singleton_append, lines_append_newline hl, ih,
      List.map_cons, chomp_append_newline hl]

theorem lines_eq_map_chomp (t : Text) : lines t = (pieces t).map chomp := by
  rw [← lines_flatten (isCut_pieces t), flatten_pieces]

/-- Dropping pieces leaves a cut. -/
theorem IsCut.filter {ps : List Text} (h : IsCut ps) (f : Text → Bool) : IsCut (ps.filter f) := by
  induction h with
  | nil => exact .nil
  | @last l hl hne =>
    cases hf : f l
    · simpa [hf] using IsCut.nil
    · simpa [hf] using IsCut.last hl hne
  | @cons l ps hl hps ih =>
    rw [List.filter_cons]
    split_ifs
    · exact .cons hl ih
    · exact ih

/-- A word without a newline lies in one line. -/
theorem infix_iff_mem_lines {w t : Text} (hw : '\n' ∉ w) (hne : w ≠ []) :
    w <:+: t ↔ ∃ l ∈ lines t, w <:+: l := by
  have hcut := isCut_pieces t
  rw [lines_eq_map_chomp]
  conv_lhs => rw [← flatten_pieces t]
  generalize pieces t = ps at hcut ⊢
  induction hcut with
  | nil => simp [hne]
  | last hl _ => simp [chomp_of_no_newline hl]
  | @cons l ps hl _ ih =>
    rw [List.flatten_cons, List.append_assoc, List.singleton_append, infix_sep_iff hw, ih]
    simp [chomp_append_newline hl]

/-- Writing a line before a piece leaves a cut. -/
theorem IsCut.insert {ps : List Text} (h : IsCut ps) {w : Line} (hw : '\n' ∉ w) {i : ℕ}
    (hi : i < ps.length) : IsCut (ps.take i ++ (w ++ ['\n']) :: ps.drop i) := by
  induction h generalizing i with
  | nil => exact absurd hi (Nat.not_lt_zero _)
  | last hl hne =>
    obtain rfl : i = 0 := by simpa using hi
    exact .cons hw (.last hl hne)
  | cons hl hps ih =>
    cases i with
    | zero => exact .cons hw (.cons hl hps)
    | succ i => exact .cons hl (ih (by simpa using hi))

/-! ## Editing -/

/-- `sed -i '/p/d'`: delete the lines that pass the test. -/
def sedDelete (p : Line → Bool) (t : Text) : Text :=
  ((pieces t).filter fun s => !p (chomp s)).flatten

/-- `sed -i 'N i\w'`: write a line before the one that has `i` lines in front of it, if
there is one. -/
def sedInsert (i : ℕ) (w : Line) (t : Text) : Text :=
  if i < (pieces t).length then
    ((pieces t).take i ++ (w ++ ['\n']) :: (pieces t).drop i).flatten
  else t

theorem pieces_sedDelete (p : Line → Bool) (t : Text) :
    pieces (sedDelete p t) = (pieces t).filter fun s => !p (chomp s) :=
  pieces_flatten ((isCut_pieces t).filter _)

theorem lines_sedDelete (p : Line → Bool) (t : Text) :
    lines (sedDelete p t) = (lines t).filter (!p ·) := by
  rw [lines_eq_map_chomp, pieces_sedDelete, lines_eq_map_chomp, List.filter_map]
  rfl

/-- Two deletions are one. -/
theorem sedDelete_sedDelete (p q : Line → Bool) (t : Text) :
    sedDelete q (sedDelete p t) = sedDelete (fun l => p l || q l) t := by
  rw [sedDelete, pieces_sedDelete, List.filter_filter, sedDelete]
  congr 1
  apply List.filter_congr
  intro s _
  rw [Bool.not_or, Bool.and_comm]

/-- A deletion that finds no line changes nothing. -/
theorem sedDelete_eq_self {p : Line → Bool} {t : Text} (h : ∀ l ∈ lines t, p l = false) :
    sedDelete p t = t := by
  rw [sedDelete, List.filter_eq_self.2, flatten_pieces]
  intro s hs
  rw [lines_eq_map_chomp] at h
  simp [h (chomp s) (List.mem_map_of_mem hs)]

theorem length_pieces (t : Text) : (pieces t).length = (lines t).length := by
  rw [lines_eq_map_chomp, List.length_map]

/-- Without a line to write before, nothing is written. -/
theorem sedInsert_of_le {i : ℕ} {w : Line} {t : Text} (h : (lines t).length ≤ i) :
    sedInsert i w t = t := by
  rw [sedInsert, if_neg (by rw [length_pieces]; omega)]

theorem lines_sedInsert {i : ℕ} {w : Line} {t : Text} (hw : '\n' ∉ w) (h : i < (lines t).length) :
    lines (sedInsert i w t) = (lines t).take i ++ w :: (lines t).drop i := by
  have hi : i < (pieces t).length := by rwa [length_pieces]
  rw [sedInsert, if_pos hi, lines_flatten ((isCut_pieces t).insert hw hi), lines_eq_map_chomp t,
    List.map_append, List.map_cons, chomp_append_newline hw, List.map_take, List.map_drop]

/-- A deletion forgets a line that was written before and that it deletes. -/
theorem sedDelete_sedInsert {p : Line → Bool} {i : ℕ} {w : Line} (hw : '\n' ∉ w) (hp : p w = true)
    (t : Text) : sedDelete p (sedInsert i w t) = sedDelete p t := by
  by_cases hi : i < (pieces t).length
  · rw [sedInsert, if_pos hi, sedDelete, pieces_flatten ((isCut_pieces t).insert hw hi), sedDelete,
      List.filter_append, List.filter_cons_of_neg (by simp [chomp_append_newline hw, hp]),
      ← List.filter_append, List.take_append_drop]
  · rw [sedInsert, if_neg hi]

end TextTools

import Mathlib

/-!
# Texts and their lines

A text is a list of characters, and a line is what a line tool (`grep`, `sed`,
`awk`, `wc`) sees of it: the characters between two newlines, without them.  A
byte string is the special case in which every character is below 256; nothing
here depends on that bound.

* `lines` cuts a text the way POSIX tools do: every newline ends a line, and
  what follows the last newline is one more line unless it is empty;
* `unlines` writes lines back, each with its newline;
* `lines_unlines` and `unlines_lines` say when the two undo each other, and
  `unlines_lines_eq_iff` that the only text they change is one whose last line
  has no newline;
* `unlines_filter_lines_eq_iff` says when re-emitting the lines that pass a test
  (`grep`, `grep -v`) gives the text back.
-/

namespace TextTools

/-- A text, as the list of its characters. -/
abbrev Text := List Char

/-- Texts are compared character by character. -/
instance : LawfulBEq Text := inferInstanceAs (LawfulBEq (List Char))

/-- One line of a text, without its newline. -/
abbrev Line := List Char

/-- A text written as a string. -/
def str (s : String) : Text := s.toList

/-- The lines of a text. -/
def lines : Text → List Line
  | [] => []
  | c :: cs =>
      if c = '\n' then [] :: lines cs
      else
        match lines cs with
        | [] => [[c]]
        | l :: ls => (c :: l) :: ls

/-- Write lines back, each followed by a newline. -/
def unlines (ls : List Line) : Text := ls.flatMap (· ++ ['\n'])

/-- Every line of the text is ended by a newline. -/
def Terminated (t : Text) : Prop := t = [] ∨ t.getLast? = some '\n'

instance (t : Text) : Decidable (Terminated t) :=
  inferInstanceAs (Decidable (t = [] ∨ t.getLast? = some '\n'))

/-- What is in front of the first occurrence of a character. -/
theorem takeWhile_ne_append {c : Char} {w : Text} (h : c ∉ w) (u : Text) :
    (w ++ c :: u).takeWhile (· ≠ c) = w := by
  rw [List.takeWhile_append_of_pos]
  · simp
  · intro d hd
    simpa using ne_of_mem_of_not_mem hd h

/-- A word without a separator that ends a text and does not reach over it. -/
theorem suffix_of_suffix_append {w k t : Text} {c : Char} (hc : c ∉ w) (h : w <:+ k ++ c :: t) :
    w <:+ t := by
  by_cases hlen : w.length ≤ t.length
  · have ht : t <:+ k ++ c :: t := ⟨k ++ [c], by simp⟩
    exact List.suffix_of_suffix_length_le h ht hlen
  · have hk : c :: t <:+ w :=
      List.suffix_of_suffix_length_le (List.suffix_append k _) h (by rw [List.length_cons]; omega)
    exact absurd (hk.subset (by simp)) hc

/-- A word without a separator lies in front of it or behind it. -/
theorem infix_sep_iff {w a b : Text} {c : Char} (hc : c ∉ w) :
    w <:+: a ++ c :: b ↔ w <:+: a ∨ w <:+: b := by
  constructor
  · rintro ⟨u, v, h⟩
    rcases List.append_eq_append_iff.1 h with ⟨x, ha, -⟩ | ⟨x, hx, hb⟩
    · exact .inl ⟨u, x, ha.symm⟩
    cases x with
    | nil => exact .inl ⟨u, [], by simpa using hx⟩
    | cons d ds =>
      rw [List.cons_append, List.cons.injEq] at hb
      obtain ⟨rfl, rfl⟩ := hb
      have hsuffix : w <:+ ds := suffix_of_suffix_append hc ⟨u, hx⟩
      exact .inr (hsuffix.isInfix.trans (List.prefix_append ds v).isInfix)
  · rintro (h | h)
    · exact h.trans (List.prefix_append a _).isInfix
    · exact h.trans ((List.suffix_cons c b).trans (List.suffix_append a _)).isInfix

/-! ## Cutting and writing back -/

@[simp] theorem lines_nil : lines [] = [] := rfl

@[simp] theorem lines_newline_cons (t : Text) : lines ('\n' :: t) = [] :: lines t := by
  simp [lines]

@[simp] theorem unlines_nil : unlines [] = [] := rfl

@[simp] theorem unlines_cons (l : Line) (ls : List Line) :
    unlines (l :: ls) = l ++ '\n' :: unlines ls := by
  simp [unlines]

@[simp] theorem unlines_append (ls ms : List Line) :
    unlines (ls ++ ms) = unlines ls ++ unlines ms := by
  simp [unlines]

theorem lines_eq_nil_iff {t : Text} : lines t = [] ↔ t = [] := by
  constructor
  · intro h
    cases t with
    | nil => rfl
    | cons c cs =>
      rw [lines] at h
      split at h
      · simp at h
      · split at h <;> simp at h
  · rintro rfl
    rfl

theorem no_newline_of_mem_lines {t : Text} : ∀ l ∈ lines t, '\n' ∉ l := by
  induction t with
  | nil => simp
  | cons c cs ih =>
    rw [lines]
    by_cases hc : c = '\n'
    · rw [if_pos hc]
      intro l hl
      rcases List.mem_cons.1 hl with rfl | hl
      · simp
      · exact ih l hl
    · rw [if_neg hc]
      cases hcs : lines cs with
      | nil => simpa using fun h => hc h.symm
      | cons m ms =>
        rw [hcs] at ih
        intro l hl
        rcases List.mem_cons.1 hl with rfl | hl
        · simpa using ⟨fun h => hc h.symm, ih m (by simp)⟩
        · exact ih l (by simp [hl])

theorem lines_append_newline {l : Line} (h : '\n' ∉ l) (t : Text) :
    lines (l ++ '\n' :: t) = l :: lines t := by
  induction l with
  | nil => simp
  | cons c cs ih =>
    simp only [List.mem_cons, not_or] at h
    rw [List.cons_append, lines, if_neg (Ne.symm h.1), ih h.2]

theorem lines_of_no_newline {t : Text} (h : '\n' ∉ t) (hne : t ≠ []) : lines t = [t] := by
  induction t with
  | nil => exact absurd rfl hne
  | cons c cs ih =>
    simp only [List.mem_cons, not_or] at h
    rw [lines, if_neg (Ne.symm h.1)]
    cases cs with
    | nil => rfl
    | cons d ds => rw [ih h.2 (by simp)]

theorem lines_unlines {ls : List Line} (h : ∀ l ∈ ls, '\n' ∉ l) : lines (unlines ls) = ls := by
  induction ls with
  | nil => rfl
  | cons l ls ih =>
    rw [unlines_cons, lines_append_newline (h l (by simp)), ih fun m hm => h m (by simp [hm])]

/-- Writing the lines of a text back gives the text, with a newline added when
the last line had none. -/
theorem unlines_lines (t : Text) :
    unlines (lines t) = if Terminated t then t else t ++ ['\n'] := by
  induction t with
  | nil => simp [Terminated]
  | cons c cs ih =>
    have hT : Terminated (c :: cs) ↔ if cs = [] then c = '\n' else Terminated cs := by
      cases cs with
      | nil => simp [Terminated]
      | cons d ds => simp [Terminated]
    by_cases hc : c = '\n'
    · subst hc
      rw [lines_newline_cons, unlines_cons, ih]
      cases cs with
      | nil => simp [Terminated]
      | cons d ds =>
        rw [if_neg (by simp)] at hT
        by_cases hcs : Terminated (d :: ds)
        · rw [if_pos hcs, if_pos (hT.2 hcs), List.nil_append]
        · rw [if_neg hcs, if_neg (mt hT.1 hcs)]
          rfl
    · rw [lines, if_neg hc]
      cases cs with
      | nil => simp [Terminated, hc]
      | cons d ds =>
        rw [if_neg (by simp)] at hT
        cases hl : lines (d :: ds) with
        | nil => exact absurd (lines_eq_nil_iff.1 hl) (by simp)
        | cons m ms =>
          rw [hl, unlines_cons] at ih
          rw [unlines_cons, List.cons_append, ih]
          by_cases hcs : Terminated (d :: ds)
          · rw [if_pos hcs, if_pos (hT.2 hcs)]
          · rw [if_neg hcs, if_neg (mt hT.1 hcs)]
            rfl

theorem unlines_lines_of_terminated {t : Text} (h : Terminated t) : unlines (lines t) = t := by
  rw [unlines_lines, if_pos h]

theorem terminated_unlines (ls : List Line) : Terminated (unlines ls) := by
  rcases List.eq_nil_or_concat ls with rfl | ⟨ms, l, rfl⟩
  · exact Or.inl rfl
  · right
    simp [List.getLast?_append]

/-- The texts that survive being cut into lines and written back are those in
which no final newline is missing. -/
theorem unlines_lines_eq_iff {t : Text} : unlines (lines t) = t ↔ Terminated t := by
  constructor
  · intro h
    rw [← h]
    exact terminated_unlines _
  · exact unlines_lines_of_terminated

theorem lines_append {s : Text} (h : Terminated s) (t : Text) :
    lines (s ++ t) = lines s ++ lines t := by
  have hs : s = unlines (lines s) := (unlines_lines_of_terminated h).symm
  have key : ∀ ls : List Line, (∀ l ∈ ls, '\n' ∉ l) → lines (unlines ls ++ t) = ls ++ lines t := by
    intro ls hls
    induction ls with
    | nil => simp
    | cons l ls ih =>
      rw [unlines_cons, List.append_assoc, List.cons_append,
        lines_append_newline (hls l (by simp)), ih fun m hm => hls m (by simp [hm]),
        List.cons_append]
  calc lines (s ++ t) = lines (unlines (lines s) ++ t) := by rw [← hs]
    _ = lines s ++ lines t := key _ no_newline_of_mem_lines

/-! ## Dropping lines -/

theorem length_unlines_filter_le (p : Line → Bool) (ls : List Line) :
    (unlines (ls.filter p)).length ≤ (unlines ls).length := by
  induction ls with
  | nil => simp
  | cons l ls ih =>
    rw [List.filter_cons]
    split <;> simp only [unlines_cons, List.length_append, List.length_cons] <;> omega

theorem length_unlines_filter_lt {p : Line → Bool} {ls : List Line} {l : Line} (hl : l ∈ ls)
    (hp : p l = false) : (unlines (ls.filter p)).length < (unlines ls).length := by
  induction ls with
  | nil => simp at hl
  | cons m ms ih =>
    have hle := length_unlines_filter_le p ms
    rw [List.filter_cons]
    rcases List.mem_cons.1 hl with rfl | hl
    · rw [if_neg (by simp [hp])]
      simp only [unlines_cons, List.length_append, List.length_cons]
      omega
    · have hlt := ih hl
      split <;> simp only [unlines_cons, List.length_append, List.length_cons] <;> omega

/-- Re-emitting the lines that pass a test gives the text back exactly when all
of them pass and the last one has its newline. -/
theorem unlines_filter_lines_eq_iff {p : Line → Bool} {t : Text} :
    unlines ((lines t).filter p) = t ↔ Terminated t ∧ ∀ l ∈ lines t, p l = true := by
  constructor
  · intro h
    have hT : Terminated t := by
      rw [← h]
      exact terminated_unlines _
    refine ⟨hT, fun l hl => ?_⟩
    by_contra hp
    have hlt := length_unlines_filter_lt hl (by simpa using hp)
    rw [h, unlines_lines_of_terminated hT] at hlt
    exact lt_irrefl _ hlt
  · rintro ⟨hT, hp⟩
    rw [List.filter_eq_self.2 hp, unlines_lines_of_terminated hT]

end TextTools

import Ff5m.Text.Lines

/-!
# Line patterns

The regular expressions of the scripts are of one simple kind: a fixed word in
which a `.` stands for any character, looked for either at the start of a line
(`^` in front) or anywhere in it.  Such a pattern is a list of optional
characters, `none` being the `.`; `lit` and `dots` build it from a string, with
and without escaped dots.

* `matchAt` decides a match at the start of a line, `occurs` one anywhere;
* `substFirst` is the `s` command of `sed` without the `g` flag: the leftmost
  match is replaced and the rest of the line kept.
-/

namespace TextTools

/-- A word with wildcards: `none` matches any one character. -/
abbrev Pat := List (Option Char)

/-- The pattern that matches a word exactly. -/
def lit (s : String) : Pat := s.toList.map some

/-- The pattern of a basic regular expression whose only special character is
the unescaped `.`. -/
def dots (s : String) : Pat := s.toList.map fun c => if c = '.' then none else some c

/-- Does the pattern match a prefix of the line? -/
def matchAt : Pat → Line → Bool
  | [], _ => true
  | _ :: _, [] => false
  | p :: ps, c :: cs => (p == none || p == some c) && matchAt ps cs

/-- Does the pattern match somewhere in the line? -/
def occurs (p : Pat) : Line → Bool
  | [] => matchAt p []
  | c :: cs => matchAt p (c :: cs) || occurs p cs

/-- Replace the leftmost match of the pattern by a word (`s|p|w|`). -/
def substFirst (p : Pat) (w : Line) : Line → Line
  | [] => if matchAt p [] then w else []
  | c :: cs => if matchAt p (c :: cs) then w ++ (c :: cs).drop p.length else c :: substFirst p w cs

/-- Replace the pattern at the start of the line (`s|^p|w|`). -/
def substStart (p : Pat) (w : Line) (l : Line) : Line :=
  if matchAt p l then w ++ l.drop p.length else l

/-! ## Matching -/

@[simp] theorem matchAt_nil (l : Line) : matchAt [] l = true := by
  cases l <;> rfl

theorem matchAt_map_some_iff {w : List Char} {l : Line} :
    matchAt (w.map some) l = true ↔ w <+: l := by
  induction w generalizing l with
  | nil => simp
  | cons c cs ih =>
    cases l with
    | nil => simp [matchAt]
    | cons d ds => simp [matchAt, ih, List.cons_prefix_cons]

theorem matchAt_lit_iff {s : String} {l : Line} : matchAt (lit s) l = true ↔ s.toList <+: l :=
  matchAt_map_some_iff

theorem length_le_of_matchAt {p : Pat} {l : Line} (h : matchAt p l = true) :
    p.length ≤ l.length := by
  induction p generalizing l with
  | nil => simp
  | cons q qs ih =>
    cases l with
    | nil => simp [matchAt] at h
    | cons c cs =>
      simp only [matchAt, Bool.and_eq_true] at h
      simpa using ih h.2

theorem matchAt_append {p : Pat} {l : Line} (h : matchAt p l = true) (m : Line) :
    matchAt p (l ++ m) = true := by
  induction p generalizing l with
  | nil => simp
  | cons q qs ih =>
    cases l with
    | nil => simp [matchAt] at h
    | cons c cs =>
      simp only [matchAt, Bool.and_eq_true] at h
      simp only [List.cons_append, matchAt, Bool.and_eq_true]
      exact ⟨h.1, ih h.2⟩

theorem occurs_iff {p : Pat} {l : Line} :
    occurs p l = true ↔ ∃ u v, l = u ++ v ∧ matchAt p v = true := by
  induction l with
  | nil => simp [occurs]
  | cons c cs ih =>
    rw [occurs, Bool.or_eq_true, ih]
    constructor
    · rintro (h | ⟨u, v, rfl, h⟩)
      · exact ⟨[], c :: cs, rfl, h⟩
      · exact ⟨c :: u, v, rfl, h⟩
    · rintro ⟨u, v, h, hv⟩
      cases u with
      | nil => exact Or.inl (by rw [h]; exact hv)
      | cons d ds =>
        rw [List.cons_append, List.cons.injEq] at h
        exact Or.inr ⟨ds, v, h.2, hv⟩

theorem occurs_lit_iff {s : String} {l : Line} : occurs (lit s) l = true ↔ s.toList <:+: l := by
  rw [occurs_iff]
  constructor
  · rintro ⟨u, v, rfl, hv⟩
    exact (matchAt_lit_iff.1 hv).isInfix.trans (List.suffix_append u v).isInfix
  · rintro ⟨u, v, rfl⟩
    exact ⟨u, s.toList ++ v, by simp, matchAt_lit_iff.2 (List.prefix_append _ _)⟩

theorem occurs_of_matchAt {p : Pat} {l : Line} (h : matchAt p l = true) : occurs p l = true :=
  occurs_iff.2 ⟨[], l, rfl, h⟩

/-- A match of two patterns in a row has a match of the second one in it. -/
theorem occurs_of_append {p q : Pat} {l : Line} (h : occurs (p ++ q) l = true) :
    occurs q l = true := by
  have hdrop : ∀ v : Line, matchAt (p ++ q) v = true → matchAt q (v.drop p.length) = true := by
    clear h
    induction p with
    | nil => exact fun v hv => hv
    | cons r rs ih =>
      intro v hv
      cases v with
      | nil => simp [matchAt] at hv
      | cons c cs =>
        simp only [List.cons_append, matchAt, Bool.and_eq_true] at hv
        exact ih cs hv.2
  obtain ⟨u, v, rfl, hv⟩ := occurs_iff.1 h
  exact occurs_iff.2 ⟨u ++ v.take p.length, v.drop p.length, by simp, hdrop v hv⟩

/-- A word is one of the words that its pattern matches. -/
theorem occurs_dots_of_lit {s : String} {l : Line} (h : occurs (lit s) l = true) :
    occurs (dots s) l = true := by
  have hmatch : ∀ (w : List Char) (v : Line), matchAt (w.map some) v = true →
      matchAt (w.map fun c => if c = '.' then none else some c) v = true := by
    intro w
    induction w with
    | nil => simp
    | cons c cs ih =>
      intro v hv
      cases v with
      | nil => simp [matchAt] at hv
      | cons d ds =>
        simp only [List.map_cons, matchAt, Bool.and_eq_true] at hv ⊢
        refine ⟨?_, ih ds hv.2⟩
        split_ifs
        · simp
        · exact hv.1
  obtain ⟨u, v, rfl, hv⟩ := occurs_iff.1 h
  exact occurs_iff.2 ⟨u, v, rfl, hmatch _ v hv⟩

end TextTools

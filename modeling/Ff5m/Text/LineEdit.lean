import Ff5m.Text.Pattern

/-!
# Editing lists of lines

The commands of `sed` that the scripts use on whole files, as functions of the list of
lines, and what each does to the number of lines that start with a pattern.

* `clash` finds two patterns that no line starts with at once;
* `countP_insertLine`, `countP_appendAfter`, `countP_deleteStarting`: one formula a
  command, for any test of lines that the command does not disturb;
* `matchAt_substFirst`: a replacement within a line is seen at its start only when it
  stands there.
-/

namespace TextTools

/-! ## Patterns that exclude each other -/

/-- Do two patterns ask for different characters at one place? -/
def clash : Pat → Pat → Bool
  | some a :: p, some b :: q => a != b || clash p q
  | _ :: p, _ :: q => clash p q
  | _, _ => false

theorem not_both_of_clash {p q : Pat} (h : clash p q = true) {l : Line} (hp : matchAt p l = true) :
    matchAt q l = false := by
  induction p generalizing q l with
  | nil => simp [clash] at h
  | cons a p ih =>
    cases q with
    | nil => cases a <;> simp [clash] at h
    | cons b q =>
      cases l with
      | nil => simp [matchAt] at hp
      | cons c cs =>
        simp only [matchAt, Bool.and_eq_true, Bool.or_eq_true, beq_iff_eq] at hp
        cases a with
        | none => simp [matchAt, ih h hp.2]
        | some a =>
          cases b with
          | none => simp [matchAt, ih h hp.2]
          | some b =>
            simp only [clash, Bool.or_eq_true, bne_iff_ne] at h
            have hac : a = c := by simpa using hp.1
            rcases h with h | h
            · simp [matchAt, ← hac, h.symm]
            · simp [matchAt, ih h hp.2]

theorem matchAt_take_drop {p : Pat} {u v : Line} (h : matchAt p (u ++ v) = true) :
    matchAt (p.drop u.length) v = true := by
  induction u generalizing p with
  | nil => exact h
  | cons c cs ih =>
    cases p with
    | nil => simp
    | cons a p =>
      simp only [List.cons_append, matchAt, Bool.and_eq_true] at h
      exact ih h.2

/-- Behind as many characters as the pattern has, a line may change. -/
theorem matchAt_append_congr {p : Pat} {u : Line} (h : p.length ≤ u.length) (v w : Line) :
    matchAt p (u ++ v) = matchAt p (u ++ w) := by
  induction p generalizing u with
  | nil => rw [matchAt_nil, matchAt_nil]
  | cons a p ih =>
    cases u with
    | nil => simp at h
    | cons c cs => simp [matchAt, ih (by simpa using h)]

/-- A pattern occurs in a line that has a word of its length which it matches. -/
theorem occurs_iff_segment {p : Pat} {l : Line} :
    occurs p l = true ↔ ∃ s, s.length = p.length ∧ matchAt p s = true ∧ s <:+: l := by
  rw [occurs_iff]
  constructor
  · rintro ⟨u, v, rfl, hv⟩
    have hlen : (v.take p.length).length = p.length := by
      rw [List.length_take, Nat.min_eq_left (length_le_of_matchAt hv)]
    refine ⟨v.take p.length, hlen, ?_, ?_⟩
    · rw [← List.append_nil (v.take p.length), matchAt_append_congr hlen.ge [] (v.drop p.length),
        List.take_append_drop, hv]
    · exact (List.take_prefix _ _).isInfix.trans (List.suffix_append u v).isInfix
  · rintro ⟨s, -, hs, u, v, rfl⟩
    exact ⟨u, s ++ v, by simp, matchAt_append hs v⟩

/-! ## Commands -/

/-- The number of lines that start with a pattern. -/
def starting (p : Pat) (ls : List Line) : ℕ := ls.countP (matchAt p)

/-- `/^p/d` -/
def deleteStarting (p : Pat) (ls : List Line) : List Line := ls.filter (!matchAt p ·)

/-- `N i\w`, for a positive `N` -/
def insertLine (n : ℕ) (w : Line) (ls : List Line) : List Line :=
  if n ≤ ls.length then ls.take (n - 1) ++ w :: ls.drop (n - 1) else ls

/-- `/^p/a w` -/
def appendAfter (p : Pat) (w : Line) (ls : List Line) : List Line :=
  ls.flatMap fun l => if matchAt p l then [l, w] else [l]

/-- `s|^p.*|w|` -/
def replaceStarting (p : Pat) (w : Line) (ls : List Line) : List Line :=
  ls.map fun l => if matchAt p l then w else l

theorem starting_pos_iff {p : Pat} {ls : List Line} :
    0 < starting p ls ↔ ls.any (matchAt p) = true := by
  rw [starting, List.countP_pos_iff, List.any_eq_true]

theorem starting_eq_zero_iff {p : Pat} {ls : List Line} :
    starting p ls = 0 ↔ ls.any (matchAt p) = false := by
  rw [starting, List.countP_eq_zero, List.any_eq_false]

@[simp] theorem starting_deleteStarting (p : Pat) (ls : List Line) :
    starting p (deleteStarting p ls) = 0 := by
  simp [starting, deleteStarting, List.countP_eq_zero]

theorem countP_deleteStarting {f : Line → Bool} {p : Pat}
    (h : ∀ l, matchAt p l = true → f l = false) (ls : List Line) :
    (deleteStarting p ls).countP f = ls.countP f := by
  rw [deleteStarting, List.countP_filter]
  apply List.countP_congr
  intro l _
  cases hp : matchAt p l
  · simp
  · simp [h l hp]

theorem countP_insertLine (f : Line → Bool) (n : ℕ) (w : Line) (ls : List Line) :
    (insertLine n w ls).countP f =
      ls.countP f + if n ≤ ls.length ∧ f w = true then 1 else 0 := by
  rw [insertLine]
  split
  · next h =>
    have hcut : ls.countP f = (ls.take (n - 1)).countP f + (ls.drop (n - 1)).countP f := by
      rw [← List.countP_append, List.take_append_drop]
    rw [List.countP_append, List.countP_cons, hcut]
    simp only [h, true_and]
    omega
  · next h => simp [h]

theorem countP_appendAfter (f : Line → Bool) (p : Pat) (w : Line) (ls : List Line) :
    (appendAfter p w ls).countP f = ls.countP f + if f w = true then starting p ls else 0 := by
  induction ls with
  | nil => simp [appendAfter, starting]
  | cons l ls ih =>
    have hcons : starting p (l :: ls) = starting p ls + if matchAt p l = true then 1 else 0 := by
      rw [starting, List.countP_cons, starting]
    rw [appendAfter, List.flatMap_cons, List.countP_append, ← appendAfter, ih, hcons,
      List.countP_cons]
    cases hw : f w <;> cases hp : matchAt p l <;> simp [hw, List.countP_cons] <;> omega

/-- Without a line to append to, nothing is appended. -/
theorem appendAfter_eq_self {p : Pat} {ls : List Line} (h : starting p ls = 0) (w : Line) :
    appendAfter p w ls = ls := by
  induction ls with
  | nil => rfl
  | cons l ls ih =>
    rw [starting, List.countP_cons] at h
    rw [appendAfter, List.flatMap_cons, ← appendAfter, ih (by rw [starting]; omega)]
    cases hl : matchAt p l
    · simp
    · simp [hl] at h

/-! ## Replacements within a line -/

theorem matchAt_substStart (p q : Pat) (w l : Line) :
    matchAt q (substStart p w l) =
      if matchAt p l then matchAt q (w ++ l.drop p.length) else matchAt q l := by
  rw [substStart]
  split <;> rfl

/-- No match of the pattern and no copy of the word begins within the characters of `q`. -/
def apart (q p : Pat) (w : Line) : Bool :=
  (List.range q.length).all fun k =>
    k == 0 || clash (q.drop k) p && clash (q.drop k) (w.map some)

/-- The leftmost match of a pattern is replaced, or there is none. -/
theorem substFirst_cases (p : Pat) (w l : Line) :
    substFirst p w l = l ∨
      ∃ u v, l = u ++ v ∧ matchAt p v = true ∧ substFirst p w l = u ++ (w ++ v.drop p.length) := by
  induction l with
  | nil =>
    rw [substFirst]
    split
    · next h => exact .inr ⟨[], [], rfl, h, by simp⟩
    · exact .inl rfl
  | cons c cs ih =>
    rw [substFirst]
    split
    · next h => exact .inr ⟨[], c :: cs, rfl, h, rfl⟩
    · rcases ih with ih | ⟨u, v, rfl, hv, ih⟩
      · exact .inl (by rw [ih])
      · exact .inr ⟨c :: u, v, rfl, hv, by rw [ih, List.cons_append]⟩

theorem substFirst_of_matchAt {p : Pat} {w l : Line} (h : matchAt p l = true) :
    substFirst p w l = w ++ l.drop p.length := by
  cases l <;> simp [substFirst, h]

/-- A word of another length shows. -/
theorem substFirst_eq_self_iff {p : Pat} {w : Line} (hlen : p.length ≠ w.length) {l : Line} :
    substFirst p w l = l ↔ occurs p l = false := by
  induction l with
  | nil =>
    rw [substFirst, occurs]
    split
    · next h =>
      have hp := length_le_of_matchAt h
      refine iff_of_false ?_ (by rw [h]; simp)
      rintro rfl
      exact hlen (Nat.le_zero.1 hp)
    · next h => exact iff_of_true rfl (Bool.eq_false_iff.2 h)
  | cons c cs ih =>
    rw [substFirst, occurs]
    split
    · next h =>
      have hp := length_le_of_matchAt h
      refine iff_of_false (fun heq => ?_) (by rw [h]; simp)
      have hlength := congrArg List.length heq
      rw [List.length_append, List.length_drop] at hlength
      omega
    · next h => rw [List.cons.injEq, ih, Bool.eq_false_iff.2 h, Bool.false_or, eq_self, true_and]

theorem matchAt_substFirst {q p : Pat} {w : Line} (hq : apart q p w = true) (l : Line) :
    matchAt q (substFirst p w l) =
      if matchAt p l then matchAt q (w ++ l.drop p.length) else matchAt q l := by
  split
  · next h => rw [substFirst_of_matchAt h]
  · next h =>
    rcases substFirst_cases p w l with he | ⟨u, v, rfl, hv, he⟩
    · rw [he]
    rw [he]
    by_cases hlen : q.length ≤ u.length
    · exact matchAt_append_congr hlen _ _
    -- Both lines differ from the pattern where the match begins.
    have hu : u.length ≠ 0 := by
      intro h0
      rw [List.length_eq_zero_iff.1 h0] at h
      exact h hv
    have hk := List.all_eq_true.1 hq u.length (List.mem_range.2 (not_le.1 hlen))
    simp only [Bool.or_eq_true, beq_iff_eq, hu, false_or, Bool.and_eq_true] at hk
    have hnew : matchAt q (u ++ (w ++ v.drop p.length)) = false := by
      by_contra hm
      have hm := matchAt_take_drop (Bool.not_eq_false _ ▸ hm)
      have hw : matchAt (w.map some) (w ++ v.drop p.length) = true :=
        matchAt_map_some_iff.2 (List.prefix_append _ _)
      rw [not_both_of_clash hk.2 hm] at hw
      cases hw
    have hold : matchAt q (u ++ v) = false := by
      by_contra hm
      have hm := matchAt_take_drop (Bool.not_eq_false _ ▸ hm)
      rw [not_both_of_clash hk.1 hm] at hv
      cases hv
    rw [hnew, hold]

end TextTools

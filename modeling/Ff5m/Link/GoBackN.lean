import Mathlib.Data.Nat.ModEq
import Mathlib.Logic.Relation

/-!
# Going back

A sender numbers its items and keeps at most `window` of them until it hears that they have
arrived; until then it may send them all again.  The receiver takes the item that it waits for
and no other, and tells the number of the next one.  Both only tell the rest of a number by
`modulus`.  The ways between them keep the order and may lose anything.

* `Inv.run`: with a window that is smaller than the modulus, the receiver takes the items in
  order and each of them once, and the sender hears of no item that has not arrived;
* `Inv.complete`: once they have been sent again and nothing is lost any more, all arrive.
-/

namespace GoBackN

variable {α : Type*}

/-- Both ends, and what is under way. -/
structure State (α : Type*) where
  built : List α
  acked : ℕ
  next : ℕ
  taken : List α
  out : List ℕ
  back : List ℕ

/-- The number that is closest behind `base` among those with the rest of `n`. -/
def closest (modulus base n : ℕ) : ℕ := base + (n + (modulus - base % modulus)) % modulus

/-- Nothing is lost in these steps. -/
inductive Step (window modulus : ℕ) : State α → State α → Prop
  | build (s : State α) (x : α) (h : s.built.length < s.acked + window) :
    Step window modulus s { s with built := s.built ++ [x], out := s.out ++ [s.built.length] }
  | resend (s : State α) :
    Step window modulus s { s with out := s.out ++ List.range' s.acked (s.built.length - s.acked) }
  | take (s : State α) (k : ℕ) (rest : List ℕ) (x : α) (answers : ℕ) (hout : s.out = k :: rest)
    (hnext : k % modulus = s.next % modulus) (hx : s.built[k]? = some x) :
    Step window modulus s { s with
      out := rest
      next := s.next + 1
      taken := s.taken ++ [x]
      back := s.back ++ List.replicate answers (s.next + 1) }
  | discard (s : State α) (k : ℕ) (rest : List ℕ) (answers : ℕ) (hout : s.out = k :: rest)
    (hnext : k % modulus ≠ s.next % modulus) :
    Step window modulus s { s with out := rest, back := s.back ++ List.replicate answers s.next }
  | speak (s : State α) : Step window modulus s { s with back := s.back ++ [s.next] }
  | hear (s : State α) (a : ℕ) (rest : List ℕ) (hback : s.back = a :: rest) :
    Step window modulus s { s with acked := closest modulus s.acked a, back := rest }

/-- Anything under way may be lost. -/
inductive Lose : State α → State α → Prop
  | lose (s : State α) (out back : List ℕ) (hout : out.Sublist s.out) (hback : back.Sublist s.back) :
    Lose s { s with out := out, back := back }

/-- A run in which nothing is lost. -/
def Lossless (window modulus : ℕ) : State α → State α → Prop := Relation.ReflTransGen (Step window modulus)

/-- A run. -/
def Run (window modulus : ℕ) : State α → State α → Prop :=
  Relation.ReflTransGen fun s s' => Step window modulus s s' ∨ Lose s s'

/-- The beginning. -/
def State.init : State α := ⟨[], 0, 0, [], [], []⟩

/-- What holds at all times. -/
structure Inv (window : ℕ) (s : State α) : Prop where
  acked_le : s.acked ≤ s.next
  next_le : s.next ≤ s.built.length
  within : s.built.length ≤ s.acked + window
  taken : s.taken = s.built.take s.next
  out : ∀ k ∈ s.out, k < s.built.length ∧ s.next ≤ k + window
  -- a later one is not much older
  order : s.out.Pairwise fun j k => j < k + window
  back : ∀ a ∈ s.back, s.acked ≤ a ∧ a ≤ s.next
  sorted : s.back.Pairwise (· ≤ ·)

variable {window modulus : ℕ} {s s' : State α}

theorem inv_init : Inv window (State.init : State α) :=
  ⟨le_rfl, le_rfl, Nat.zero_le _, rfl, by simp [State.init], .nil, by simp [State.init], .nil⟩

/-- A number within the window is told by its rest. -/
theorem closest_eq {base n : ℕ} (hbase : base ≤ n) (hn : n < base + modulus) : closest modulus base n = n := by
  have hpos : 0 < modulus := by omega
  have hmod : base % modulus < modulus := Nat.mod_lt _ hpos
  obtain ⟨d, rfl⟩ := Nat.exists_eq_add_of_le hbase
  have hsum : base + d + (modulus - base % modulus) = d + modulus * (base / modulus + 1) := by
    have hdiv := Nat.div_add_mod base modulus
    rw [Nat.mul_add, Nat.mul_one]
    omega
  rw [closest, hsum, Nat.add_mul_mod_self_left, Nat.mod_eq_of_lt (by omega)]

/-- Numbers with one rest that are closer than the modulus are the same. -/
theorem eq_of_mod_eq {j k : ℕ} (h : j % modulus = k % modulus) (hjk : j < k + modulus) (hkj : k < j + modulus) :
    j = k := by
  rcases Nat.le_total j k with hle | hle
  · have hdvd : modulus ∣ k - j := (Nat.modEq_iff_dvd' hle).1 h
    have hzero := Nat.eq_zero_of_dvd_of_lt hdvd (by omega)
    omega
  · have hdvd : modulus ∣ j - k := (Nat.modEq_iff_dvd' hle).1 h.symm
    have hzero := Nat.eq_zero_of_dvd_of_lt hdvd (by omega)
    omega

namespace Inv

/-- What the receiver takes is what it waits for. -/
theorem take_eq (h : Inv window s) (hmod : window < modulus) {k : ℕ} (hk : k ∈ s.out)
    (hnext : k % modulus = s.next % modulus) : k = s.next := by
  obtain ⟨hlt, hle⟩ := h.out k hk
  have hacked := h.acked_le
  have hwithin := h.within
  exact eq_of_mod_eq hnext (by omega) (by omega)

/-- What the sender hears is what the receiver has told. -/
theorem hear_eq (h : Inv window s) (hmod : window < modulus) {a : ℕ} (ha : a ∈ s.back) :
    closest modulus s.acked a = a := by
  obtain ⟨hacked, hnext⟩ := h.back a ha
  have hle := h.next_le
  have hwithin := h.within
  exact closest_eq hacked (by omega)

/-- More answers. -/
theorem back_append (h : Inv window s) {next : ℕ} (hnext : s.next ≤ next) (answers : ℕ) :
    (∀ a ∈ s.back ++ List.replicate answers next, s.acked ≤ a ∧ a ≤ next) ∧
      (s.back ++ List.replicate answers next).Pairwise (· ≤ ·) := by
  have hacked := h.acked_le
  constructor
  · intro a ha
    rcases List.mem_append.1 ha with ha | ha
    · exact ⟨(h.back a ha).1, (h.back a ha).2.trans hnext⟩
    · obtain rfl := List.eq_of_mem_replicate ha
      exact ⟨hacked.trans hnext, le_rfl⟩
  · refine List.pairwise_append.2 ⟨h.sorted, List.pairwise_replicate.2 (.inr le_rfl), fun a ha b hb => ?_⟩
    obtain rfl := List.eq_of_mem_replicate hb
    exact (h.back a ha).2.trans hnext

/-- More items under way. -/
theorem out_append (h : Inv window s) {ks : List ℕ} {n : ℕ} (hn : s.built.length ≤ n) (hwithin : n ≤ s.acked + window)
    (hks : ∀ k ∈ ks, s.acked ≤ k ∧ k < n) (hsorted : ks.Pairwise (· < ·)) :
    (∀ k ∈ s.out ++ ks, k < n ∧ s.next ≤ k + window) ∧ (s.out ++ ks).Pairwise fun j k => j < k + window := by
  have hnext := h.next_le
  constructor
  · intro k hk
    rcases List.mem_append.1 hk with hk | hk
    · exact ⟨(h.out k hk).1.trans_le hn, (h.out k hk).2⟩
    · obtain ⟨hacked, hlt⟩ := hks k hk
      exact ⟨hlt, by omega⟩
  · refine List.pairwise_append.2 ⟨h.order, hsorted.imp fun hlt => by omega, fun j hj k hk => ?_⟩
    have hlt := (h.out j hj).1
    have hacked := (hks k hk).1
    omega

/-- One step. -/
theorem step (h : Inv window s) (hmod : window < modulus) (hs : Step window modulus s s') : Inv window s' := by
  have hacked := h.acked_le
  have hnext := h.next_le
  cases hs with
  | build x hroom =>
    have hone : ∀ k ∈ [s.built.length], s.acked ≤ k ∧ k < s.built.length + 1 := by
      intro k hk
      obtain rfl := List.mem_singleton.1 hk
      omega
    have hlength : (s.built ++ [x]).length = s.built.length + 1 := by simp
    obtain ⟨hout, horder⟩ := h.out_append (Nat.le_succ _) (by omega) hone (List.pairwise_singleton _ _)
    refine ⟨hacked, ?_, ?_, ?_, ?_, horder, h.back, h.sorted⟩
    · exact hlength ▸ hnext.trans (Nat.le_succ _)
    · exact hlength ▸ hroom
    · rw [List.take_append_of_le_length hnext]
      exact h.taken
    · rw [hlength]
      exact hout
  | resend =>
    have hrange : ∀ k ∈ List.range' s.acked (s.built.length - s.acked), s.acked ≤ k ∧ k < s.built.length := by
      intro k hk
      rw [List.mem_range'_1] at hk
      omega
    obtain ⟨hout, horder⟩ := h.out_append le_rfl h.within hrange (List.pairwise_lt_range' 1)
    exact ⟨hacked, hnext, h.within, h.taken, hout, horder, h.back, h.sorted⟩
  | take k rest x answers hout hk hx =>
    obtain rfl := h.take_eq hmod (hout ▸ List.mem_cons_self) hk
    obtain ⟨hlt, -⟩ := h.out s.next (hout ▸ List.mem_cons_self)
    obtain ⟨hback, hsorted⟩ := h.back_append (Nat.le_succ s.next) answers
    have horder := h.order
    rw [hout, List.pairwise_cons] at horder
    refine ⟨hacked.trans (Nat.le_succ _), hlt, h.within, ?_, fun j hj => ?_, horder.2, hback, hsorted⟩
    · obtain ⟨hlt, rfl⟩ := List.getElem?_eq_some_iff.1 hx
      rw [h.taken, List.take_append_getElem]
    · have hj' := h.out j (hout ▸ List.mem_cons_of_mem _ hj)
      have hold := horder.1 j hj
      exact ⟨hj'.1, hold⟩
  | discard k rest answers hout hk =>
    obtain ⟨hback, hsorted⟩ := h.back_append le_rfl answers
    have horder := h.order
    rw [hout, List.pairwise_cons] at horder
    exact ⟨hacked, hnext, h.within, h.taken, fun j hj => h.out j (hout ▸ List.mem_cons_of_mem _ hj), horder.2,
      hback, hsorted⟩
  | speak =>
    obtain ⟨hback, hsorted⟩ := h.back_append le_rfl 1
    exact ⟨hacked, hnext, h.within, h.taken, h.out, h.order, hback, hsorted⟩
  | hear a rest hback =>
    have ha : a ∈ s.back := hback ▸ List.mem_cons_self
    obtain ⟨hle, hge⟩ := h.back a ha
    have hsorted := h.sorted
    rw [hback, List.pairwise_cons] at hsorted
    have hwithin := h.within
    refine ⟨?_, hnext, ?_, h.taken, h.out, h.order, fun b hb => ?_, hsorted.2⟩
    · rw [h.hear_eq hmod ha]
      exact hge
    · rw [h.hear_eq hmod ha]
      exact h.within.trans (Nat.add_le_add_right hle window)
    · rw [h.hear_eq hmod ha]
      exact ⟨hsorted.1 b hb, (h.back b (hback ▸ List.mem_cons_of_mem _ hb)).2⟩

theorem lose (h : Inv window s) (hs : Lose s s') : Inv window s' := by
  cases hs with
  | lose out back hout hback =>
    exact ⟨h.acked_le, h.next_le, h.within, h.taken, fun k hk => h.out k (hout.subset hk), h.order.sublist hout,
      fun a ha => h.back a (hback.subset ha), h.sorted.sublist hback⟩

/-- Any run. -/
theorem run (h : Inv window s) (hmod : window < modulus) (hs : Run window modulus s s') : Inv window s' := by
  induction hs with
  | refl => exact h
  | tail _ hlast ih =>
    rcases hlast with hlast | hlast
    · exact ih.step hmod hlast
    · exact ih.lose hlast

end Inv

/-! ## Nothing is lost -/

theorem Lossless.run (hs : Lossless window modulus s s') : Run window modulus s s' := by
  induction hs with
  | refl => exact Relation.ReflTransGen.refl
  | tail _ hlast ih => exact ih.tail (.inl hlast)

/-- All that has not been taken is under way. -/
def UnderWay (s : State α) : Prop := (List.range' s.next (s.built.length - s.next)).Sublist s.out

theorem underWay_resend (h : Inv window s) :
    UnderWay { s with out := s.out ++ List.range' s.acked (s.built.length - s.acked) } := by
  have hacked := h.acked_le
  have hnext := h.next_le
  have hlast : List.range' s.next (s.built.length - s.next)
      = (List.range' s.acked (s.built.length - s.acked)).drop (s.next - s.acked) := by
    rw [List.drop_range']
    congr 1 <;> omega
  unfold UnderWay
  simp only [hlast]
  exact (List.drop_sublist _ _).trans (List.sublist_append_right _ _)

theorem UnderWay.step (hway : UnderWay s) (h : Inv window s) (hmod : window < modulus)
    (hs : Step window modulus s s') : UnderWay s' := by
  have hnext := h.next_le
  unfold UnderWay at hway ⊢
  cases hs with
  | build x hroom =>
    have hrange : List.range' s.next ((s.built ++ [x]).length - s.next)
        = List.range' s.next (s.built.length - s.next) ++ [s.built.length] := by
      have hlength : (s.built ++ [x]).length - s.next = s.built.length - s.next + 1 := by
        rw [List.length_append, List.length_singleton]
        omega
      rw [hlength, List.range'_concat]
      congr 2
      omega
    rw [hrange]
    exact hway.append (List.Sublist.refl _)
  | resend => exact hway.trans (List.sublist_append_left _ _)
  | take k rest x answers hout hk hx =>
    obtain rfl := h.take_eq hmod (hout ▸ List.mem_cons_self) hk
    obtain ⟨hlt, -⟩ := h.out s.next (hout ▸ List.mem_cons_self)
    have hrange : List.range' s.next (s.built.length - s.next)
        = s.next :: List.range' (s.next + 1) (s.built.length - (s.next + 1)) := by
      have hlength : s.built.length - s.next = s.built.length - (s.next + 1) + 1 := by omega
      rw [hlength, List.range'_succ]
    rw [hrange, hout] at hway
    exact List.cons_sublist_cons.1 hway
  | discard k rest answers hout hk =>
    rw [hout] at hway
    rcases List.sublist_cons_iff.1 hway with hrest | ⟨ks, hks, -⟩
    · exact hrest
    · -- the first that has not been taken is not the one that is discarded
      have hlength : s.built.length - s.next ≠ 0 := by
        intro hzero
        rw [hzero] at hks
        cases hks
      obtain ⟨n, hn⟩ := Nat.exists_eq_succ_of_ne_zero hlength
      rw [hn, List.range'_succ, List.cons.injEq] at hks
      exact absurd (congrArg (· % modulus) hks.1.symm) hk
  | speak => exact hway
  | hear a rest hback => exact hway

theorem UnderWay.run (hway : UnderWay s) (h : Inv window s) (hmod : window < modulus)
    (hs : Lossless window modulus s s') : Inv window s' ∧ UnderWay s' := by
  induction hs with
  | refl => exact ⟨h, hway⟩
  | tail _ hlast ih => exact ⟨ih.1.step hmod hlast, ih.2.step ih.1 hmod hlast⟩

/-- **Once nothing is lost.**  After all has been sent again, nothing is missing when the way to
the receiver is empty. -/
theorem Inv.complete (h : Inv window s) (hmod : window < modulus) (hway : UnderWay s)
    (hs : Lossless window modulus s s') (hout : s'.out = []) : s'.taken = s'.built := by
  obtain ⟨h', hway'⟩ := hway.run h hmod hs
  unfold UnderWay at hway'
  rw [hout, List.sublist_nil, List.range'_eq_nil_iff] at hway'
  rw [h'.taken, List.take_of_length_le (by omega)]

end GoBackN

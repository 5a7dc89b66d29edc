import Ff5m.Geometry.Extent
import Ff5m.Text.Lines

/-!
# The adaptive bed mesh

The macro `_KAMP_BED_MESH_CALIBRATE` probes only the part of the bed that the objects
of a print need: it widens their extent by a margin and a random fuzz, clips it to the
configured mesh, and scales the probe counts down.  The algorithm is chosen from the
scaled counts, and only then are the counts raised to what the algorithm needs and cut
to what is configured.

* `fitPoints_spacing`: the spacing never grows;
* `clip_contains`: the clipped range keeps every value inside the mesh;
* `chosen_accepted_iff`: when the counts suit the chosen algorithm;
* `calibrate_sound_iff`: the objects reach into the mesh, and both configured counts are
  4 or more, or neither range is longer than five configured distances.

Lengths are rational numbers.
-/

namespace Kamp

open Geometry
open TextTools (Text)

/-! ## Settings -/

/-- What `[bed_mesh]` configures. -/
structure BedMesh where
  meshMin : ℚ × ℚ
  meshMax : ℚ × ℚ
  probeCount : List ℤ

/-- The variables of `_KAMP_Settings` that the mesh depends on. -/
structure MeshSettings where
  verboseEnable : ℚ
  probeDockEnable : ℚ
  attachMacro : Text
  detachMacro : Text
  meshMargin : ℚ
  fuzzAmount : ℚ

/-- An object of a print, as `EXCLUDE_OBJECT_DEFINE` describes it. -/
structure PrintObject where
  polygon : List (ℚ × ℚ)
  deriving DecidableEq

/-- The points of all objects. -/
def allPoints (objects : List PrintObject) : List (ℚ × ℚ) :=
  objects.flatMap PrintObject.polygon

/-- A single probe count stands for both axes. -/
def probeCountPair (count : List ℤ) : ℤ × ℤ :=
  let count := if 1 < count.length then count else count ++ count
  (count.getD 0 0, count.getD 1 0)

/-- Python's `int` of a number. -/
def pyInt (q : ℚ) : ℤ := q.num.tdiv q.den

/-- `range(0, int(fuzz_amount * 100) + 1)`, from which the fuzz is drawn. -/
def fuzzRange (fuzzAmount : ℚ) : List ℕ := List.range (pyInt (fuzzAmount * 100) + 1).toNat

/-- A random choice from the range of the fuzz. -/
abbrev Draw (fuzzAmount : ℚ) := {k : ℕ // k ∈ fuzzRange fuzzAmount}

/-- The four random choices, in the order of the template. -/
structure Draws (fuzzAmount : ℚ) where
  xMin : Draw fuzzAmount
  yMin : Draw fuzzAmount
  xMax : Draw fuzzAmount
  yMax : Draw fuzzAmount

/-! ## One axis -/

/-- The interpolation between the probed points. -/
inductive Algorithm where
  | lagrange
  | bicubic
  deriving DecidableEq

/-- The distance of the probed points of the whole mesh. -/
def maxProbePointDistance (meshMin meshMax : ℚ) (count : ℤ) : ℚ :=
  (meshMax - meshMin) / (count - 1)

/-- The lower end of the range: margin and fuzz are added, and the result is clipped. -/
def adaptedMin (least margin : ℚ) (draw : ℕ) (meshMin : ℚ) : ℚ :=
  max (least - margin - draw / 100) meshMin

/-- The upper end of the range. -/
def adaptedMax (greatest margin : ℚ) (draw : ℕ) (meshMax : ℚ) : ℚ :=
  min (greatest + margin + draw / 100) meshMax

/-- The points that keep the configured distance, rounded up. -/
def scaledPoints (lo hi distance : ℚ) : ℤ := ⌈(hi - lo) / distance⌉ + 1

/-- The algorithm for the scaled counts, and the least count for it. -/
def chooseAlgorithm (points : ℤ × ℤ) : Algorithm × ℤ :=
  if 6 < max points.1 points.2 then (.bicubic, 4) else (.lagrange, 3)

/-- The count is raised to the least one for the algorithm, then cut to the configured
one. -/
def fitPoints (points minPoints count : ℤ) : ℤ := min (max points minPoints) count

/-! ## The macro -/

/-- The parameters of `_BED_MESH_CALIBRATE`. -/
structure MeshCommand where
  meshMin : ℚ × ℚ
  meshMax : ℚ × ℚ
  algorithm : Algorithm
  probeCount : ℤ × ℤ
  deriving DecidableEq

/-- The lines of the rendered macro. -/
inductive MeshLine where
  | dwell (ms : ℕ)
  | call (name : Text)
  | calibrate (c : MeshCommand)
  deriving DecidableEq

/-- The command that the template computes. -/
def meshCommand (b : BedMesh) (s : MeshSettings) (objects : List PrintObject)
    (draws : Draws s.fuzzAmount) : MeshCommand :=
  let points := allPoints objects
  let probeCount := probeCountPair b.probeCount
  let distanceX := maxProbePointDistance b.meshMin.1 b.meshMax.1 probeCount.1
  let distanceY := maxProbePointDistance b.meshMin.2 b.meshMax.2 probeCount.2
  let xMin := leastOr b.meshMin.1 (points.map Prod.fst)
  let yMin := leastOr b.meshMin.2 (points.map Prod.snd)
  let xMax := greatestOr b.meshMax.1 (points.map Prod.fst)
  let yMax := greatestOr b.meshMax.2 (points.map Prod.snd)
  let adaptedXMin := adaptedMin xMin s.meshMargin draws.xMin b.meshMin.1
  let adaptedYMin := adaptedMin yMin s.meshMargin draws.yMin b.meshMin.2
  let adaptedXMax := adaptedMax xMax s.meshMargin draws.xMax b.meshMax.1
  let adaptedYMax := adaptedMax yMax s.meshMargin draws.yMax b.meshMax.2
  let pointsX := scaledPoints adaptedXMin adaptedXMax distanceX
  let pointsY := scaledPoints adaptedYMin adaptedYMax distanceY
  let (algorithm, minPoints) := chooseAlgorithm (pointsX, pointsY)
  { meshMin := (adaptedXMin, adaptedYMin)
    meshMax := (adaptedXMax, adaptedYMax)
    algorithm := algorithm
    probeCount := (fitPoints pointsX minPoints probeCount.1, fitPoints pointsY minPoints probeCount.2) }

/-- `_KAMP_BED_MESH_CALIBRATE`, without its messages. -/
def kampBedMeshCalibrate (b : BedMesh) (s : MeshSettings) (objects : List PrintObject)
    (draws : Draws s.fuzzAmount) : List MeshLine :=
  (if |s.verboseEnable| = 1 ∧ objects = [] then [.dwell 5000] else []) ++
  (if |s.probeDockEnable| = 1 then [.call s.attachMacro] else []) ++
  [.calibrate (meshCommand b s objects draws)] ++
  (if |s.probeDockEnable| = 1 then [.call s.detachMacro] else [])

/-- The one mesh command of the macro. -/
theorem calibrate_mem_iff (b : BedMesh) (s : MeshSettings) (objects : List PrintObject)
    (draws : Draws s.fuzzAmount) (c : MeshCommand) :
    MeshLine.calibrate c ∈ kampBedMeshCalibrate b s objects draws ↔
      c = meshCommand b s objects draws := by
  rw [kampBedMeshCalibrate]
  split_ifs <;> simp

/-! ## What a mesh command should be -/

/-- Klipper takes the algorithm for these counts. -/
def Accepted (algorithm : Algorithm) (count : ℤ × ℤ) : Prop :=
  match algorithm with
  | .lagrange => count.1 ≤ 6 ∧ count.2 ≤ 6
  | .bicubic => 4 ≤ count.1 ∧ 4 ≤ count.2

/-- A mesh command that suits the configured mesh and the objects. -/
structure Sound (b : BedMesh) (objects : List PrintObject) (c : MeshCommand) : Prop where
  inside : b.meshMin ≤ c.meshMin ∧ c.meshMax ≤ b.meshMax
  proper : c.meshMin.1 < c.meshMax.1 ∧ c.meshMin.2 < c.meshMax.2
  contains : ∀ o ∈ objects, ∀ p ∈ convexHull ℚ {p | p ∈ o.polygon},
    p ∈ Set.Icc b.meshMin b.meshMax → p ∈ Set.Icc c.meshMin c.meshMax
  least : 3 ≤ c.probeCount.1 ∧ 3 ≤ c.probeCount.2
  configured : c.probeCount ≤ probeCountPair b.probeCount
  spacing_x : maxProbePointDistance c.meshMin.1 c.meshMax.1 c.probeCount.1 ≤
    maxProbePointDistance b.meshMin.1 b.meshMax.1 (probeCountPair b.probeCount).1
  spacing_y : maxProbePointDistance c.meshMin.2 c.meshMax.2 c.probeCount.2 ≤
    maxProbePointDistance b.meshMin.2 b.meshMax.2 (probeCountPair b.probeCount).2
  accepted : Accepted c.algorithm c.probeCount

/-- Two of the values, with margin and fuzz and inside the mesh, are more than `t`
apart. -/
def Apart (t margin : ℚ) (drawMin drawMax : ℕ) (meshMin meshMax : ℚ) (values : List ℚ) : Prop :=
  ∃ p ∈ values, ∃ q ∈ values,
    t < (q + margin + drawMax / 100) - (p - margin - drawMin / 100) ∧
    t < (q + margin + drawMax / 100) - meshMin ∧
    t < meshMax - (p - margin - drawMin / 100) ∧
    t < meshMax - meshMin

/-- Two points are more than `t` apart along X. -/
def ApartX (t : ℚ) (b : BedMesh) (s : MeshSettings) (objects : List PrintObject)
    (draws : Draws s.fuzzAmount) : Prop :=
  Apart t s.meshMargin draws.xMin draws.xMax b.meshMin.1 b.meshMax.1
    ((allPoints objects).map Prod.fst)

/-- Two points are more than `t` apart along Y. -/
def ApartY (t : ℚ) (b : BedMesh) (s : MeshSettings) (objects : List PrintObject)
    (draws : Draws s.fuzzAmount) : Prop :=
  Apart t s.meshMargin draws.yMin draws.yMax b.meshMin.2 b.meshMax.2
    ((allPoints objects).map Prod.snd)

/-! ## The range of one axis -/

section Axis

variable {margin meshMin meshMax t d x : ℚ} {drawMin drawMax : ℕ} {values : List ℚ}
  {points minPoints count : ℤ}

/-- The length of the range, in terms of the values. -/
theorem apart_iff (hv : values ≠ []) :
    t < adaptedMax (greatestOr meshMax values) margin drawMax meshMax -
        adaptedMin (leastOr meshMin values) margin drawMin meshMin ↔
      Apart t margin drawMin drawMax meshMin meshMax values := by
  rw [adaptedMax, adaptedMin]
  constructor
  · intro h
    refine ⟨_, leastOr_mem meshMin hv, _, greatestOr_mem meshMax hv, ?_⟩
    have hlo₁ := le_max_left (leastOr meshMin values - margin - drawMin / 100) meshMin
    have hlo₂ := le_max_right (leastOr meshMin values - margin - drawMin / 100) meshMin
    have hhi₁ := min_le_left (greatestOr meshMax values + margin + drawMax / 100) meshMax
    have hhi₂ := min_le_right (greatestOr meshMax values + margin + drawMax / 100) meshMax
    refine ⟨?_, ?_, ?_, ?_⟩ <;> linarith
  · rintro ⟨p, hp, q, hq, h₁, h₂, h₃, h₄⟩
    have hmin := leastOr_le meshMin hp
    have hmax := le_greatestOr meshMax hq
    rw [lt_sub_iff_add_lt, lt_min_iff]
    constructor <;> rw [← lt_sub_iff_add_lt', max_lt_iff] <;> constructor <;> linarith

/-- The clipped range keeps every value that lies inside the mesh. -/
theorem clip_contains (drawMin drawMax : ℕ) (hmargin : 0 ≤ margin) (hlo : leastOr meshMin values ≤ x)
    (hhi : x ≤ greatestOr meshMax values) (hmin : meshMin ≤ x) (hmax : x ≤ meshMax) :
    adaptedMin (leastOr meshMin values) margin drawMin meshMin ≤ x ∧
      x ≤ adaptedMax (greatestOr meshMax values) margin drawMax meshMax := by
  have hdrawMin : (0 : ℚ) ≤ drawMin / 100 := by positivity
  have hdrawMax : (0 : ℚ) ≤ drawMax / 100 := by positivity
  constructor
  · exact max_le (by linarith) hmin
  · exact le_min (by linarith) hmax

/-- A fitted count is at least 3. -/
theorem three_le_fitPoints (hmin : 3 ≤ minPoints) (hcount : 3 ≤ count) :
    3 ≤ fitPoints points minPoints count :=
  le_min (le_trans hmin (le_max_right _ _)) hcount

/-- The spacing of a range inside the mesh never exceeds the configured one. -/
theorem fitPoints_spacing {lo hi : ℚ} (hmesh : meshMin < meshMax) (hmin : 3 ≤ minPoints)
    (hcount : 3 ≤ count) (hlo : meshMin ≤ lo) (hhi : hi ≤ meshMax) :
    maxProbePointDistance lo hi
        (fitPoints (scaledPoints lo hi (maxProbePointDistance meshMin meshMax count)) minPoints count) ≤
      maxProbePointDistance meshMin meshMax count := by
  set d := maxProbePointDistance meshMin meshMax count with hd
  have hcount' : (3 : ℚ) ≤ count := by exact_mod_cast hcount
  have hpos : 0 < d := div_pos (by linarith) (by linarith)
  rw [maxProbePointDistance, fitPoints]
  rcases le_total (max (scaledPoints lo hi d) minPoints) count with h | h
  · -- the count was not cut: it covers the rounded quotient
    rw [min_eq_left h]
    have hscaled : scaledPoints lo hi d ≤ max (scaledPoints lo hi d) minPoints := le_max_left _ _
    have hthree : 3 ≤ max (scaledPoints lo hi d) minPoints := le_trans hmin (le_max_right _ _)
    generalize max (scaledPoints lo hi d) minPoints = n at hscaled hthree
    have hn : (3 : ℚ) ≤ n := by exact_mod_cast hthree
    have hceil : (hi - lo) / d ≤ n - 1 := by
      have hint : ⌈(hi - lo) / d⌉ ≤ n - 1 := by
        rw [scaledPoints] at hscaled
        omega
      exact le_trans (Int.le_ceil _) (by exact_mod_cast hint)
    rw [div_le_iff₀ (by linarith)]
    rw [div_le_iff₀ hpos] at hceil
    linarith
  · -- the configured count over a shorter range
    rw [min_eq_right h, hd, maxProbePointDistance]
    apply div_le_div_of_nonneg_right (by linarith) (by linarith)

/-- A scaled count above 6 belongs to a range of more than five distances. -/
theorem six_lt_scaledPoints_iff {lo hi : ℚ} (hd : 0 < d) :
    6 < scaledPoints lo hi d ↔ 5 * d < hi - lo := by
  have hceil : 5 < ⌈(hi - lo) / d⌉ ↔ ((5 : ℤ) : ℚ) < (hi - lo) / d := Int.lt_ceil
  rw [scaledPoints, ← lt_div_iff₀ hd]
  constructor
  · intro h
    exact_mod_cast hceil.1 (by omega)
  · intro h
    have := hceil.2 (by exact_mod_cast h)
    omega

end Axis

/-! ## The chosen algorithm -/

/-- The fitted counts suit the chosen algorithm unless a configured count below 4 meets
a scaled count above 6. -/
theorem chosen_accepted_iff (points count : ℤ × ℤ) :
    Accepted (chooseAlgorithm points).1
        (fitPoints points.1 (chooseAlgorithm points).2 count.1,
          fitPoints points.2 (chooseAlgorithm points).2 count.2) ↔
      (4 ≤ count.1 ∧ 4 ≤ count.2) ∨ ¬ (6 < points.1 ∨ 6 < points.2) := by
  simp only [chooseAlgorithm, lt_max_iff]
  split_ifs with h
  · simp only [Accepted, fitPoints, h, not_true, or_false]
    constructor <;> intro hc <;> constructor <;> omega
  · simp only [Accepted, fitPoints, h, not_false_iff, or_true, iff_true]
    constructor <;> omega

/-! ## The command of the macro -/

section Macro

variable {b : BedMesh} {s : MeshSettings} {objects : List PrintObject}

/-- Objects with points have values on both axes. -/
theorem allPoints_ne_nil (hne : objects ≠ []) (hpoly : ∀ o ∈ objects, o.polygon ≠ []) :
    allPoints objects ≠ [] := by
  obtain ⟨o, ho⟩ := List.exists_mem_of_ne_nil objects hne
  obtain ⟨p, hp⟩ := List.exists_mem_of_ne_nil _ (hpoly o ho)
  exact List.ne_nil_of_mem (List.mem_flatMap.2 ⟨o, ho, hp⟩)

/-- The corner of the least values of all points. -/
def leastCorner (b : BedMesh) (objects : List PrintObject) : ℚ × ℚ :=
  (leastOr b.meshMin.1 ((allPoints objects).map Prod.fst),
    leastOr b.meshMin.2 ((allPoints objects).map Prod.snd))

/-- The corner of the greatest values of all points. -/
def greatestCorner (b : BedMesh) (objects : List PrintObject) : ℚ × ℚ :=
  (greatestOr b.meshMax.1 ((allPoints objects).map Prod.fst),
    greatestOr b.meshMax.2 ((allPoints objects).map Prod.snd))

/-- An object lies between the two corners. -/
theorem polygon_subset_corners (b : BedMesh) {o : PrintObject} (ho : o ∈ objects) :
    convexHull ℚ {p | p ∈ o.polygon} ⊆ Set.Icc (leastCorner b objects) (greatestCorner b objects) := by
  apply convexHull_subset_Icc
  intro p hp
  have hall : p ∈ allPoints objects := List.mem_flatMap.2 ⟨o, ho, hp⟩
  have hx : p.1 ∈ (allPoints objects).map Prod.fst := List.mem_map_of_mem hall
  have hy : p.2 ∈ (allPoints objects).map Prod.snd := List.mem_map_of_mem hall
  exact ⟨⟨leastOr_le _ hx, leastOr_le _ hy⟩, le_greatestOr _ hx, le_greatestOr _ hy⟩

/-- What holds of every command, whatever the objects are: all but that the rectangle
is proper and the algorithm accepted. -/
theorem sound_iff_proper_accepted (draws : Draws s.fuzzAmount) (hmargin : 0 ≤ s.meshMargin)
    (hmesh : b.meshMin.1 < b.meshMax.1 ∧ b.meshMin.2 < b.meshMax.2)
    (hcount : 3 ≤ (probeCountPair b.probeCount).1 ∧ 3 ≤ (probeCountPair b.probeCount).2) :
    Sound b objects (meshCommand b s objects draws) ↔
      ((meshCommand b s objects draws).meshMin.1 < (meshCommand b s objects draws).meshMax.1 ∧
        (meshCommand b s objects draws).meshMin.2 < (meshCommand b s objects draws).meshMax.2) ∧
      Accepted (meshCommand b s objects draws).algorithm
        (meshCommand b s objects draws).probeCount := by
  constructor
  · intro h
    exact ⟨h.proper, h.accepted⟩
  rintro ⟨hproper, haccepted⟩
  have hpoints : ∀ points : ℤ × ℤ, 3 ≤ (chooseAlgorithm points).2 := by
    intro points
    rw [chooseAlgorithm]
    split_ifs <;> decide
  refine ⟨⟨⟨le_max_right _ _, le_max_right _ _⟩, min_le_right _ _, min_le_right _ _⟩, hproper, ?_,
    ⟨three_le_fitPoints (hpoints _) hcount.1, three_le_fitPoints (hpoints _) hcount.2⟩,
    ⟨min_le_right _ _, min_le_right _ _⟩,
    fitPoints_spacing hmesh.1 (hpoints _) hcount.1 (le_max_right _ _) (min_le_right _ _),
    fitPoints_spacing hmesh.2 (hpoints _) hcount.2 (le_max_right _ _) (min_le_right _ _), haccepted⟩
  intro o ho p hp hin
  obtain ⟨⟨hlo₁, hlo₂⟩, hhi₁, hhi₂⟩ := polygon_subset_corners b ho hp
  obtain ⟨⟨hmin₁, hmin₂⟩, hmax₁, hmax₂⟩ := hin
  obtain ⟨hx₁, hx₂⟩ := clip_contains draws.xMin draws.xMax hmargin hlo₁ hhi₁ hmin₁ hmax₁
  obtain ⟨hy₁, hy₂⟩ := clip_contains draws.yMin draws.yMax hmargin hlo₂ hhi₂ hmin₂ hmax₂
  exact ⟨⟨hx₁, hy₁⟩, hx₂, hy₂⟩

/-- The scaled count of an axis, in terms of the points. -/
theorem six_lt_scaled_iff_apart {margin meshMin meshMax : ℚ} {drawMin drawMax : ℕ} {values : List ℚ}
    {count : ℤ} (hv : values ≠ []) (hmesh : meshMin < meshMax) (hcount : 3 ≤ count) :
    6 < scaledPoints (adaptedMin (leastOr meshMin values) margin drawMin meshMin)
        (adaptedMax (greatestOr meshMax values) margin drawMax meshMax)
        (maxProbePointDistance meshMin meshMax count) ↔
      Apart (5 * maxProbePointDistance meshMin meshMax count) margin drawMin drawMax meshMin meshMax
        values := by
  have hcount' : (3 : ℚ) ≤ count := by exact_mod_cast hcount
  have hpos : 0 < maxProbePointDistance meshMin meshMax count := div_pos (by linarith) (by linarith)
  rw [six_lt_scaledPoints_iff hpos, apart_iff hv]

/-- The mesh command is sound exactly when the widened objects reach into the mesh on
both axes, and both configured counts are 4 or more or neither range is longer than five
configured distances. -/
theorem calibrate_sound_iff (b : BedMesh) (s : MeshSettings) (objects : List PrintObject)
    (draws : Draws s.fuzzAmount) (hne : objects ≠ []) (hpoly : ∀ o ∈ objects, o.polygon ≠ [])
    (hmesh : b.meshMin.1 < b.meshMax.1 ∧ b.meshMin.2 < b.meshMax.2)
    (hcount : 3 ≤ (probeCountPair b.probeCount).1 ∧ 3 ≤ (probeCountPair b.probeCount).2)
    (hmargin : 0 ≤ s.meshMargin) :
    (∀ c, MeshLine.calibrate c ∈ kampBedMeshCalibrate b s objects draws → Sound b objects c) ↔
      (ApartX 0 b s objects draws ∧ ApartY 0 b s objects draws) ∧
      ((4 ≤ (probeCountPair b.probeCount).1 ∧ 4 ≤ (probeCountPair b.probeCount).2) ∨
        ¬ (ApartX (5 * maxProbePointDistance b.meshMin.1 b.meshMax.1 (probeCountPair b.probeCount).1)
              b s objects draws ∨
            ApartY (5 * maxProbePointDistance b.meshMin.2 b.meshMax.2 (probeCountPair b.probeCount).2)
              b s objects draws)) := by
  have hx : (allPoints objects).map Prod.fst ≠ [] :=
    mt List.map_eq_nil_iff.1 (allPoints_ne_nil hne hpoly)
  have hy : (allPoints objects).map Prod.snd ≠ [] :=
    mt List.map_eq_nil_iff.1 (allPoints_ne_nil hne hpoly)
  simp only [calibrate_mem_iff, forall_eq]
  rw [sound_iff_proper_accepted draws hmargin hmesh hcount]
  apply and_congr
  · apply and_congr
    · rw [ApartX, ← apart_iff hx, sub_pos]
      rfl
    · rw [ApartY, ← apart_iff hy, sub_pos]
      rfl
  · rw [ApartX, ApartY, ← six_lt_scaled_iff_apart hx hmesh.1 hcount.1,
      ← six_lt_scaled_iff_apart hy hmesh.2 hcount.2]
    exact chosen_accepted_iff _ _

end Macro

/-! ## Beds with equal and unequal counts -/

/-- The whole bed, with so many counts along X and along Y. -/
def bedWith (countX countY : ℤ) : BedMesh := ⟨(-110, -110), (110, 110), [countX, countY]⟩

/-- A margin of 3 and no fuzz. -/
def noFuzz : MeshSettings := ⟨1, 0, [], [], 3, 0⟩

/-- The only choice without fuzz. -/
theorem zero_mem_fuzzRange : 0 ∈ fuzzRange noFuzz.fuzzAmount := by
  simp [fuzzRange, noFuzz, pyInt]

/-- No fuzz on any side. -/
def noDraws : Draws noFuzz.fuzzAmount :=
  ⟨⟨0, zero_mem_fuzzRange⟩, ⟨0, zero_mem_fuzzRange⟩, ⟨0, zero_mem_fuzzRange⟩, ⟨0, zero_mem_fuzzRange⟩⟩

/-- A square of 200 mm in the middle of the bed. -/
def largeSquare : PrintObject := ⟨[(-100, -100), (100, -100), (100, 100), (-100, 100)]⟩

/-- With five counts on both axes the mesh of the square is sound. -/
theorem calibrate_sound_five :
    Sound (bedWith 5 5) [largeSquare] (meshCommand (bedWith 5 5) noFuzz [largeSquare] noDraws) := by
  apply (calibrate_sound_iff (bedWith 5 5) noFuzz [largeSquare] noDraws (by simp)
    (by simp [largeSquare]) (by norm_num [bedWith]) (by decide) (by norm_num [noFuzz])).2
  · refine ⟨⟨?_, ?_⟩, Or.inl (by decide)⟩
    · refine ⟨-100, by simp [allPoints, largeSquare], 100, by simp [allPoints, largeSquare], ?_⟩
      norm_num [noFuzz, noDraws, bedWith]
    · refine ⟨-100, by simp [allPoints, largeSquare], 100, by simp [allPoints, largeSquare], ?_⟩
      norm_num [noFuzz, noDraws, bedWith]
  · exact (calibrate_mem_iff _ _ _ _ _).2 rfl

/-- With seven counts along X and three along Y, the macro asks for a bicubic mesh of
7 by 3 points. -/
theorem calibrate_not_accepted :
    ¬ ∀ c, MeshLine.calibrate c ∈ kampBedMeshCalibrate (bedWith 7 3) noFuzz [largeSquare] noDraws →
      Sound (bedWith 7 3) [largeSquare] c := by
  intro h
  have halgorithm : (meshCommand (bedWith 7 3) noFuzz [largeSquare] noDraws).algorithm = .bicubic := by
    decide +kernel
  have hcount : (meshCommand (bedWith 7 3) noFuzz [largeSquare] noDraws).probeCount = (7, 3) := by
    decide +kernel
  have haccepted := (h _ ((calibrate_mem_iff _ _ _ _ _).2 rfl)).accepted
  rw [halgorithm, hcount] at haccepted
  exact absurd haccepted.2 (by decide)

end Kamp

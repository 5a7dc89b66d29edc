import Ff5m.Motion.GCodeMove
import Ff5m.Planner.Outlook

/-!
# Moves

The moves of `toolhead.py`, with the checks of `corexy.py` and `extruder.py` that they
pass before they are queued.  The floats of the code are numbers of an ordered field, in
which nothing is rounded.

* `Move.fresh_of_check`: what is known of a move that has passed the checks;
* `Move.sound_calcJunction`, `Move.meets_calcJunction`: the limits of a move that has been
  planned after another one agree with each other and with those of the other one.
-/

namespace Planner

open Motion (Axis)
open Lookahead (Segment)

variable {K : Type} [Field K] [LinearOrder K]

/-! ## What the planner is given -/

/-- `math.sqrt`, as far as the planner relies on it. -/
structure Root (K : Type) [Field K] [LinearOrder K] where
  sqrt : K → K
  nonneg : ∀ x, 0 ≤ sqrt x
  mono : Monotone sqrt
  one : sqrt 1 = 1

/-- The square root to six decimals. -/
def Root.micro : Root ℚ where
  sqrt x := (Nat.sqrt ⌊x * 10 ^ 12⌋₊ : ℚ) / 10 ^ 6
  nonneg x := by positivity
  mono x y h := by
    have hfloor : ⌊x * 10 ^ 12⌋₊ ≤ ⌊y * 10 ^ 12⌋₊ := Nat.floor_mono (by linarith)
    have hsqrt : (Nat.sqrt ⌊x * 10 ^ 12⌋₊ : ℚ) ≤ Nat.sqrt ⌊y * 10 ^ 12⌋₊ := by
      exact_mod_cast Nat.sqrt_le_sqrt hfloor
    exact div_le_div_of_nonneg_right hsqrt (by norm_num)
  one := by
    have hfloor : ⌊(1 : ℚ) * 10 ^ 12⌋₊ = 10 ^ 6 * 10 ^ 6 := by norm_num
    rw [hfloor, Nat.sqrt_eq]
    norm_num

/-- A position. -/
abbrev Pos (K : Type) := Axis → K

/-- The limits of `ToolHead`. -/
structure Limits (K : Type) [Field K] [LinearOrder K] where
  maxVelocity : K
  maxAccel : K
  minCruiseRatio : K
  squareCornerVelocity : K
  maxVelocity_pos : 0 < maxVelocity
  maxAccel_pos : 0 < maxAccel
  minCruiseRatio_nonneg : 0 ≤ minCruiseRatio
  minCruiseRatio_lt : minCruiseRatio < 1
  squareCornerVelocity_nonneg : 0 ≤ squareCornerVelocity

namespace Limits

/-- `_calc_junction_deviation`, first part. -/
def junctionDeviation (root : Root K) (l : Limits K) : K :=
  l.squareCornerVelocity ^ 2 * (root.sqrt 2.0 - 1) / l.maxAccel

/-- `_calc_junction_deviation`, second part. -/
def maxAccelToDecel (l : Limits K) : K := l.maxAccel * (1 - l.minCruiseRatio)

end Limits

/-- `CoreXYKinematics`: the ranges of the axes are known once they are homed. -/
structure Kinematics (K : Type) [Field K] [LinearOrder K] where
  maxZVelocity : K
  maxZAccel : K
  limits : Axis → K × K
  maxZVelocity_pos : 0 < maxZVelocity
  maxZAccel_pos : 0 < maxZAccel

/-- `PrinterExtruder`. -/
structure Extruder (K : Type) [Field K] [LinearOrder K] where
  nozzleDiameter : K
  filamentArea : K
  maxExtrudeRatio : K
  maxEVelocity : K
  maxEAccel : K
  maxEDist : K
  instantCornerV : K
  maxEVelocity_pos : 0 < maxEVelocity
  maxEAccel_pos : 0 < maxEAccel

/-! ## The move -/

/-- `Move`. -/
structure Move (K : Type) where
  startPos : Pos K
  endPos : Pos K
  accel : K
  junctionDeviation : K
  isKinematicMove : Bool
  axesD : Pos K
  axesR : Pos K
  moveD : K
  minMoveT : K
  maxStartV2 : K
  maxCruiseV2 : K
  deltaV2 : K
  maxSmoothedV2 : K
  smoothDeltaV2 : K
  nextJunctionV2 : K

namespace Move

/-- The way along each axis. -/
def way (startPos endPos : Pos K) : Pos K := fun a => endPos a - startPos a

/-- `Move.__init__`, a move of the head. -/
def kinematic (root : Root K) (l : Limits K) (startPos endPos : Pos K) (speed moveD : K) : Move K :=
  let velocity := min speed l.maxVelocity
  { startPos := startPos
    endPos := endPos
    accel := l.maxAccel
    junctionDeviation := l.junctionDeviation root
    isKinematicMove := true
    axesD := way startPos endPos
    axesR := fun a => way startPos endPos a * (1 / moveD)
    moveD := moveD
    minMoveT := moveD / velocity
    maxStartV2 := 0
    maxCruiseV2 := velocity ^ 2
    deltaV2 := 2.0 * moveD * l.maxAccel
    maxSmoothedV2 := 0
    smoothDeltaV2 := 2.0 * moveD * l.maxAccelToDecel
    nextJunctionV2 := 999999999.9 }

/-- `Move.__init__`, an extrude only move. -/
def extrudeOnly (root : Root K) (l : Limits K) (startPos endPos : Pos K) (speed : K) : Move K :=
  let axesD : Pos K := fun a => if a = .E then way startPos endPos a else 0
  let moveD := |axesD .E|
  let accel : K := 99999999.9
  { startPos := startPos
    endPos := fun a => if a = .E then endPos a else startPos a
    accel := accel
    junctionDeviation := l.junctionDeviation root
    isKinematicMove := false
    axesD := axesD
    axesR := fun a => axesD a * (if moveD = 0 then 0 else 1 / moveD)
    moveD := moveD
    minMoveT := moveD / speed
    maxStartV2 := 0
    maxCruiseV2 := speed ^ 2
    deltaV2 := 2.0 * moveD * accel
    maxSmoothedV2 := 0
    smoothDeltaV2 := 2.0 * moveD * l.maxAccelToDecel
    nextJunctionV2 := 999999999.9 }

/-- `Move.__init__`. -/
def new (root : Root K) (l : Limits K) (startPos endPos : Pos K) (speed : K) : Move K :=
  let axesD := way startPos endPos
  let moveD := root.sqrt (axesD .X * axesD .X + axesD .Y * axesD .Y + axesD .Z * axesD .Z)
  if moveD < 0.000000001 then extrudeOnly root l startPos endPos speed
  else kinematic root l startPos endPos speed moveD

/-- `limit_speed`. -/
def limitSpeed (speed accel : K) (m : Move K) : Move K :=
  let m := if speed ^ 2 < m.maxCruiseV2 then
      { m with maxCruiseV2 := speed ^ 2, minMoveT := m.moveD / speed }
    else m
  let accel := min m.accel accel
  let deltaV2 := 2.0 * m.moveD * accel
  { m with accel := accel, deltaV2 := deltaV2, smoothDeltaV2 := min m.smoothDeltaV2 deltaV2 }

/-- `limit_next_junction_speed`. -/
def limitNextJunctionSpeed (speed : K) (m : Move K) : Move K :=
  { m with nextJunctionV2 := min m.nextJunctionV2 (speed ^ 2) }

end Move

/-- The errors of the checks, with what their texts show. -/
inductive MoveError (K : Type) where
  | mustHome (endPos : Pos K)
  | outOfRange (endPos : Pos K)
  | belowMinTemp
  | tooLong (dist maxDist : K)
  | exceedsExtrusion (area maxArea : K)

/-- The axes that are checked. -/
def Kinematics.axes : List Axis := [.X, .Y, .Z]

/-- `_check_endstops`. -/
def Kinematics.checkEndstops (k : Kinematics K) (m : Move K) : Except (MoveError K) Unit :=
  match Kinematics.axes.find? fun a =>
      m.axesD a ≠ 0 ∧ (m.endPos a < (k.limits a).1 ∨ (k.limits a).2 < m.endPos a) with
  | none => .ok ()
  | some a =>
    if (k.limits a).2 < (k.limits a).1 then .error (.mustHome m.endPos)
    else .error (.outOfRange m.endPos)

/-- `CoreXYKinematics.check_move`. -/
def Kinematics.checkMove (k : Kinematics K) (m : Move K) : Except (MoveError K) (Move K) := do
  if m.endPos .X < (k.limits .X).1 ∨ (k.limits .X).2 < m.endPos .X ∨
      m.endPos .Y < (k.limits .Y).1 ∨ (k.limits .Y).2 < m.endPos .Y then
    k.checkEndstops m
  if m.axesD .Z = 0 then
    return m
  k.checkEndstops m
  let zRatio := m.moveD / |m.axesD .Z|
  return m.limitSpeed (k.maxZVelocity * zRatio) (k.maxZAccel * zRatio)

/-- `PrinterExtruder.check_move`. -/
def Extruder.checkMove (x : Extruder K) (canExtrude : Bool) (m : Move K) :
    Except (MoveError K) (Move K) :=
  let axisR := m.axesR .E
  if !canExtrude then .error .belowMinTemp
  else if (m.axesD .X = 0 ∧ m.axesD .Y = 0) ∨ axisR < 0 then
    if x.maxEDist < |m.axesD .E| then .error (.tooLong (m.axesD .E) x.maxEDist)
    else
      let invExtrudeR := 1 / |axisR|
      .ok (m.limitSpeed (x.maxEVelocity * invExtrudeR) (x.maxEAccel * invExtrudeR))
  else if x.maxExtrudeRatio < axisR then
    if m.axesD .E ≤ x.nozzleDiameter * x.maxExtrudeRatio then .ok m
    else .error (.exceedsExtrusion (axisR * x.filamentArea) (x.maxExtrudeRatio * x.filamentArea))
  else .ok m

/-- `PrinterExtruder.calc_junction`. -/
def Extruder.calcJunction (x : Extruder K) (prev m : Move K) : K :=
  let diffR := m.axesR .E - prev.axesR .E
  if diffR = 0 then m.maxCruiseV2 else (x.instantCornerV / |diffR|) ^ 2

/-- `Move.calc_junction`, the bounds that come from the angle of the junction. -/
def Move.corner (root : Root K) (m prev : Move K) (maxStartV2 : K) : K :=
  let junctionCosTheta := -(m.axesR .X * prev.axesR .X + m.axesR .Y * prev.axesR .Y
    + m.axesR .Z * prev.axesR .Z)
  let sinThetaD2 := root.sqrt (max (0.5 * (1 - junctionCosTheta)) 0)
  let cosThetaD2 := root.sqrt (max (0.5 * (1 + junctionCosTheta)) 0)
  let oneMinusSinThetaD2 := 1 - sinThetaD2
  if 0 < oneMinusSinThetaD2 ∧ 0 < cosThetaD2 then
    let rJd := sinThetaD2 / oneMinusSinThetaD2
    let moveJdV2 := rJd * m.junctionDeviation * m.accel
    let pmoveJdV2 := rJd * prev.junctionDeviation * prev.accel
    let quarterTanThetaD2 := 0.25 * sinThetaD2 / cosThetaD2
    let moveCentripetalV2 := m.deltaV2 * quarterTanThetaD2
    let pmoveCentripetalV2 := prev.deltaV2 * quarterTanThetaD2
    min maxStartV2 (min moveJdV2 (min pmoveJdV2 (min moveCentripetalV2 pmoveCentripetalV2)))
  else maxStartV2

/-- `Move.calc_junction`. -/
def Move.calcJunction (root : Root K) (x : Extruder K) (m prev : Move K) : Move K :=
  if !m.isKinematicMove || !prev.isKinematicMove then m
  else
    let maxStartV2 := m.corner root prev (min (x.calcJunction prev m) (min m.maxCruiseV2
      (min prev.maxCruiseV2 (min prev.nextJunctionV2 (prev.maxStartV2 + prev.deltaV2)))))
    { m with
      maxStartV2 := maxStartV2
      maxSmoothedV2 := min maxStartV2 (prev.maxSmoothedV2 + prev.smoothDeltaV2) }

/-- The checks that `ToolHead.move` makes. -/
def Move.check (k : Kinematics K) (x : Extruder K) (canExtrude : Bool) (m : Move K) :
    Except (MoveError K) (Move K) := do
  let m ← if m.isKinematicMove then k.checkMove m else pure m
  if m.axesD .E ≠ 0 then x.checkMove canExtrude m else pure m

/-! ## What is known of a move -/

theorem two_dec [IsStrictOrderedRing K] : (2.0 : K) = 2 := by norm_num

theorem half_dec [IsStrictOrderedRing K] : (0.5 : K) = 1 / 2 := by norm_num

namespace Move

/-- What the queue looks at. -/
def segment (m : Move K) : Segment K :=
  ⟨m.maxStartV2, m.maxCruiseV2, m.deltaV2, m.maxSmoothedV2, m.smoothDeltaV2⟩

/-- A move that has not been planned yet. -/
structure Fresh (m : Move K) : Prop where
  moveD : 0 < m.moveD
  axesD : ∀ a, m.axesD a = m.endPos a - m.startPos a
  axesR : ∀ a, m.axesR a = m.axesD a * (1 / m.moveD)
  accel : 0 < m.accel
  delta : m.deltaV2 = 2.0 * m.moveD * m.accel
  smooth : 0 < m.smoothDeltaV2
  cruise : 0 < m.maxCruiseV2
  start : m.maxStartV2 = 0
  smoothed : m.maxSmoothedV2 = 0
  deviation : 0 ≤ m.junctionDeviation
  next : 0 ≤ m.nextJunctionV2

/-- A move in the queue. -/
structure Sound (m : Move K) : Prop where
  moveD : 0 < m.moveD
  axesR : ∀ a, m.axesR a = (m.endPos a - m.startPos a) * (1 / m.moveD)
  accel : 0 < m.accel
  delta : m.deltaV2 = 2.0 * m.moveD * m.accel
  deviation : 0 ≤ m.junctionDeviation
  next : 0 ≤ m.nextJunctionV2
  segment : m.segment.Sound

/-- The smoothed change of speed is not the larger one. -/
def Smoothed (m : Move K) : Prop := m.smoothDeltaV2 ≤ m.deltaV2

variable {root : Root K} {m prev : Move K}

theorem Fresh.sound (h : m.Fresh) (hs : m.Smoothed) : m.Sound := by
  refine ⟨h.moveD, fun a => by rw [h.axesR, h.axesD], h.accel, h.delta, h.deviation, h.next, h.smooth, hs,
    h.smoothed.ge, ?_, ?_, h.cruise⟩
  · exact (h.smoothed.trans h.start.symm).le
  · exact h.start.le.trans h.cruise.le

theorem limitSpeed_axesD (speed accel : K) (m : Move K) : (m.limitSpeed speed accel).axesD = m.axesD := by
  unfold limitSpeed
  split_ifs <;> rfl

/-- The ends of a move, and whether it moves the head. -/
theorem limitSpeed_same (speed accel : K) (m : Move K) :
    (m.limitSpeed speed accel).startPos = m.startPos ∧ (m.limitSpeed speed accel).endPos = m.endPos ∧
      (m.limitSpeed speed accel).isKinematicMove = m.isKinematicMove := by
  unfold limitSpeed
  split_ifs <;> exact ⟨rfl, rfl, rfl⟩

variable [IsStrictOrderedRing K]

theorem fresh_limitSpeed (h : m.Fresh) {speed accel : K} (hspeed : 0 < speed) (haccel : 0 < accel) :
    (m.limitSpeed speed accel).Fresh ∧ (m.limitSpeed speed accel).Smoothed := by
  have hmin : 0 < min m.accel accel := lt_min h.accel haccel
  have hdelta : 0 < 2.0 * m.moveD * min m.accel accel := by
    have := h.moveD
    positivity
  refine ⟨?_, ?_⟩
  · unfold limitSpeed
    split_ifs
    · exact ⟨h.moveD, h.axesD, h.axesR, hmin, rfl, lt_min h.smooth hdelta, by positivity, h.start, h.smoothed,
        h.deviation, h.next⟩
    · exact ⟨h.moveD, h.axesD, h.axesR, hmin, rfl, lt_min h.smooth hdelta, h.cruise, h.start, h.smoothed,
        h.deviation, h.next⟩
  · unfold limitSpeed Smoothed
    split_ifs <;> exact min_le_right _ _

theorem one_le_sqrt_two (root : Root K) : 1 ≤ root.sqrt 2.0 := by
  have h := root.mono (show (1 : K) ≤ 2.0 by norm_num)
  rwa [root.one] at h

theorem deviation_nonneg (root : Root K) (l : Limits K) : 0 ≤ l.junctionDeviation root := by
  have hroot := sub_nonneg.2 (one_le_sqrt_two root)
  have hl := l.maxAccel_pos
  unfold Limits.junctionDeviation
  positivity

theorem accelToDecel_bounds (l : Limits K) : 0 < l.maxAccelToDecel ∧ l.maxAccelToDecel ≤ l.maxAccel := by
  have hl := l.maxAccel_pos
  have hlt := sub_pos.2 l.minCruiseRatio_lt
  refine ⟨mul_pos hl hlt, ?_⟩
  exact mul_le_of_le_one_right hl.le (by linarith [l.minCruiseRatio_nonneg])

theorem fresh_kinematic (root : Root K) (l : Limits K) (startPos endPos : Pos K) {speed moveD : K}
    (hspeed : 0 < speed) (hlong : 0 < moveD) :
    (kinematic root l startPos endPos speed moveD).Fresh ∧
      (kinematic root l startPos endPos speed moveD).Smoothed := by
  obtain ⟨hdecel, hdecel_le⟩ := accelToDecel_bounds l
  have htwice : 0 < 2.0 * moveD := mul_pos (by norm_num) hlong
  have hv : 0 < min speed l.maxVelocity := lt_min hspeed l.maxVelocity_pos
  refine ⟨⟨hlong, fun _ => rfl, fun _ => rfl, l.maxAccel_pos, rfl, ?_, pow_pos hv 2, rfl, rfl, deviation_nonneg root l, ?_⟩, ?_⟩
  · exact mul_pos htwice hdecel
  · show (0 : K) ≤ 999999999.9
    norm_num
  · exact mul_le_mul_of_nonneg_left hdecel_le htwice.le

theorem fresh_extrudeOnly (root : Root K) (l : Limits K) (startPos endPos : Pos K) {speed : K}
    (hspeed : 0 < speed) (hlong : (extrudeOnly root l startPos endPos speed).moveD ≠ 0) :
    (extrudeOnly root l startPos endPos speed).Fresh := by
  obtain ⟨hdecel, -⟩ := accelToDecel_bounds l
  have hd : 0 < (extrudeOnly root l startPos endPos speed).moveD :=
    lt_of_le_of_ne (abs_nonneg _) (Ne.symm hlong)
  have htwice : 0 < 2.0 * (extrudeOnly root l startPos endPos speed).moveD := mul_pos (by norm_num) hd
  refine ⟨hd, fun a => ?_, fun a => ?_, ?_, rfl, mul_pos htwice hdecel, pow_pos hspeed 2, rfl,
    rfl, deviation_nonneg root l, ?_⟩
  · by_cases ha : a = .E <;> simp [extrudeOnly, way, ha]
  · exact congrArg _ (if_neg hlong)
  · show (0 : K) < 99999999.9
    norm_num
  · show (0 : K) ≤ 999999999.9
    norm_num

/-- What the checks can change of a move. -/
structure Checked (m m' : Move K) : Prop where
  fresh : m'.Fresh
  smoothed : m.Smoothed → m'.Smoothed
  axesD : m'.axesD = m.axesD
  startPos : m'.startPos = m.startPos
  endPos : m'.endPos = m.endPos

omit [IsStrictOrderedRing K] in
theorem Fresh.checked (h : m.Fresh) : Checked m m := ⟨h, id, rfl, rfl, rfl⟩

theorem Fresh.checked_limitSpeed (h : m.Fresh) {speed accel : K} (hspeed : 0 < speed) (haccel : 0 < accel) :
    Checked m (m.limitSpeed speed accel) := by
  obtain ⟨hfresh, hsmoothed⟩ := fresh_limitSpeed h hspeed haccel
  obtain ⟨hstart, hend, -⟩ := limitSpeed_same speed accel m
  exact ⟨hfresh, fun _ => hsmoothed, limitSpeed_axesD speed accel m, hstart, hend⟩

omit [IsStrictOrderedRing K] in
/-- A move without Z passes as it is. -/
theorem checkMove_cases {k : Kinematics K} {m' : Move K} (hok : k.checkMove m = .ok m') :
    m' = m ∨ m.axesD .Z ≠ 0 ∧ m' = m.limitSpeed (k.maxZVelocity * (m.moveD / |m.axesD .Z|))
      (k.maxZAccel * (m.moveD / |m.axesD .Z|)) := by
  unfold Kinematics.checkMove at hok
  by_cases hz : m.axesD .Z = 0
  · left
    rw [if_pos hz] at hok
    split_ifs at hok
    · cases hend : k.checkEndstops m with
      | ok _ =>
        rw [hend] at hok
        exact (Except.ok.inj hok).symm
      | error e =>
        rw [hend] at hok
        cases hok
    · exact (Except.ok.inj hok).symm
  · right
    refine ⟨hz, ?_⟩
    rw [if_neg hz] at hok
    cases hend : k.checkEndstops m with
    | ok _ =>
      rw [hend] at hok
      split_ifs at hok <;> exact (Except.ok.inj hok).symm
    | error e =>
      rw [hend] at hok
      split_ifs at hok <;> cases hok

theorem checked_kinematics (k : Kinematics K) {m' : Move K} (h : m.Fresh) (hok : k.checkMove m = .ok m') :
    Checked m m' := by
  rcases checkMove_cases hok with rfl | ⟨hz, rfl⟩
  · exact h.checked
  · have hratio : 0 < m.moveD / |m.axesD .Z| := div_pos h.moveD (abs_pos.2 hz)
    exact h.checked_limitSpeed (mul_pos k.maxZVelocity_pos hratio) (mul_pos k.maxZAccel_pos hratio)

/-- The smoothed change of speed of an extrude only move is bounded by the check. -/
theorem checked_extruder (x : Extruder K) (canExtrude : Bool) {m' : Move K} (h : m.Fresh)
    (he : m.axesD .E ≠ 0) (hok : x.checkMove canExtrude m = .ok m') :
    Checked m m' ∧ (m.axesD .X = 0 ∧ m.axesD .Y = 0 → m'.Smoothed) := by
  have hr : m.axesR .E ≠ 0 := by
    rw [h.axesR]
    exact mul_ne_zero he (one_div_ne_zero h.moveD.ne')
  have hinv : 0 < 1 / |m.axesR .E| := one_div_pos.2 (abs_pos.2 hr)
  simp only [Extruder.checkMove] at hok
  split_ifs at hok with hcold honly hlong hratio
  · obtain rfl := Except.ok.inj hok
    have hv := mul_pos x.maxEVelocity_pos hinv
    have ha := mul_pos x.maxEAccel_pos hinv
    exact ⟨h.checked_limitSpeed hv ha, fun _ => (fresh_limitSpeed h hv ha).2⟩
  · obtain rfl := Except.ok.inj hok
    exact ⟨h.checked, fun hxy => absurd (.inl hxy) honly⟩
  · obtain rfl := Except.ok.inj hok
    exact ⟨h.checked, fun hxy => absurd (.inl hxy) honly⟩

/-- A move that has passed the checks. -/
theorem fresh_of_check (root : Root K) (l : Limits K) (k : Kinematics K) (x : Extruder K) (canExtrude : Bool)
    (startPos endPos : Pos K) {speed : K} {m : Move K} (hspeed : 0 < speed)
    (hlong : (new root l startPos endPos speed).moveD ≠ 0)
    (hok : (new root l startPos endPos speed).check k x canExtrude = .ok m) :
    m.Fresh ∧ m.Smoothed ∧ m.startPos = startPos ∧
      m.endPos = (new root l startPos endPos speed).endPos := by
  unfold new at hlong hok ⊢
  simp only at hlong hok ⊢
  split_ifs at hlong hok ⊢ with hshort
  · have hfresh := fresh_extrudeOnly root l startPos endPos hspeed hlong
    have he : (extrudeOnly root l startPos endPos speed).axesD .E ≠ 0 := fun h0 =>
      hlong ((congrArg abs h0).trans abs_zero)
    have hcheck : x.checkMove canExtrude (extrudeOnly root l startPos endPos speed) = .ok m := by
      have hpass : (extrudeOnly root l startPos endPos speed).check k x canExtrude
          = x.checkMove canExtrude (extrudeOnly root l startPos endPos speed) := by
        simp only [check, extrudeOnly, Bool.false_eq_true, if_false, pure_bind]
        exact if_pos he
      rw [← hpass, hok]
    obtain ⟨hm, hs⟩ := checked_extruder x canExtrude hfresh he hcheck
    exact ⟨hm.fresh, hs ⟨rfl, rfl⟩, hm.startPos, hm.endPos⟩
  · set moveD := root.sqrt _
    have hd : 0 < moveD := lt_of_lt_of_le (by norm_num) (not_lt.1 hshort)
    obtain ⟨hfresh, hsm⟩ := fresh_kinematic root l startPos endPos hspeed hd
    simp only [check, show (kinematic root l startPos endPos speed moveD).isKinematicMove = true from rfl,
      if_true] at hok
    cases hkin : k.checkMove (kinematic root l startPos endPos speed moveD) with
    | error e =>
      rw [hkin] at hok
      cases hok
    | ok m₁ =>
      have h₁ := checked_kinematics k hfresh hkin
      replace hok : (if m₁.axesD .E ≠ 0 then x.checkMove canExtrude m₁ else pure m₁) = .ok m := by
        rwa [hkin] at hok
      split_ifs at hok with he
      · obtain ⟨hm, -⟩ := checked_extruder x canExtrude h₁.fresh he hok
        exact ⟨hm.fresh, hm.smoothed (h₁.smoothed hsm), hm.startPos.trans h₁.startPos,
          hm.endPos.trans h₁.endPos⟩
      · obtain rfl := Except.ok.inj hok
        exact ⟨h₁.fresh, h₁.smoothed hsm, h₁.startPos, h₁.endPos⟩

/-! ## Planning -/

omit [IsStrictOrderedRing K] in
theorem corner_le (root : Root K) (m prev : Move K) (v : K) : m.corner root prev v ≤ v := by
  unfold corner
  simp only
  split_ifs
  · exact min_le_left _ _
  · exact le_rfl

theorem corner_nonneg (root : Root K) (hm : m.Sound) (hprev : prev.Sound) {v : K} (hv : 0 ≤ v) :
    0 ≤ m.corner root prev v := by
  unfold corner
  simp only
  split_ifs with hturn
  · obtain ⟨hsin, hcos⟩ := hturn
    have hm' := hm.deviation
    have hp' := hprev.deviation
    have hma := hm.accel
    have hpa := hprev.accel
    have hmd : 0 < m.deltaV2 := hm.segment.smooth.trans_le hm.segment.delta
    have hpd : 0 < prev.deltaV2 := hprev.segment.smooth.trans_le hprev.segment.delta
    have hroot := root.nonneg (max (0.5 * (1 - -(m.axesR .X * prev.axesR .X + m.axesR .Y * prev.axesR .Y
      + m.axesR .Z * prev.axesR .Z))) 0)
    refine le_min hv (le_min ?_ (le_min ?_ (le_min ?_ ?_))) <;> positivity
  · exact hv

/-- A move that is planned after another one. -/
theorem sound_calcJunction (root : Root K) (x : Extruder K) (hprev : prev.Sound) (hm : m.Fresh)
    (hs : m.Smoothed) :
    (m.calcJunction root x prev).Sound ∧ prev.segment.Meets (m.calcJunction root x prev).segment := by
  have hsound := hm.sound hs
  have hp := hprev.segment
  have hpv : 0 ≤ prev.maxStartV2 + prev.deltaV2 := by
    have hdelta : 0 < prev.deltaV2 := hp.smooth.trans_le hp.delta
    have hstart : 0 ≤ prev.maxStartV2 := hp.smoothed.trans hp.start
    linarith
  have hps : 0 ≤ prev.maxSmoothedV2 + prev.smoothDeltaV2 := add_nonneg hp.smoothed hp.smooth.le
  unfold calcJunction
  split_ifs
  · refine ⟨hsound, ?_, ?_, ?_⟩
    · exact hm.start.trans_le hpv
    · exact hm.start.trans_le hp.pos.le
    · show m.maxSmoothedV2 = min m.maxStartV2 (prev.maxSmoothedV2 + prev.smoothDeltaV2)
      rw [hm.start, hm.smoothed, min_eq_left hps]
  · set top := min (x.calcJunction prev m) (min m.maxCruiseV2 (min prev.maxCruiseV2
      (min prev.nextJunctionV2 (prev.maxStartV2 + prev.deltaV2)))) with htop
    have htop0 : 0 ≤ top := by
      refine le_min ?_ (le_min hm.cruise.le (le_min hp.pos.le (le_min hprev.next hpv)))
      unfold Extruder.calcJunction
      simp only
      split_ifs
      · exact hm.cruise.le
      · positivity
    have hle := corner_le root m prev top
    have h0 := corner_nonneg root hsound hprev htop0
    have h1 : top ≤ m.maxCruiseV2 := (min_le_right _ _).trans (min_le_left _ _)
    have h2 : top ≤ min prev.maxCruiseV2 (min prev.nextJunctionV2 (prev.maxStartV2 + prev.deltaV2)) :=
      (min_le_right _ _).trans (min_le_right _ _)
    refine ⟨⟨hm.moveD, hsound.axesR, hm.accel, hm.delta, hm.deviation, hm.next, hm.smooth, hs, le_min h0 hps,
      min_le_left _ _, hle.trans h1, hm.cruise⟩, ?_, ?_, rfl⟩
    · exact hle.trans (h2.trans ((min_le_right _ _).trans (min_le_right _ _)))
    · exact hle.trans (h2.trans (min_le_left _ _))

omit [IsStrictOrderedRing K] in
theorem calcJunction_same (root : Root K) (x : Extruder K) (m prev : Move K) :
    (m.calcJunction root x prev).startPos = m.startPos ∧ (m.calcJunction root x prev).endPos = m.endPos := by
  unfold calcJunction
  split_ifs <;> exact ⟨rfl, rfl⟩

end Move

end Planner

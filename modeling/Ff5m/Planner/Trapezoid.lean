import Ff5m.Planner.Toolhead

/-!
# Trapezoids

`chelper/trapq.c`: the motion queues cut a move into a part in which it accelerates, one in
which it cruises and one in which it decelerates.  `set_junction` only works out how long
each part takes.  Arithmetic is exact, so that the parts meet without a gap.

* `Writer.part_linked`: a part begins where the part before it ended;
* `trapezoid_linked`: the parts lead from one end of the move to the other, and from the
  speed it begins at to the speed it ends at;
* `run_smooth`: so they do for every move that is written in any run, for the head and for
  the extruder.
-/

namespace Planner

open Motion (Axis)
open Lookahead

variable {K : Type} [Field K] [LinearOrder K]

/-! ## Parts of a move -/

/-- `struct move`. -/
structure TrapqMove (K : Type) where
  printTime : K
  moveT : K
  startV : K
  halfAccel : K
  startPos : Pos K
  axesR : Pos K

namespace TrapqMove

/-- `move_get_distance`. -/
def getDistance (m : TrapqMove K) (moveTime : K) : K :=
  (m.startV + m.halfAccel * moveTime) * moveTime

/-- `move_get_coord`. -/
def getCoord (m : TrapqMove K) (moveTime : K) : Pos K := fun a =>
  m.startPos a + m.axesR a * m.getDistance moveTime

/-- The speed at that time; `trapq_extract_old` tells twice the half acceleration. -/
def speed (m : TrapqMove K) (moveTime : K) : K := m.startV + 2.0 * m.halfAccel * moveTime

end TrapqMove

/-- A time, with the position and the speed then. -/
@[ext] structure Point (K : Type) where
  time : K
  pos : Pos K
  speed : K

/-- Where a part begins and where it ends. -/
def TrapqMove.source (m : TrapqMove K) : Point K := ⟨m.printTime, m.startPos, m.startV⟩

def TrapqMove.target (m : TrapqMove K) : Point K :=
  ⟨m.printTime + m.moveT, m.getCoord m.moveT, m.speed m.moveT⟩

/-- The variables of `trapq_append`. -/
structure Writer (K : Type) where
  moves : List (TrapqMove K)
  printTime : K
  startPos : Pos K

/-- A part is written if it takes any time. -/
def Writer.part (axesR : Pos K) (moveT startV halfAccel : K) (w : Writer K) : Writer K :=
  if moveT = 0 then w
  else
    let m : TrapqMove K := ⟨w.printTime, moveT, startV, halfAccel, w.startPos, axesR⟩
    ⟨w.moves ++ [m], w.printTime + moveT, m.getCoord moveT⟩

/-- `trapq_append`. -/
def trapqAppend (printTime : K) (t : Times K) (startPos axesR : Pos K) (startV cruiseV accel : K) :
    List (TrapqMove K) :=
  ((((Writer.mk [] printTime startPos).part axesR t.accelT startV (0.5 * accel)).part
    axesR t.cruiseT cruiseV 0).part axesR t.decelT cruiseV (-0.5 * accel)).moves

/-- The parts of a move of the head. -/
def Move.trapezoid (root : Root K) (time : K) (m : Move K) (j : Junction K) : List (TrapqMove K) :=
  trapqAppend time (m.setJunction root j) m.startPos m.axesR (root.sqrt j.startV2) (root.sqrt j.cruiseV2)
    m.accel

/-- The filament moves along X; Y tells whether there is pressure advance. -/
def filamentPos (pos flag : K) : Pos K
  | .X => pos
  | .Y => flag
  | _ => 0

/-- `PrinterExtruder.move`: the parts of a move of the extruder. -/
def Move.extrusion (root : Root K) (time : K) (m : Move K) (j : Junction K) : List (TrapqMove K) :=
  let axisR := m.axesR .E
  let canPressureAdvance := 0 < axisR ∧ (m.axesD .X ≠ 0 ∨ m.axesD .Y ≠ 0)
  trapqAppend time (m.setJunction root j) (filamentPos (m.startPos .E) 0)
    (filamentPos 1 (if canPressureAdvance then 1 else 0)) (root.sqrt j.startV2 * axisR)
    (root.sqrt j.cruiseV2 * axisR) (m.accel * axisR)

/-! ## The parts are linked -/

/-- The parts that have been written lead from `p` to the place of the writer, at the speed
`v`. -/
def Writer.Leads (p : Point K) (v : K) (w : Writer K) : Prop :=
  Linked TrapqMove.source TrapqMove.target p w.moves ⟨w.printTime, w.startPos, v⟩

/-- One more part. -/
theorem Writer.part_linked {p : Point K} {v : K} {w : Writer K} (h : w.Leads p v) (axesR : Pos K)
    (moveT halfAccel : K) :
    (w.part axesR moveT v halfAccel).Leads p (v + 2.0 * halfAccel * moveT) ∧
      (w.part axesR moveT v halfAccel).printTime = w.printTime + moveT ∧
      (w.part axesR moveT v halfAccel).startPos
        = fun a => w.startPos a + axesR a * ((v + halfAccel * moveT) * moveT) := by
  unfold Writer.part
  split_ifs with hzero
  · subst hzero
    have hv : v + 2.0 * halfAccel * 0 = v := by ring
    refine ⟨by rw [hv]; exact h, (add_zero _).symm, funext fun a => by ring⟩
  · exact ⟨linked_append.2 ⟨_, h, rfl, rfl⟩, rfl, rfl⟩

/-- The square root of `x` is exact. -/
def Root.ExactAt (root : Root K) (x : K) : Prop := root.sqrt x * root.sqrt x = x

/-- The speeds of a move are told exactly. -/
structure Exact (root : Root K) (j : Junction K) : Prop where
  start : root.ExactAt j.startV2
  cruise : root.ExactAt j.cruiseV2
  finish : root.ExactAt j.endV2

variable [IsStrictOrderedRing K]

/-- The time in which the speed changes between `u` and `v`. -/
theorem ramp_time {a u v : K} (ha : a ≠ 0) (hsum : u + v ≠ 0) :
    (v * v - u * u) * (0.5 / a) / ((u + v) * 0.5) = (v - u) / a := by
  field_simp
  ring

/-- The times of the parts give the speeds back, and the length of the move. -/
theorem setJunction_spec (root : Root K) {m : Move K} {j : Junction K} (hj : Feasible m j)
    (hexact : Exact root j) :
    let t := m.setJunction root j
    let startV := root.sqrt j.startV2
    let cruiseV := root.sqrt j.cruiseV2
    startV + m.accel * t.accelT = cruiseV ∧ cruiseV - m.accel * t.decelT = root.sqrt j.endV2 ∧
      (startV + 0.5 * m.accel * t.accelT) * t.accelT + cruiseV * t.cruiseT
        + (cruiseV - 0.5 * m.accel * t.decelT) * t.decelT = m.moveD := by
  obtain ⟨hs, hc, he⟩ := hexact
  unfold Root.ExactAt at hs hc he
  have hcpos : 0 < root.sqrt j.cruiseV2 := by
    refine lt_of_le_of_ne (root.nonneg _) fun hzero => ?_
    rw [← hzero, mul_zero] at hc
    exact hj.cruise_pos.ne hc
  have hsum : root.sqrt j.startV2 + root.sqrt j.cruiseV2 ≠ 0 :=
    (add_pos_of_nonneg_of_pos (root.nonneg _) hcpos).ne'
  have hsum' : root.sqrt j.endV2 + root.sqrt j.cruiseV2 ≠ 0 :=
    (add_pos_of_nonneg_of_pos (root.nonneg _) hcpos).ne'
  have ha := hj.sound.accel.ne'
  intro t startV cruiseV
  have hup : j.cruiseV2 - j.startV2 = cruiseV * cruiseV - startV * startV := by rw [hs, hc]
  have hdown : j.cruiseV2 - j.endV2 = cruiseV * cruiseV - root.sqrt j.endV2 * root.sqrt j.endV2 := by rw [he, hc]
  have haccelT : t.accelT = (cruiseV - startV) / m.accel := by
    rw [← ramp_time ha hsum, ← hup]
    rfl
  have hdecelT : t.decelT = (cruiseV - root.sqrt j.endV2) / m.accel := by
    rw [← ramp_time ha hsum', ← hdown]
    rfl
  have hcruiseT : cruiseV * t.cruiseT = m.moveD - (j.cruiseV2 - j.startV2) * (0.5 / m.accel)
      - (j.cruiseV2 - j.endV2) * (0.5 / m.accel) :=
    mul_div_cancel₀ _ hcpos.ne'
  refine ⟨?_, ?_, ?_⟩
  · rw [haccelT, mul_div_cancel₀ _ ha, add_sub_cancel]
  · rw [hdecelT, mul_div_cancel₀ _ ha, sub_sub_cancel]
  · rw [hcruiseT, haccelT, hdecelT, hup, hdown]
    field_simp
    ring

/-- **A trapezoid.**  Run at `r` times the speeds of the move, the parts lead `r` times its
length along the axes, from its first speed to its last. -/
theorem trapezoid_linked (root : Root K) {m : Move K} {j : Junction K} (hj : Feasible m j)
    (hexact : Exact root j) (time r : K) (startPos axesR : Pos K) :
    Linked TrapqMove.source TrapqMove.target ⟨time, startPos, root.sqrt j.startV2 * r⟩
      (trapqAppend time (m.setJunction root j) startPos axesR (root.sqrt j.startV2 * r)
        (root.sqrt j.cruiseV2 * r) (m.accel * r))
      ⟨time + m.duration root j, fun a => startPos a + axesR a * (m.moveD * r), root.sqrt j.endV2 * r⟩ := by
  obtain ⟨hup, hdown, hlength⟩ := setJunction_spec root hj hexact
  set t := m.setJunction root j
  set startV := root.sqrt j.startV2
  set cruiseV := root.sqrt j.cruiseV2
  have hbegin : (Writer.mk [] time startPos).Leads ⟨time, startPos, startV * r⟩ (startV * r) := rfl
  obtain ⟨h₁, ht₁, hp₁⟩ := Writer.part_linked hbegin axesR t.accelT (0.5 * (m.accel * r))
  have hv₁ : startV * r + 2.0 * (0.5 * (m.accel * r)) * t.accelT = cruiseV * r := by
    rw [← hup, two_dec, half_dec]
    ring
  rw [hv₁] at h₁
  obtain ⟨h₂, ht₂, hp₂⟩ := Writer.part_linked h₁ axesR t.cruiseT 0
  have hv₂ : cruiseV * r + 2.0 * 0 * t.cruiseT = cruiseV * r := by ring
  rw [hv₂] at h₂
  obtain ⟨h₃, ht₃, hp₃⟩ := Writer.part_linked h₂ axesR t.decelT (-0.5 * (m.accel * r))
  have hv₃ : cruiseV * r + 2.0 * (-0.5 * (m.accel * r)) * t.decelT = root.sqrt j.endV2 * r := by
    rw [← hdown, two_dec, half_dec]
    ring
  rw [hv₃] at h₃
  unfold Writer.Leads at h₃
  rw [ht₃, ht₂, ht₁, hp₃, hp₂, hp₁] at h₃
  have hend : (⟨time + t.accelT + t.cruiseT + t.decelT, fun a => startPos a
      + axesR a * ((startV * r + 0.5 * (m.accel * r) * t.accelT) * t.accelT)
      + axesR a * ((cruiseV * r + 0 * t.cruiseT) * t.cruiseT)
      + axesR a * ((cruiseV * r + -0.5 * (m.accel * r) * t.decelT) * t.decelT),
      root.sqrt j.endV2 * r⟩ : Point K)
      = ⟨time + m.duration root j, fun a => startPos a + axesR a * (m.moveD * r), root.sqrt j.endV2 * r⟩ := by
    refine Point.ext ?_ (funext fun a => ?_) rfl
    · show _ = time + (t.accelT + t.cruiseT + t.decelT)
      ring
    · show _ = startPos a + axesR a * (m.moveD * r)
      rw [← hlength]
      ring
  rw [hend] at h₃
  exact h₃

/-- The parts of a written move lead from one end of it to the other. -/
def Entry.Smooth (root : Root K) : Entry K → Prop
  | .move time m j => Exact root j →
    Linked TrapqMove.source TrapqMove.target ⟨time, m.startPos, root.sqrt j.startV2⟩
        (m.trapezoid root time j) ⟨time + m.duration root j, m.endPos, root.sqrt j.endV2⟩ ∧
      ∃ p, p .X = m.endPos .E ∧ Linked TrapqMove.source TrapqMove.target
        ⟨time, filamentPos (m.startPos .E) 0, root.sqrt j.startV2 * m.axesR .E⟩ (m.extrusion root time j)
        ⟨time + m.duration root j, p, root.sqrt j.endV2 * m.axesR .E⟩
  | .setPosition _ _ => True

theorem smooth_of_feasible (root : Root K) (time : K) {m : Move K} {j : Junction K} (hj : Feasible m j) :
    (Entry.move time m j).Smooth root := by
  intro hexact
  have hlength : ∀ a, m.axesR a * m.moveD = m.endPos a - m.startPos a := fun a => by
    rw [hj.sound.axesR, mul_assoc, one_div_mul_cancel hj.sound.moveD.ne', mul_one]
  refine ⟨?_, _, ?_, trapezoid_linked root hj hexact time (m.axesR .E) _ _⟩
  · have h := trapezoid_linked root hj hexact time 1 m.startPos m.axesR
    simp only [mul_one, hlength, add_sub_cancel] at h
    exact h
  · show m.startPos .E + 1 * (m.moveD * m.axesR .E) = m.endPos .E
    rw [one_mul, mul_comm, hlength, add_sub_cancel]

theorem smooth_of_obeys (root : Root K) {h : Head K} {es : List (Entry K)} (hobeys : h.Obeys root es) :
    ∀ e ∈ es, e.Smooth root := by
  induction es generalizing h with
  | nil => simp
  | cons e es ih =>
    intro e' he'
    rcases List.mem_cons.1 he' with rfl | he'
    · cases e' with
      | move time m j => exact smooth_of_feasible root time hobeys.1.2.2.1
      | setPosition time pos => trivial
    · exact ih hobeys.2 e' he'

/-- **Smooth moves.**  In every run, the parts of each move that is written lead from one end
of it to the other and from the speed it begins at to the speed it ends at, without a
jump, for the head and for the filament. -/
theorem run_smooth (root : Root K) (x : Extruder K) (limits : Limits K) (kinematics : Kinematics K)
    (es : List (Event K × Clock K)) :
    ∀ e ∈ (run root x es (.init limits kinematics)).queued, e.Smooth root :=
  smooth_of_obeys root (ToolHead.led_run root x es (ToolHead.led_init root limits kinematics)).obeys

/-- The speeds that a move is written with. -/
def Entry.speeds : Entry K → Option (K × K × K)
  | .move _ _ j => some (j.startV2, j.cruiseV2, j.endV2)
  | .setPosition _ _ => none

/-- The second move runs at 50 and stops. -/
theorem run_smooth_line : ∃ time m j,
    (run Root.micro nozzle line (.init plainLimits homed)).queued[1]? = some (.move time m j) ∧
      Linked TrapqMove.source TrapqMove.target ⟨time, m.startPos, 50⟩
        (m.trapezoid Root.micro time j) ⟨time + m.duration Root.micro j, m.endPos, 0⟩ := by
  have hspeeds : (run Root.micro nozzle line (.init plainLimits homed)).queued[1]?.bind Entry.speeds
      = some (2500, 2500, 0) := by
    decide +kernel
  obtain ⟨e, he, hspeeds⟩ := Option.bind_eq_some_iff.1 hspeeds
  have hsmooth := run_smooth Root.micro nozzle plainLimits homed line e (List.mem_of_getElem? he)
  match e, hspeeds with
  | .move time m j, hspeeds =>
    obtain ⟨hstart, hcruise, hend⟩ : j.startV2 = 2500 ∧ j.cruiseV2 = 2500 ∧ j.endV2 = 0 := by
      simpa [Entry.speeds] using hspeeds
    have hroots : Root.micro.sqrt 2500 = 50 ∧ Root.micro.sqrt 0 = 0 := by decide +kernel
    have hexact : Exact Root.micro j := by
      refine ⟨?_, ?_, ?_⟩ <;> simp only [Root.ExactAt, hstart, hcruise, hend, hroots] <;> norm_num
    have hmoves := (hsmooth hexact).1
    rw [hstart, hend, hroots.1, hroots.2] at hmoves
    exact ⟨time, m, j, he, hmoves⟩

end Planner

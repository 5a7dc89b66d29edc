import Ff5m.Planner.LookAhead

/-!
# The tool head

`ToolHead` of `toolhead.py`: moves are checked and queued, and what the queue hands over is
written to the motion queues with the time at which it begins.

A head that obeys the motion queues is set beside it: it knows where it is, how fast and at
what time.  Arithmetic is exact, as in the moves.

* `ToolHead.Led.step`: whatever happens, what is written can be obeyed;
* `head_obeys`: in every run, each move begins where the last one ended, at its speed, and
  without a pause in between unless the head is at rest;
* `moves_once`: every move that was accepted is handed over once, in order.
-/

namespace Planner

open Motion (Axis)
open Lookahead

variable {K : Type} [Field K] [LinearOrder K]

/-! ## The motion queues -/

/-- The times that `set_junction` gives to the parts of a move. -/
structure Times (K : Type) where
  accelT : K
  cruiseT : K
  decelT : K

/-- `Move.set_junction`. -/
def Move.setJunction (root : Root K) (m : Move K) (j : Junction K) : Times K :=
  let halfInvAccel := 0.5 / m.accel
  let accelD := (j.cruiseV2 - j.startV2) * halfInvAccel
  let decelD := (j.cruiseV2 - j.endV2) * halfInvAccel
  let cruiseD := m.moveD - accelD - decelD
  let startV := root.sqrt j.startV2
  let cruiseV := root.sqrt j.cruiseV2
  let endV := root.sqrt j.endV2
  { accelT := accelD / ((startV + cruiseV) * 0.5)
    cruiseT := cruiseD / cruiseV
    decelT := decelD / ((endV + cruiseV) * 0.5) }

/-- How long a move takes. -/
def Move.duration (root : Root K) (m : Move K) (j : Junction K) : K :=
  let t := m.setJunction root j
  t.accelT + t.cruiseT + t.decelT

/-- What is written to the motion queues: a move that begins at a time, or another
position. -/
inductive Entry (K : Type) where
  | move (time : K) (m : Move K) (j : Junction K)
  | setPosition (time : K) (pos : Pos K)

/-! ## The state -/

/-- `special_queuing_state`; the main state is the empty text. -/
inductive Queuing where
  | needPrime
  | priming
  | main
  deriving DecidableEq

/-- What `_calc_print_time` reads. -/
structure Clock (K : Type) where
  estPrintTime : K
  minRestartTime : K
  kinFlushDelay : K

structure ToolHead (K : Type) [Field K] [LinearOrder K] where
  limits : Limits K
  kinematics : Kinematics K
  commandedPos : Pos K
  lookahead : LookAheadQueue K
  printTime : K
  queuing : Queuing
  queued : List (Entry K)

namespace ToolHead

/-- `__init__`. -/
def init (limits : Limits K) (kinematics : Kinematics K) : ToolHead K :=
  ⟨limits, kinematics, 0, ⟨[], 2.0⟩, 0, .needPrime, []⟩

/-- `_calc_print_time`. -/
def calcPrintTime (c : Clock K) (s : ToolHead K) : ToolHead K :=
  let kinTime := max (c.estPrintTime + 0.1) c.minRestartTime + c.kinFlushDelay
  let minPrintTime := max (c.estPrintTime + 0.25) kinTime
  if s.printTime < minPrintTime then { s with printTime := minPrintTime } else s

/-- The loop of `_process_moves`. -/
def queueMoves (root : Root K) : K → List (Move K × Junction K) → List (Entry K) × K
  | t, [] => ([], t)
  | t, (m, j) :: moves =>
    let (es, next) := queueMoves root (t + m.duration root j) moves
    (.move t m j :: es, next)

/-- `_process_moves`. -/
def processMoves (root : Root K) (c : Clock K) (moves : List (Move K × Junction K)) (s : ToolHead K) :
    ToolHead K :=
  let s := if s.queuing ≠ .main then calcPrintTime c { s with queuing := .main } else s
  let (es, next) := queueMoves root s.printTime moves
  { s with queued := s.queued ++ es, printTime := max s.printTime next }

/-- The queue after a flush, and what it has handed over, if anything. -/
def handOver (root : Root K) (c : Clock K) (r : LookAheadQueue K × List (Move K × Junction K))
    (s : ToolHead K) : ToolHead K :=
  let s := { s with lookahead := r.1 }
  if r.2 = [] then s else s.processMoves root c r.2

/-- `_flush_lookahead`. -/
def flushLookahead (root : Root K) (c : Clock K) (s : ToolHead K) : ToolHead K :=
  let s := s.handOver root c (s.lookahead.flush false)
  { s with queuing := .needPrime, lookahead := s.lookahead.setFlushTime 2.0 }

/-- `get_last_move_time`. -/
def getLastMoveTime (root : Root K) (c : Clock K) (s : ToolHead K) : ToolHead K :=
  if s.queuing ≠ .main then (s.flushLookahead root c).calcPrintTime c
  else s.handOver root c (s.lookahead.flush false)

/-- `_check_pause`: a timer will flush what is queued. -/
def checkPause (s : ToolHead K) : ToolHead K :=
  if s.queuing ≠ .main then { s with queuing := .priming } else s

/-- `dwell`. -/
def dwell (root : Root K) (c : Clock K) (delay : K) (s : ToolHead K) : ToolHead K :=
  let s := s.getLastMoveTime root c
  ({ s with printTime := max s.printTime (s.printTime + max 0 delay) }).checkPause

/-- `_priming_handler`. -/
def primingHandler (root : Root K) (c : Clock K) (s : ToolHead K) : ToolHead K :=
  if s.queuing = .priming then s.flushLookahead root c else s

/-- `_flush_handler`: in the main state the queue is flushed when the buffer runs low. -/
def flushHandler (root : Root K) (c : Clock K) (s : ToolHead K) : ToolHead K :=
  if s.queuing = .main ∧ s.printTime - c.estPrintTime ≤ 1 then s.flushLookahead root c else s

/-- `set_position`; the axes that were homed have their ranges. -/
def setPosition (root : Root K) (c : Clock K) (newpos : Pos K) (ranges : Axis → Option (K × K))
    (s : ToolHead K) : ToolHead K :=
  let s := s.flushLookahead root c
  { s with
    queued := s.queued ++ [.setPosition s.printTime newpos]
    commandedPos := newpos
    kinematics := { s.kinematics with limits := fun a => (ranges a).getD (s.kinematics.limits a) } }

/-- `clear_homing_state`. -/
def clearHomingState (axes : Axis → Bool) (s : ToolHead K) : ToolHead K :=
  { s with
    kinematics := { s.kinematics with
      limits := fun a => if axes a then (1, -1) else s.kinematics.limits a } }

/-- `move`. -/
def move (root : Root K) (x : Extruder K) (c : Clock K) (canExtrude : Bool) (newpos : Pos K) (speed : K)
    (s : ToolHead K) : ToolHead K × Option (MoveError K) :=
  let m := Move.new root s.limits s.commandedPos newpos speed
  if m.moveD = 0 then (s, none)
  else
    match m.check s.kinematics x canExtrude with
    | .error e => (s, some e)
    | .ok m =>
      (({ s with commandedPos := m.endPos }).handOver root c (s.lookahead.addMove root x m), none)

/-- `manual_move`. -/
def manualMove (root : Root K) (x : Extruder K) (c : Clock K) (canExtrude : Bool)
    (coord : Axis → Option K) (speed : K) (s : ToolHead K) : ToolHead K × Option (MoveError K) :=
  s.move root x c canExtrude (fun a => (coord a).getD (s.commandedPos a)) speed

end ToolHead

/-! ## The limits -/

/-- The parameters of `SET_VELOCITY_LIMIT`. -/
structure VelocityLimit (K : Type) where
  velocity : Option K
  accel : Option K
  squareCornerVelocity : Option K
  minimumCruiseRatio : Option K
  accelToDecel : Option K

namespace VelocityLimit

/-- They are in range. -/
structure Ok (p : VelocityLimit K) : Prop where
  velocity : ∀ v ∈ p.velocity, 0 < v
  accel : ∀ a ∈ p.accel, 0 < a
  squareCornerVelocity : ∀ v ∈ p.squareCornerVelocity, 0 ≤ v
  minimumCruiseRatio : ∀ r ∈ p.minimumCruiseRatio, 0 ≤ r ∧ r < 1
  accelToDecel : p.minimumCruiseRatio = none → ∀ a ∈ p.accelToDecel, 0 < a

/-- The new minimum cruise ratio. -/
def ratio (p : VelocityLimit K) (l : Limits K) : K :=
  match p.minimumCruiseRatio, p.accelToDecel with
  | some r, _ => r
  | none, some a => 1 - min 1 (a / p.accel.getD l.maxAccel)
  | none, none => l.minCruiseRatio

variable [IsStrictOrderedRing K] {p : VelocityLimit K}

theorem Ok.ratio_bounds (h : p.Ok) (l : Limits K) : 0 ≤ p.ratio l ∧ p.ratio l < 1 := by
  unfold ratio
  cases hr : p.minimumCruiseRatio with
  | some r => exact h.minimumCruiseRatio r hr
  | none =>
    cases ha : p.accelToDecel with
    | none => exact ⟨l.minCruiseRatio_nonneg, l.minCruiseRatio_lt⟩
    | some a =>
      have hpos : 0 < a := h.accelToDecel hr a ha
      have haccel : 0 < p.accel.getD l.maxAccel := by
        cases hp : p.accel with
        | none => exact l.maxAccel_pos
        | some b => exact h.accel b hp
      have hmin : 0 < min 1 (a / p.accel.getD l.maxAccel) := lt_min one_pos (div_pos hpos haccel)
      exact ⟨sub_nonneg.2 (min_le_left _ _), by linarith⟩

/-- `cmd_SET_VELOCITY_LIMIT`, with parameters that are accepted. -/
def apply (p : VelocityLimit K) (h : p.Ok) (l : Limits K) : Limits K where
  maxVelocity := p.velocity.getD l.maxVelocity
  maxAccel := p.accel.getD l.maxAccel
  minCruiseRatio := p.ratio l
  squareCornerVelocity := p.squareCornerVelocity.getD l.squareCornerVelocity
  maxVelocity_pos := by
    cases hp : p.velocity with
    | none => exact l.maxVelocity_pos
    | some v => exact h.velocity v hp
  maxAccel_pos := by
    cases hp : p.accel with
    | none => exact l.maxAccel_pos
    | some a => exact h.accel a hp
  minCruiseRatio_nonneg := (h.ratio_bounds l).1
  minCruiseRatio_lt := (h.ratio_bounds l).2
  squareCornerVelocity_nonneg := by
    cases hp : p.squareCornerVelocity with
    | none => exact l.squareCornerVelocity_nonneg
    | some v => exact h.squareCornerVelocity v hp

end VelocityLimit

/-- The acceleration that `M204` sets: `S`, or else the smaller one of `P` and `T`.  What is not
positive is refused. -/
def m204Accel (sParam pParam tParam : Option {a : K // 0 < a}) : Option {a : K // 0 < a} :=
  match sParam, pParam, tParam with
  | some a, _, _ => some a
  | none, some p, some t => some (min p t)
  | none, _, _ => none

/-! ## Runs -/

/-- What can happen to the tool head.  Speeds and limits are those that the commands let
pass. -/
inductive Event (K : Type) [Field K] [LinearOrder K] where
  | move (canExtrude : Bool) (newpos : Pos K) (speed : K) (hspeed : 0 < speed)
  | manualMove (canExtrude : Bool) (coord : Axis → Option K) (speed : K) (hspeed : 0 < speed)
  | flushLookahead
  | getLastMoveTime
  | dwell (delay : K)
  | checkPause
  | primingHandler
  | flushHandler
  | setPosition (newpos : Pos K) (ranges : Axis → Option (K × K))
  | clearHomingState (axes : Axis → Bool)
  | limitNextJunctionSpeed (speed : K)
  | setVelocityLimit (p : VelocityLimit K) (hp : p.Ok)
  | m204 (sParam pParam tParam : Option {a : K // 0 < a})

variable [IsStrictOrderedRing K]

def step (root : Root K) (x : Extruder K) (c : Clock K) : Event K → ToolHead K → ToolHead K
  | .move canExtrude newpos speed _, s => (s.move root x c canExtrude newpos speed).1
  | .manualMove canExtrude coord speed _, s => (s.manualMove root x c canExtrude coord speed).1
  | .flushLookahead, s => s.flushLookahead root c
  | .getLastMoveTime, s => s.getLastMoveTime root c
  | .dwell delay, s => s.dwell root c delay
  | .checkPause, s => s.checkPause
  | .primingHandler, s => s.primingHandler root c
  | .flushHandler, s => s.flushHandler root c
  | .setPosition newpos ranges, s => s.setPosition root c newpos ranges
  | .clearHomingState axes, s => s.clearHomingState axes
  | .limitNextJunctionSpeed speed, s => { s with lookahead := s.lookahead.limitNextJunctionSpeed speed }
  | .setVelocityLimit p hp, s => { s with limits := p.apply hp s.limits }
  | .m204 sParam pParam tParam, s =>
    match m204Accel sParam pParam tParam with
    | none => s
    | some accel => { s with limits := { s.limits with maxAccel := accel, maxAccel_pos := accel.2 } }

/-- The tool head after a list of events. -/
def run (root : Root K) (x : Extruder K) (es : List (Event K × Clock K)) (s : ToolHead K) : ToolHead K :=
  es.foldl (fun s e => step root x e.2 e.1 s) s

/-! ## A head that obeys -/

/-- Where the head is, how fast, and at what time. -/
structure Head (K : Type) where
  pos : Pos K
  speedV2 : K
  time : K

/-- At rest at the start. -/
def Head.origin : Head K := ⟨0, 0, 0⟩

/-- The head can do this from where it is: a move begins here, at this speed, and not
later, unless the head is at rest. -/
def Head.Can (h : Head K) : Entry K → Prop
  | .move t m j => m.startPos = h.pos ∧ j.startV2 = h.speedV2 ∧ Feasible m j ∧ h.time ≤ t ∧
      (h.time = t ∨ h.speedV2 = 0)
  | .setPosition t _ => h.speedV2 = 0 ∧ h.time ≤ t

/-- What it then has done. -/
def Head.obey (root : Root K) : Head K → Entry K → Head K
  | _, .move t m j => ⟨m.endPos, j.endV2, t + m.duration root j⟩
  | _, .setPosition t pos => ⟨pos, 0, t⟩

/-- The head can obey all of this. -/
def Head.Obeys (root : Root K) : Head K → List (Entry K) → Prop
  | _, [] => True
  | h, e :: es => h.Can e ∧ (h.obey root e).Obeys root es

/-- Where it is then. -/
def Head.after (root : Root K) (h : Head K) (es : List (Entry K)) : Head K := es.foldl (Head.obey root) h

omit [IsStrictOrderedRing K] in
theorem obeys_append (root : Root K) {h : Head K} {es es' : List (Entry K)} :
    h.Obeys root (es ++ es') ↔ h.Obeys root es ∧ (h.after root es).Obeys root es' := by
  induction es generalizing h with
  | nil => simp [Head.Obeys, Head.after]
  | cons e es ih =>
    show h.Can e ∧ (h.obey root e).Obeys root (es ++ es') ↔ _
    rw [ih, ← and_assoc]
    rfl

omit [IsStrictOrderedRing K] in
theorem after_append (root : Root K) (h : Head K) (es es' : List (Entry K)) :
    h.after root (es ++ es') = (h.after root es).after root es' := List.foldl_append

/-! ## What is handed over -/

theorem duration_nonneg (root : Root K) {m : Move K} {j : Junction K} (hj : Feasible m j) :
    0 ≤ m.duration root j := by
  have hm := hj.sound
  have hhalf : 0 < 0.5 / m.accel := div_pos (by norm_num) hm.accel
  have haccel : 0 ≤ (j.cruiseV2 - j.startV2) * (0.5 / m.accel) :=
    mul_nonneg (sub_nonneg.2 hj.start_le) hhalf.le
  have hdecel : 0 ≤ (j.cruiseV2 - j.endV2) * (0.5 / m.accel) :=
    mul_nonneg (sub_nonneg.2 hj.end_le) hhalf.le
  have hcruise : 0 ≤ m.moveD - (j.cruiseV2 - j.startV2) * (0.5 / m.accel)
      - (j.cruiseV2 - j.endV2) * (0.5 / m.accel) := by
    have hfits := hj.fits
    rw [hm.delta] at hfits
    have hsum : (j.cruiseV2 - j.startV2) * (0.5 / m.accel) + (j.cruiseV2 - j.endV2) * (0.5 / m.accel)
        = (2 * j.cruiseV2 - j.startV2 - j.endV2) / (2 * m.accel) := by
      field_simp
      ring
    have hle : (2 * j.cruiseV2 - j.startV2 - j.endV2) / (2 * m.accel) ≤ m.moveD := by
      rw [div_le_iff₀ (mul_pos two_pos hm.accel)]
      linarith
    linarith
  have hs := root.nonneg j.startV2
  have hc := root.nonneg j.cruiseV2
  have he := root.nonneg j.endV2
  unfold Move.duration Move.setJunction
  simp only
  positivity

/-- A head that is at the start of some moves obeys them, one right after the other. -/
theorem queueMoves_spec (root : Root K) {h : Head K} {js : List (Move K × Junction K)} {w : K} {q : Pos K}
    (hfeasible : ∀ x ∈ js, Feasible x.1 x.2) (hrun : Run h.speedV2 js w)
    (hlink : Linked Move.startPos Move.endPos h.pos (js.map Prod.fst) q) {t : K} (ht : h.time ≤ t)
    (htight : h.time = t ∨ h.speedV2 = 0) :
    h.Obeys root (ToolHead.queueMoves root t js).1 ∧ t ≤ (ToolHead.queueMoves root t js).2 ∧
      (h.after root (ToolHead.queueMoves root t js).1).pos = q ∧
      (h.after root (ToolHead.queueMoves root t js).1).speedV2 = w ∧
      (js ≠ [] → (h.after root (ToolHead.queueMoves root t js).1).time = (ToolHead.queueMoves root t js).2) := by
  induction js generalizing h t with
  | nil => exact ⟨trivial, le_rfl, hlink, hrun, fun hne => absurd rfl hne⟩
  | cons x js ih =>
    obtain ⟨m, j⟩ := x
    obtain ⟨hstart, htail⟩ := hrun
    obtain ⟨hpos, hplaces⟩ := hlink
    have hj := hfeasible _ List.mem_cons_self
    obtain ⟨hobeys, hle, hq, hw, htime⟩ := ih (h := ⟨m.endPos, j.endV2, t + m.duration root j⟩)
      (t := t + m.duration root j)
      (fun x hx => hfeasible x (List.mem_cons_of_mem _ hx)) htail hplaces le_rfl (.inl rfl)
    refine ⟨⟨⟨hpos, hstart, hj, ht, htight⟩, hobeys⟩, ?_, hq, hw, fun _ => ?_⟩
    · exact (le_add_of_nonneg_right (duration_nonneg root hj)).trans hle
    · cases js with
      | nil => rfl
      | cons y js => exact htime (by simp)

/-! ## The tool head and the head -/

/-- Where the head is when it has obeyed what is written. -/
def ToolHead.head (root : Root K) (s : ToolHead K) : Head K := Head.origin.after root s.queued

/-- What is written can be obeyed, the queue goes on from there, and only a head at rest
waits. -/
structure ToolHead.Led (root : Root K) (s : ToolHead K) : Prop where
  obeys : Head.origin.Obeys root s.queued
  time : (s.head root).time ≤ s.printTime
  tight : (s.head root).time = s.printTime ∨ (s.head root).speedV2 = 0
  idle : s.queuing ≠ .main → (s.head root).speedV2 = 0
  pending : Pending (s.head root).speedV2 s.lookahead.queue
  placed : Linked Move.startPos Move.endPos (s.head root).pos s.lookahead.queue s.commandedPos

namespace ToolHead

variable {root : Root K} {x : Extruder K} {c : Clock K} {s : ToolHead K}

omit [IsStrictOrderedRing K] in
/-- The clock is read while the head is at rest. -/
theorem Led.calcPrintTime (h : s.Led root) (hrest : (s.head root).speedV2 = 0) :
    (s.calcPrintTime c).Led root := by
  unfold ToolHead.calcPrintTime
  simp only
  split_ifs with hlt
  · exact ⟨h.obeys, h.time.trans hlt.le, .inr hrest, h.idle, h.pending, h.placed⟩
  · exact h

omit [IsStrictOrderedRing K] in
/-- What reading the clock changes. -/
theorem calcPrintTime_same (c : Clock K) (s : ToolHead K) :
    (s.calcPrintTime c).queued = s.queued ∧ (s.calcPrintTime c).lookahead = s.lookahead ∧
      (s.calcPrintTime c).commandedPos = s.commandedPos ∧ (s.calcPrintTime c).queuing = s.queuing ∧
      s.printTime ≤ (s.calcPrintTime c).printTime := by
  unfold calcPrintTime
  simp only
  split_ifs with hlt
  · exact ⟨rfl, rfl, rfl, rfl, hlt.le⟩
  · exact ⟨rfl, rfl, rfl, rfl, le_rfl⟩

/-- The moves are written after what has been written. -/
theorem Led.processMoves {moves : List (Move K × Junction K)} {w : K} (hobeys : Head.origin.Obeys root s.queued)
    (htime : (s.head root).time ≤ s.printTime)
    (htight : (s.head root).time = s.printTime ∨ (s.head root).speedV2 = 0)
    (hidle : s.queuing ≠ .main → (s.head root).speedV2 = 0) (hne : moves ≠ [])
    (hfeasible : ∀ x ∈ moves, Feasible x.1 x.2)
    (hrun : Run (s.head root).speedV2 moves w) (hpending : Pending w s.lookahead.queue)
    (hlink : Linked Move.startPos Move.endPos (s.head root).pos
      (moves.map Prod.fst ++ s.lookahead.queue) s.commandedPos) :
    (s.processMoves root c moves).Led root := by
  obtain ⟨q, hmoves, hrest⟩ := linked_append.1 hlink
  -- the main state, with the clock read if it was not the state before
  obtain ⟨s₁, hs₁, hqueued, hlook, hpos, hmain, hle, htight₁⟩ : ∃ s₁ : ToolHead K,
      s₁ = (if s.queuing ≠ .main then ToolHead.calcPrintTime c { s with queuing := .main } else s) ∧
      s₁.queued = s.queued ∧ s₁.lookahead = s.lookahead ∧ s₁.commandedPos = s.commandedPos ∧
      s₁.queuing = .main ∧ s.printTime ≤ s₁.printTime ∧
      ((s.head root).time = s₁.printTime ∨ (s.head root).speedV2 = 0) := by
    refine ⟨_, rfl, ?_⟩
    split_ifs with hq
    · obtain ⟨h1, h2, h3, h4, h5⟩ := calcPrintTime_same c { s with queuing := .main }
      exact ⟨h1, h2, h3, h4, h5, .inr (hidle hq)⟩
    · exact ⟨rfl, rfl, rfl, not_not.1 hq, le_rfl, htight⟩
  obtain ⟨hes, hnext, hq, hw, hend⟩ := queueMoves_spec root (h := s.head root) hfeasible hrun hmoves
    (htime.trans hle) htight₁
  have heq : s.processMoves root c moves = { s₁ with
      queued := s₁.queued ++ (queueMoves root s₁.printTime moves).1
      printTime := max s₁.printTime (queueMoves root s₁.printTime moves).2 } := by
    rw [hs₁]
    rfl
  have hhead : (s.processMoves root c moves).head root
      = (s.head root).after root (queueMoves root s₁.printTime moves).1 := by
    rw [heq]
    show Head.origin.after root (s₁.queued ++ _) = _
    rw [hqueued, after_append]
    rfl
  have hprint : (s.processMoves root c moves).printTime = (queueMoves root s₁.printTime moves).2 := by
    rw [heq]
    exact max_eq_right hnext
  refine ⟨?_, ?_, ?_, ?_, ?_, ?_⟩
  · rw [heq]
    show Head.origin.Obeys root (s₁.queued ++ _)
    rw [hqueued, obeys_append]
    exact ⟨hobeys, hes⟩
  · rw [hhead, hprint, hend hne]
  · rw [hhead, hprint]
    exact .inl (hend hne)
  · intro hidle'
    rw [heq] at hidle'
    exact absurd hmain hidle'
  · rw [hhead, hw, heq]
    show Pending w s₁.lookahead.queue
    rwa [hlook]
  · rw [hhead, hq, heq]
    show Linked _ _ q s₁.lookahead.queue s₁.commandedPos
    rwa [hlook, hpos]

/-- What the queue hands over is written. -/
theorem Led.handOver (h : s.Led root) {r : LookAheadQueue K × List (Move K × Junction K)}
    {moves : List (Move K)} {pos : Pos K} (hr : Handed (s.head root).speedV2 moves r.2 r.1.queue)
    (hlink : Linked Move.startPos Move.endPos (s.head root).pos moves pos) :
    (({ s with commandedPos := pos }).handOver root c r).Led root := by
  obtain ⟨hsame, hfeasible, w, hrun, hpending⟩ := hr
  rw [← hsame] at hlink
  unfold ToolHead.handOver
  simp only
  split_ifs with hnone
  · rw [hnone] at hrun hlink
    obtain rfl : (s.head root).speedV2 = w := hrun
    exact ⟨h.obeys, h.time, h.tight, h.idle, hpending, hlink⟩
  · refine Led.processMoves (s := { s with lookahead := r.1, commandedPos := pos }) h.obeys h.time h.tight h.idle
      hnone hfeasible hrun hpending hlink

omit [IsStrictOrderedRing K] in
theorem handOver_lookahead (root : Root K) (c : Clock K) (r : LookAheadQueue K × List (Move K × Junction K))
    (s : ToolHead K) : (s.handOver root c r).lookahead = r.1 := by
  unfold handOver processMoves
  simp only
  split_ifs
  · rfl
  · exact (calcPrintTime_same c _).2.1
  · rfl

/-- The whole queue is written, and the head comes to rest. -/
theorem Led.flush (h : s.Led root) :
    (s.handOver root c (s.lookahead.flush false)).Led root ∧
      (s.handOver root c (s.lookahead.flush false)).lookahead.queue = [] ∧
      ((s.handOver root c (s.lookahead.flush false)).head root).speedV2 = 0 := by
  have hled := h.handOver (c := c) (LookAheadQueue.handed_flush h.pending false) h.placed
  have hempty : (s.handOver root c (s.lookahead.flush false)).lookahead.queue = [] := by
    rw [handOver_lookahead]
    exact s.lookahead.flush_all
  exact ⟨hled, hempty, hled.pending.empty hempty⟩

theorem Led.flushLookahead (h : s.Led root) : (s.flushLookahead root c).Led root ∧
    (s.flushLookahead root c).lookahead.queue = [] ∧ ((s.flushLookahead root c).head root).speedV2 = 0 := by
  obtain ⟨hled, hempty, hrest⟩ := h.flush (c := c)
  exact ⟨⟨hled.obeys, hled.time, hled.tight, fun _ => hrest, hled.pending, hled.placed⟩, hempty, hrest⟩

theorem Led.getLastMoveTime (h : s.Led root) : (s.getLastMoveTime root c).Led root ∧
    (s.getLastMoveTime root c).lookahead.queue = [] ∧ ((s.getLastMoveTime root c).head root).speedV2 = 0 := by
  unfold ToolHead.getLastMoveTime
  split_ifs
  · obtain ⟨hled, hempty, hrest⟩ := h.flushLookahead (c := c)
    obtain ⟨hqueued, hlook, -⟩ := calcPrintTime_same c (s.flushLookahead root c)
    refine ⟨hled.calcPrintTime hrest, by rw [hlook]; exact hempty, ?_⟩
    unfold head
    rw [hqueued]
    exact hrest
  · exact h.flush

omit [IsStrictOrderedRing K] in
theorem Led.checkPause (h : s.Led root) : s.checkPause.Led root := by
  unfold ToolHead.checkPause
  split_ifs with hq
  · exact ⟨h.obeys, h.time, h.tight, fun _ => h.idle hq, h.pending, h.placed⟩
  · exact h

theorem Led.dwell (h : s.Led root) (delay : K) : (s.dwell root c delay).Led root := by
  obtain ⟨hled, -, hrest⟩ := h.getLastMoveTime (c := c)
  refine Led.checkPause ?_
  exact ⟨hled.obeys, hled.time.trans (le_max_left _ _), .inr hrest, hled.idle, hled.pending, hled.placed⟩

theorem Led.move (h : s.Led root) (canExtrude : Bool) (newpos : Pos K) {speed : K} (hspeed : 0 < speed) :
    (s.move root x c canExtrude newpos speed).1.Led root := by
  unfold ToolHead.move
  simp only
  split_ifs with hlong
  · exact h
  · cases hok : (Move.new root s.limits s.commandedPos newpos speed).check s.kinematics x canExtrude with
    | error e => exact h
    | ok m =>
      obtain ⟨hm, hs, hstart, -⟩ := Move.fresh_of_check root s.limits s.kinematics x canExtrude s.commandedPos
        newpos hspeed hlong hok
      obtain ⟨m', hstart', hend', hhanded⟩ := LookAheadQueue.handed_addMove root x h.pending hm hs
      exact h.handOver hhanded (linked_append.2 ⟨s.commandedPos, h.placed, hstart'.trans hstart, hend'⟩)

theorem Led.setPosition (h : s.Led root) (newpos : Pos K) (ranges : Axis → Option (K × K)) :
    (s.setPosition root c newpos ranges).Led root := by
  obtain ⟨hled, hempty, hrest⟩ := h.flushLookahead (c := c)
  have hhead : (s.setPosition root c newpos ranges).head root = ⟨newpos, 0, (s.flushLookahead root c).printTime⟩ :=
    after_append root Head.origin _ _
  refine ⟨?_, ?_, ?_, ?_, ?_, ?_⟩
  · show Head.origin.Obeys root (_ ++ [_])
    rw [obeys_append]
    exact ⟨hled.obeys, ⟨hrest, hled.time⟩, trivial⟩
  · rw [hhead]
    exact le_rfl
  · exact .inr (congrArg Head.speedV2 hhead)
  · exact fun _ => congrArg Head.speedV2 hhead
  · rw [hhead]
    have hp := hled.pending
    rw [hrest] at hp
    exact hp
  · rw [hhead]
    show Linked _ _ newpos (s.flushLookahead root c).lookahead.queue newpos
    rw [hempty]
    rfl

omit [IsStrictOrderedRing K] in
theorem linked_limit (speed : K) (q : LookAheadQueue K) {p p' : Pos K}
    (h : Linked Move.startPos Move.endPos p q.queue p') :
    Linked Move.startPos Move.endPos p (q.limitNextJunctionSpeed speed).queue p' := by
  unfold LookAheadQueue.limitNextJunctionSpeed
  cases hlast : q.queue.getLast? with
  | none => exact h
  | some m =>
    obtain ⟨ys, hys⟩ := List.getLast?_eq_some_iff.1 hlast
    rw [hys] at h
    obtain ⟨v, hv, hm⟩ := linked_append.1 h
    simp only [hys, List.dropLast_concat]
    exact linked_append.2 ⟨v, hv, hm⟩

/-- What one event does. -/
theorem Led.step (h : s.Led root) (e : Event K) : (Planner.step root x c e s).Led root := by
  cases e with
  | move canExtrude newpos speed hspeed => exact h.move canExtrude newpos hspeed
  | manualMove canExtrude coord speed hspeed => exact h.move canExtrude _ hspeed
  | flushLookahead => exact h.flushLookahead.1
  | getLastMoveTime => exact h.getLastMoveTime.1
  | dwell delay => exact h.dwell delay
  | checkPause => exact h.checkPause
  | primingHandler =>
    show (s.primingHandler root c).Led root
    unfold ToolHead.primingHandler
    split_ifs
    · exact h.flushLookahead.1
    · exact h
  | flushHandler =>
    show (s.flushHandler root c).Led root
    unfold ToolHead.flushHandler
    split_ifs
    · exact h.flushLookahead.1
    · exact h
  | setPosition newpos ranges => exact h.setPosition newpos ranges
  | clearHomingState axes => exact ⟨h.obeys, h.time, h.tight, h.idle, h.pending, h.placed⟩
  | limitNextJunctionSpeed speed =>
    refine ⟨h.obeys, h.time, h.tight, h.idle, LookAheadQueue.pending_limit speed h.pending, ?_⟩
    exact linked_limit speed s.lookahead h.placed
  | setVelocityLimit p hp => exact ⟨h.obeys, h.time, h.tight, h.idle, h.pending, h.placed⟩
  | m204 sParam pParam tParam =>
    simp only [Planner.step]
    cases m204Accel sParam pParam tParam with
    | none => exact h
    | some accel => exact ⟨h.obeys, h.time, h.tight, h.idle, h.pending, h.placed⟩

omit [IsStrictOrderedRing K] in
theorem led_init (root : Root K) (limits : Limits K) (kinematics : Kinematics K) :
    (init limits kinematics).Led root := by
  refine ⟨trivial, le_rfl, .inl rfl, fun _ => rfl, ⟨⟨by simp [init], by simp [init], by simp [init]⟩, fun _ => rfl, ?_⟩, rfl⟩
  exact fun hne => absurd rfl hne

theorem led_run (root : Root K) (x : Extruder K) (es : List (Event K × Clock K)) (h : s.Led root) :
    (run root x es s).Led root := by
  induction es generalizing s with
  | nil => exact h
  | cons e es ih => exact ih (h.step e.1)

end ToolHead

/-- **The head.**  In every run, what is written to the motion queues can be obeyed by a
head that starts at rest: each move begins where the head is, at its speed, and later only
if the head is at rest; and when the queue is empty the head is at rest at the position
that is commanded. -/
theorem head_obeys (root : Root K) (x : Extruder K) (limits : Limits K) (kinematics : Kinematics K)
    (es : List (Event K × Clock K)) :
    let s := run root x es (.init limits kinematics)
    Head.origin.Obeys root s.queued ∧
      (s.lookahead.queue = [] → (s.head root).speedV2 = 0 ∧ (s.head root).pos = s.commandedPos) := by
  have h := ToolHead.led_run root x es (ToolHead.led_init root limits kinematics)
  refine ⟨h.obeys, fun hempty => ⟨h.pending.empty hempty, ?_⟩⟩
  have hplaced := h.placed
  rw [hempty] at hplaced
  exact hplaced

/-! ## A line in two moves -/

/-- A position by its coordinates. -/
def at4 (x y z e : K) : Pos K
  | .X => x
  | .Y => y
  | .Z => z
  | .E => e

def plainLimits : Limits ℚ := ⟨300, 5000, 1 / 2, 0, by norm_num, by norm_num, by norm_num, by norm_num, by norm_num⟩

def homed : Kinematics ℚ := ⟨20, 500, fun _ => (-110, 110), by norm_num, by norm_num⟩

def nozzle : Extruder ℚ := ⟨2 / 5, 12 / 5, 1, 50, 1000, 50, 1, by norm_num, by norm_num⟩

/-- The second move is the slower one. -/
def line : List (Event ℚ × Clock ℚ) :=
  [(.move true (at4 10 0 0 0) 100 (by norm_num), ⟨0, 0, 0⟩),
    (.move true (at4 20 0 0 0) 50 (by norm_num), ⟨0, 0, 0⟩), (.flushLookahead, ⟨0, 0, 0⟩)]

theorem head_obeys_line :
    Head.origin.Obeys Root.micro (run Root.micro nozzle line (.init plainLimits homed)).queued ∧
      ((run Root.micro nozzle line (.init plainLimits homed)).head Root.micro).pos .X = 20 := by
  have hempty : (run Root.micro nozzle line (.init plainLimits homed)).lookahead.queue = [] :=
    List.length_eq_zero_iff.1 (by decide +kernel)
  have hpos : (run Root.micro nozzle line (.init plainLimits homed)).commandedPos .X = 20 := by decide +kernel
  obtain ⟨hobeys, hrest⟩ := head_obeys Root.micro nozzle plainLimits homed line
  exact ⟨hobeys, (congrFun (hrest hempty).2 .X).trans hpos⟩

/-- The first one slows down to the speed of the second. -/
example : (run Root.micro nozzle line (.init plainLimits homed)).queued.map (fun
    | .move _ _ j => [j.startV2, j.cruiseV2, j.endV2]
    | .setPosition _ _ => []) = [[0, 10000, 2500], [2500, 2500, 0]] := by decide +kernel

/-! ## No move is lost -/

/-- Where a move begins and ends. -/
def Move.ends (m : Move K) : Pos K × Pos K := (m.startPos, m.endPos)

/-- The moves that are written. -/
def written (es : List (Entry K)) : List (Pos K × Pos K) :=
  es.flatMap fun
    | .move _ m _ => [m.ends]
    | .setPosition _ _ => []

namespace ToolHead

/-- The moves that are written or queued. -/
def taken (s : ToolHead K) : List (Pos K × Pos K) := written s.queued ++ s.lookahead.queue.map Move.ends

/-- The move that is accepted, if there is one. -/
def accepts (root : Root K) (x : Extruder K) (canExtrude : Bool) (newpos : Pos K) (speed : K)
    (s : ToolHead K) : List (Pos K × Pos K) :=
  if (Move.new root s.limits s.commandedPos newpos speed).moveD = 0 then []
  else
    match (Move.new root s.limits s.commandedPos newpos speed).check s.kinematics x canExtrude with
    | .error _ => []
    | .ok m => [m.ends]

end ToolHead

/-- The moves that an event asks for and that are accepted. -/
def accepted (root : Root K) (x : Extruder K) : Event K → ToolHead K → List (Pos K × Pos K)
  | .move canExtrude newpos speed _, s => s.accepts root x canExtrude newpos speed
  | .manualMove canExtrude coord speed _, s =>
    s.accepts root x canExtrude (fun a => (coord a).getD (s.commandedPos a)) speed
  | _, _ => []

/-- Those of a run. -/
def acceptedIn (root : Root K) (x : Extruder K) : List (Event K × Clock K) → ToolHead K →
    List (Pos K × Pos K)
  | [], _ => []
  | (e, c) :: es, s => accepted root x e s ++ acceptedIn root x es (step root x c e s)

namespace ToolHead

variable {root : Root K} {x : Extruder K} {c : Clock K} {s : ToolHead K}

omit [IsStrictOrderedRing K] in
theorem written_queueMoves (root : Root K) (t : K) (js : List (Move K × Junction K)) :
    written (queueMoves root t js).1 = (js.map Prod.fst).map Move.ends := by
  induction js generalizing t with
  | nil => rfl
  | cons x js ih => exact congrArg _ (ih _)

omit [IsStrictOrderedRing K] in
/-- What is handed over is taken from the queue. -/
theorem taken_handOver (root : Root K) (c : Clock K) {r : LookAheadQueue K × List (Move K × Junction K)}
    {moves : List (Move K)} (hsame : r.2.map Prod.fst ++ r.1.queue = moves) (s : ToolHead K) :
    (s.handOver root c r).taken = written s.queued ++ moves.map Move.ends := by
  have hqueued : written (s.handOver root c r).queued
      = written s.queued ++ (r.2.map Prod.fst).map Move.ends := by
    unfold handOver processMoves
    simp only
    split_ifs with hnone
    · simp [hnone]
    · show written (_ ++ _) = _
      rw [(calcPrintTime_same c _).1, written, List.flatMap_append]
      exact congrArg _ (written_queueMoves root _ r.2)
    · show written (_ ++ _) = _
      rw [written, List.flatMap_append]
      exact congrArg _ (written_queueMoves root _ r.2)
  unfold taken
  rw [hqueued, handOver_lookahead, ← hsame, List.map_append, List.append_assoc]

theorem taken_flush (h : s.Led root) : (s.handOver root c (s.lookahead.flush false)).taken = s.taken :=
  taken_handOver root c (LookAheadQueue.handed_flush h.pending false).same s

theorem taken_flushLookahead (h : s.Led root) : (s.flushLookahead root c).taken = s.taken :=
  taken_flush h

omit [IsStrictOrderedRing K] in
theorem taken_calcPrintTime (c : Clock K) (s : ToolHead K) : (s.calcPrintTime c).taken = s.taken := by
  obtain ⟨hqueued, hlook, -⟩ := calcPrintTime_same c s
  unfold taken
  rw [hqueued, hlook]

theorem taken_getLastMoveTime (h : s.Led root) : (s.getLastMoveTime root c).taken = s.taken := by
  unfold getLastMoveTime
  split_ifs
  · exact (taken_calcPrintTime c _).trans (taken_flushLookahead h)
  · exact taken_flush h

omit [IsStrictOrderedRing K] in
theorem taken_checkPause (s : ToolHead K) : s.checkPause.taken = s.taken := by
  unfold checkPause
  split_ifs <;> rfl

theorem taken_move (h : s.Led root) (canExtrude : Bool) (newpos : Pos K) {speed : K} (hspeed : 0 < speed) :
    (s.move root x c canExtrude newpos speed).1.taken
      = s.taken ++ s.accepts root x canExtrude newpos speed := by
  unfold move accepts
  simp only
  split_ifs with hlong
  · exact (List.append_nil _).symm
  · cases hok : (Move.new root s.limits s.commandedPos newpos speed).check s.kinematics x canExtrude with
    | error e => exact (List.append_nil _).symm
    | ok m =>
      obtain ⟨hm, hs, -, -⟩ := Move.fresh_of_check root s.limits s.kinematics x canExtrude s.commandedPos
        newpos hspeed hlong hok
      obtain ⟨m', hstart, hend, hhanded⟩ := LookAheadQueue.handed_addMove root x h.pending hm hs
      have hends : m'.ends = m.ends := Prod.ext hstart hend
      refine (taken_handOver root c hhanded.same _).trans ?_
      simp [taken, hends]

/-- What one event takes. -/
theorem taken_step (h : s.Led root) (e : Event K) :
    (Planner.step root x c e s).taken = s.taken ++ accepted root x e s := by
  have hquiet : ∀ {t : ToolHead K}, t.taken = s.taken → t.taken = s.taken ++ [] :=
    fun ht => ht.trans (List.append_nil _).symm
  cases e with
  | move canExtrude newpos speed hspeed => exact taken_move h canExtrude newpos hspeed
  | manualMove canExtrude coord speed hspeed => exact taken_move h canExtrude _ hspeed
  | flushLookahead => exact hquiet (taken_flushLookahead h)
  | getLastMoveTime => exact hquiet (taken_getLastMoveTime h)
  | dwell delay => exact hquiet ((taken_checkPause _).trans (taken_getLastMoveTime h))
  | checkPause => exact hquiet (taken_checkPause s)
  | primingHandler =>
    refine hquiet (t := s.primingHandler root c) ?_
    unfold primingHandler
    split_ifs
    · exact taken_flushLookahead h
    · rfl
  | flushHandler =>
    refine hquiet (t := s.flushHandler root c) ?_
    unfold flushHandler
    split_ifs
    · exact taken_flushLookahead h
    · rfl
  | setPosition newpos ranges =>
    refine hquiet (t := s.setPosition root c newpos ranges) ?_
    rw [← taken_flushLookahead (c := c) h]
    simp [setPosition, taken, written]
  | clearHomingState axes => exact hquiet rfl
  | limitNextJunctionSpeed speed =>
    have hqueue : (s.lookahead.limitNextJunctionSpeed speed).queue.map Move.ends
        = s.lookahead.queue.map Move.ends := by
      unfold LookAheadQueue.limitNextJunctionSpeed
      cases hlast : s.lookahead.queue.getLast? with
      | none => rfl
      | some m =>
        obtain ⟨ys, hys⟩ := List.getLast?_eq_some_iff.1 hlast
        simp [hys, Move.limitNextJunctionSpeed, Move.ends]
    exact hquiet (congrArg (written s.queued ++ ·) hqueue)
  | setVelocityLimit p hp => exact hquiet rfl
  | m204 sParam pParam tParam =>
    refine hquiet ?_
    simp only [Planner.step]
    cases m204Accel sParam pParam tParam <;> rfl

theorem taken_run (root : Root K) (x : Extruder K) (es : List (Event K × Clock K)) (h : s.Led root) :
    (run root x es s).taken = s.taken ++ acceptedIn root x es s := by
  induction es generalizing s with
  | nil => exact (List.append_nil _).symm
  | cons e es ih =>
    refine (ih (h.step e.1)).trans ?_
    rw [taken_step h, List.append_assoc]
    rfl

end ToolHead

/-- **The moves.**  In every run the moves that are written and then those in the queue are
the moves that were accepted, each once and in order. -/
theorem moves_once (root : Root K) (x : Extruder K) (limits : Limits K) (kinematics : Kinematics K)
    (es : List (Event K × Clock K)) :
    (run root x es (.init limits kinematics)).taken = acceptedIn root x es (.init limits kinematics) :=
  ToolHead.taken_run root x es (ToolHead.led_init root limits kinematics)

theorem moves_once_line :
    (run Root.micro nozzle line (.init plainLimits homed)).taken.length = 2 := by
  have haccepted : (acceptedIn Root.micro nozzle line (.init plainLimits homed)).length = 2 := by decide +kernel
  exact (congrArg List.length (moves_once Root.micro nozzle plainLimits homed line)).trans haccepted

end Planner

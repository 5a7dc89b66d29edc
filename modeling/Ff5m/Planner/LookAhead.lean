import Ff5m.Planner.Move

/-!
# The look-ahead queue

`LookAheadQueue` of `toolhead.py`: moves are queued, and when enough of them are known the
first ones are given their speeds and handed over.

* `Back.refines`: the loop of `flush` computes the outlook of the moves, however far it
  sets their speeds;
* `Back.built`: the speeds that it sets are those of moves that can be run one after the
  other;
* `Pending.flush`: what a flush hands over begins at the speed at which the last
  flush ended.
-/

namespace Planner

open Lookahead

variable {K : Type} [Field K] [LinearOrder K]

/-! ## The loop of `flush` -/

/-- The squared speeds that `set_junction` is given. -/
structure Junction (K : Type) where
  startV2 : K
  cruiseV2 : K
  endV2 : K

/-- The variables of the loop, and the speeds that were set, by the order of the moves.
The moves in `delayed` wait for the next peak. -/
structure Back (K : Type) where
  updateFlushCount : Bool
  flushCount : ℕ
  delayed : List (Move K × K × K)
  nextEndV2 : K
  nextSmoothedV2 : K
  peakCruiseV2 : K
  junctions : List (Move K × Junction K)

/-- The speeds of the delayed moves, which slow down from the peak on. -/
def propagate : K → List (Move K × K × K) → List (Move K × Junction K)
  | _, [] => []
  | mcV2, (m, msV2, meV2) :: delayed =>
    let mcV2 := min mcV2 msV2
    (m, ⟨min msV2 mcV2, mcV2, min meV2 mcV2⟩) :: propagate mcV2 delayed

namespace Back

/-- Before the loop. -/
def start (lazy : Bool) (flushCount : ℕ) : Back K := ⟨lazy, flushCount, [], 0, 0, 0, []⟩

/-- The speed at which a move may begin, and the smoothed one. -/
def startV2 (m : Move K) (b : Back K) : K := min m.maxStartV2 (b.nextEndV2 + m.deltaV2)

def smoothedV2 (m : Move K) (b : Back K) : K := min m.maxSmoothedV2 (b.nextSmoothedV2 + m.smoothDeltaV2)

/-- A peak is noted: a lazy flush ends at the second one, and moves that were delayed
are given their speeds. -/
def notePeak (i : ℕ) (m : Move K) (b : Back K) : Back K :=
  let found := b.updateFlushCount = true ∧ b.peakCruiseV2 ≠ 0
  let updateFlushCount := if found then false else b.updateFlushCount
  let flushCount := if found then i else b.flushCount
  let peakCruiseV2 :=
    min m.maxCruiseV2 ((b.smoothedV2 m + (b.nextSmoothedV2 + m.smoothDeltaV2)) * 0.5)
  { b with
    updateFlushCount := updateFlushCount
    flushCount := flushCount
    peakCruiseV2 := peakCruiseV2
    junctions :=
      if updateFlushCount = false ∧ i < flushCount then propagate peakCruiseV2 b.delayed ++ b.junctions
      else b.junctions
    delayed := [] }

/-- The speeds of a move that may accelerate. -/
def setJunction (i : ℕ) (m : Move K) (b : Back K) : Back K :=
  if b.updateFlushCount = false ∧ i < b.flushCount then
    let cruiseV2 := min ((b.startV2 m + (b.nextEndV2 + m.deltaV2)) * 0.5)
      (min m.maxCruiseV2 b.peakCruiseV2)
    { b with
      junctions :=
        (m, ⟨min (b.startV2 m) cruiseV2, cruiseV2, min b.nextEndV2 cruiseV2⟩) :: b.junctions }
  else b

/-- A move that only slows down waits until the peak is known. -/
def delay (m : Move K) (b : Back K) : Back K :=
  { b with delayed := (m, b.startV2 m, b.nextEndV2) :: b.delayed }

/-- What is done at a move. -/
def visit (i : ℕ) (m : Move K) (b : Back K) : Back K :=
  if b.smoothedV2 m < b.nextSmoothedV2 + m.smoothDeltaV2 then
    if b.nextSmoothedV2 < b.smoothedV2 m + m.smoothDeltaV2 ∨ b.delayed ≠ [] then
      (b.notePeak i m).setJunction i m
    else b.setJunction i m
  else b.delay m

/-- One round of the loop. -/
def round (i : ℕ) (m : Move K) (b : Back K) : Back K :=
  { b.visit i m with nextEndV2 := b.startV2 m, nextSmoothedV2 := b.smoothedV2 m }

end Back

/-- The loop, from the last move to that at the index `i`. -/
def backward (lazy : Bool) (flushCount : ℕ) : ℕ → List (Move K) → Back K
  | _, [] => .start lazy flushCount
  | i, m :: moves => (backward lazy flushCount (i + 1) moves).round i m

/-! ## The queue -/

/-- `LookAheadQueue`; `LOOKAHEAD_FLUSH_TIME` is 0.15. -/
structure LookAheadQueue (K : Type) where
  queue : List (Move K)
  junctionFlush : K

namespace LookAheadQueue

/-- `flush`, with what is handed to `_process_moves`. -/
def flush (lazy : Bool) (q : LookAheadQueue K) : LookAheadQueue K × List (Move K × Junction K) :=
  let b := backward lazy q.queue.length 0 q.queue
  if b.updateFlushCount = true ∨ b.flushCount = 0 then ({ q with junctionFlush := 0.15 }, [])
  else (⟨q.queue.drop b.flushCount, 0.15⟩, b.junctions)

/-- `add_move`. -/
def addMove (root : Root K) (x : Extruder K) (m : Move K) (q : LookAheadQueue K) :
    LookAheadQueue K × List (Move K × Junction K) :=
  match q.queue.getLast? with
  | none => ({ q with queue := [m] }, [])
  | some prev =>
    let m := m.calcJunction root x prev
    let q := ⟨q.queue ++ [m], q.junctionFlush - m.minMoveT⟩
    if q.junctionFlush ≤ 0 then q.flush true else (q, [])

/-- `set_flush_time`. -/
def setFlushTime (flushTime : K) (q : LookAheadQueue K) : LookAheadQueue K :=
  { q with junctionFlush := flushTime }

/-- `limit_next_junction_speed` of the last move. -/
def limitNextJunctionSpeed (speed : K) (q : LookAheadQueue K) : LookAheadQueue K :=
  match q.queue.getLast? with
  | none => q
  | some m => { q with queue := q.queue.dropLast ++ [m.limitNextJunctionSpeed speed] }

end LookAheadQueue

/-! ## The loop and the outlook -/

/-- The outlook of queued moves. -/
def ahead (moves : List (Move K)) : Outlook K := outlook (moves.map Move.segment)

@[simp] theorem ahead_nil : ahead ([] : List (Move K)) = .rest := rfl

@[simp] theorem ahead_cons (m : Move K) (moves : List (Move K)) :
    ahead (m :: moves) = (ahead moves).back m.segment := rfl

namespace Back

/-- The loop stands at a move with the given outlook. -/
structure View (b : Back K) (o : Outlook K) : Prop where
  endV2 : b.nextEndV2 = o.startV2
  smoothedV2 : b.nextSmoothedV2 = o.smoothedV2
  peakV2 : b.peakCruiseV2 = o.peakV2
  waiting : b.delayed ≠ [] ↔ o.waiting = true

variable {b : Back K} {o : Outlook K} {i : ℕ} {m : Move K}

theorem setJunction_same (i : ℕ) (m : Move K) (b : Back K) :
    (b.setJunction i m).updateFlushCount = b.updateFlushCount ∧
      (b.setJunction i m).flushCount = b.flushCount ∧ (b.setJunction i m).delayed = b.delayed ∧
      (b.setJunction i m).peakCruiseV2 = b.peakCruiseV2 := by
  unfold setJunction
  split_ifs <;> exact ⟨rfl, rfl, rfl, rfl⟩

theorem View.startV2_eq (h : b.View o) (m : Move K) : b.startV2 m = (o.back m.segment).startV2 := by
  simp only [Back.startV2, h.endV2, Outlook.back, Move.segment]

theorem View.smoothedV2_eq (h : b.View o) (m : Move K) :
    b.smoothedV2 m = o.smoothedFrom m.segment := by
  simp only [Back.smoothedV2, h.smoothedV2, Outlook.smoothedFrom, Move.segment]

theorem View.notePeak_peak (h : b.View o) (i : ℕ) (m : Move K) :
    (b.notePeak i m).peakCruiseV2 = o.peakIn m.segment := by
  simp only [notePeak, h.smoothedV2_eq, h.smoothedV2]
  rfl

/-- What can happen at a move. -/
theorem View.visit_cases (h : b.View o) (i : ℕ) (m : Move K) :
    (o.Peaks m.segment ∧ b.visit i m = (b.notePeak i m).setJunction i m) ∨
      (o.Accelerates m.segment ∧ ¬ o.Peaks m.segment ∧ b.delayed = [] ∧ b.visit i m = b.setJunction i m) ∨
      (¬ o.Accelerates m.segment ∧ b.visit i m = b.delay m) := by
  have hacc : b.smoothedV2 m < b.nextSmoothedV2 + m.smoothDeltaV2 ↔ o.Accelerates m.segment := by
    rw [h.smoothedV2_eq, h.smoothedV2]
    rfl
  have hturn : (b.nextSmoothedV2 < b.smoothedV2 m + m.smoothDeltaV2 ∨ b.delayed ≠ []) ↔
      (o.smoothedV2 < o.smoothedFrom m.segment + m.segment.smoothDeltaV2 ∨ o.waiting = true) := by
    rw [h.smoothedV2_eq, h.smoothedV2, h.waiting]
    rfl
  unfold visit
  split_ifs with h1 h2
  · exact .inl ⟨⟨hacc.1 h1, hturn.1 h2⟩, rfl⟩
  · exact .inr (.inl ⟨hacc.1 h1, fun hp => h2 (hturn.2 hp.2), not_not.1 (not_or.1 h2).2, rfl⟩)
  · exact .inr (.inr ⟨mt hacc.2 h1, rfl⟩)

/-- A round goes back by one move. -/
theorem View.round (h : b.View o) (i : ℕ) (m : Move K) : (b.round i m).View (o.back m.segment) := by
  have hview : ∀ {c : Back K}, b.visit i m = c → c.peakCruiseV2 = (o.back m.segment).peakV2 →
      (c.delayed ≠ [] ↔ (o.back m.segment).waiting = true) → (b.round i m).View (o.back m.segment) := by
    rintro c rfl hpeak hwait
    exact ⟨h.startV2_eq m, h.smoothedV2_eq m, hpeak, hwait⟩
  rcases h.visit_cases i m with ⟨hpeaks, heq⟩ | ⟨hacc, hpeaks, hnone, heq⟩ | ⟨hacc, heq⟩
  · obtain ⟨-, -, hdelayed, hpeak⟩ := (b.notePeak i m).setJunction_same i m
    refine hview heq ((hpeak.trans (h.notePeak_peak i m)).trans (if_pos hpeaks).symm) ?_
    rw [(Outlook.back_waiting m.segment o).2 hpeaks.1, hdelayed]
    simp [notePeak]
  · obtain ⟨-, -, hdelayed, hpeak⟩ := b.setJunction_same i m
    refine hview heq ((hpeak.trans h.peakV2).trans (if_neg hpeaks).symm) ?_
    rw [(Outlook.back_waiting m.segment o).2 hacc, hdelayed]
    simpa using hnone
  · refine hview heq (h.peakV2.trans (if_neg fun hp => hacc hp.1).symm) ?_
    simp [delay, Outlook.back, hacc]

/-- **The loop computes the outlook.** -/
theorem refines (lazy : Bool) (n i : ℕ) (moves : List (Move K)) :
    (backward lazy n i moves).View (ahead moves) := by
  induction moves generalizing i with
  | nil => exact ⟨rfl, rfl, rfl, by simp [backward, start, Outlook.rest]⟩
  | cons m moves ih => exact (ih (i + 1)).round i m

end Back

/-! ## The speeds that are set -/

/-- A move can be run at these speeds: they keep to its limits, and it is long enough for
the changes between them. -/
structure Feasible (m : Move K) (j : Junction K) : Prop where
  sound : m.Sound
  start_nonneg : 0 ≤ j.startV2
  end_nonneg : 0 ≤ j.endV2
  start_le : j.startV2 ≤ j.cruiseV2
  end_le : j.endV2 ≤ j.cruiseV2
  cruise_pos : 0 < j.cruiseV2
  cruise_le : j.cruiseV2 ≤ m.maxCruiseV2
  start_max : j.startV2 ≤ m.maxStartV2
  fits : 2 * j.cruiseV2 ≤ j.startV2 + j.endV2 + m.deltaV2

/-- The speed at which queued moves are entered. -/
def entry (moves : List (Move K)) : K := (ahead moves).speed

/-- The speeds of moves that are run one after the other. -/
abbrev Run (u : K) (js : List (Move K × Junction K)) (w : K) : Prop :=
  Linked (fun x => x.2.startV2) (fun x => x.2.endV2) u js w

/-- A delayed move, with a lower bound `g` on the speed along it. -/
structure Delayed (g : K) (x : Move K × K × K) : Prop where
  sound : x.1.Sound
  slow : g ≤ x.2.1
  start_pos : 0 < x.2.1
  start_le : x.2.1 ≤ x.1.maxStartV2
  end_nonneg : 0 ≤ x.2.2
  fits : x.2.1 ≤ x.2.2 + x.1.deltaV2

/-- A lazy flush can end before these moves. -/
def Cut (moves : List (Move K)) : Prop :=
  moves = [] ∨ ∃ m r, moves = m :: r ∧ (ahead r).peakV2 ≠ 0 ∧ (ahead r).Peaks m.segment

/-- The first `k` moves have been given their speeds, but for those that are delayed;
`g` is the speed at which the others begin. -/
structure Back.Ready (b : Back K) (moves : List (Move K)) (k : ℕ) (g : K) : Prop where
  handed : b.delayed.map Prod.fst ++ b.junctions.map Prod.fst = moves.take k
  feasible : ∀ x ∈ b.junctions, Feasible x.1 x.2
  run : Run g b.junctions (entry (moves.drop k))
  cut : Cut (moves.drop k)
  none : b.delayed = [] → g = entry moves
  some : b.delayed ≠ [] → Linked (fun x => x.2.1) (fun x => x.2.2) (ahead moves).startV2 b.delayed g ∧
    g ≤ (ahead moves).smoothedV2 ∧ ∀ x ∈ b.delayed, Delayed g x

/-- The loop at the index `i` of `n` moves: the end of the flush has not been found, and
nothing is set, or it is `k` moves ahead. -/
structure Back.Built (b : Back K) (n i : ℕ) (moves : List (Move K)) : Prop where
  searching : b.updateFlushCount = true → b.flushCount = n ∧ b.junctions = []
  found : b.updateFlushCount = false → ∃ k g, b.flushCount = i + k ∧ b.Ready moves k g

omit [Field K] in
theorem propagate_moves (mcV2 : K) (delayed : List (Move K × K × K)) :
    (propagate mcV2 delayed).map Prod.fst = delayed.map Prod.fst := by
  induction delayed generalizing mcV2 with
  | nil => rfl
  | cons x delayed ih => exact congrArg _ (ih _)

/-- The delayed moves slow down from the peak to the speed `g`. -/
theorem propagate_run {v g mcV2 : K} {delayed : List (Move K × K × K)}
    (h : Linked (fun x => x.2.1) (fun x => x.2.2) v delayed g) (hmc : g ≤ mcV2)
    (hslow : ∀ x ∈ delayed, Delayed g x) : Run (min mcV2 v) (propagate mcV2 delayed) g := by
  induction delayed generalizing v mcV2 with
  | nil =>
    obtain rfl : v = g := h
    exact min_eq_right hmc
  | cons x delayed ih =>
    obtain ⟨m, msV2, meV2⟩ := x
    obtain ⟨rfl, htail⟩ := h
    refine ⟨min_eq_right (min_le_right _ _), ?_⟩
    have hrest := ih htail (le_min hmc (hslow _ List.mem_cons_self).slow)
      fun y hy => hslow y (List.mem_cons_of_mem _ hy)
    rwa [min_comm] at hrest

/-- Queued moves are those of a path. -/
def Queued (moves : List (Move K)) : Prop := (∀ m ∈ moves, m.Sound) ∧ Line (moves.map Move.segment)

variable [IsStrictOrderedRing K]

/-- They can be run. -/
theorem propagate_feasible {g mcV2 : K} {delayed : List (Move K × K × K)} (hmc : g ≤ mcV2) (hpos : 0 < mcV2)
    (hslow : ∀ x ∈ delayed, Delayed g x) : ∀ x ∈ propagate mcV2 delayed, Feasible x.1 x.2 := by
  induction delayed generalizing mcV2 with
  | nil => simp [propagate]
  | cons x delayed ih =>
    have hx := hslow x List.mem_cons_self
    have hcruise : 0 < min mcV2 x.2.1 := lt_min hpos hx.start_pos
    have hle := min_le_right mcV2 x.2.1
    have hsound := hx.sound.segment
    have hdelta : 0 < x.1.deltaV2 := hsound.smooth.trans_le hsound.delta
    intro y hy
    rcases List.mem_cons.1 hy with rfl | hy
    · refine ⟨hx.sound, (lt_min hx.start_pos hcruise).le, le_min hx.end_nonneg hcruise.le, min_le_right _ _,
        min_le_right _ _, hcruise, (hle.trans hx.start_le).trans hsound.cruise,
        (min_le_left _ _).trans hx.start_le, ?_⟩
      show 2 * min mcV2 x.2.1 ≤ min x.2.1 (min mcV2 x.2.1) + min x.2.2 (min mcV2 x.2.1) + x.1.deltaV2
      rw [min_eq_right hle]
      rcases min_choice x.2.2 (min mcV2 x.2.1) with heq | heq <;> rw [heq]
      · linarith [hx.fits]
      · linarith
    · exact ih (le_min hmc hx.slow) hcruise (fun z hz => hslow z (List.mem_cons_of_mem _ hz)) y hy

/-- The speeds of a move that may accelerate, below the peak `pk`. -/
def accelerating (m : Move K) (endV2 pk : K) : Junction K :=
  let startV2 := min m.maxStartV2 (endV2 + m.deltaV2)
  let cruiseV2 := min ((startV2 + (endV2 + m.deltaV2)) * 0.5) (min m.maxCruiseV2 pk)
  ⟨min startV2 cruiseV2, cruiseV2, min endV2 cruiseV2⟩

theorem accelerating_spec {m : Move K} {endV2 pk : K} (hm : m.Sound) (hend : 0 ≤ endV2) (hpk : 0 < pk)
    (hreach : endV2 ≤ min m.maxStartV2 (endV2 + m.deltaV2) + m.deltaV2) (hcruise : endV2 ≤ m.maxCruiseV2) :
    Feasible m (accelerating m endV2 pk) ∧
      (accelerating m endV2 pk).startV2 = min (min m.maxStartV2 (endV2 + m.deltaV2)) pk ∧
      (accelerating m endV2 pk).endV2 = min endV2 pk := by
  have hdelta : 0 < m.deltaV2 := hm.segment.smooth.trans_le hm.segment.delta
  have hstart0 : 0 ≤ m.maxStartV2 := hm.segment.smoothed.trans hm.segment.start
  unfold accelerating
  set s := min m.maxStartV2 (endV2 + m.deltaV2) with hs
  have hs0 : 0 ≤ s := le_min hstart0 (by linarith)
  have hsreach : s ≤ endV2 + m.deltaV2 := min_le_right _ _
  have hsmax : s ≤ m.maxStartV2 := min_le_left _ _
  have hsc : s ≤ m.maxCruiseV2 := hsmax.trans hm.segment.cruise
  set x := (s + (endV2 + m.deltaV2)) * 0.5 with hx
  have hsx : s ≤ x := by linarith
  have hex : endV2 ≤ x := by linarith
  have hstart : min s (min x (min m.maxCruiseV2 pk)) = min s pk := by
    rw [← min_assoc, min_eq_left hsx, ← min_assoc, min_eq_left hsc]
  have hfinish : min endV2 (min x (min m.maxCruiseV2 pk)) = min endV2 pk := by
    rw [← min_assoc, min_eq_left hex, ← min_assoc, min_eq_left hcruise]
  have hc : 0 < min x (min m.maxCruiseV2 pk) := lt_min (by linarith) (lt_min hm.segment.pos hpk)
  refine ⟨⟨hm, le_min hs0 hc.le, le_min hend hc.le, min_le_right _ _, min_le_right _ _, hc,
    (min_le_right _ _).trans (min_le_left _ _), (min_le_left _ _).trans hsmax, ?_⟩, hstart, hfinish⟩
  show 2 * min x (min m.maxCruiseV2 pk) ≤ min s (min x (min m.maxCruiseV2 pk))
    + min endV2 (min x (min m.maxCruiseV2 pk)) + m.deltaV2
  have hcx := min_le_left x (min m.maxCruiseV2 pk)
  rcases min_choice s (min x (min m.maxCruiseV2 pk)) with h1 | h1 <;>
    rcases min_choice endV2 (min x (min m.maxCruiseV2 pk)) with h2 | h2 <;> rw [h1, h2]
  · linarith
  · have := min_le_right endV2 (min x (min m.maxCruiseV2 pk))
    linarith [min_eq_right_iff.1 h2]
  · linarith [min_eq_right_iff.1 h1]
  · linarith

namespace Queued

variable {m : Move K} {moves : List (Move K)}

omit [IsStrictOrderedRing K] in
theorem tail (h : Queued (m :: moves)) : Queued moves :=
  ⟨fun m' hm' => h.1 m' (List.mem_cons_of_mem m hm'), h.2.tail⟩

theorem bounds (h : Queued moves) : 0 ≤ (ahead moves).smoothedV2 ∧
    (ahead moves).smoothedV2 ≤ (ahead moves).startV2 ∧ 0 ≤ (ahead moves).peakV2 := h.2.bounds

omit [IsStrictOrderedRing K] in
/-- The path that begins with a move. -/
theorem line (h : Queued (m :: moves)) : Line (m.segment :: moves.map Move.segment) := h.2

theorem start_le (h : Queued (m :: moves)) :
    (ahead moves).startV2 ≤ min m.maxStartV2 ((ahead moves).startV2 + m.deltaV2) + m.deltaV2 ∧
      (ahead moves).startV2 ≤ m.maxCruiseV2 := h.line.start_le

theorem smoothed_le_peakIn (h : Queued (m :: moves)) (hacc : (ahead moves).Accelerates m.segment) :
    (ahead moves).smoothedV2 ≤ (ahead moves).peakIn m.segment := h.line.smoothed_le_peakIn hacc

theorem speed_of_peak (h : Queued (m :: moves)) (hpeaks : (ahead moves).Peaks m.segment)
    (hwait : (ahead moves).waiting = false) : (ahead moves).startV2 ≤ (ahead moves).peakV2 ∧
      (ahead moves).startV2 ≤ (ahead moves).peakIn m.segment := h.line.speed_of_peak hpeaks hwait

theorem speed_of_wait (h : Queued (m :: moves)) (hslow : ¬ (ahead moves).Accelerates m.segment)
    (hwait : (ahead moves).waiting = false) : (ahead moves).startV2 ≤ (ahead moves).peakV2 ∧
      (ahead moves).startV2 ≤ (ahead moves).smoothedV2 := h.line.speed_of_wait hslow hwait

theorem peakIn_pos (h : Queued (m :: moves)) : 0 < (ahead moves).peakIn m.segment := by
  have hm := (h.1 m List.mem_cons_self).segment
  have hfrom : 0 ≤ (ahead moves).smoothedFrom m.segment := h.bounds.1
  have hnext := h.tail.bounds.1
  refine lt_min hm.pos ?_
  linarith [hm.smooth]

end Queued

namespace Back

variable {n i k : ℕ} {g pk : K} {m : Move K} {moves : List (Move K)} {b b' : Back K}

/-- A move has been given its speeds, and those after it run on from there. -/
theorem Ready.set {js : List (Move K × Junction K)} (hq : Queued (m :: moves)) (hpk : 0 < pk)
    (hpeak : (ahead (m :: moves)).peakV2 = pk) (hmoves : js.map Prod.fst = moves.take k)
    (hfeasible : ∀ x ∈ js, Feasible x.1 x.2)
    (hrun : Run (min (ahead moves).startV2 pk) js (entry (moves.drop k))) (hcut : Cut (moves.drop k))
    (hnone : b'.delayed = []) (hjs : b'.junctions = (m, accelerating m (ahead moves).startV2 pk) :: js) :
    b'.Ready (m :: moves) (k + 1) (entry (m :: moves)) := by
  obtain ⟨hreach, hcruise⟩ := hq.start_le
  obtain ⟨hsmoothed, hstart, -⟩ := hq.tail.bounds
  obtain ⟨hspec, hbegin, hend⟩ := accelerating_spec (hq.1 m List.mem_cons_self)
    (hsmoothed.trans hstart) hpk hreach hcruise
  have hentry : entry (m :: moves) = (accelerating m (ahead moves).startV2 pk).startV2 := by
    rw [hbegin, ← hpeak]
    rfl
  refine ⟨?_, ?_, ?_, hcut, fun _ => rfl, fun hne => absurd hnone hne⟩
  · simp [hnone, hjs, hmoves]
  · rw [hjs]
    rintro x hx
    rcases List.mem_cons.1 hx with rfl | hx
    · exact hspec
    · exact hfeasible x hx
  · rw [hjs]
    refine ⟨hentry.symm, ?_⟩
    show Run (accelerating m (ahead moves).startV2 pk).endV2 js _
    rw [hend]
    exact hrun

omit [IsStrictOrderedRing K] in
theorem setJunction_eq (hset : b.updateFlushCount = false ∧ i < b.flushCount) :
    (b.setJunction i m).junctions = (m, accelerating m b.nextEndV2 b.peakCruiseV2) :: b.junctions := by
  rw [setJunction, if_pos hset]
  rfl

/-- The delayed moves slow down from the peak to where the others begin. -/
theorem Ready.propagate (h : b.Ready moves k g) (hview : b.View (ahead moves)) (hq : Queued (m :: moves))
    (hpeaks : (ahead moves).Peaks m.segment) :
    Run (min (ahead moves).startV2 ((ahead moves).peakIn m.segment))
        (propagate ((ahead moves).peakIn m.segment) b.delayed) g ∧
      ∀ x ∈ Planner.propagate ((ahead moves).peakIn m.segment) b.delayed, Feasible x.1 x.2 := by
  by_cases hnone : b.delayed = []
  · have hwait : (ahead moves).waiting = false := by
      have := mt hview.waiting.2 (not_not.2 hnone)
      simpa using this
    obtain ⟨hold, hnew⟩ := hq.speed_of_peak hpeaks hwait
    rw [hnone]
    refine ⟨?_, by simp [Planner.propagate]⟩
    show min (ahead moves).startV2 ((ahead moves).peakIn m.segment) = g
    rw [h.none hnone, min_eq_left hnew]
    exact (min_eq_left hold).symm
  · obtain ⟨hlink, hslow, hdelayed⟩ := h.some hnone
    have hbelow := hslow.trans (hq.smoothed_le_peakIn hpeaks.1)
    rw [min_comm]
    exact ⟨propagate_run hlink hbelow hdelayed, propagate_feasible hbelow hq.peakIn_pos hdelayed⟩

/-- At a peak. -/
theorem Ready.peak (h : b.Ready moves k g) (hview : b.View (ahead moves)) (hq : Queued (m :: moves))
    (hpeaks : (ahead moves).Peaks m.segment) (hupdate : b.updateFlushCount = false)
    (hcount : b.flushCount = i + 1 + k) :
    ((b.notePeak i m).setJunction i m).Ready (m :: moves) (k + 1) (entry (m :: moves)) := by
  have hset : (b.notePeak i m).updateFlushCount = false ∧ i < (b.notePeak i m).flushCount := by
    simp only [notePeak, hupdate, Bool.false_eq_true, false_and, if_false, hcount, true_and]
    omega
  have hpk := hview.notePeak_peak i m
  have hjs : (b.notePeak i m).junctions
      = Planner.propagate ((ahead moves).peakIn m.segment) b.delayed ++ b.junctions := by
    rw [← hpk]
    exact if_pos hset
  obtain ⟨hrun, hfeasible⟩ := h.propagate hview hq hpeaks
  refine Ready.set hq hq.peakIn_pos (if_pos hpeaks) ?_ ?_ (linked_append.2 ⟨g, hrun, h.run⟩) h.cut
    ((setJunction_same i m _).2.2.1) ?_
  · rw [List.map_append, propagate_moves]
    exact h.handed
  · rintro x hx
    rcases List.mem_append.1 hx with hx | hx
    · exact hfeasible x hx
    · exact h.feasible x hx
  · rw [setJunction_eq hset, hjs, hpk]
    exact congrArg (fun e => (m, accelerating m e _) :: _) hview.endV2

/-- On the way to a peak. -/
theorem Ready.coast (h : b.Ready moves k g) (hview : b.View (ahead moves)) (hq : Queued (m :: moves))
    (hacc : (ahead moves).Accelerates m.segment) (hpeaks : ¬ (ahead moves).Peaks m.segment)
    (hnone : b.delayed = []) (hupdate : b.updateFlushCount = false) (hcount : b.flushCount = i + 1 + k) :
    (b.setJunction i m).Ready (m :: moves) (k + 1) (entry (m :: moves)) := by
  have hset : b.updateFlushCount = false ∧ i < b.flushCount := ⟨hupdate, by omega⟩
  have hwait : (ahead moves).waiting = false := by
    have := mt hview.waiting.2 (not_not.2 hnone)
    simpa using this
  have hpos : 0 < (ahead moves).peakV2 := by
    have hfrom : 0 ≤ (ahead moves).smoothedFrom m.segment := hq.bounds.1
    have hturn := not_lt.1 (not_or.1 fun hor => hpeaks ⟨hacc, hor⟩).1
    have hsm : 0 < m.segment.smoothDeltaV2 := (hq.1 m List.mem_cons_self).segment.smooth
    have hbelow : (ahead moves).smoothedV2 ≤ (ahead moves).peakV2 := Line.smoothed_le_peak hq.tail.2 hwait
    linarith
  refine Ready.set hq hpos (if_neg hpeaks) ?_ h.feasible ?_ h.cut
    ((setJunction_same i m b).2.2.1.trans hnone) ?_
  · have := h.handed
    rwa [hnone] at this
  · rw [show min (ahead moves).startV2 (ahead moves).peakV2 = g from (h.none hnone).symm]
    exact h.run
  · rw [setJunction_eq hset, hview.endV2, hview.peakV2]

/-- A move that waits for the next peak. -/
theorem Ready.delay (h : b.Ready moves k g) (hview : b.View (ahead moves)) (hq : Queued (m :: moves))
    (hacc : ¬ (ahead moves).Accelerates m.segment) :
    (b.delay m).Ready (m :: moves) (k + 1) g := by
  have hm := hq.1 m List.mem_cons_self
  have hslow : (ahead moves).smoothedV2 + m.smoothDeltaV2 ≤ (ahead moves).smoothedFrom m.segment := not_lt.1 hacc
  have hfrom : (ahead moves).smoothedFrom m.segment ≤ m.maxSmoothedV2 := min_le_left _ _
  obtain ⟨hsmoothed, hstart, -⟩ := hq.tail.bounds
  have hsm : 0 < m.smoothDeltaV2 := hm.segment.smooth
  have hsd : m.smoothDeltaV2 ≤ m.deltaV2 := hm.segment.delta
  have hms : m.maxSmoothedV2 ≤ m.maxStartV2 := hm.segment.start
  have hlast : Linked (fun x => x.2.1) (fun x => x.2.2) (ahead moves).startV2 b.delayed g ∧
      g ≤ (ahead moves).smoothedV2 ∧ ∀ x ∈ b.delayed, Delayed g x := by
    by_cases hnone : b.delayed = []
    · have hwait : (ahead moves).waiting = false := by
        have := mt hview.waiting.2 (not_not.2 hnone)
        simpa using this
      obtain ⟨hpeak, hle⟩ := hq.speed_of_wait hacc hwait
      have hg : g = (ahead moves).startV2 := (h.none hnone).trans (min_eq_left hpeak)
      rw [hnone]
      exact ⟨hg.symm, hg.trans_le hle, by simp⟩
    · exact h.some hnone
  obtain ⟨hlink, hbelow, hdelayed⟩ := hlast
  have hstart' : b.startV2 m = min m.maxStartV2 ((ahead moves).startV2 + m.deltaV2) := by
    rw [Back.startV2, hview.endV2]
  have hme : g ≤ min m.maxStartV2 ((ahead moves).startV2 + m.deltaV2) :=
    le_min (by linarith) (by linarith)
  refine ⟨?_, h.feasible, h.run, h.cut, fun hne => absurd hne (by simp [Back.delay]), fun _ => ⟨?_, ?_, ?_⟩⟩
  · simpa [Back.delay] using h.handed
  · refine ⟨hstart', ?_⟩
    show Linked _ _ b.nextEndV2 b.delayed g
    rw [hview.endV2]
    exact hlink
  · show g ≤ (ahead moves).smoothedFrom m.segment
    linarith
  · rintro x hx
    rcases List.mem_cons.1 hx with rfl | hx
    · refine ⟨hm, ?_, ?_, ?_, ?_, ?_⟩ <;> simp only [hstart', hview.endV2]
      · exact hme
      · exact lt_min (by linarith) (by linarith)
      · exact min_le_left _ _
      · linarith
      · exact min_le_right _ _
    · exact hdelayed x hx

omit [IsStrictOrderedRing K] in
/-- A peak is noted while the end of the flush is looked for. -/
theorem notePeak_searching (hview : b.View (ahead moves)) (hb : b.Built n (i + 1) moves)
    (hupdate : b.updateFlushCount = true) (hpeaks : (ahead moves).Peaks m.segment) :
    ((b.notePeak i m).setJunction i m).Built n i (m :: moves) := by
  obtain ⟨hcount, hjs⟩ := hb.searching hupdate
  by_cases hzero : b.peakCruiseV2 = 0
  · have hstill : (b.notePeak i m).updateFlushCount = true := by simp [notePeak, hupdate, hzero]
    have hnot : (b.notePeak i m).setJunction i m = b.notePeak i m := if_neg (by simp [hstill])
    rw [hnot]
    refine ⟨fun _ => ⟨?_, ?_⟩, fun hfound => absurd (hstill.symm.trans hfound) (by simp)⟩
    · simp [notePeak, hzero, hcount]
    · simp [notePeak, hupdate, hzero, hjs]
  · have hnot : (b.notePeak i m).setJunction i m = b.notePeak i m := if_neg (by simp [notePeak, hupdate, hzero])
    rw [hnot]
    refine ⟨fun hsearch => absurd hsearch (by simp [notePeak, hupdate, hzero]), fun _ => ⟨0, entry (m :: moves), ?_, ?_⟩⟩
    · simp [notePeak, hupdate, hzero]
    · have hnone : (b.notePeak i m).junctions = [] := by simp [notePeak, hupdate, hzero, hjs]
      refine ⟨by rw [hnone]; rfl, by simp [hnone], by rw [hnone]; rfl, .inr ⟨m, moves, rfl, ?_, hpeaks⟩,
        fun _ => rfl, fun hne => absurd rfl hne⟩
      rw [← hview.peakV2]
      exact hzero

/-- One round of the loop. -/
theorem Built.round (hb : b.Built n (i + 1) moves) (hview : b.View (ahead moves)) (hq : Queued (m :: moves)) :
    (b.round i m).Built n i (m :: moves) := by
  have hvisit : (b.visit i m).Built n i (m :: moves) := by
    rcases hview.visit_cases i m with ⟨hpeaks, heq⟩ | ⟨hacc, hpeaks, hnone, heq⟩ | ⟨hacc, heq⟩ <;> rw [heq]
    · cases hupdate : b.updateFlushCount with
      | true => exact notePeak_searching hview hb hupdate hpeaks
      | false =>
        obtain ⟨k, g, hcount, hready⟩ := hb.found hupdate
        obtain ⟨hup, hco, -, -⟩ := (b.notePeak i m).setJunction_same i m
        have hfound : (b.notePeak i m).updateFlushCount = false := by simp [notePeak, hupdate]
        refine ⟨fun hsearch => absurd (hup.symm.trans hsearch) (by simp [hfound]), fun _ =>
          ⟨k + 1, _, ?_, hready.peak hview hq hpeaks hupdate hcount⟩⟩
        rw [hco]
        simp only [notePeak, hupdate, Bool.false_eq_true, false_and, if_false, hcount]
        omega
    · obtain ⟨hup, hco, -, -⟩ := b.setJunction_same i m
      refine ⟨fun hsearch => ?_, fun hfound => ?_⟩
      · rw [hup] at hsearch
        obtain ⟨hcount, hjs⟩ := hb.searching hsearch
        have hnot : b.setJunction i m = b := if_neg (by simp [hsearch])
        rw [hnot]
        exact ⟨hcount, hjs⟩
      · rw [hup] at hfound
        obtain ⟨k, g, hcount, hready⟩ := hb.found hfound
        refine ⟨k + 1, _, ?_, hready.coast hview hq hacc hpeaks hnone hfound hcount⟩
        omega
    · refine ⟨hb.searching, fun hfound => ?_⟩
      obtain ⟨k, g, hcount, hready⟩ := hb.found hfound
      refine ⟨k + 1, g, ?_, hready.delay hview hq hacc⟩
      show b.flushCount = i + (k + 1)
      omega
  refine ⟨hvisit.searching, fun hfound => ?_⟩
  obtain ⟨k, g, hcount, hready⟩ := hvisit.found hfound
  exact ⟨k, g, hcount, hready.handed, hready.feasible, hready.run, hready.cut, hready.none, hready.some⟩

/-- **The loop.** -/
theorem built (lazy : Bool) {n : ℕ} (hq : Queued moves) (hn : n = i + moves.length) :
    (backward lazy n i moves).Built n i moves := by
  induction moves generalizing i with
  | nil =>
    refine ⟨fun _ => ⟨rfl, rfl⟩, fun _ => ⟨0, 0, hn, rfl, by simp [backward, start], ?_, .inl rfl, fun _ => ?_,
      fun hne => absurd rfl hne⟩⟩
    · show (0 : K) = min 0 0
      exact (min_self 0).symm
    · show (0 : K) = min 0 0
      exact (min_self 0).symm
  | cons m moves ih =>
    exact (ih hq.tail (by rw [hn, List.length_cons]; omega)).round (refines lazy n (i + 1) moves) hq

end Back

/-! ## A flush -/

/-- What a queue holds when the last move handed over ended at the speed `v`: however it
goes on, it is entered at that speed. -/
structure Pending (v : K) (moves : List (Move K)) : Prop where
  queued : Queued moves
  empty : moves = [] → v = 0
  entered : moves ≠ [] → ∀ ext, Queued (moves ++ ext) →
    (ahead (moves ++ ext)).waiting = false ∧ entry (moves ++ ext) = v

/-- What a flush hands over. -/
structure Handed (v : K) (moves : List (Move K)) (js : List (Move K × Junction K)) (rest : List (Move K)) :
    Prop where
  same : js.map Prod.fst ++ rest = moves
  feasible : ∀ x ∈ js, Feasible x.1 x.2
  run : ∃ w, Run v js w ∧ Pending w rest

omit [IsStrictOrderedRing K] in
theorem Queued.drop {moves : List (Move K)} (h : Queued moves) (k : ℕ) : Queued (moves.drop k) := by
  induction k generalizing moves with
  | zero => exact h
  | succ k ih =>
    cases moves with
    | nil => exact h
    | cons m moves => exact ih h.tail

/-- Where a lazy flush ends, the speed does not depend on what is queued later. -/
theorem Cut.pending {rest : List (Move K)} (h : Cut rest) (hq : Queued rest) : Pending (entry rest) rest := by
  rcases h with rfl | ⟨m, r, rfl, hpeak, hpeaks⟩
  · exact ⟨hq, fun _ => min_self 0, fun hne => absurd rfl hne⟩
  · refine ⟨hq, fun hnil => (by cases hnil), fun _ ext hext => ?_⟩
    have hline : Line (m.segment :: r.map Move.segment ++ ext.map Move.segment) := by
      rw [List.cons_append, ← List.map_append]
      exact hext.2
    have happ := Line.outlook_append hline hpeak hpeaks
    rw [List.cons_append, ← List.map_append] at happ
    exact happ

omit [IsStrictOrderedRing K] in
/-- A flush that is not lazy takes all moves. -/
theorem backward_all (n i : ℕ) (moves : List (Move K)) :
    (backward false n i moves).updateFlushCount = false ∧ (backward false n i moves).flushCount = n := by
  induction moves generalizing i with
  | nil => exact ⟨rfl, rfl⟩
  | cons m moves ih =>
    obtain ⟨hupdate, hcount⟩ := ih (i + 1)
    set b := backward false n (i + 1) moves
    have hpeak : (b.notePeak i m).updateFlushCount = false ∧ (b.notePeak i m).flushCount = n := by
      simp [Back.notePeak, hupdate, hcount]
    obtain ⟨hup, hco, -, -⟩ := (b.notePeak i m).setJunction_same i m
    obtain ⟨hup', hco', -, -⟩ := b.setJunction_same i m
    show (b.visit i m).updateFlushCount = false ∧ (b.visit i m).flushCount = n
    unfold Back.visit
    split_ifs
    · exact ⟨hup.trans hpeak.1, hco.trans hpeak.2⟩
    · exact ⟨hup'.trans hupdate, hco'.trans hcount⟩
    · exact ⟨hupdate, hcount⟩

namespace LookAheadQueue

variable {v : K} {q : LookAheadQueue K}

/-- **A flush.** -/
theorem handed_flush (h : Pending v q.queue) (lazy : Bool) :
    Handed v q.queue (q.flush lazy).2 (q.flush lazy).1.queue := by
  have hbuilt := Back.built lazy h.queued (i := 0) (Nat.zero_add _).symm
  have hview := Back.refines lazy q.queue.length 0 q.queue
  unfold flush
  simp only
  split_ifs with hnone
  · exact ⟨rfl, by simp, v, rfl, h⟩
  · obtain ⟨hfound, hsome⟩ := not_or.1 hnone
    obtain ⟨k, g, hcount, hready⟩ := hbuilt.found (by simpa using hfound)
    have hqueue : q.queue ≠ [] := fun hnil => hsome (by
      rw [hnil]
      rfl)
    obtain ⟨hwait, hentry⟩ := h.entered hqueue [] (by rw [List.append_nil]; exact h.queued)
    rw [List.append_nil] at hwait hentry
    have hdelayed : (backward lazy q.queue.length 0 q.queue).delayed = [] := by
      by_contra hne
      exact absurd ((hview.waiting.1 hne).symm.trans hwait) (by simp)
    have hmoves := hready.handed
    rw [hdelayed] at hmoves
    have hg : g = v := (hready.none hdelayed).trans hentry
    have hk : (backward lazy q.queue.length 0 q.queue).flushCount = k := hcount.trans (Nat.zero_add k)
    refine ⟨?_, hready.feasible, _, hg ▸ hready.run, ?_⟩
    · show (backward lazy q.queue.length 0 q.queue).junctions.map Prod.fst ++ q.queue.drop _ = q.queue
      rw [show (backward lazy q.queue.length 0 q.queue).junctions.map Prod.fst = q.queue.take k from hmoves, hk,
        List.take_append_drop]
    · rw [hk]
      exact hready.cut.pending (h.queued.drop k)

omit [IsStrictOrderedRing K] in
theorem flush_all (q : LookAheadQueue K) : (q.flush false).1.queue = [] := by
  obtain ⟨hupdate, hcount⟩ := backward_all q.queue.length 0 q.queue
  unfold flush
  simp only
  split_ifs with hnone
  · rcases hnone with hup | hzero
    · exact absurd (hupdate.symm.trans hup) (by simp)
    · rw [hcount] at hzero
      exact List.length_eq_zero_iff.1 hzero
  · rw [hcount]
    exact List.drop_length

/-- A move is planned after the last one in the queue. -/
theorem pending_append (root : Root K) (x : Extruder K) {m prev : Move K} (h : Pending v q.queue)
    (hlast : q.queue.getLast? = some prev) (hm : m.Fresh) (hs : m.Smoothed) :
    Pending v (q.queue ++ [m.calcJunction root x prev]) := by
  obtain ⟨ys, hys⟩ := List.getLast?_eq_some_iff.1 hlast
  have hprev : prev.Sound := h.queued.1 prev (by simp [hys])
  obtain ⟨hsound, hmeets⟩ := Move.sound_calcJunction root x hprev hm hs
  have hne : q.queue ≠ [] := by simp [hys]
  refine ⟨⟨fun k hk => ?_, fun g hg => ?_, ?_⟩, fun hnil => absurd hnil (by simp), fun _ ext hext => ?_⟩
  · rcases List.mem_append.1 hk with hk | hk
    · exact h.queued.1 k hk
    · rw [List.mem_singleton.1 hk]
      exact hsound
  · obtain ⟨k, hk, rfl⟩ := List.mem_map.1 hg
    rcases List.mem_append.1 hk with hk | hk
    · exact (h.queued.1 k hk).segment
    · rw [List.mem_singleton.1 hk]
      exact hsound.segment
  · rw [List.map_append, List.isChain_append]
    refine ⟨h.queued.2.meets, List.isChain_singleton _, ?_⟩
    simp only [hys, List.map_append, List.map_cons, List.map_nil, List.getLast?_append, List.getLast?_singleton,
      Option.some_or, List.head?_cons]
    intro p hp g hg
    rw [← Option.mem_some_iff.1 hp, ← Option.mem_some_iff.1 hg]
    exact hmeets
  · rw [List.append_assoc] at hext ⊢
    exact h.entered hne _ hext

/-- A move that is queued alone begins at rest. -/
theorem pending_single {m : Move K} (hm : m.Fresh) (hs : m.Smoothed) : Pending 0 [m] := by
  have hsound := hm.sound hs
  refine ⟨⟨by simpa using hsound, by simpa using hsound.segment, List.isChain_singleton _⟩, fun _ => rfl,
    fun _ ext hext => ?_⟩
  have hext' : Queued (m :: ext) := hext
  obtain ⟨hsmoothed, hstart, -⟩ := hext'.tail.bounds
  have hpeak := hext'.bounds.2.2
  have hdelta : 0 < m.deltaV2 := hsound.segment.smooth.trans_le hsound.segment.delta
  refine ⟨(Outlook.back_waiting _ _).2 ?_, ?_⟩
  · refine (min_le_left _ _).trans_lt ?_
    show m.maxSmoothedV2 < (ahead ext).smoothedV2 + m.smoothDeltaV2
    rw [hm.smoothed]
    linarith [hm.smooth]
  · show min (min m.maxStartV2 ((ahead ext).startV2 + m.deltaV2)) (ahead (m :: ext)).peakV2 = 0
    have hreach : 0 ≤ (ahead ext).startV2 + m.deltaV2 := by linarith
    rw [hm.start, min_eq_left hreach, min_eq_left hpeak]

/-- A move is added. -/
theorem handed_addMove (root : Root K) (x : Extruder K) {m : Move K} (h : Pending v q.queue) (hm : m.Fresh)
    (hs : m.Smoothed) : ∃ m', m'.startPos = m.startPos ∧ m'.endPos = m.endPos ∧
      Handed v (q.queue ++ [m']) (q.addMove root x m).2 (q.addMove root x m).1.queue := by
  unfold addMove
  cases hlast : q.queue.getLast? with
  | none =>
    have hnil := List.getLast?_eq_none_iff.1 hlast
    have hv := h.empty hnil
    refine ⟨m, rfl, rfl, ?_, by simp, v, rfl, ?_⟩
    · simp [hnil]
    · rw [hv]
      exact pending_single hm hs
  | some prev =>
    obtain ⟨hstart, hend⟩ := m.calcJunction_same root x prev
    have hpending := pending_append root x h hlast hm hs
    refine ⟨m.calcJunction root x prev, hstart, hend, ?_⟩
    simp only
    split_ifs
    · exact handed_flush (q := ⟨q.queue ++ [m.calcJunction root x prev], q.junctionFlush - _⟩) hpending true
    · exact ⟨rfl, by simp, v, rfl, hpending⟩

/-- The speed after the last move is limited. -/
theorem pending_limit (speed : K) (h : Pending v q.queue) :
    Pending v (q.limitNextJunctionSpeed speed).queue := by
  unfold limitNextJunctionSpeed
  cases hlast : q.queue.getLast? with
  | none => exact h
  | some m =>
    obtain ⟨ys, hys⟩ := List.getLast?_eq_some_iff.1 hlast
    have hm := h.queued.1 m (by simp [hys])
    have hm' : (m.limitNextJunctionSpeed speed).Sound :=
      ⟨hm.moveD, hm.axesR, hm.accel, hm.delta, hm.deviation, le_min hm.next (sq_nonneg speed), hm.segment⟩
    have hmap : ∀ ext, (q.queue.dropLast ++ [m.limitNextJunctionSpeed speed] ++ ext).map Move.segment
        = (q.queue ++ ext).map Move.segment := by
      intro ext
      rw [hys]
      simp [Move.limitNextJunctionSpeed, Move.segment]
    have hsound : ∀ k ∈ q.queue.dropLast ++ [m.limitNextJunctionSpeed speed], k.Sound := by
      intro k hk
      rcases List.mem_append.1 hk with hk | hk
      · exact h.queued.1 k (List.mem_of_mem_dropLast hk)
      · rw [List.mem_singleton.1 hk]
        exact hm'
    have hnil := hmap []
    rw [List.append_nil, List.append_nil] at hnil
    refine ⟨⟨hsound, hnil ▸ h.queued.2⟩, fun he => absurd he (by simp), fun _ ext hext => ?_⟩
    have hqueued : Queued (q.queue ++ ext) := by
      refine ⟨fun k hk => ?_, hmap ext ▸ hext.2⟩
      rcases List.mem_append.1 hk with hk | hk
      · exact h.queued.1 k hk
      · exact hext.1 k (List.mem_append_right _ hk)
    have hentered := h.entered (by simp [hys]) ext hqueued
    unfold entry ahead at hentered ⊢
    rwa [hmap ext]

end LookAheadQueue

end Planner

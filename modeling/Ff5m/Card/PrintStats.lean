import Mathlib

/-!
# The figures of a print

`print_stats.py`: what the printer tells about the print that is going on.  Starts,
pauses and ends are noted with the time of the clock and the position of E, and
every query brings the figures up to date.

The print time that is told is compared with a stopwatch that simply runs while the
print runs.  Times and positions are exact rational numbers, where Python adds floats.

* `Sound.noteStart`, `Sound.notePause`, `Sound.noteFinish`: every note keeps the figures
  in step with the stopwatch, as long as a print that has ended is not started once more
  before the figures are reset, and no pause is noted of a print that has not begun;
* `Sound.getStatus`: so the print time told is what the stopwatch shows less the time
  before the first extrusion, except that the pause in which a print has ended counts
  as print time.
-/

namespace Card

/-! ## The object -/

/-- What `PrintStats` reads elsewhere: the clock, the position of E in G-code
coordinates and the extrude factor. -/
structure Moment where
  time : ℚ
  epos : ℚ
  factor : ℚ

inductive PrintState where
  | standby
  | printing
  | paused
  | complete
  | error
  | cancelled
  deriving DecidableEq

structure PrintStats where
  filename : String
  errorMessage : String
  state : PrintState
  prevPauseDuration : ℚ
  lastEpos : ℚ
  filamentUsed : ℚ
  totalDuration : ℚ
  printStartTime : Option ℚ
  lastPauseTime : Option ℚ
  initDuration : ℚ
  infoTotalLayer : Option ℕ
  infoCurrentLayer : Option ℕ

/-- What `get_status` returns. -/
structure Status where
  filename : String
  totalDuration : ℚ
  printDuration : ℚ
  filamentUsed : ℚ
  state : PrintState
  message : String
  totalLayer : Option ℕ
  currentLayer : Option ℕ

namespace PrintStats

/-- `reset`. -/
def reset : PrintStats where
  filename := ""
  errorMessage := ""
  state := .standby
  prevPauseDuration := 0
  lastEpos := 0
  filamentUsed := 0
  totalDuration := 0
  printStartTime := none
  lastPauseTime := none
  initDuration := 0
  infoTotalLayer := none
  infoCurrentLayer := none

/-- No extrusion has been seen so far. -/
def Dry (s : PrintStats) : Prop := s.filamentUsed < 1 / 10000000

instance (s : PrintStats) : Decidable s.Dry := inferInstanceAs (Decidable (_ < _))

/-- `_update_filament_usage`. -/
def updateFilamentUsage (m : Moment) (s : PrintStats) : PrintStats :=
  { s with
    filamentUsed := s.filamentUsed + (m.epos - s.lastEpos) / m.factor
    lastEpos := m.epos }

/-- `set_current_file`. -/
def setCurrentFile (filename : String) : PrintStats := { reset with filename := filename }

/-- `note_start`. -/
def noteStart (m : Moment) (s : PrintStats) : PrintStats :=
  let s :=
    match s.printStartTime with
    | none => { s with printStartTime := some m.time }
    | some _ =>
      match s.lastPauseTime with
      | none => s
      | some p =>
        { s with prevPauseDuration := s.prevPauseDuration + (m.time - p), lastPauseTime := none }
  { s with lastEpos := m.epos, state := .printing, errorMessage := "" }

/-- `note_pause`. -/
def notePause (m : Moment) (s : PrintStats) : PrintStats :=
  let s :=
    match s.lastPauseTime with
    | none => updateFilamentUsage m { s with lastPauseTime := some m.time }
    | some _ => s
  if s.state = .error then s else { s with state := .paused }

/-- `_note_finish`. -/
def noteFinish (m : Moment) (state : PrintState) (message : String) (s : PrintStats) : PrintStats :=
  match s.printStartTime with
  | none => s
  | some start =>
    { s with
      state := state
      errorMessage := message
      totalDuration := m.time - start
      initDuration := if s.Dry then m.time - start - s.prevPauseDuration else s.initDuration
      printStartTime := none }

/-- `note_complete`. -/
def noteComplete (m : Moment) : PrintStats → PrintStats := noteFinish m .complete ""

/-- `note_error`. -/
def noteError (m : Moment) (message : String) : PrintStats → PrintStats :=
  noteFinish m .error message

/-- `note_cancel`. -/
def noteCancel (m : Moment) : PrintStats → PrintStats := noteFinish m .cancelled ""

/-- The figures that `get_status` brings up to date, and the time paused. -/
def refresh (m : Moment) (s : PrintStats) : PrintStats × ℚ :=
  match s.printStartTime with
  | none => (s, s.prevPauseDuration)
  | some start =>
    let timePaused := s.prevPauseDuration +
      match s.lastPauseTime with
      | some p => m.time - p
      | none => 0
    let s := if s.lastPauseTime = none then updateFilamentUsage m s else s
    let total := m.time - start
    ({ s with
        totalDuration := total
        initDuration := if s.Dry then total - timePaused else s.initDuration },
      timePaused)

/-- `get_status`. -/
def getStatus (m : Moment) (s : PrintStats) : PrintStats × Status :=
  let (s, timePaused) := s.refresh m
  (s,
    { filename := s.filename
      totalDuration := s.totalDuration
      printDuration := s.totalDuration - s.initDuration - timePaused
      filamentUsed := s.filamentUsed
      state := s.state
      message := s.errorMessage
      totalLayer := s.infoTotalLayer
      currentLayer := s.infoCurrentLayer })

/-- `cmd_SET_PRINT_STATS_INFO`, with the parameters that were given. -/
def cmdSetPrintStatsInfo (totalLayer currentLayer : Option ℕ) (s : PrintStats) : PrintStats :=
  let total := totalLayer.or s.infoTotalLayer
  let current := currentLayer.or s.infoCurrentLayer
  let s :=
    if total = some 0 then { s with infoTotalLayer := none, infoCurrentLayer := none }
    else if total ≠ s.infoTotalLayer then
      { s with infoTotalLayer := total, infoCurrentLayer := some 0 }
    else s
  match s.infoTotalLayer, current with
  | some t, some c =>
    if current ≠ s.infoCurrentLayer then { s with infoCurrentLayer := some (min c t) } else s
  | _, _ => s

end PrintStats

/-! ## The stopwatch -/

inductive Phase where
  | ready
  | running (since : ℚ)
  | stopped (since : ℚ)
  | ended
  deriving DecidableEq

/-- The time that the print has run, and how long it had been paused when it ended. -/
structure Stopwatch where
  run : ℚ
  phase : Phase
  idle : ℚ

namespace Stopwatch

/-- A new print. -/
def new : Stopwatch := ⟨0, .ready, 0⟩

/-- What it shows. -/
def shows (now : ℚ) (w : Stopwatch) : ℚ :=
  match w.phase with
  | .running since => w.run + (now - since)
  | _ => w.run

def start (now : ℚ) (w : Stopwatch) : Stopwatch :=
  match w.phase with
  | .running _ => w
  | _ => { w with phase := .running now }

def stop (now : ℚ) (w : Stopwatch) : Stopwatch :=
  match w.phase with
  | .running since => { w with run := w.run + (now - since), phase := .stopped now }
  | _ => w

def finish (now : ℚ) (w : Stopwatch) : Stopwatch :=
  match w.phase with
  | .running since => { w with run := w.run + (now - since), phase := .ended }
  | .stopped since => { w with phase := .ended, idle := now - since }
  | _ => w

end Stopwatch

/-! ## The two side by side -/

/-- The figures at the time `now` are those of the stopwatch. -/
structure Sound (now : ℚ) (w : Stopwatch) (s : PrintStats) : Prop where
  ready : w.phase = .ready → w = .new ∧ s.printStartTime = none ∧ s.lastPauseTime = none ∧
    s.prevPauseDuration = 0 ∧ s.totalDuration = 0 ∧ s.initDuration = 0
  running : ∀ since, w.phase = .running since → since ≤ now ∧ w.idle = 0 ∧ s.lastPauseTime = none ∧
    ∃ start, s.printStartTime = some start ∧ start + s.prevPauseDuration + w.run = since ∧
      s.initDuration ≤ w.run + (now - since)
  stopped : ∀ since, w.phase = .stopped since → since ≤ now ∧ w.idle = 0 ∧
    s.lastPauseTime = some since ∧
    ∃ start, s.printStartTime = some start ∧ start + s.prevPauseDuration + w.run = since ∧
      s.initDuration ≤ w.run
  ended : w.phase = .ended → s.printStartTime = none ∧ 0 ≤ w.idle ∧
    s.totalDuration - s.prevPauseDuration = w.run + w.idle ∧ s.initDuration ≤ w.run + w.idle

namespace Sound

variable {now : ℚ} {w : Stopwatch} {s : PrintStats}

/-- Time passes. -/
theorem of_le (h : Sound now w s) {now' : ℚ} (hle : now ≤ now') : Sound now' w s where
  ready := h.ready
  running since hs := by
    obtain ⟨hsince, hidle, hpause, start, hstart, hsum, hinit⟩ := h.running since hs
    exact ⟨hsince.trans hle, hidle, hpause, start, hstart, hsum, by linarith⟩
  stopped since hs := by
    obtain ⟨hsince, hrest⟩ := h.stopped since hs
    exact ⟨hsince.trans hle, hrest⟩
  ended := h.ended

theorem setCurrentFile (now : ℚ) (filename : String) :
    Sound now .new (PrintStats.setCurrentFile filename) where
  ready _ := ⟨rfl, rfl, rfl, rfl, rfl, rfl⟩
  running _ h := by cases h
  stopped _ h := by cases h
  ended h := by cases h

theorem reset (now : ℚ) : Sound now .new PrintStats.reset := setCurrentFile now ""

/-- What noting a pause does to the times. -/
theorem notePause_times (m : Moment) (s : PrintStats) :
    (s.notePause m).printStartTime = s.printStartTime ∧
      (s.notePause m).lastPauseTime = some (s.lastPauseTime.getD m.time) ∧
      (s.notePause m).prevPauseDuration = s.prevPauseDuration ∧
      (s.notePause m).initDuration = s.initDuration := by
  unfold PrintStats.notePause
  cases hpause : s.lastPauseTime with
  | none => by_cases herror : s.state = .error <;> simp [PrintStats.updateFilamentUsage, herror]
  | some p => by_cases herror : s.state = .error <;> simp [herror, hpause]

/-- A start is noted, but not of a print that has ended. -/
theorem noteStart (h : Sound now w s) {m : Moment} (hm : now ≤ m.time) (hended : w.phase ≠ .ended) :
    Sound m.time (w.start m.time) (s.noteStart m) := by
  cases hphase : w.phase with
  | ready =>
    obtain ⟨rfl, hstart, hpause, hprev, htotal, hinit⟩ := h.ready hphase
    have hnow : Stopwatch.start m.time .new = ⟨0, .running m.time, 0⟩ := rfl
    rw [hnow]
    refine ⟨by simp, fun since hs => ?_, by simp, by simp⟩
    obtain rfl := Phase.running.inj hs
    refine ⟨le_rfl, rfl, ?_, m.time, ?_, ?_, ?_⟩ <;>
      simp [PrintStats.noteStart, hstart, hpause, hprev, hinit]
  | running since =>
    obtain ⟨hle, hidle, hpause, start, hstart, hsum, hinit⟩ := h.running since hphase
    have hw : w.start m.time = w := by simp only [Stopwatch.start, hphase]
    rw [hw]
    refine ⟨by simp [hphase], fun c hc => ?_, by simp [hphase], by simp [hphase]⟩
    obtain rfl := Phase.running.inj (hphase.symm.trans hc)
    refine ⟨hle.trans hm, hidle, ?_, start, ?_, ?_, ?_⟩ <;>
      simp only [PrintStats.noteStart, hstart, hpause]
    · exact hsum
    · linarith
  | stopped since =>
    obtain ⟨hle, hidle, hpause, start, hstart, hsum, hinit⟩ := h.stopped since hphase
    have hw : w.start m.time = { w with phase := .running m.time } := by
      simp only [Stopwatch.start, hphase]
    rw [hw]
    refine ⟨by simp, fun c hc => ?_, by simp, by simp⟩
    obtain rfl := Phase.running.inj hc
    refine ⟨le_rfl, hidle, ?_, start, ?_, ?_, ?_⟩ <;>
      simp only [PrintStats.noteStart, hstart, hpause]
    · linarith
    · linarith
  | ended => exact absurd hphase hended

/-- A pause is noted of a print that has begun and not ended. -/
theorem notePause (h : Sound now w s) {m : Moment} (hm : now ≤ m.time) (hready : w.phase ≠ .ready)
    (hended : w.phase ≠ .ended) : Sound m.time (w.stop m.time) (s.notePause m) := by
  obtain ⟨hstart', hpause', hprev', hinit'⟩ := notePause_times m s
  cases hphase : w.phase with
  | ready => exact absurd hphase hready
  | running since =>
    obtain ⟨hle, hidle, hpause, start, hstart, hsum, hinit⟩ := h.running since hphase
    have hw : w.stop m.time = ⟨w.run + (m.time - since), .stopped m.time, w.idle⟩ := by
      simp only [Stopwatch.stop, hphase]
    rw [hw]
    refine ⟨by simp, by simp, fun c hc => ?_, by simp⟩
    obtain rfl := Phase.stopped.inj hc
    rw [hstart', hpause', hprev', hinit', hpause, Option.getD_none]
    refine ⟨le_rfl, hidle, rfl, start, hstart, ?_, ?_⟩
    · linarith
    · linarith
  | stopped since =>
    obtain ⟨hle, hidle, hpause, start, hstart, hsum, hinit⟩ := h.stopped since hphase
    have hw : w.stop m.time = w := by simp only [Stopwatch.stop, hphase]
    rw [hw]
    refine ⟨by simp [hphase], by simp [hphase], fun c hc => ?_, by simp [hphase]⟩
    obtain rfl := Phase.stopped.inj (hphase.symm.trans hc)
    rw [hstart', hpause', hprev', hinit', hpause, Option.getD_some]
    exact ⟨hle.trans hm, hidle, rfl, start, hstart, hsum, hinit⟩
  | ended => exact absurd hphase hended

/-- The end of the print is noted. -/
theorem noteFinish (h : Sound now w s) {m : Moment} (hm : now ≤ m.time) (state : PrintState)
    (message : String) : Sound m.time (w.finish m.time) (s.noteFinish m state message) := by
  cases hphase : w.phase with
  | ready =>
    obtain ⟨rfl, hstart, hrest⟩ := h.ready hphase
    have hs : s.noteFinish m state message = s := by simp only [PrintStats.noteFinish, hstart]
    rw [hs]
    exact h.of_le hm
  | running since =>
    obtain ⟨hle, hidle, hpause, start, hstart, hsum, hinit⟩ := h.running since hphase
    have hw : w.finish m.time = ⟨w.run + (m.time - since), .ended, w.idle⟩ := by
      simp only [Stopwatch.finish, hphase]
    rw [hw]
    refine ⟨by simp, by simp, by simp, fun _ => ?_⟩
    refine ⟨?_, hidle.ge, ?_, ?_⟩ <;> simp only [PrintStats.noteFinish, hstart]
    · linarith
    · split_ifs <;> linarith
  | stopped since =>
    obtain ⟨hle, hidle, hpause, start, hstart, hsum, hinit⟩ := h.stopped since hphase
    have hw : w.finish m.time = ⟨w.run, .ended, m.time - since⟩ := by
      simp only [Stopwatch.finish, hphase]
    rw [hw]
    refine ⟨by simp, by simp, by simp, fun _ => ?_⟩
    refine ⟨?_, sub_nonneg.2 (hle.trans hm), ?_, ?_⟩ <;> simp only [PrintStats.noteFinish, hstart]
    · linarith
    · split_ifs <;> linarith
  | ended =>
    obtain ⟨hstart, hrest⟩ := h.ended hphase
    have hs : s.noteFinish m state message = s := by simp only [PrintStats.noteFinish, hstart]
    have hw : w.finish m.time = w := by simp only [Stopwatch.finish, hphase]
    rw [hs, hw]
    exact h.of_le hm

/-- What a query does to the times of a print that has begun and not ended. -/
theorem refresh_times (m : Moment) {s : PrintStats} {start : ℚ} (hstart : s.printStartTime = some start) :
    (s.refresh m).1.printStartTime = some start ∧
      (s.refresh m).1.lastPauseTime = s.lastPauseTime ∧
      (s.refresh m).1.prevPauseDuration = s.prevPauseDuration ∧
      (s.refresh m).1.totalDuration = m.time - start ∧
      (s.refresh m).2 = s.prevPauseDuration + s.lastPauseTime.elim 0 (m.time - ·) ∧
      ((s.refresh m).1.initDuration = s.initDuration ∨
        (s.refresh m).1.initDuration = m.time - start - (s.refresh m).2) := by
  unfold PrintStats.refresh
  rw [hstart]
  cases hpause : s.lastPauseTime with
  | none =>
    refine ⟨hstart, hpause, rfl, rfl, rfl, ?_⟩
    by_cases hdry : (PrintStats.updateFilamentUsage m s).Dry
    · exact .inr (if_pos hdry)
    · exact .inl (if_neg hdry)
  | some p =>
    refine ⟨hstart, hpause, rfl, rfl, rfl, ?_⟩
    by_cases hdry : s.Dry
    · exact .inr (if_pos hdry)
    · exact .inl (if_neg hdry)

/-- A query keeps the figures in step, and the print time told is that of the stopwatch,
with the pause it may have ended in, less the time before the first extrusion. -/
theorem getStatus (h : Sound now w s) {m : Moment} (hm : now ≤ m.time) :
    Sound m.time w (s.getStatus m).1 ∧
      (s.getStatus m).2.printDuration
        = w.shows m.time + w.idle - (s.getStatus m).1.initDuration ∧
      0 ≤ (s.getStatus m).2.printDuration := by
  have hstate : (s.getStatus m).1 = (s.refresh m).1 := rfl
  have htold : (s.getStatus m).2.printDuration
      = (s.refresh m).1.totalDuration - (s.refresh m).1.initDuration - (s.refresh m).2 := rfl
  rw [htold, hstate]
  cases hphase : w.phase with
  | ready =>
    obtain ⟨rfl, hstart, hpause, hprev, htotal, hinit⟩ := h.ready hphase
    have hs : s.refresh m = (s, s.prevPauseDuration) := by simp only [PrintStats.refresh, hstart]
    have hshows : Stopwatch.new.shows m.time + Stopwatch.new.idle = 0 := add_zero _
    rw [hs, hshows, htotal, hinit, hprev]
    exact ⟨h.of_le hm, by simp, by simp⟩
  | running since =>
    obtain ⟨hle, hidle, hpause, start, hstart, hsum, hinit⟩ := h.running since hphase
    obtain ⟨hstart', hpause', hprev', htotal', htime, hinit'⟩ := refresh_times m hstart
    have hshows : w.shows m.time = w.run + (m.time - since) := by
      simp only [Stopwatch.shows, hphase]
    rw [hpause, Option.elim_none] at htime
    have hbound : (s.refresh m).1.initDuration ≤ w.run + (m.time - since) := by
      rcases hinit' with hinit' | hinit' <;> linarith
    rw [hshows, htotal']
    refine ⟨⟨by simp [hphase], fun c hc => ?_, by simp [hphase], by simp [hphase]⟩, ?_, ?_⟩
    · obtain rfl := Phase.running.inj (hphase.symm.trans hc)
      exact ⟨hle.trans hm, hidle, hpause'.trans hpause, start, hstart', by rw [hprev', hsum], hbound⟩
    · linarith
    · linarith
  | stopped since =>
    obtain ⟨hle, hidle, hpause, start, hstart, hsum, hinit⟩ := h.stopped since hphase
    obtain ⟨hstart', hpause', hprev', htotal', htime, hinit'⟩ := refresh_times m hstart
    have hshows : w.shows m.time = w.run := by simp only [Stopwatch.shows, hphase]
    rw [hpause, Option.elim_some] at htime
    have hbound : (s.refresh m).1.initDuration ≤ w.run := by
      rcases hinit' with hinit' | hinit' <;> linarith
    rw [hshows, htotal']
    refine ⟨⟨by simp [hphase], by simp [hphase], fun c hc => ?_, by simp [hphase]⟩, ?_, ?_⟩
    · obtain rfl := Phase.stopped.inj (hphase.symm.trans hc)
      exact ⟨hle.trans hm, hidle, hpause'.trans hpause, start, hstart', by rw [hprev', hsum], hbound⟩
    · linarith
    · linarith
  | ended =>
    obtain ⟨hstart, hidle, htotal, hinit⟩ := h.ended hphase
    have hs : s.refresh m = (s, s.prevPauseDuration) := by simp only [PrintStats.refresh, hstart]
    have hshows : w.shows m.time = w.run := by simp only [Stopwatch.shows, hphase]
    rw [hs, hshows]
    refine ⟨h.of_le hm, ?_, ?_⟩
    · linarith
    · linarith

end Sound

end Card

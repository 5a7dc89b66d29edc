import Ff5m.Card.Parked

/-!
# The print time of a print

`print_stats.py` is told by the card when its work timer starts and ends.  Here the time
is measured without it: the print runs as long as the timer is in its loop and the file
is open.  All times are exact rational numbers: sums of floats may differ in the last digits.

* `TimedInside.execAll`, `Timed.step`: the figures stay in step with that time, unless a
  print that ended in an error is started once more;
* `print_time`: so the print time that is told is the time the print has run less the
  time before the first extrusion; a cancelled print may be told to have run longer.
-/

namespace Card

open TextTools (Text Line)
open GCode (Script Run Failure)

variable {env : Env} {m : Moment}

/-- The print runs. -/
def Ticks (s : Printer) : Prop :=
  (¬ s.sd.work.IsOff ∧ s.sd.work ≠ .registered) ∧ s.sd.currentFile.isSome = true

instance (s : Printer) : Decidable (Ticks s) := inferInstanceAs (Decidable (_ ∧ _))

/-- The work timer may be started: no print that ended in an error is loaded. -/
def Startable (s : Printer) : Prop := s.sd.currentFile.isSome = true → s.stats.state ≠ .error

/-- The event starts the figures anew. -/
def Renews : Event → Printer → Prop
  | .command .sdcardResetFile, _ => True
  | .command (.sdcardPrintFile _), s => s.sd.work.IsOff
  | .command (.m23 _), s => s.sd.work.IsOff
  | _, _ => False

instance (e : Event) (s : Printer) : Decidable (Renews e s) := by
  unfold Renews
  split <;> infer_instance

/-- The figures at the time `now` of a print that has run for the time `ran`. -/
structure Timed (now ran : ℚ) (w : Stopwatch) (s : Printer) : Prop where
  sound : Sound now w s.stats
  shows : w.shows now = ran
  idle : w.idle ≠ 0 → s.stats.state = .cancelled
  ticks : Ticks s ↔ ∃ since, w.phase = .running since
  ended : w.phase = .ended → s.sd.currentFile.isSome = true → s.stats.state = .error ∧ s.sd.work.IsOff
  closed : s.sd.currentFile = none → w.phase = .ready ∨ w.phase = .ended

/-- The same within a line, at the moment of the round. -/
structure TimedInside (m : Moment) (ran : ℚ) (w : Stopwatch) (s : Printer) : Prop where
  cmdFromSd : s.sd.cmdFromSd = true
  work : ¬ s.sd.work.IsOff ∧ s.sd.work ≠ .registered
  sound : Sound m.time w s.stats
  shows : w.shows m.time = ran
  idle : w.idle = 0
  ticks : s.sd.currentFile.isSome = true ↔ ∃ since, w.phase = .running since
  ended : s.sd.currentFile = none → w.phase = .ended

theorem Stopwatch.shows_finish (now : ℚ) (w : Stopwatch) : (w.finish now).shows now = w.shows now := by
  unfold finish shows
  cases hphase : w.phase <;> simp [hphase]

theorem Stopwatch.shows_stop (now : ℚ) (w : Stopwatch) : (w.stop now).shows now = w.shows now := by
  unfold stop shows
  cases hphase : w.phase <;> simp [hphase]

theorem Stopwatch.shows_start (now : ℚ) (w : Stopwatch) : (w.start now).shows now = w.shows now := by
  unfold start shows
  cases hphase : w.phase <;> simp [hphase]

theorem Stopwatch.finish_idle {now : ℚ} (w : Stopwatch) (h : w.phase = .ready ∨ w.phase = .ended) :
    w.finish now = w := by
  rcases h with h | h <;> simp only [finish, h]

theorem Stopwatch.new_not_running : ¬ ∃ since, new.phase = .running since := by
  rintro ⟨since, hr⟩
  cases hr

theorem Stopwatch.finish_not_running (now : ℚ) (w : Stopwatch) :
    ¬ ∃ since, (w.finish now).phase = .running since := by
  unfold finish
  cases hphase : w.phase <;> simp [hphase]

/-- A watch that has not ended runs once it is started. -/
theorem Stopwatch.start_running (now : ℚ) {w : Stopwatch} (h : w.phase ≠ .ended) :
    ∃ since, (w.start now).phase = .running since := by
  unfold start
  cases hphase : w.phase with
  | running since => exact ⟨since, hphase⟩
  | ready => exact ⟨now, rfl⟩
  | stopped since => exact ⟨now, rfl⟩
  | ended => exact absurd hphase h

theorem startWork_none {s : Printer} (hfile : s.sd.currentFile = none) :
    startWork m s = { s with sd := { s.sd with work := .off } } := by
  simp only [startWork, hfile]

theorem startWork_some {s : Printer} {f : File} (hfile : s.sd.currentFile = some f) :
    startWork m s = { s with
      sd := { s.sd with work := .looping (after f.text s.sd.filePosition) [] [] }
      stats := s.stats.noteStart m } := by
  simp only [startWork, hfile]

namespace TimedInside

variable {ran : ℚ} {w : Stopwatch} {s : Printer}

/-- Only the figures and the file matter. -/
theorem of_same (h : TimedInside m ran w s) {s' : Printer} (hsd : s'.sd.cmdFromSd = true)
    (hwork : s'.sd.work = s.sd.work) (hfile : s'.sd.currentFile = s.sd.currentFile)
    (hstats : s'.stats = s.stats) : TimedInside m ran w s' := by
  refine ⟨hsd, ?_, ?_, h.shows, h.idle, ?_, ?_⟩
  · rw [hwork]
    exact h.work
  · rw [hstats]
    exact h.sound
  · rw [hfile]
    exact h.ticks
  · rw [hfile]
    exact h.ended

theorem sendPause (h : TimedInside m ran w s) : TimedInside m ran w (sendPauseCommand m s) := by
  unfold sendPauseCommand
  rw [if_neg h.work.1, doPause_inside h.cmdFromSd h.work.1]
  split_ifs
  · exact h
  · exact h.of_same h.cmdFromSd rfl rfl rfl

/-- A print that is cancelled within a line ends at that moment. -/
theorem doCancel (h : TimedInside m ran w s) : ∃ w, TimedInside m ran w (doCancel m s) := by
  unfold Card.doCancel
  by_cases hfile : s.sd.currentFile.isSome = true
  · simp only [hfile, if_true, doPause_inside h.cmdFromSd h.work.1]
    obtain ⟨since, hphase⟩ := h.ticks.1 hfile
    have hended : (w.finish m.time).phase = .ended := by simp only [Stopwatch.finish, hphase]
    have hidle : (w.finish m.time).idle = 0 := by simp only [Stopwatch.finish, hphase, h.idle]
    exact ⟨w.finish m.time, h.cmdFromSd, h.work, h.sound.noteFinish le_rfl _ _,
      (w.shows_finish m.time).trans h.shows, hidle, by simp [hended], fun _ => hended⟩
  · simp only [hfile, Bool.false_eq_true, if_false]
    exact ⟨w, h.of_same h.cmdFromSd rfl rfl rfl⟩

theorem native (h : TimedInside m ran w s) (k : Cmd) : ∃ w, TimedInside m ran w (native env m k s).1 := by
  obtain ⟨hoff, -⟩ := h.work
  cases k with
  | sdcardResetFile => exact ⟨w, by simpa [Card.native, h.cmdFromSd] using h⟩
  | sdcardPrintFile filename => exact ⟨w, by simpa [Card.native, cmdSdcardPrintFile, hoff] using h⟩
  | m23 filename => exact ⟨w, by simpa [Card.native, cmdM23, hoff] using h⟩
  | m24 => exact ⟨w, by simpa [Card.native, doResume, hoff] using h⟩
  | m25 =>
    simp only [Card.native, doPause_inside h.cmdFromSd hoff]
    exact ⟨w, h.of_same h.cmdFromSd rfl rfl rfl⟩
  | m26 pos => exact ⟨w, by simpa [Card.native, hoff] using h⟩
  | setFilePosition pos => exact ⟨w, h.of_same h.cmdFromSd rfl rfl rfl⟩
  | sendPauseCommand => exact ⟨w, h.sendPause⟩
  | pause =>
    simp only [Card.native, cmdPause]
    split_ifs
    · exact ⟨w, h⟩
    · exact ⟨w, h.sendPause.of_same h.sendPause.cmdFromSd rfl rfl rfl⟩
  | resume restores =>
    simp only [Card.native, cmdResume, doResume, if_neg hoff]
    split_ifs
    · exact ⟨w, h⟩
    · exact ⟨w, h⟩
    · exact ⟨w, h⟩
    · exact ⟨w, h.of_same h.cmdFromSd rfl rfl rfl⟩
  | clearPause => exact ⟨w, h.of_same h.cmdFromSd rfl rfl rfl⟩
  | cancelPrint =>
    simp only [Card.native, cmdCancelPrint, hoff, not_false_eq_true, true_or, if_true]
    obtain ⟨w', hcancel⟩ := h.doCancel
    exact ⟨w', hcancel.of_same hcancel.cmdFromSd rfl rfl rfl⟩
  | status =>
    exact ⟨w, h.cmdFromSd, h.work, (h.sound.getStatus le_rfl).1, h.shows, h.idle, h.ticks, h.ended⟩
  | other failure => exact ⟨w, h⟩

theorem execAll (h : TimedInside m ran w s) (env : Env) (b : List Macro) :
    ∃ w, TimedInside m ran w (Script.execAll (Card.native env m) b s).state :=
  (Script.execAll_invariant (I := fun t => ∃ w, TimedInside m ran w t)
    (fun k _ ⟨_, ht⟩ => ht.native k) b s ⟨w, h⟩).1

end TimedInside

theorem PrintStats.getStatus_state (m : Moment) (s : PrintStats) : (s.getStatus m).1.state = s.state := by
  unfold getStatus refresh
  cases s.printStartTime with
  | none => rfl
  | some start => cases s.lastPauseTime <;> rfl

/-- The end of a print that is not going on changes nothing. -/
theorem Sound.noteFinish_idle {now : ℚ} {w : Stopwatch} {s : PrintStats} (h : Sound now w s)
    (hphase : w.phase = .ready ∨ w.phase = .ended) (state : PrintState) (message : String) :
    s.noteFinish m state message = s := by
  have hstart : s.printStartTime = none := by
    rcases hphase with hphase | hphase
    · exact (h.ready hphase).2.1
    · exact (h.ended hphase).1
  simp only [PrintStats.noteFinish, hstart]

/-- Otherwise it is noted. -/
theorem Sound.noteFinish_state {now : ℚ} {w : Stopwatch} {s : PrintStats} (h : Sound now w s)
    (hphase : ¬ (w.phase = .ready ∨ w.phase = .ended)) (state : PrintState) (message : String) :
    (s.noteFinish m state message).state = state ∧ (w.finish m.time).phase = .ended := by
  cases hw : w.phase with
  | ready => exact absurd (.inl hw) hphase
  | running since =>
    obtain ⟨-, -, -, start, hstart, -⟩ := h.running since hw
    simp only [PrintStats.noteFinish, hstart, Stopwatch.finish, hw, and_self]
  | stopped since =>
    obtain ⟨-, -, -, start, hstart, -⟩ := h.stopped since hw
    simp only [PrintStats.noteFinish, hstart, Stopwatch.finish, hw, and_self]
  | ended => exact absurd (.inr hw) hphase

/-- A command that starts the timer does not start a print that ended in an error. -/
def StartsSound : Event → Printer → Prop
  | .command .m24, s => s.sd.work.IsOff → Startable s
  | .command (.resume restores), s => s.pauseResume.isPaused = true → restores = true →
    s.pauseResume.sdPaused = true → s.sd.work.IsOff → Startable s
  | _, _ => True

namespace Timed

variable {ran : ℚ} {w : Stopwatch} {p : Progress} {s : Printer}

/-- Time passes. -/
theorem of_le {now : ℚ} (h : Timed now ran w s) (hm : now ≤ m.time) :
    Timed m.time (if Ticks s then ran + (m.time - now) else ran) w s := by
  refine ⟨h.sound.of_le hm, ?_, h.idle, h.ticks, h.ended, h.closed⟩
  rw [← h.shows]
  by_cases hticks : Ticks s
  · obtain ⟨since, hphase⟩ := h.ticks.1 hticks
    rw [if_pos hticks]
    simp only [Stopwatch.shows, hphase]
    ring
  · rw [if_neg hticks]
    unfold Stopwatch.shows
    cases hphase : w.phase with
    | running since => exact absurd (h.ticks.2 ⟨since, hphase⟩) hticks
    | _ => rfl

/-- The work timer does not run in the new state, and the figures have not changed. -/
theorem of_stopped (h : Timed m.time ran w s) {s' : Printer} (hwork : s'.sd.work.IsOff)
    (hstats : s'.stats = s.stats) (hfile : s'.sd.currentFile = s.sd.currentFile)
    (hticks : ¬ Ticks s) : Timed m.time ran w s' := by
  have hnot : ¬ Ticks s' := fun ht => ht.1.1 hwork
  refine ⟨by rw [hstats]; exact h.sound, h.shows, by rw [hstats]; exact h.idle,
    iff_of_false hnot (fun hr => hticks (h.ticks.2 hr)), ?_, by rw [hfile]; exact h.closed⟩
  rw [hfile, hstats]
  exact fun hended hopen => ⟨(h.ended hended hopen).1, hwork⟩

/-- Only the figures, the file and the work timer matter. -/
theorem of_same (h : Timed m.time ran w s) {s' : Printer} (hwork : s'.sd.work = s.sd.work)
    (hstats : s'.stats = s.stats) (hfile : s'.sd.currentFile = s.sd.currentFile) :
    Timed m.time ran w s' := by
  have hticks : Ticks s' ↔ Ticks s := by
    unfold Ticks
    rw [hwork, hfile]
  refine ⟨by rw [hstats]; exact h.sound, h.shows, by rw [hstats]; exact h.idle, hticks.trans h.ticks,
    ?_, by rw [hfile]; exact h.closed⟩
  rw [hfile, hstats, hwork]
  exact h.ended

theorem startWork (h : Timed m.time ran w s) (hwork : s.sd.work = .registered) :
    ∃ w, Timed m.time ran w (startWork m s) := by
  have hnot : ¬ Ticks s := fun ht => ht.1.2 hwork
  cases hfile : s.sd.currentFile with
  | none =>
    rw [startWork_none hfile]
    exact ⟨w, h.of_stopped trivial rfl rfl hnot⟩
  | some f =>
    rw [startWork_some hfile]
    have hended : w.phase ≠ .ended := fun hended => by
      have hoff := (h.ended hended (by rw [hfile]; rfl)).2
      rw [hwork] at hoff
      exact hoff
    obtain ⟨since, hsince⟩ := w.start_running m.time hended
    have hidle : (w.start m.time).idle = 0 :=
      ((h.sound.noteStart le_rfl hended).running since hsince).2.1
    have hticks : Ticks { s with
        sd := { s.sd with work := .looping (after f.text s.sd.filePosition) [] [] }
        stats := s.stats.noteStart m } :=
      ⟨⟨fun hoff => hoff, by simp⟩, by simp [hfile]⟩
    exact ⟨w.start m.time, h.sound.noteStart le_rfl hended, (w.shows_start m.time).trans h.shows,
      fun hne => absurd hidle hne, iff_of_true hticks ⟨since, hsince⟩,
      fun he => absurd (hsince.symm.trans he) (by simp),
      fun hn => absurd (hfile.symm.trans hn) (by simp)⟩

/-- The timer ends without an error. -/
theorem exitWork (h : Timed m.time ran w s) (hwork : ¬ s.sd.work.IsOff ∧ s.sd.work ≠ .registered) :
    ∃ w, Timed m.time ran w (exitWork m none s) := by
  unfold Card.exitWork
  by_cases hfile : s.sd.currentFile.isSome = true
  · obtain ⟨since, hphase⟩ := h.ticks.1 ⟨hwork, hfile⟩
    have hstopped : (w.stop m.time).phase = .stopped m.time := by
      simp only [Stopwatch.stop, hphase]
    have hidle : (w.stop m.time).idle = 0 := by
      simp only [Stopwatch.stop, hphase, (h.sound.running since hphase).2.1]
    have hpause := h.sound.notePause (m := m) le_rfl (by simp [hphase]) (by simp [hphase])
    simp only [hfile, if_true]
    refine ⟨w.stop m.time, hpause, (w.shows_stop m.time).trans h.shows, fun hne => absurd hidle hne,
      iff_of_false (fun ht => ht.1.1 trivial) (by simp [hstopped]), by simp [hstopped], fun hn => ?_⟩
    rw [show s.sd.currentFile = none from hn] at hfile
    cases hfile
  · have hnone : s.sd.currentFile = none := by simpa using hfile
    simp only [hfile, Bool.false_eq_true, if_false, PrintStats.noteComplete,
      h.sound.noteFinish_idle (h.closed hnone)]
    exact ⟨w, h.of_stopped trivial rfl rfl fun ht => hfile ht.2⟩

theorem waitWork (h : Timed m.time ran w s) : ∃ w, Timed m.time ran w (waitWork m s) := by
  unfold Card.waitWork
  cases hwork : s.sd.work with
  | off => exact ⟨w, h⟩
  | registered =>
    obtain ⟨w', hstart⟩ := h.startWork hwork
    cases hfile : s.sd.currentFile with
    | none => exact ⟨w', hstart⟩
    | some f =>
      rw [startWork_some hfile] at hstart
      simp only [Option.isSome_some, if_true]
      rw [startWork_some hfile]
      exact hstart.exitWork ⟨fun hoff => hoff, by simp⟩
  | looping rest q ls => exact h.exitWork ⟨by rw [hwork]; exact fun hoff => hoff, by rw [hwork]; simp⟩

theorem doPause (h : Timed m.time ran w s) (hsd : s.sd.cmdFromSd = false) :
    ∃ w, Timed m.time ran w (doPause m s) := by
  have hmust : Timed m.time ran w { s with sd := { s.sd with mustPauseWork := true } } :=
    h.of_same rfl rfl rfl
  have heq : Card.doPause m s = if s.sd.work.IsOff then s
      else Card.waitWork m { s with sd := { s.sd with mustPauseWork := true } } := by
    simp [Card.doPause, hsd]
  rw [heq]
  split_ifs
  · exact ⟨w, h⟩
  · exact hmust.waitWork

theorem doResume (h : Timed m.time ran w s) (hstart : s.sd.work.IsOff → Startable s) :
    Timed m.time ran w (doResume s).1 := by
  unfold Card.doResume
  split_ifs with hoff
  · refine ⟨h.sound, h.shows, h.idle, ?_, fun hended hopen => ?_, h.closed⟩
    · refine iff_of_false (fun ht => ht.1.2 rfl) fun hr => ?_
      exact (h.ticks.2 hr).1.1 hoff
    · exact absurd (h.ended hended hopen).1 (hstart hoff hopen)
  · exact h

theorem doCancel (h : Timed m.time ran w s) (hsd : s.sd.cmdFromSd = false) :
    ∃ w, Timed m.time ran w (doCancel m s) := by
  unfold Card.doCancel
  by_cases hfile : s.sd.currentFile.isSome = true
  · obtain ⟨w', hpause⟩ := h.doPause hsd
    obtain ⟨hoff, -, hopen, -⟩ := doPause_outside m hsd
    simp only [hfile, if_true]
    have hnot : ¬ Ticks (Card.doPause m s) := fun ht => ht.1.1 (by rw [hoff]; trivial)
    refine ⟨w'.finish m.time, hpause.sound.noteFinish le_rfl _ _,
      (w'.shows_finish m.time).trans hpause.shows, ?_, ?_, fun _ h => (by cases h), fun _ => ?_⟩
    · intro hidle
      by_cases hphase : w'.phase = .ready ∨ w'.phase = .ended
      · rw [w'.finish_idle hphase] at hidle
        exact (congrArg PrintStats.state (hpause.sound.noteFinish_idle hphase _ _)).trans (hpause.idle hidle)
      · exact (hpause.sound.noteFinish_state hphase _ _).1
    · exact iff_of_false (fun ht => by cases ht.2) (w'.finish_not_running m.time)
    · by_cases hphase : w'.phase = .ready ∨ w'.phase = .ended
      · rw [w'.finish_idle hphase]
        exact hphase
      · exact .inr (hpause.sound.noteFinish_state (m := m) hphase .cancelled "").2
  · simp only [hfile, Bool.false_eq_true, if_false]
    exact ⟨w, h.of_same rfl rfl rfl⟩

/-- The figures start anew. -/
theorem resetFile (h : Follows p s) : Timed m.time 0 .new (resetFile m s) := by
  obtain ⟨hfile, -, -, -⟩ := h.resetFile_closed m
  have hstats : (Card.resetFile m s).stats = .reset := rfl
  refine ⟨by rw [hstats]; exact Sound.reset m.time, rfl, fun hidle => absurd rfl hidle, ?_,
    fun hended => (by cases hended), fun _ => .inl rfl⟩
  refine iff_of_false (fun ht => ?_) Stopwatch.new_not_running
  have hopen := ht.2
  rw [hfile] at hopen
  cases hopen

/-- A query leaves the print as it is. -/
theorem getStatus (h : Timed m.time ran w s) : Timed m.time ran w { s with stats := (s.stats.getStatus m).1 } := by
  have hstate := PrintStats.getStatus_state m s.stats
  refine ⟨(h.sound.getStatus le_rfl).1, h.shows, fun hidle => hstate.trans (h.idle hidle), h.ticks,
    fun hended hopen => ?_, h.closed⟩
  obtain ⟨herror, hoff⟩ := h.ended hended hopen
  exact ⟨hstate.trans herror, hoff⟩

/-- A file is opened while the timer is off. -/
theorem loadFile (h : Timed m.time 0 .new s) (hoff : s.sd.work.IsOff) (env : Env) (checkSubdirs : Bool)
    (filename : String) : Timed m.time 0 .new (loadFile env checkSubdirs filename s).1 := by
  unfold Card.loadFile
  cases env.findFile checkSubdirs filename with
  | none => exact h
  | some f =>
    exact ⟨Sound.setCurrentFile m.time filename, rfl, fun hidle => absurd rfl hidle,
      iff_of_false (fun ht => ht.1.1 hoff) Stopwatch.new_not_running, fun hended => (by cases hended),
      fun _ => .inl rfl⟩

/-- Then the timer may be started. -/
theorem startable_loadFile (hfile : s.sd.currentFile = none)
    (env : Env) (checkSubdirs : Bool) (filename : String) :
    Startable (Card.loadFile env checkSubdirs filename s).1 := by
  unfold Card.loadFile
  cases env.findFile checkSubdirs filename with
  | none => exact fun hopen => by rw [hfile] at hopen; cases hopen
  | some f => exact fun _ herror => by cases herror

theorem sendPause (h : Timed m.time ran w s) (hsd : s.sd.cmdFromSd = false) :
    ∃ w, Timed m.time ran w (sendPauseCommand m s) := by
  unfold Card.sendPauseCommand
  split_ifs
  · exact ⟨w, h⟩
  · exact ⟨w, h.of_same rfl rfl rfl⟩
  · obtain ⟨w', hpause⟩ := h.doPause hsd
    exact ⟨w', hpause.of_same rfl rfl rfl⟩

/-- A command from outside; `renews` says whether the figures start anew. -/
theorem command (h : Timed m.time ran w s) (hf : Follows p s) (c : Cmd)
    (hstart : StartsSound (.command c) s) :
    ∃ w, Timed m.time (if Renews (.command c) s then 0 else ran) w (Card.native env m c s).1 := by
  cases c with
  | sdcardResetFile =>
    simp only [Card.native, hf.cmdFromSd, Renews, Bool.false_eq_true, if_false]
    exact ⟨.new, resetFile hf⟩
  | sdcardPrintFile filename =>
    simp only [Card.native, cmdSdcardPrintFile, Renews]
    by_cases hoff : s.sd.work.IsOff
    · have hreset := resetFile (m := m) hf
      have hend : (Card.resetFile m s).sd.work.IsOff := by
        rw [(hf.resetFile_closed m).2.2.2 (.inl hoff)]
        trivial
      simp only [hoff, if_true]
      split_ifs with hempty
      · exact ⟨.new, hreset⟩
      · have hload := hreset.loadFile hend env true (stripSlash filename)
        have hstartable : Startable (Card.loadFile env true (stripSlash filename) (Card.resetFile m s)).1 :=
          startable_loadFile (hf.resetFile_closed m).1 env true _
        revert hload hstartable
        rcases Card.loadFile env true (stripSlash filename) (Card.resetFile m s) with ⟨t, - | e⟩
        · exact fun hload hstartable => ⟨.new, hload.doResume fun _ => hstartable⟩
        · exact fun hload _ => ⟨.new, hload⟩
    · simp only [hoff, if_false]
      exact ⟨w, h⟩
  | m23 filename =>
    simp only [Card.native, cmdM23, Renews]
    by_cases hoff : s.sd.work.IsOff
    · have hend : (Card.resetFile m s).sd.work.IsOff := by
        rw [(hf.resetFile_closed m).2.2.2 (.inl hoff)]
        trivial
      simp only [hoff, if_true]
      exact ⟨.new, (resetFile (m := m) hf).loadFile hend env false (stripSlash filename)⟩
    · simp only [hoff, if_false]
      exact ⟨w, h⟩
  | m24 => exact ⟨w, h.doResume hstart⟩
  | m25 => exact h.doPause hf.cmdFromSd
  | m26 pos =>
    simp only [Card.native, Renews, ↓reduceIte]
    split_ifs
    · exact ⟨w, h.of_same rfl rfl rfl⟩
    · exact ⟨w, h⟩
  | setFilePosition pos => exact ⟨w, h.of_same rfl rfl rfl⟩
  | sendPauseCommand => exact h.sendPause hf.cmdFromSd
  | pause =>
    simp only [Card.native, cmdPause, Renews, ↓reduceIte]
    split_ifs
    · exact ⟨w, h⟩
    · obtain ⟨w', hsent⟩ := h.sendPause hf.cmdFromSd
      exact ⟨w', hsent.of_same rfl rfl rfl⟩
  | resume restores =>
    simp only [Card.native, cmdResume, Renews, ↓reduceIte]
    split_ifs with hpaused hrestores hsd
    · exact ⟨w, h⟩
    · exact ⟨w, h⟩
    · have hresume := h.doResume (hstart (by simpa using hpaused) (by simpa using hrestores) hsd)
      revert hresume
      rcases Card.doResume s with ⟨t, - | e⟩
      · exact fun hresume => ⟨w, hresume.of_same rfl rfl rfl⟩
      · exact fun hresume => ⟨w, hresume⟩
    · exact ⟨w, h.of_same rfl rfl rfl⟩
  | clearPause => exact ⟨w, h.of_same rfl rfl rfl⟩
  | cancelPrint =>
    simp only [Card.native, cmdCancelPrint, Renews, ↓reduceIte]
    split_ifs
    · obtain ⟨w', hcancel⟩ := h.doCancel hf.cmdFromSd
      exact ⟨w', hcancel.of_same rfl rfl rfl⟩
    · exact ⟨w, h.of_same rfl rfl rfl⟩
  | status => exact ⟨w, h.getStatus⟩
  | other failure => exact ⟨w, h⟩

/-- Back from a line into the loop, or out of it with the file closed. -/
theorem of_inside {t s' : Printer} (h : TimedInside m ran w t) (hstats : s'.stats = t.stats)
    (hfile : s'.sd.currentFile = t.sd.currentFile)
    (hwork : (¬ s'.sd.work.IsOff ∧ s'.sd.work ≠ .registered) ∨ t.sd.currentFile = none) :
    Timed m.time ran w s' := by
  refine ⟨by rw [hstats]; exact h.sound, h.shows, fun hidle => absurd h.idle hidle, ?_, ?_, ?_⟩
  · rw [← h.ticks, ← hfile]
    refine ⟨fun ht => ht.2, fun hopen => ⟨hwork.resolve_right fun hnone => ?_, hopen⟩⟩
    rw [hfile, hnone] at hopen
    cases hopen
  · rw [hfile]
    intro hended hopen
    obtain ⟨since, hr⟩ := h.ticks.1 hopen
    exact absurd (hr.symm.trans hended) (by simp)
  · rw [hfile]
    exact fun hnone => .inr (h.ended hnone)

/-- A line has failed, and the timer ends. -/
theorem of_failed {t : Printer} (h : TimedInside m ran w t) (e : Option String) :
    ∃ w, Timed m.time ran w (Card.exitWork m e t) := by
  by_cases hfile : t.sd.currentFile.isSome = true
  · obtain ⟨since, hphase⟩ := h.ticks.1 hfile
    cases e with
    | none =>
      have hloop : Timed m.time ran w t := of_inside h rfl rfl (.inl h.work)
      exact hloop.exitWork h.work
    | some message =>
      have hgoing : ¬ (w.phase = .ready ∨ w.phase = .ended) := by simp [hphase]
      obtain ⟨hstate, hended⟩ := h.sound.noteFinish_state (m := m) hgoing .error message
      have hidle : (w.finish m.time).idle = 0 := by simp only [Stopwatch.finish, hphase, h.idle]
      refine ⟨w.finish m.time, h.sound.noteFinish le_rfl _ _, (w.shows_finish m.time).trans h.shows,
        fun hne => absurd hidle hne, ?_, fun _ _ => ⟨hstate, trivial⟩, fun _ => .inr hended⟩
      exact iff_of_false (fun ht => ht.1.1 trivial) (w.finish_not_running m.time)
  · have hnone : t.sd.currentFile = none := by simpa using hfile
    have hstats : (Card.exitWork m e t).stats = t.stats := by
      cases e with
      | none =>
        simp only [Card.exitWork, hfile, Bool.false_eq_true, if_false]
        exact h.sound.noteFinish_idle (.inr (h.ended hnone)) _ _
      | some message => exact h.sound.noteFinish_idle (.inr (h.ended hnone)) _ _
    exact ⟨w, of_inside h hstats rfl (.inr hnone)⟩

/-- A round that reads more of the file. -/
theorem readMore (h : Timed m.time ran w s) {rest : Option Text} {q : Line}
    (hwork : s.sd.work = .looping rest q []) (hopen : s.sd.currentFile.isSome = true) :
    ∃ w, Timed m.time ran w (readMore m rest q s) := by
  have hloop : ¬ s.sd.work.IsOff ∧ s.sd.work ≠ .registered := by
    rw [hwork]
    exact ⟨fun hoff => hoff, by simp⟩
  unfold Card.readMore
  rcases rest with - | - | ⟨c, cs⟩
  · exact h.exitWork hloop
  · -- the file is closed, and the print is complete
    obtain ⟨since, hphase⟩ := h.ticks.1 ⟨hloop, hopen⟩
    have hgoing : ¬ (w.phase = .ready ∨ w.phase = .ended) := by simp [hphase]
    obtain ⟨-, hended⟩ := h.sound.noteFinish_state (m := m) hgoing .complete ""
    have hidle : (w.finish m.time).idle = 0 := by
      simp only [Stopwatch.finish, hphase, (h.sound.running since hphase).2.1]
    refine ⟨w.finish m.time, h.sound.noteFinish le_rfl _ _, (w.shows_finish m.time).trans h.shows,
      fun hne => absurd hidle hne, ?_, fun _ hc => (by cases hc), fun _ => .inr hended⟩
    exact iff_of_false (fun ht => ht.1.1 trivial) (w.finish_not_running m.time)
  · have hticks := iff_of_true (b := Ticks s) (a := Ticks { s with sd := { s.sd with
        work := .looping (some ((c :: cs).drop 8192)) (cutLines q ((c :: cs).take 8192)).2
          (cutLines q ((c :: cs).take 8192)).1 } })
      ⟨⟨fun hoff => hoff, by simp⟩, hopen⟩ ⟨hloop, hopen⟩
    exact ⟨w, h.sound, h.shows, h.idle, hticks.trans h.ticks,
      fun hended hfile => absurd (h.ended hended hfile).2 hloop.1, h.closed⟩

/-- A round that hands out a line. -/
theorem handOut (h : Timed m.time ran w s) (b : Behaviour) {rest : Option Text} {q l : Line} {ls : List Line}
    (hwork : s.sd.work = .looping rest q (l :: ls)) (hopen : s.sd.currentFile.isSome = true) (next : ℕ) :
    ∃ w, Timed m.time ran w (finishLine env m b next
      (Script.execAll (Card.native env m) b.script (handOut rest q l ls s))) := by
  have hloop : ¬ s.sd.work.IsOff ∧ s.sd.work ≠ .registered := by
    rw [hwork]
    exact ⟨fun hoff => hoff, by simp⟩
  obtain ⟨since, hphase⟩ := h.ticks.1 ⟨hloop, hopen⟩
  have hout : TimedInside m ran w (Card.handOut rest q l ls s) :=
    ⟨rfl, ⟨fun hoff => hoff, by simp [Card.handOut]⟩, h.sound, h.shows, (h.sound.running since hphase).2.1,
      iff_of_true hopen ⟨since, hphase⟩, fun hnone => absurd hopen (by
        rw [show s.sd.currentFile = none from hnone]; simp)⟩
  obtain ⟨w₁, hin⟩ := hout.execAll env b.script
  set run := Script.execAll (Card.native env m) b.script (Card.handOut rest q l ls s)
  unfold finishLine
  cases hraised : run.raised with
  | some e =>
    cases e with
    | command =>
      obtain ⟨w₂, herr⟩ := hin.execAll env b.onError
      exact of_failed herr _
    | internal => exact of_failed hin none
  | none =>
    simp only [advance]
    split_ifs
    · exact ⟨w₁, of_inside hin rfl rfl (.inl hin.work)⟩
    · cases hfile : run.state.sd.currentFile with
      | none => exact ⟨w₁, of_inside hin rfl hfile.symm (.inr hfile)⟩
      | some f => exact ⟨w₁, of_inside hin rfl hfile.symm (.inl ⟨fun hoff => hoff, by simp⟩)⟩

/-- A round of the timer. -/
theorem work (h : Timed m.time ran w s) (hf : Follows p s) (b : Behaviour) :
    ∃ w, Timed m.time ran w (workHandler env m b s) := by
  unfold workHandler
  cases hwork : s.sd.work with
  | off => exact ⟨w, h⟩
  | registered => exact h.startWork hwork
  | looping rest q ls =>
    by_cases hmust : s.sd.mustPauseWork = true
    · simp only [hmust, if_true]
      exact h.exitWork ⟨by rw [hwork]; exact fun hoff => hoff, by rw [hwork]; simp⟩
    · simp only [hmust, Bool.false_eq_true, if_false]
      have hopen : s.sd.currentFile.isSome = true := by
        rw [Option.isSome_iff_ne_none]
        exact fun hnone => hmust ((hf.loop _ _ _ hwork).2.1 hnone)
      cases ls with
      | nil => exact h.readMore hwork hopen
      | cons l ls => exact h.handOut b hwork hopen _

/-- What one event does. -/
theorem step (h : Timed m.time ran w s) (hf : Follows p s) (e : Event) (hstart : StartsSound e s) :
    ∃ w, Timed m.time (if Renews e s then 0 else ran) w (step env m e s) := by
  cases e with
  | command c => exact h.command hf c hstart
  | work b => exact h.work hf b
  | shutdown =>
    show ∃ w, Timed m.time ran w (handleShutdown s)
    unfold handleShutdown
    split_ifs
    · exact ⟨w, h⟩
    · exact ⟨w, h.of_same rfl rfl rfl⟩

end Timed

/-! ## Runs -/

/-- How long the print has run after a list of events, at the time of the last one. -/
def ranFor (env : Env) : List (Event × Moment) → Printer → ℚ → ℚ → ℚ × ℚ
  | [], _, now, ran => (now, ran)
  | (e, m) :: es, s, now, ran =>
    ranFor env es (Card.step env m e s) m.time
      (if Renews e s then 0 else if Ticks s then ran + (m.time - now) else ran)

/-- The clock of the events does not go back. -/
def Clocked : ℚ → List (Event × Moment) → Prop
  | _, [] => True
  | now, (_, m) :: es => now ≤ m.time ∧ Clocked m.time es

theorem timed_run (env : Env) (es : List (Event × Moment)) {now ran : ℚ} {w : Stopwatch}
    {x : Printer × Progress} (h : Timed now ran w x.1) (hf : Follows x.2 x.1) (hclock : Clocked now es)
    (hes : Throughout env StartsSound es x.1) :
    ∃ w, Timed (ranFor env es x.1 now ran).1 (ranFor env es x.1 now ran).2 w (run env es x).1 := by
  induction es generalizing now ran w x with
  | nil => exact ⟨w, h⟩
  | cons e es ih =>
    obtain ⟨e, m⟩ := e
    obtain ⟨w', hstep⟩ : ∃ w', Timed m.time _ w' (Card.step env m e x.1) :=
      (h.of_le hclock.1).step hf e hes.1
    exact ih (x := (Card.step env m e x.1, x.2.step env m e x.1)) hstep (hf.step m e) hclock.2 hes.2

theorem timed_booted (now : ℚ) : Timed now 0 .new booted :=
  ⟨Sound.reset now, rfl, fun hidle => absurd rfl hidle,
    iff_of_false (fun ht => ht.1.1 trivial) Stopwatch.new_not_running, fun hended => (by cases hended),
    fun _ => .inl rfl⟩

/-- A query at the end of a run. -/
theorem ranFor_query (env : Env) (es : List (Event × Moment)) (m : Moment) (x : Printer × Progress)
    (now ran : ℚ) :
    (ranFor env (es ++ [(.command .status, m)]) x.1 now ran).2
      = if Ticks (run env es x).1 then
          (ranFor env es x.1 now ran).2 + (m.time - (ranFor env es x.1 now ran).1)
        else (ranFor env es x.1 now ran).2 := by
  induction es generalizing x now ran with
  | nil => rfl
  | cons e es ih =>
    obtain ⟨e, m'⟩ := e
    exact ih (Card.step env m' e x.1, x.2.step env m' e x.1) _ _

/-- **The print time.**  In every run in which no print that ended in an error is started
once more, the print time told and the time before the first extrusion make up the time
that the print has run; if it was cancelled while it was paused, they may make up more. -/
theorem print_time (env : Env) (es : List (Event × Moment)) (now : ℚ) (hclock : Clocked now es)
    (hes : Throughout env StartsSound es booted) (m : Moment)
    (hm : (ranFor env es booted now 0).1 ≤ m.time) :
    let s := (run env es (booted, ⟨0, []⟩)).1
    let told := (s.stats.getStatus m).2.printDuration
    let dry := (s.stats.getStatus m).1.initDuration
    let ran := (ranFor env (es ++ [(.command .status, m)]) booted now 0).2
    0 ≤ told ∧ ran ≤ told + dry ∧ (s.stats.state ≠ .cancelled → told + dry = ran) := by
  obtain ⟨w, h⟩ := timed_run env es (x := (booted, ⟨0, []⟩)) (timed_booted now) follows_booted hclock hes
  have hquery := ranFor_query env es m (booted, ⟨0, []⟩) now 0
  intro s told dry ran
  have hnow : Timed m.time ran w s := by
    have hle := h.of_le hm
    rwa [← hquery] at hle
  obtain ⟨hsound, htold, hpos⟩ := hnow.sound.getStatus le_rfl
  have hidle : 0 ≤ w.idle := by
    cases hphase : w.phase with
    | ready => rw [(hnow.sound.ready hphase).1]; exact le_rfl
    | running since => exact (hnow.sound.running since hphase).2.1.ge
    | stopped since => exact (hnow.sound.stopped since hphase).2.1.ge
    | ended => exact (hnow.sound.ended hphase).2.1
  have hsum : told + dry = ran + w.idle := by
    rw [← hnow.shows]
    linarith [htold]
  refine ⟨hpos, by linarith, fun hstate => ?_⟩
  rw [hsum, not_not.1 (mt hnow.idle hstate), add_zero]

/-- A print that is paused at 4 and goes on at 11. -/
def timedPrint : List (Event × Moment) :=
  [(.command (.m23 "a.gcode"), ⟨0, 0, 1⟩), (.command .m24, ⟨0, 0, 1⟩), (.work ⟨[], [], ""⟩, ⟨1, 0, 1⟩),
    (.work ⟨[], [], ""⟩, ⟨2, 0, 1⟩), (.work ⟨[.cmd .pause], [], ""⟩, ⟨3, 0, 1⟩),
    (.work ⟨[], [], ""⟩, ⟨4, 0, 1⟩), (.command (.resume true), ⟨10, 0, 1⟩), (.work ⟨[], [], ""⟩, ⟨11, 0, 1⟩)]

theorem print_time_paused :
    let s := (run (card "M600\nM84\n") timedPrint (booted, ⟨0, []⟩)).1
    0 ≤ (s.stats.getStatus ⟨15, 0, 1⟩).2.printDuration ∧
      (s.stats.getStatus ⟨15, 0, 1⟩).2.printDuration + (s.stats.getStatus ⟨15, 0, 1⟩).1.initDuration = 7 := by
  have hclock : Clocked 0 timedPrint := by
    simp only [timedPrint, Clocked]
    norm_num
  have hes : Throughout (card "M600\nM84\n") StartsSound timedPrint booted := by
    refine ⟨trivial, fun _ _ => ?_, trivial, trivial, trivial, trivial,
      fun _ _ _ _ _ => ?_, trivial, trivial⟩ <;> decide +kernel
  have hlast : (ranFor (card "M600\nM84\n") timedPrint booted 0 0).1 = 11 := by decide +kernel
  have hran : (ranFor (card "M600\nM84\n") (timedPrint ++ [(.command .status, ⟨15, 0, 1⟩)]) booted 0 0).2 = 7 := by
    decide +kernel
  have hstate : (run (card "M600\nM84\n") timedPrint (booted, ⟨0, []⟩)).1.stats.state ≠ .cancelled := by
    decide +kernel
  obtain ⟨hpos, -, heq⟩ := print_time _ timedPrint 0 hclock hes ⟨15, 0, 1⟩ (by rw [hlast]; norm_num)
  exact ⟨hpos, (heq hstate).trans hran⟩

end Card

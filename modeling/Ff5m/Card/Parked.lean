import Ff5m.Card.Order

/-!
# A paused print

`pause_resume.py` pauses the printer with the card: a pause that was asked for, from
outside or by a line, stops the work timer before the next line.  Only a command that
starts the timer by hand (`M24`, `SDCARD_PRINT_FILE`) gets around it.

* `ParkedInside.execAll`: within a line a pause reaches the timer;
* `Parked.command`, `Parked.work`: from outside it does too;
* `paused_silent`: while the printer is paused no line is handed out.
-/

namespace Card

open TextTools (Text Line)
open GCode (Script Run Failure)

variable {env : Env} {m : Moment}

/-- No round of the timer can hand out a line. -/
def Silent (s : Printer) : Prop := s.sd.work.IsOff ∨ s.sd.mustPauseWork = true

/-- The printer is paused, or a pause has been asked for. -/
def Held (s : Printer) : Prop := s.pauseResume.isPaused = true ∨ s.pauseResume.pauseCommandSent = true

/-- A pause that was asked for has reached the timer. -/
structure Parked (s : Printer) : Prop where
  cmdFromSd : s.sd.cmdFromSd = false
  silent : Held s → Silent s

/-- The same within a line. -/
structure ParkedInside (s : Printer) : Prop where
  cmdFromSd : s.sd.cmdFromSd = true
  work : ¬ s.sd.work.IsOff
  silent : Held s → s.sd.mustPauseWork = true

namespace ParkedInside

variable {s : Printer}

theorem paused (h : ParkedInside s) {s' : Printer}
    (hsd : s'.sd = { s.sd with mustPauseWork := true }) : ParkedInside s' := by
  refine ⟨?_, ?_, fun _ => ?_⟩ <;> rw [hsd]
  · exact h.cmdFromSd
  · exact h.work

theorem sendPause (h : ParkedInside s) (m : Moment) : ParkedInside (sendPauseCommand m s) := by
  unfold sendPauseCommand
  rw [if_neg h.work, doPause_inside h.cmdFromSd h.work]
  split_ifs
  · exact h
  · exact h.paused rfl

theorem sendPause_mustPause (h : ParkedInside s) (m : Moment) :
    (sendPauseCommand m s).sd.mustPauseWork = true := by
  unfold sendPauseCommand
  rw [if_neg h.work, doPause_inside h.cmdFromSd h.work]
  split_ifs with hsent
  · exact h.silent (.inr hsent)
  · rfl

theorem native (h : ParkedInside s) (k : Cmd) : ParkedInside (native env m k s).1 := by
  have hoff := h.work
  have hfree : ∀ sdPaused, ParkedInside { s with pauseResume := ⟨false, sdPaused, false⟩ } :=
    fun _ => ⟨h.cmdFromSd, h.work, fun hheld => absurd hheld (by simp [Held])⟩
  cases k with
  | sdcardResetFile => simpa [Card.native, h.cmdFromSd] using h
  | sdcardPrintFile filename => simpa [Card.native, cmdSdcardPrintFile, hoff] using h
  | m23 filename => simpa [Card.native, cmdM23, hoff] using h
  | m24 => simpa [Card.native, doResume, hoff] using h
  | m25 =>
    simp only [Card.native, doPause_inside h.cmdFromSd hoff]
    exact h.paused rfl
  | m26 pos => simpa [Card.native, hoff] using h
  | setFilePosition pos => exact ⟨h.cmdFromSd, h.work, h.silent⟩
  | sendPauseCommand => exact h.sendPause m
  | pause =>
    simp only [Card.native, cmdPause]
    split_ifs
    · exact h
    · have hsent := h.sendPause m
      exact ⟨hsent.cmdFromSd, hsent.work, fun _ => h.sendPause_mustPause m⟩
  | resume restores =>
    simp only [Card.native, cmdResume, doResume, if_neg hoff]
    split_ifs
    · exact h
    · exact h
    · exact h
    · exact hfree _
  | clearPause => exact hfree _
  | cancelPrint =>
    simp only [Card.native, cmdCancelPrint, hoff, not_false_eq_true, true_or, if_true]
    unfold doCancel
    split_ifs
    · rw [doPause_inside h.cmdFromSd hoff]
      exact ⟨h.cmdFromSd, h.work, fun hheld => absurd hheld (by simp [Held, cmdClearPause])⟩
    · exact ⟨h.cmdFromSd, h.work, fun hheld => absurd hheld (by simp [Held, cmdClearPause])⟩
  | status => exact ⟨h.cmdFromSd, h.work, h.silent⟩
  | other failure => exact h

theorem execAll (h : ParkedInside s) (env : Env) (m : Moment) (b : List Macro) :
    ParkedInside (Script.execAll (Card.native env m) b s).state :=
  (Script.execAll_invariant (I := ParkedInside) (fun k _ ht => ht.native k) b s h).1

end ParkedInside

/-- The timer is not started by hand while the printer is paused.  It is when it is off, and when
there is a file of that name. -/
def LeavesPaused (env : Env) : Event → Printer → Prop
  | .command .m24, s => s.sd.work.IsOff → ¬ Held s
  | .command (.sdcardPrintFile filename), s =>
    s.sd.work.IsOff → filename ≠ "" → (env.findFile true (stripSlash filename)).isSome → ¬ Held s
  | _, _ => True

namespace Parked

variable {s : Printer}

theorem of_off {s' : Printer} (hsd : s'.sd.cmdFromSd = false) (hoff : s'.sd.work.IsOff) : Parked s' :=
  ⟨hsd, fun _ => .inl hoff⟩

theorem of_free {s' : Printer} (hsd : s'.sd.cmdFromSd = false) (hfree : ¬ Held s') : Parked s' :=
  ⟨hsd, fun hheld => absurd hheld hfree⟩

theorem doPause (h : Parked s) (m : Moment) : Parked (doPause m s) := by
  obtain ⟨hwork, hsd, -, -⟩ := doPause_outside m h.cmdFromSd
  exact of_off hsd (by rw [hwork]; trivial)

theorem sendPause (h : Parked s) (m : Moment) :
    Parked (sendPauseCommand m s) ∧ Silent (sendPauseCommand m s) := by
  unfold Card.sendPauseCommand
  split_ifs with hsent hoff
  · exact ⟨h, h.silent (.inr hsent)⟩
  · exact ⟨of_off h.cmdFromSd hoff, .inl hoff⟩
  · obtain ⟨hwork, hsd, -, -⟩ := doPause_outside m h.cmdFromSd
    have hend : (Card.doPause m s).sd.work.IsOff := by rw [hwork]; trivial
    exact ⟨of_off hsd hend, .inl hend⟩

theorem doResume (h : Parked s) (hfree : s.sd.work.IsOff → ¬ Held s) : Parked (doResume s).1 := by
  unfold Card.doResume
  split_ifs with hoff
  · exact of_free h.cmdFromSd (hfree hoff)
  · exact h

theorem resetFile (h : Parked s) (m : Moment) : Parked (resetFile m s) := by
  unfold Card.resetFile
  split_ifs
  · obtain ⟨hwork, hsd, -, -⟩ := doPause_outside m h.cmdFromSd
    refine of_off hsd ?_
    show (Card.doPause m s).sd.work.IsOff
    rw [hwork]
    trivial
  · exact ⟨h.cmdFromSd, h.silent⟩

theorem doCancel_cmdFromSd (h : Parked s) (m : Moment) : (doCancel m s).sd.cmdFromSd = false := by
  unfold doCancel
  split_ifs
  · exact (doPause_outside m h.cmdFromSd).2.1
  · exact h.cmdFromSd

theorem resetFile_held (m : Moment) (hoff : s.sd.work.IsOff) :
    (Card.resetFile m s).pauseResume = s.pauseResume ∧ (Card.resetFile m s).sd.cmdFromSd = s.sd.cmdFromSd ∧
      (Card.resetFile m s).sd.work.IsOff := by
  have hpause : Card.doPause m s = s := by rw [Card.doPause, if_pos hoff]
  unfold Card.resetFile
  rw [hpause]
  split_ifs <;> exact ⟨rfl, rfl, hoff⟩

/-- Loading a file starts nothing. -/
theorem loadFile (env : Env) (s : Printer) (checkSubdirs : Bool) (filename : String) :
    (loadFile env checkSubdirs filename s).1.pauseResume = s.pauseResume ∧
      (loadFile env checkSubdirs filename s).1.sd.cmdFromSd = s.sd.cmdFromSd ∧
      (loadFile env checkSubdirs filename s).1.sd.work = s.sd.work := by
  unfold Card.loadFile
  cases env.findFile checkSubdirs filename <;> exact ⟨rfl, rfl, rfl⟩

/-- A command from outside that does not start the timer while the printer is paused. -/
theorem command (h : Parked s) (m : Moment) (c : Cmd) (hok : LeavesPaused env (.command c) s) :
    Parked (native env m c s).1 := by
  cases c with
  | sdcardResetFile =>
    simp only [native, h.cmdFromSd, Bool.false_eq_true, if_false]
    exact h.resetFile m
  | sdcardPrintFile filename =>
    simp only [native, cmdSdcardPrintFile]
    split_ifs with hoff hempty
    · exact h.resetFile m
    · have hfree := hok hoff hempty
      obtain ⟨hheld, hsd, hend⟩ := resetFile_held m hoff
      obtain ⟨hheld', hsd', hend'⟩ :=
        loadFile env (Card.resetFile m s) true (stripSlash filename)
      have hload : Parked (Card.loadFile env true (stripSlash filename) (Card.resetFile m s)).1 :=
        of_off (hsd'.trans (hsd.trans h.cmdFromSd)) (by rwa [hend'])
      have hfree' : (Card.loadFile env true (stripSlash filename) (Card.resetFile m s)).2 = none →
          ¬ Held (Card.loadFile env true (stripSlash filename) (Card.resetFile m s)).1 := by
        intro hfound
        unfold Held
        rw [hheld', hheld]
        refine hfree ?_
        unfold Card.loadFile at hfound
        cases hfile : env.findFile true (stripSlash filename) with
        | none => simp [hfile] at hfound
        | some f => rfl
      revert hload hfree'
      rcases Card.loadFile env true (stripSlash filename) (Card.resetFile m s) with ⟨t, - | e⟩
      · exact fun hload hfree' => hload.doResume fun _ => hfree' rfl
      · exact fun hload _ => hload
    · exact h
  | m23 filename =>
    simp only [native, cmdM23]
    split_ifs with hoff
    · obtain ⟨-, hsd, hend⟩ := resetFile_held m hoff
      obtain ⟨-, hsd', hend'⟩ :=
        loadFile env (Card.resetFile m s) false (stripSlash filename)
      exact of_off (hsd'.trans (hsd.trans h.cmdFromSd)) (by rwa [hend'])
    · exact h
  | m24 => exact h.doResume hok
  | m25 => exact h.doPause m
  | m26 pos =>
    simp only [native]
    split_ifs
    · exact ⟨h.cmdFromSd, h.silent⟩
    · exact h
  | setFilePosition pos => exact ⟨h.cmdFromSd, h.silent⟩
  | sendPauseCommand => exact (h.sendPause m).1
  | pause =>
    simp only [native, cmdPause]
    split_ifs
    · exact h
    · obtain ⟨hsent, hsilent⟩ := h.sendPause m
      exact ⟨hsent.cmdFromSd, fun _ => hsilent⟩
  | resume restores =>
    simp only [native, cmdResume]
    split_ifs
    · exact h
    · exact h
    · unfold Card.doResume
      split_ifs
      · exact of_free h.cmdFromSd (by simp [Held])
      · exact h
    · exact of_free h.cmdFromSd (by simp [Held])
  | clearPause => exact of_free h.cmdFromSd (by simp [Held, native, cmdClearPause])
  | cancelPrint =>
    simp only [native, cmdCancelPrint]
    split_ifs
    · exact of_free (h.doCancel_cmdFromSd m) (by simp [Held, cmdClearPause])
    · exact of_free h.cmdFromSd (by simp [Held, cmdClearPause])
  | status => exact ⟨h.cmdFromSd, h.silent⟩
  | other failure => exact h

/-- A round of the timer. -/
theorem work (h : Parked s) (m : Moment) (b : Behaviour) : Parked (workHandler env m b s) := by
  unfold workHandler
  cases hwork : s.sd.work with
  | off => exact h
  | registered =>
    unfold startWork
    cases s.sd.currentFile with
    | none => exact of_off h.cmdFromSd trivial
    | some f =>
      refine ⟨h.cmdFromSd, fun hheld => .inr ?_⟩
      exact (h.silent hheld).resolve_left (by rw [hwork]; exact fun hoff => hoff)
  | looping rest q ls =>
    by_cases hmust : s.sd.mustPauseWork = true
    · simp only [hmust, if_true]
      exact of_off rfl trivial
    · simp only [hmust, Bool.false_eq_true, if_false]
      have hfree : ¬ Held s := fun hheld =>
        (h.silent hheld).elim (by rw [hwork]; exact fun hoff => hoff) hmust
      cases ls with
      | nil =>
        unfold readMore
        rcases rest with - | - | ⟨c, cs⟩
        · exact of_off rfl trivial
        · exact of_off rfl trivial
        · exact of_free h.cmdFromSd hfree
      | cons l ls =>
        have hout : ParkedInside (handOut rest q l ls s) :=
          ⟨rfl, fun hoff => hoff, fun hheld => absurd hheld hfree⟩
        have hin := hout.execAll env m b.script
        set run := Script.execAll (native env m) b.script (handOut rest q l ls s)
        have hpaused : Held run.state → Silent run.state := fun hheld => .inr (hin.silent hheld)
        simp only [finishLine]
        cases hraised : run.raised with
        | some e => cases e <;> exact of_off rfl trivial
        | none =>
          simp only [advance]
          split_ifs
          · exact ⟨rfl, hpaused⟩
          · cases run.state.sd.currentFile with
            | none => exact of_off rfl trivial
            | some f => exact ⟨rfl, fun hheld => .inr (hin.silent hheld)⟩

end Parked

/-- Every event of the run meets a condition on itself and on the printer. -/
def Throughout (env : Env) (ok : Event → Printer → Prop) : List (Event × Moment) → Printer → Prop
  | [], _ => True
  | (e, m) :: es, s => ok e s ∧ Throughout env ok es (step env m e s)

theorem parked_run (env : Env) (es : List (Event × Moment)) {x : Printer × Progress}
    (h : Parked x.1) (hes : Throughout env (LeavesPaused env) es x.1) : Parked (run env es x).1 := by
  induction es generalizing x with
  | nil => exact h
  | cons e es ih =>
    obtain ⟨e, m⟩ := e
    refine ih ?_ hes.2
    cases e with
    | command c => exact h.command m c hes.1
    | work b => exact h.work m b
    | shutdown =>
      show Parked (handleShutdown x.1)
      unfold handleShutdown
      split_ifs
      · exact h
      · exact ⟨h.cmdFromSd, fun _ => .inr rfl⟩

/-- **A paused print.**  In every run in which the timer is not started by hand while the
printer is paused, no line is handed out while it is. -/
theorem paused_silent (env : Env) (es : List (Event × Moment))
    (hes : Throughout env (LeavesPaused env) es booted)
    (hpaused : (run env es (booted, ⟨0, []⟩)).1.pauseResume.isPaused = true) :
    nextLine (run env es (booted, ⟨0, []⟩)).1 = none := by
  have h := parked_run env es (x := (booted, ⟨0, []⟩)) ⟨rfl, fun _ => .inl trivial⟩ hes
  generalize run env es (booted, ⟨0, []⟩) = x at h hpaused ⊢
  by_contra hnext
  obtain ⟨l, hl⟩ := Option.ne_none_iff_exists'.1 hnext
  obtain ⟨rest, q, ls, hwork⟩ := looping_of_nextLine hl
  rcases h.silent (.inl hpaused) with hoff | hmust
  · rw [hwork] at hoff
    exact hoff
  · rw [nextLine, hwork] at hl
    simp [hmust] at hl

/-- A line that pauses the print is the last one handed out. -/
theorem paused_silent_line :
    nextLine (run (card "M600\nM84\n")
      [(.command (.m23 "a.gcode"), ⟨0, 0, 1⟩), (.command .m24, ⟨0, 0, 1⟩),
        (.work ⟨[], [], ""⟩, ⟨0, 0, 1⟩), (.work ⟨[], [], ""⟩, ⟨0, 0, 1⟩),
        (.work ⟨[.cmd .pause], [], ""⟩, ⟨0, 0, 1⟩)] (booted, ⟨0, []⟩)).1 = none := by
  refine paused_silent _ _ ⟨?_, ?_, trivial, trivial, trivial, trivial⟩ (by decide +kernel)
  · trivial
  · intro _
    unfold Held
    decide +kernel

end Card

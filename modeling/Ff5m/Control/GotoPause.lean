import Ff5m.Control.Macros

/-!
# Parking the head at a pause

In screen mode `PAUSE` passes `M25` on to the native screen, the screen answers with
`M25`, and both macros arm `_GOTO_PAUSE`, which ten seconds later moves the head to
the rear corner.  Only `START_PRINT` disarms it.

* `Pausing`: while the timer is pending the print is paused, or the screen has yet
  to answer a `PAUSE`;
* `parks_only_paused`: as long as a print that is paused is left alone until the
  timer has run, and a `PAUSE` is answered before, the head is moved only during a
  pause.

Nothing but the clock stands between a resume and the timer: a print that is
resumed within ten seconds is moved all the same (`parks_while_printing`).
-/

namespace Control

open GCode

/-! ## Watching the pause -/

/-- The printer, with whether the print has been ended or cancelled, and whether
the screen still has to answer a `PAUSE`. -/
structure Observed where
  printer : Printer
  ended : Bool
  awaiting : Bool

/-- The command ends the print; a refused start cancels it, if it comes to that. -/
def Event.ends : Event → Bool
  | .give .END_PRINT _ | .give (.CANCEL_PRINT ..) _ | .give (.START_PRINT true _ _ _ false) _ => true
  | _ => false

/-- Whether an answer of the screen is due after the event: `PAUSE` asks for one
while the card is being printed from, `M25` is one. -/
def Event.asks (p : Printer) (awaiting : Bool) : Event → Bool
  | .give .PAUSE _ => p.sd = .printing
  | .give .M25 _ => false
  | _ => awaiting

/-- One event, observed: a print that begins or goes on is not ended. -/
def observe (e : Event) (w : Observed) : Run Cmd Observed :=
  let r := step e w.printer
  { state :=
      { printer := r.state
        ended := if w.printer.sd ≠ .printing ∧ r.state.sd = .printing then false else w.ended || e.ends
        awaiting := e.asks w.printer w.awaiting }
    log := r.log.map fun x => (x.1, ⟨x.2, w.ended, w.awaiting⟩)
    raised := r.raised }

/-- The timer of the head, `_GOTO_PAUSE`. -/
abbrev Printer.gotoPause (p : Printer) : Delayed ℕ (List Line) := p.timers .GOTO_PAUSE

/-- The print is paused. -/
def Paused (w : Observed) : Prop := w.printer.sd = .paused ∧ w.ended = false

/-- What is promised of one event: when the script of the timer runs, the print is
paused. -/
def ParksPaused (e : Event) (w : Observed) : Prop :=
  match e with
  | .run .GOTO_PAUSE => w.printer.gotoPause.inside.isSome → Paused w
  | _ => True

/-- The condition on each event: `PAUSE` and `M25` are given while a print is
going on or paused; whatever takes the print out of the pause comes when the timer
is not pending, a start that is refused when its script does not wait; and the
script runs when the screen has answered. -/
def InTime (e : Event) (w : Observed) : Prop :=
  match e with
  | .give .PAUSE _ | .give .M25 _ =>
    (w.printer.sd = .printing ∨ w.printer.sd = .paused) ∧ w.ended = false
  | .give .M23 _ | .give .M24 _ | .give (.SDCARD_PRINT_FILE _) _ =>
    w.printer.sd = .printing ∨ ¬ w.printer.gotoPause.Pending
  | .give .END_PRINT _ | .give (.CANCEL_PRINT ..) _ => ¬ w.printer.gotoPause.Pending
  | .give (.START_PRINT refused ..) _ => refused → w.printer.gotoPause.inside = none
  | .fileEnds => w.printer.sd = .printing → ¬ w.printer.gotoPause.Pending
  | .run .GOTO_PAUSE => w.printer.gotoPause.inside.isSome → w.awaiting = false
  | _ => True

/-! ## What the commands do to the timer -/

/-- The command at most disarms the timer. -/
def Cmd.Disarming (id : Timer) : Cmd → Prop
  | .updateDelayedGcode id' duration => id = id' → duration = 0
  | _ => True

theorem native_pending {id : Timer} {k : Cmd} (hk : k.Disarming id) (p : Printer)
    (h : ((native k p).1.timers id).Pending) : (p.timers id).Pending := by
  by_cases hs : k.Spares id
  · rwa [native_timers hs] at h
  · cases k with
    | updateDelayedGcode id' duration =>
      obtain rfl : id = id' := not_not.1 hs
      obtain rfl : duration = 0 := hk rfl
      cases hin : (p.timers id).inside with
      | some x => exact .inr (by rw [hin]; rfl)
      | none =>
        have hnot : ¬ ((p.setTimer id (.update p.now 0 p.prints)).timers id).Pending := by
          rw [timers_setTimer]
          exact Delayed.not_pending_update_zero hin _ _
        exact absurd h hnot
    | _ => exact absurd trivial hs

/-- A script of such commands arms nothing. -/
theorem pending_of_exec {id : Timer} {c : Macro} (h : c.Only (Cmd.Disarming id)) (p : Printer)
    (hp : ((c.exec native p).state.timers id).Pending) : (p.timers id).Pending :=
  h.rel (R := fun p q => (q.timers id).Pending → (p.timers id).Pending) (fun _ h => h)
    (fun _ _ _ hab hbc h => hab (hbc h)) (fun _ hk p => native_pending hk p) p hp

/-- No macro but `PAUSE` and `M25` arms the timer of the head. -/
def Command.Parks : Command → Prop
  | .PAUSE | .M25 => True
  | _ => False

theorem stop_disarming (id : Timer) (st : Settings) : (stop st).Only (Cmd.Disarming id) := by
  simp [stop, Settings.attempt, Cmd.Disarming]

theorem closeDialogs_disarming (st : Settings) :
    Script.OnlyAll (Cmd.Disarming .GOTO_PAUSE) (closeDialogs st) := by
  simp [closeDialogs, Cmd.Disarming]

theorem stopMotor_disarming (st : Settings) :
    Script.OnlyAll (Cmd.Disarming .GOTO_PAUSE) (stopMotor st) := by
  simp [stopMotor, Cmd.Disarming]

theorem autoReboot_disarming (st : Settings) :
    Script.OnlyAll (Cmd.Disarming .GOTO_PAUSE) (autoReboot st) := by
  simp [autoReboot, Cmd.Disarming]

theorem resume_disarming : resume.Only (Cmd.Disarming .GOTO_PAUSE) := by
  refine Script.only_call.2 fun p => ?_
  cases p.mode <;> simp [Cmd.Disarming]

theorem cancelPrint_disarming (st : Settings) :
    (cancelPrint st).Only (Cmd.Disarming .GOTO_PAUSE) := by
  refine Script.only_call.2 fun p => ?_
  cases p.mode with
  | screen => simp [stop_disarming, closeDialogs_disarming, stopMotor_disarming, Cmd.Disarming]
  | displayOff => simp [commonEndPrint, stop_disarming, stopMotor_disarming, Cmd.Disarming]

theorem preparing_disarming (refused : Bool) (extruderTemp bedTemp : ℚ) (st : Settings) :
    Script.OnlyAll (Cmd.Disarming .GOTO_PAUSE) (preparing refused extruderTemp bedTemp st) := by
  simp [preparing, refuseMd5, Settings.attempt, cancelPrint_disarming, Cmd.Disarming]

theorem disarming_of_not_parks {c : Command} (hc : ¬ c.Parks) (st : Settings) :
    (c.script st).Only (Cmd.Disarming .GOTO_PAUSE) := by
  cases c with
  | PAUSE => exact absurd trivial hc
  | M25 => exact absurd trivial hc
  | M23 => simp [Command.script, Cmd.Disarming]
  | M24 =>
    refine Script.only_call.2 fun p => ?_
    cases p.mode <;> simp [resume_disarming, Cmd.Disarming]
  | RESUME => exact resume_disarming
  | SDCARD_PRINT_FILE found => simp [Command.script, sdcardPrintFile, Cmd.Disarming]
  | START_PRINT refused reaches extruderTemp bedTemp faulty =>
    simp [Command.script, startPrint, resetting, preparing_disarming, Cmd.Disarming]
  | CANCEL_PRINT sender reaches => exact cancelPrint_disarming st
  | END_PRINT =>
    refine Script.only_call.2 fun p => ?_
    cases p.mode with
    | screen =>
      simp [stop_disarming, closeDialogs_disarming, stopMotor_disarming, autoReboot_disarming,
        Cmd.Disarming]
    | displayOff =>
      simp [commonEndPrint, stop_disarming, stopMotor_disarming, autoReboot_disarming, Cmd.Disarming]
  | SPEED_SET zspeed => simp [Command.script, speedSet, Cmd.Disarming]

/-! ## What the commands do to the print -/

/-- The commands that leave the card alone. -/
def Command.Aside : Command → Prop
  | .PAUSE | .RESUME | .SPEED_SET _ | .START_PRINT false .. | .START_PRINT true _ _ _ true => True
  | _ => False

theorem aside_idle {c : Command} (hc : c.Aside) (st : Settings) {p : Printer}
    (hm : p.mode = .screen) : ((c.script st).exec native p).state.sd = p.sd := by
  have frame : ∀ cs : List Macro, Script.OnlyAll Cmd.Idle cs →
      (Script.execAll native cs p).state.sd = p.sd :=
    fun cs h => h.frame (f := Printer.sd) (fun _ hk => native_sd hk) p
  cases c with
  | PAUSE =>
    rw [Command.script, pause, Script.exec_call, hm]
    exact frame _ (by simp [Cmd.Idle])
  | RESUME =>
    rw [Command.script, resume, Script.exec_call, hm]
    exact frame _ (by simp [Cmd.Idle])
  | SPEED_SET zspeed =>
    rw [Command.script, speedSet, Script.exec_call]
    exact frame _ (by simp [Cmd.Idle])
  | START_PRINT refused reaches extruderTemp bedTemp faulty =>
    rw [Command.script]
    cases faulty with
    | true => rw [startPrint_faulty]
    | false =>
      cases refused with
      | true => exact hc.elim
      | false =>
        rw [startPrint, Script.exec_call]
        exact frame _ (by simp [resetting, preparing, Settings.attempt, Cmd.Idle])
  | _ => exact hc.elim

/-- Going on, selecting and starting are refused while the card is being printed
from. -/
theorem m24_busy (st : Settings) {p : Printer} (hm : p.mode = .screen) (hsd : p.sd = .printing) :
    ((Command.M24.script st).exec native p).state.sd = p.sd := by
  simp [Command.script, m24, hm, native, doResume, hsd]

theorem m23_busy (st : Settings) {p : Printer} (hsd : p.sd = .printing) :
    ((Command.M23.script st).exec native p).state.sd = p.sd := by
  simp [Command.script, native, cmdM23, hsd]

theorem sdcardPrintFile_busy (found : Bool) (st : Settings) {p : Printer} (hsd : p.sd = .printing) :
    (((Command.SDCARD_PRINT_FILE found).script st).exec native p).state.sd = p.sd := by
  simp [Command.script, sdcardPrintFile, native, cmdSdcardPrintFile, hsd]

/-- `M25` pauses a print. -/
theorem m25_pauses (st : Settings) {p : Printer} (hm : p.mode = .screen)
    (hsd : p.sd = .printing ∨ p.sd = .paused) :
    ((Command.M25.script st).exec native p).state.sd = .paused := by
  rcases hsd with hsd | hsd <;>
    simp [Command.script, m25, hm, native, doPause, hsd, Printer.setTimer]

/-- A start disarms the timer unless its script waits, and what follows does not arm
it again. -/
theorem startPrint_disarms (refused : Bool) (extruderTemp bedTemp : ℚ) (st : Settings) {p : Printer}
    (hin : p.gotoPause.inside = none) :
    ¬ ((startPrint refused extruderTemp bedTemp false st).exec native p).state.gotoPause.Pending := by
  obtain ⟨q, log, hreset, -, -, htimers⟩ := resetting_exec p
  have hq : ¬ q.gotoPause.Pending := by
    rw [Printer.gotoPause, htimers .GOTO_PAUSE (by simp)]
    exact Delayed.not_pending_update_zero hin _ _
  have hrest := preparing_disarming refused extruderTemp bedTemp st
  rw [startPrint_started, hreset, Run.andThen_mk_none]
  intro hp
  refine hq (pending_of_exec hrest.call q ?_)
  rwa [Script.exec_call]

/-! ## One event -/

/-- While the timer is pending the print is paused, or going on with an answer of
the screen still due. -/
structure Pausing (w : Observed) : Prop where
  mode : w.printer.mode = .screen
  pending : w.printer.gotoPause.Pending →
    w.ended = false ∧ (w.printer.sd = .paused ∨ w.printer.sd = .printing ∧ w.awaiting = true)

theorem Pausing.unarmed {e : Event} {w : Observed} (h : Pausing w)
    (hp : ¬ (step e w.printer).state.gotoPause.Pending) : Pausing (observe e w).state :=
  ⟨(step_mode e w.printer).trans h.mode, fun hpending => absurd hpending hp⟩

/-- An event that leaves the card alone, ends nothing, and does not arm the timer. -/
theorem Pausing.kept {e : Event} {w : Observed} (h : Pausing w)
    (hsd : (step e w.printer).state.sd = w.printer.sd) (hends : e.ends = false)
    (hasks : e.asks w.printer w.awaiting = w.awaiting)
    (hp : (step e w.printer).state.gotoPause.Pending → w.printer.gotoPause.Pending) :
    Pausing (observe e w).state := by
  refine ⟨(step_mode e w.printer).trans h.mode, fun hpending => ?_⟩
  obtain ⟨hended, hpaused⟩ := h.pending (hp hpending)
  have hstill : ¬ (w.printer.sd ≠ .printing ∧ w.printer.sd = .printing) := fun hsame => hsame.1 hsame.2
  simp only [observe, hsd, hends, hasks, if_neg hstill, Bool.or_false]
  exact ⟨hended, hpaused⟩

theorem Pausing.pause {w : Observed} (h : Pausing w) (st : Settings)
    (hin : InTime (.give .PAUSE st) w) : Pausing (observe (.give .PAUSE st) w).state := by
  obtain ⟨hsd, hended⟩ := hin
  have hsame : (step (.give .PAUSE st) w.printer).state.sd = w.printer.sd :=
    aside_idle (c := .PAUSE) trivial st h.mode
  refine ⟨(step_mode _ _).trans h.mode, fun _ => ?_⟩
  have hstill : ¬ (w.printer.sd ≠ .printing ∧ w.printer.sd = .printing) := fun hboth => hboth.1 hboth.2
  simp only [observe, hsame, if_neg hstill, hended, Event.ends, Event.asks]
  rcases hsd with hsd | hsd <;> simp [hsd]

theorem Pausing.m25 {w : Observed} (h : Pausing w) (st : Settings)
    (hin : InTime (.give .M25 st) w) : Pausing (observe (.give .M25 st) w).state := by
  obtain ⟨hsd, hended⟩ := hin
  have hpaused : (step (.give .M25 st) w.printer).state.sd = .paused := m25_pauses st h.mode hsd
  refine ⟨(step_mode _ _).trans h.mode, fun _ => ⟨?_, .inl hpaused⟩⟩
  simp [observe, hpaused, hended, Event.ends]

/-- The script of a timer leaves the card and the pending timers as they are, and is
itself pending afterwards only if it was before. -/
theorem run_kept (id : Timer) (p : Printer) :
    (step (.run id) p).state.sd = p.sd ∧
      ((step (.run id) p).state.gotoPause.Pending → p.gotoPause.Pending) := by
  cases hx : (p.timers id).inside with
  | none =>
    rw [step_run_none hx]
    exact ⟨rfl, fun hp => hp⟩
  | some x =>
    have hidle : Script.OnlyAll Cmd.Idle (Line.macros x.script) :=
      onlyAll_macros (fun _ => trivial) (fun _ => trivial) _
    have hspares : Script.OnlyAll (Cmd.Spares .GOTO_PAUSE) (Line.macros x.script) :=
      onlyAll_macros (fun _ => trivial) (fun _ => trivial) _
    have hsame := hspares.frame (f := fun p : Printer => p.gotoPause) (fun _ hk => native_timers hk) p
    rw [step_run_some hx]
    refine ⟨hidle.frame (f := Printer.sd) (fun _ hk => native_sd hk) p, fun hp => ?_⟩
    by_cases hid : Timer.GOTO_PAUSE = id
    · subst hid
      exact .inr (by rw [hx]; rfl)
    · rw [Printer.gotoPause, timers_setTimer_of_ne hid] at hp
      exact hsame ▸ hp

/-- The step lemma. -/
theorem observe_pausing {e : Event} {w : Observed} (h : Pausing w) (hin : InTime e w) :
    Pausing (observe e w).state ∧ ParksPaused e w := by
  have spared : ∀ {c : Command} {st : Settings}, ¬ c.Parks →
      ((step (.give c st) w.printer).state.gotoPause.Pending → w.printer.gotoPause.Pending) :=
    fun hc hp => pending_of_exec (disarming_of_not_parks hc _) _ hp
  cases e with
  | tick dt => exact ⟨h.kept rfl rfl rfl fun hp => hp, trivial⟩
  | expire id st =>
    refine ⟨h.kept rfl rfl rfl fun hp => ?_, trivial⟩
    by_cases hid : Timer.GOTO_PAUSE = id
    · subst hid
      rw [step, Printer.gotoPause, timers_setTimer] at hp
      exact (Delayed.pending_expire_iff _ _).1 hp
    · rwa [step, Printer.gotoPause, timers_setTimer_of_ne hid] at hp
  | run id =>
    obtain ⟨hsd, hp⟩ := run_kept id w.printer
    refine ⟨h.kept hsd rfl rfl hp, ?_⟩
    cases id with
    | GOTO_PAUSE =>
      intro hinside
      obtain ⟨hended, hpaused⟩ := h.pending (.inr hinside)
      refine ⟨hpaused.resolve_right fun hprinting => ?_, hended⟩
      rw [hin hinside] at hprinting
      exact Bool.false_ne_true hprinting.2
    | _ => trivial
  | fileEnds =>
    refine ⟨?_, trivial⟩
    by_cases hsd : w.printer.sd = .printing
    · refine h.unarmed ?_
      simpa [step, hsd] using hin hsd
    · exact h.kept (by simp [step, hsd]) rfl rfl (by simp [step, hsd])
  | give c st =>
    refine ⟨?_, trivial⟩
    cases c with
    | PAUSE => exact h.pause st hin
    | M25 => exact h.m25 st hin
    | RESUME => exact h.kept (aside_idle (c := .RESUME) trivial st h.mode) rfl rfl (spared id)
    | SPEED_SET zspeed =>
      exact h.kept (aside_idle (c := .SPEED_SET zspeed) trivial st h.mode) rfl rfl (spared id)
    | M23 =>
      rcases hin with hsd | hp
      · exact h.kept (m23_busy st hsd) rfl rfl (spared id)
      · exact h.unarmed fun hpending => hp (spared id hpending)
    | M24 =>
      rcases hin with hsd | hp
      · exact h.kept (m24_busy st h.mode hsd) rfl rfl (spared id)
      · exact h.unarmed fun hpending => hp (spared id hpending)
    | SDCARD_PRINT_FILE found =>
      rcases hin with hsd | hp
      · exact h.kept (sdcardPrintFile_busy found st hsd) rfl rfl (spared id)
      · exact h.unarmed fun hpending => hp (spared id hpending)
    | END_PRINT => exact h.unarmed fun hpending => hin (spared id hpending)
    | CANCEL_PRINT sender reaches => exact h.unarmed fun hpending => hin (spared id hpending)
    | START_PRINT refused reaches extruderTemp bedTemp faulty =>
      cases refused with
      | false =>
        exact h.kept
          (aside_idle (c := .START_PRINT false reaches extruderTemp bedTemp faulty) trivial st h.mode)
          rfl rfl (spared id)
      | true =>
        cases faulty with
        | false => exact h.unarmed (startPrint_disarms true extruderTemp bedTemp st (hin rfl))
        | true =>
          exact h.kept
            (aside_idle (c := .START_PRINT true reaches extruderTemp bedTemp true) trivial st h.mode)
            rfl rfl (spared id)

/-! ## Main results -/

/-- **Parking only during a pause.**  In a run in screen mode that starts with the
timer unarmed and whose events all meet the condition, the print is paused whenever
the script of `_GOTO_PAUSE` runs. -/
theorem parks_only_paused {w : Observed} (hm : w.printer.mode = .screen)
    (hw : ¬ w.printer.gotoPause.Pending) {es : List Event} (hes : Along observe InTime es w) :
    Along observe ParksPaused es w :=
  along_of_invariant (fun _ _ h hin => observe_pausing h hin) es w
    ⟨hm, fun hp => absurd hp hw⟩ hes

/-! ## A run of each kind -/

/-- A print is started, and paused by `M25`. -/
def startAndPause : List Event := [.give (.SDCARD_PRINT_FILE true) shipped, .give .M25 shipped]

/-- Ten seconds pass, and the script of the timer gets its turn. -/
def waitAndPark : List Event := [.tick 10, .expire .GOTO_PAUSE shipped, .run .GOTO_PAUSE]

/-- A print that stays paused is parked. -/
theorem parks_only_paused_left_alone :
    Along observe ParksPaused (startAndPause ++ waitAndPark) ⟨booted, false, false⟩ := by
  refine parks_only_paused rfl (by decide)
    ⟨.inr ?_, ⟨.inl ?_, ?_⟩, trivial, trivial, fun _ => ?_, trivial⟩ <;> decide

/-- A print that is resumed before the ten seconds are over is moved while it goes
on. -/
theorem parks_while_printing :
    ¬ ∀ (w : Observed) (es : List Event), w.printer.mode = .screen → ¬ w.printer.gotoPause.Pending →
      Along observe ParksPaused es w := by
  intro h
  have hrun := h ⟨booted, false, false⟩ (startAndPause ++ [.give .M24 shipped] ++ waitAndPark) rfl
    (by decide)
  have hparks : Paused _ := hrun.2.2.2.2.2.1 (by decide)
  exact absurd hparks.1 (by decide)

end Control

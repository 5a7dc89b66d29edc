import Ff5m.Control.Macros

/-!
# Timers of an earlier print

`END_PRINT`, `CANCEL_PRINT` and the macro that restores the speed arm timers that run
for up to two minutes, so the next print may begin before they expire.
`START_PRINT` disarms `_STOP_MOTOR` and `_AUTO_REBOOT`, but not a script of theirs
that has been rendered and waits for the mutex, and it leaves `_SET_SPEED1` and
`_SET_SPEED2` alone; `SDCARD_PRINT_FILE` disarms nothing.

* `Fresh`: what is in force of the four timers was armed by the print that is
  going on, as far as that print has got;
* `fresh_runs`: if nothing of the kind is left over when a print begins, and no
  leftover comes due between `SDCARD_PRINT_FILE` and `START_PRINT`, no timer of an
  earlier print runs in a later one.

A speed that was set a minute before a print begins is set again in the middle of it
(`stale_speed_runs`).
-/

namespace Control

open GCode

/-! ## The stages of a print -/

/-- How far a print has got: it was started from the screen and has not come to
`START_PRINT` yet, or `SDCARD_PRINT_FILE` has started it, or it has been through
`START_PRINT`. -/
inductive Stage where
  | loading
  | begun
  | started
  deriving DecidableEq

/-- The printer, and the stage of its print. -/
structure Staged where
  printer : Printer
  stage : Stage

/-- A print is going on or paused. -/
def Loaded (p : Printer) : Prop := p.sd = .printing ∨ p.sd = .paused

instance (p : Printer) : Decidable (Loaded p) :=
  inferInstanceAs (Decidable (p.sd = .printing ∨ p.sd = .paused))

/-- The stage after an event that led from the printer `p` to the run `r`. -/
def Event.stage (p : Printer) (r : Run Cmd Printer) (stage : Stage) : Event → Stage
  | .give (.SDCARD_PRINT_FILE _) _ => if r.raised = none then .begun else stage
  | .give (.START_PRINT ..) _ => if r.raised = none ∧ Loaded p then .started else stage
  | _ => if r.state.prints = p.prints then stage else .loading

/-- One event. -/
def advance (e : Event) (w : Staged) : Run Cmd Staged :=
  let r := step e w.printer
  { state := ⟨r.state, e.stage w.printer r w.stage⟩
    log := r.log.map fun x => (x.1, ⟨x.2, w.stage⟩)
    raised := r.raised }

/-- The timers that `START_PRINT` disarms, of those that must not outlive a print. -/
def resetTimers : List Timer := [.STOP_MOTOR, .AUTO_REBOOT]

/-- Those that it does not disarm. -/
def speedTimers : List Timer := [.SET_SPEED1, .SET_SPEED2]

/-- What is promised of one event: once `SDCARD_PRINT_FILE` or `START_PRINT` has
completed, a script of one of the four timers that runs was armed by the print
that is going on. -/
def FreshRun (e : Event) (w : Staged) : Prop :=
  match e with
  | .run id => id ∈ resetTimers ++ speedTimers → w.stage ≠ .loading → Loaded w.printer →
      ∀ x ∈ (w.printer.timers id).inside, ¬ x.tag < w.printer.prints
  | _ => True

/-- The condition on each event.  When `SDCARD_PRINT_FILE` begins a print, the speed
timers are not pending and no script of the others waits; when a print comes to
`START_PRINT`, the same, except for what that print itself has armed; and between
the two no timer comes due that an earlier print armed. -/
def Spaced (e : Event) (w : Staged) : Prop :=
  match e with
  | .give (.SDCARD_PRINT_FILE true) _ => w.printer.sd ≠ .printing →
      (∀ id ∈ speedTimers, ¬ (w.printer.timers id).Pending) ∧
      ∀ id ∈ resetTimers, (w.printer.timers id).inside = none
  | .give (.START_PRINT false ..) _ => Loaded w.printer → w.stage = .loading →
      (∀ id ∈ speedTimers, (w.printer.timers id).All (· = w.printer.prints)) ∧
      ∀ id ∈ resetTimers, ∀ x ∈ (w.printer.timers id).inside, x.tag = w.printer.prints
  | .expire id _ => id ∈ resetTimers → w.stage = .begun → Loaded w.printer →
      ∀ a ∈ (w.printer.timers id).wake, a.1 ≤ w.printer.now → a.2 = w.printer.prints
  | _ => True

/-! ## What the commands do to the timers -/

/-- The command does not start a print. -/
def Cmd.Settled : Cmd → Prop
  | .m24 | .sdcardPrintFileBase _ | .resumeBase => False
  | _ => True

/-- What commands that start no print do: a timer is armed for the print that is
going on, and no print is loaded. -/
structure Evolves (p q : Printer) : Prop where
  prints : q.prints = p.prints
  loaded : Loaded q → Loaded p
  tidy : ∀ id, (p.timers id).Tidy → (q.timers id).Tidy
  inside : ∀ id, (q.timers id).inside = (p.timers id).inside
  all : ∀ id, (p.timers id).All (· = p.prints) → (q.timers id).All (· = p.prints)

theorem Evolves.refl (p : Printer) : Evolves p p :=
  ⟨rfl, fun h => h, fun _ h => h, fun _ => rfl, fun _ h => h⟩

theorem Evolves.trans {p q r : Printer} (h : Evolves p q) (h' : Evolves q r) : Evolves p r := by
  refine ⟨h'.prints.trans h.prints, fun hl => h.loaded (h'.loaded hl),
    fun id ht => h'.tidy id (h.tidy id ht), fun id => (h'.inside id).trans (h.inside id),
    fun id ha => ?_⟩
  have hall := h'.all id
  rw [h.prints] at hall
  exact hall (h.all id ha)

theorem evolves_of_timers {p q : Printer} (ht : q.timers = p.timers) (hp : q.prints = p.prints)
    (hl : Loaded q → Loaded p) : Evolves p q :=
  ⟨hp, hl, fun id h => ht ▸ h, fun id => by rw [ht], fun id h => ht ▸ h⟩

theorem evolves_update (id : Timer) (duration : ℕ) (p : Printer) :
    Evolves p (p.setTimer id (.update p.now duration p.prints)) := by
  have timer : ∀ id', (p.setTimer id (.update p.now duration p.prints)).timers id' = p.timers id' ∨
      (p.setTimer id (.update p.now duration p.prints)).timers id'
        = (p.timers id').update p.now duration p.prints := by
    intro id'
    by_cases hid : id' = id
    · exact .inr (hid ▸ timers_setTimer ..)
    · exact .inl (timers_setTimer_of_ne hid ..)
  refine ⟨rfl, fun h => h, fun id' ht => ?_, fun id' => ?_, fun id' ha => ?_⟩ <;>
    rcases timer id' with h | h <;> rw [h]
  · exact ht
  · exact ht.update _ _ _
  · exact Delayed.inside_update _ _ _
  · exact ha
  · exact ha.update _ _ fun _ => rfl

theorem doPause_evolves (p : Printer) : Evolves p (doPause p) := by
  unfold doPause
  by_cases h : p.sd = .printing
  · rw [if_pos h]
    exact evolves_of_timers rfl rfl fun _ => .inl h
  · rw [if_neg h]
    exact .refl p

theorem cmdPause_evolves (p : Printer) : Evolves p (cmdPause p) := by
  unfold cmdPause
  split_ifs
  · exact .refl p
  · exact evolves_of_timers rfl rfl fun h => h
  · exact (doPause_evolves p).trans (evolves_of_timers rfl rfl fun h => h)

theorem cmdCancelPrint_evolves (p : Printer) : Evolves p (cmdCancelPrint p) := by
  unfold cmdCancelPrint
  split_ifs
  · refine evolves_of_timers rfl rfl fun h => ?_
    rcases h with h | h <;> cases h
  · exact evolves_of_timers rfl rfl fun h => h

theorem native_evolves {k : Cmd} (hk : k.Settled) (p : Printer) : Evolves p (native k p).1 := by
  cases k with
  | m24 => exact hk.elim
  | sdcardPrintFileBase found => exact hk.elim
  | resumeBase => exact hk.elim
  | updateDelayedGcode id duration => exact evolves_update id duration p
  | m25_1 => exact doPause_evolves p
  | pauseBase => exact cmdPause_evolves p
  | cancelPrintBase => exact cmdCancelPrint_evolves p
  | m23 =>
    show Evolves p (cmdM23 p).1
    unfold cmdM23
    by_cases h : p.sd = .printing
    · rw [if_pos h]
      exact .refl p
    · rw [if_neg h]
      refine evolves_of_timers rfl rfl fun h => ?_
      rcases h with h | h <;> cases h
  | _ => exact evolves_of_timers rfl rfl fun h => h

theorem evolves_exec {c : Macro} (h : c.Only Cmd.Settled) (p : Printer) :
    Evolves p (c.exec native p).state :=
  h.rel .refl (fun _ _ _ => .trans) (fun _ hk => native_evolves hk) p

theorem evolves_execAll {cs : List Macro} (h : Script.OnlyAll Cmd.Settled cs) (p : Printer) :
    Evolves p (Script.execAll native cs p).state := by
  simpa only [Script.exec_call] using evolves_exec h.call p

/-- The commands that may start a print. -/
def Command.Launches : Command → Prop
  | .M24 | .RESUME | .SDCARD_PRINT_FILE _ => True
  | _ => False

theorem stop_settled (st : Settings) : (stop st).Only Cmd.Settled := by
  simp [stop, Settings.attempt, Cmd.Settled]

theorem closeDialogs_settled (st : Settings) : Script.OnlyAll Cmd.Settled (closeDialogs st) := by
  simp [closeDialogs, Cmd.Settled]

theorem stopMotor_settled (st : Settings) : Script.OnlyAll Cmd.Settled (stopMotor st) := by
  simp [stopMotor, Cmd.Settled]

theorem autoReboot_settled (st : Settings) : Script.OnlyAll Cmd.Settled (autoReboot st) := by
  simp [autoReboot, Cmd.Settled]

theorem pause_settled : pause.Only Cmd.Settled := by
  refine Script.only_call.2 fun p => ?_
  cases p.mode <;> simp [Cmd.Settled]

theorem cancelPrint_settled (st : Settings) : (cancelPrint st).Only Cmd.Settled := by
  refine Script.only_call.2 fun p => ?_
  cases p.mode with
  | screen => simp [stop_settled, closeDialogs_settled, stopMotor_settled, Cmd.Settled]
  | displayOff => simp [commonEndPrint, stop_settled, stopMotor_settled, Cmd.Settled]

theorem preparing_settled (refused : Bool) (extruderTemp bedTemp : ℚ) (st : Settings) :
    Script.OnlyAll Cmd.Settled (preparing refused extruderTemp bedTemp st) := by
  simp [preparing, refuseMd5, Settings.attempt, cancelPrint_settled, Cmd.Settled]

theorem settled_of_not_launches {c : Command} (hc : ¬ c.Launches) (st : Settings) :
    (c.script st).Only Cmd.Settled := by
  cases c with
  | M24 => exact absurd trivial hc
  | RESUME => exact absurd trivial hc
  | SDCARD_PRINT_FILE found => exact absurd trivial hc
  | M23 => simp [Command.script, Cmd.Settled]
  | PAUSE => exact pause_settled
  | M25 =>
    refine Script.only_call.2 fun p => ?_
    cases p.mode <;> simp [pause_settled, Cmd.Settled]
  | START_PRINT refused reaches extruderTemp bedTemp faulty =>
    simp [Command.script, startPrint, resetting, preparing_settled, Cmd.Settled]
  | CANCEL_PRINT sender reaches => exact cancelPrint_settled st
  | END_PRINT =>
    refine Script.only_call.2 fun p => ?_
    cases p.mode with
    | screen =>
      simp [stop_settled, closeDialogs_settled, stopMotor_settled, autoReboot_settled, Cmd.Settled]
    | displayOff =>
      simp [commonEndPrint, stop_settled, stopMotor_settled, autoReboot_settled, Cmd.Settled]
  | SPEED_SET zspeed => simp [Command.script, speedSet, Cmd.Settled]

/-! ## What starts a print -/

/-- What these commands do: they leave the timers alone, and a print that is loaded
afterwards was loaded before or is a new one. -/
structure Launched (p q : Printer) : Prop where
  timers : q.timers = p.timers
  prints : p.prints ≤ q.prints
  loaded : q.prints = p.prints → Loaded q → Loaded p

theorem Launched.refl (p : Printer) : Launched p p := ⟨rfl, le_rfl, fun _ h => h⟩

theorem Launched.trans {p q r : Printer} (h : Launched p q) (h' : Launched q r) : Launched p r := by
  refine ⟨h'.timers.trans h.timers, h.prints.trans h'.prints, fun heq hl => ?_⟩
  have hq : q.prints = p.prints := le_antisymm (heq ▸ h'.prints) h.prints
  exact h.loaded hq (h'.loaded (heq.trans hq.symm) hl)

theorem doResume_launched (p : Printer) : Launched p (doResume p).1 := by
  unfold doResume
  cases hsd : p.sd with
  | printing => exact .refl p
  | empty => exact .refl p
  | selected =>
    refine ⟨rfl, Nat.le_succ _, fun heq => ?_⟩
    exact absurd heq (Nat.succ_ne_self _)
  | paused => exact ⟨rfl, le_rfl, fun _ _ => .inr hsd⟩

theorem cmdResume_launched (p : Printer) : Launched p (cmdResume p).1 := by
  unfold cmdResume
  split_ifs
  · exact .refl p
  · exact .refl p
  · exact (doResume_launched p).trans ⟨rfl, le_rfl, fun _ h => h⟩
  · exact ⟨rfl, le_rfl, fun _ h => h⟩

theorem cmdSdcardPrintFile_launched (found : Bool) (p : Printer) :
    Launched p (cmdSdcardPrintFile found p).1 := by
  unfold cmdSdcardPrintFile
  split_ifs
  · exact .refl p
  · exact ⟨rfl, Nat.le_succ _, fun heq => absurd heq (Nat.succ_ne_self _)⟩
  · refine ⟨rfl, le_rfl, fun _ h => ?_⟩
    rcases h with h | h <;> cases h

/-- The commands of their macros. -/
def Cmd.Launching : Cmd → Prop
  | .m24 | .sdcardPrintFileBase _ | .resumeBase | .zcontrolOn | .zsend _ | .other _ => True
  | _ => False

theorem native_launched {k : Cmd} (hk : k.Launching) (p : Printer) : Launched p (native k p).1 := by
  cases k with
  | m24 => exact doResume_launched p
  | resumeBase => exact cmdResume_launched p
  | sdcardPrintFileBase found => exact cmdSdcardPrintFile_launched found p
  | zcontrolOn => exact ⟨rfl, le_rfl, fun _ h => h⟩
  | zsend msg => exact .refl p
  | other line => exact .refl p
  | _ => exact hk.elim

theorem launches_exec {c : Command} (hc : c.Launches) (st : Settings) (p : Printer) :
    Launched p ((c.script st).exec native p).state := by
  have hresume : resume.Only Cmd.Launching := by
    refine Script.only_call.2 fun p => ?_
    cases p.mode <;> simp [Cmd.Launching]
  have honly : (c.script st).Only Cmd.Launching := by
    cases c with
    | M24 =>
      refine Script.only_call.2 fun p => ?_
      cases p.mode <;> simp [hresume, Cmd.Launching]
    | RESUME => exact hresume
    | SDCARD_PRINT_FILE found => simp [Command.script, sdcardPrintFile, Cmd.Launching]
    | _ => exact hc.elim
  exact honly.rel .refl (fun _ _ _ => .trans) (fun _ hk => native_launched hk) p

/-- `SDCARD_PRINT_FILE` completes when the card is not busy and the file is found, and
then a new print is going on. -/
theorem sdcardPrintFile_exec (found : Bool) (p : Printer) :
    (sdcardPrintFile found).exec native p =
      ⟨(cmdSdcardPrintFile found { p with zcontrol := true }).1,
        [(.zcontrolOn, p), (.other "_G28", { p with zcontrol := true }),
          (.other "G1 Z50 F3000", { p with zcontrol := true }),
          (.sdcardPrintFileBase found, { p with zcontrol := true })],
        (cmdSdcardPrintFile found { p with zcontrol := true }).2⟩ := by
  simp [sdcardPrintFile, native]

/-! ## The start of a print -/

/-- A start that is refused or does not come to `_START_PRINT` ends in an error. -/
theorem startPrint_raised (refused : Bool) (extruderTemp bedTemp : ℚ) (faulty : Bool) (st : Settings)
    (p : Printer) (h : ((startPrint refused extruderTemp bedTemp faulty st).exec native p).raised = none) :
    refused = false ∧ faulty = false := by
  cases faulty with
  | true =>
    rw [startPrint_faulty] at h
    cases h
  | false =>
    refine ⟨?_, rfl⟩
    cases refused with
    | false => rfl
    | true =>
      obtain ⟨q, log, hreset, -⟩ := resetting_exec p
      rw [startPrint_started, hreset, Run.andThen_mk_none] at h
      obtain ⟨-, hrest, -⟩ := Run.andThen_of_raised_none (by rwa [preparing, List.cons_append,
        Script.execAll_cons] at h)
      obtain ⟨hrefuse, -, -⟩ := Run.andThen_of_raised_none (by rwa [if_pos rfl, List.cons_append,
        Script.execAll_cons] at hrest)
      rw [refuseMd5, Script.exec_call, Script.execAll_cons] at hrefuse
      obtain ⟨-, hraise, -⟩ := Run.andThen_of_raised_none hrefuse
      simp [native] at hraise

/-- What is in force of the timers that a start disarms is at most a script that
waits. -/
theorem startPrint_resets (refused : Bool) (extruderTemp bedTemp : ℚ) (st : Settings) {p : Printer}
    {id : Timer} (hid : id ∈ resetTimers) (ht : (p.timers id).Tidy)
    (hin : ∀ x ∈ (p.timers id).inside, x.tag = p.prints) :
    (((startPrint refused extruderTemp bedTemp false st).exec native p).state.timers id).All
      (· = p.prints) := by
  have hsettled : Script.OnlyAll Cmd.Settled resetting := by simp [resetting, Cmd.Settled]
  have hreset := evolves_execAll hsettled p
  obtain ⟨q, log, hexec, -, -, htimers⟩ := resetting_exec p
  rw [hexec] at hreset
  have hq : (q.timers id).All (· = q.prints) := by
    rw [hreset.prints, htimers id (by simp [resetTimers] at hid ⊢; tauto)]
    exact ht.all_update_zero _ _ hin
  rw [startPrint_started, hexec, Run.andThen_mk_none, ← hreset.prints]
  exact (evolves_execAll (preparing_settled refused extruderTemp bedTemp st) q).all id hq

/-! ## One event -/

/-- What is in force of the four timers was armed by the print that is going on: of
the speed timers from the moment it has begun, of the others as far as their scripts
wait, and altogether once it has been through `START_PRINT`. -/
structure Fresh (w : Staged) : Prop where
  tidy : ∀ id, (w.printer.timers id).Tidy
  speed : Loaded w.printer → w.stage ≠ .loading → ∀ id ∈ speedTimers,
    (w.printer.timers id).All (· = w.printer.prints)
  waiting : Loaded w.printer → w.stage ≠ .loading → ∀ id ∈ resetTimers,
    ∀ x ∈ (w.printer.timers id).inside, x.tag = w.printer.prints
  reset : Loaded w.printer → w.stage = .started → ∀ id ∈ resetTimers,
    (w.printer.timers id).All (· = w.printer.prints)

theorem Fresh.evolves {w : Staged} (h : Fresh w) {q : Printer} (he : Evolves w.printer q) :
    Fresh ⟨q, w.stage⟩ := by
  refine ⟨fun id => he.tidy id (h.tidy id), fun hl hs id hid => ?_, fun hl hs id hid x hx => ?_,
    fun hl hs id hid => ?_⟩
  · rw [he.prints]
    exact he.all id (h.speed (he.loaded hl) hs id hid)
  · rw [he.inside] at hx
    rw [he.prints]
    exact h.waiting (he.loaded hl) hs id hid x hx
  · rw [he.prints]
    exact he.all id (h.reset (he.loaded hl) hs id hid)

theorem Fresh.launched {w : Staged} (h : Fresh w) {q : Printer} (hq : Launched w.printer q) :
    Fresh ⟨q, if q.prints = w.printer.prints then w.stage else .loading⟩ := by
  have htidy : ∀ id, (q.timers id).Tidy := by
    rw [hq.timers]
    exact h.tidy
  by_cases hp : q.prints = w.printer.prints
  · rw [if_pos hp]
    refine ⟨htidy, fun hl hs => ?_, fun hl hs => ?_, fun hl hs => ?_⟩ <;> rw [hq.timers, hp]
    · exact h.speed (hq.loaded hp hl) hs
    · exact h.waiting (hq.loaded hp hl) hs
    · exact h.reset (hq.loaded hp hl) hs
  · rw [if_neg hp]
    exact ⟨htidy, fun _ hs => absurd rfl hs, fun _ hs => absurd rfl hs, fun _ hs => by cases hs⟩

/-- A print begun by `SDCARD_PRINT_FILE`. -/
theorem Fresh.sdcard {w : Staged} (h : Fresh w) (found : Bool) (st : Settings)
    (hs : Spaced (.give (.SDCARD_PRINT_FILE found) st) w) :
    Fresh (advance (.give (.SDCARD_PRINT_FILE found) st) w).state := by
  have hq := launches_exec (c := .SDCARD_PRINT_FILE found) trivial st w.printer
  show Fresh ⟨((sdcardPrintFile found).exec native w.printer).state,
    if ((sdcardPrintFile found).exec native w.printer).raised = none then .begun else w.stage⟩
  change Launched w.printer ((sdcardPrintFile found).exec native w.printer).state at hq
  rw [sdcardPrintFile_exec] at hq ⊢
  by_cases hsd : w.printer.sd = .printing
  · have hbusy : cmdSdcardPrintFile found { w.printer with zcontrol := true }
        = ({ w.printer with zcontrol := true }, some .command) := if_pos hsd
    rw [hbusy]
    exact h.evolves (evolves_of_timers rfl rfl fun hl => hl)
  · cases found with
    | false =>
      have hnone : cmdSdcardPrintFile false { w.printer with zcontrol := true }
          = ({ w.printer with zcontrol := true, sd := .empty }, some .command) := by
        simp [cmdSdcardPrintFile, hsd]
      rw [hnone]
      refine h.evolves (evolves_of_timers rfl rfl fun hl => ?_)
      rcases hl with hl | hl <;> cases hl
    | true =>
      obtain ⟨hspeed, hreset⟩ := hs hsd
      have hfound : (cmdSdcardPrintFile true { w.printer with zcontrol := true }).2 = none := by
        simp [cmdSdcardPrintFile, hsd]
      rw [if_pos hfound]
      refine ⟨?_, fun _ _ id hid => ?_, fun _ _ id hid x hx => ?_, fun _ hstage => by cases hstage⟩
      · rw [hq.timers]
        exact h.tidy
      · rw [hq.timers]
        exact (h.tidy id).all_of_not_pending (hspeed id hid)
      · rw [hq.timers, hreset id hid] at hx
        cases hx

/-- A print that has been through `START_PRINT`. -/
theorem Fresh.start {w : Staged} (h : Fresh w) (refused reaches : Bool) (extruderTemp bedTemp : ℚ)
    (faulty : Bool) (st : Settings)
    (hs : Spaced (.give (.START_PRINT refused reaches extruderTemp bedTemp faulty) st) w) :
    Fresh (advance (.give (.START_PRINT refused reaches extruderTemp bedTemp faulty) st) w).state := by
  have he : Evolves w.printer
      ((startPrint refused extruderTemp bedTemp faulty st).exec native w.printer).state :=
    evolves_exec
      (settled_of_not_launches (c := .START_PRINT refused reaches extruderTemp bedTemp faulty) id st) _
  show Fresh ⟨((startPrint refused extruderTemp bedTemp faulty st).exec native w.printer).state,
    if ((startPrint refused extruderTemp bedTemp faulty st).exec native w.printer).raised = none ∧
      Loaded w.printer then .started else w.stage⟩
  by_cases hdone : ((startPrint refused extruderTemp bedTemp faulty st).exec native w.printer).raised = none ∧
      Loaded w.printer
  · obtain ⟨hraised, hl⟩ := hdone
    rw [if_pos ⟨hraised, hl⟩]
    obtain ⟨rfl, rfl⟩ := startPrint_raised refused extruderTemp bedTemp faulty st w.printer hraised
    -- what the earlier print left over is gone, by the condition or since `SDCARD_PRINT_FILE`
    have hleft : (∀ id ∈ speedTimers, (w.printer.timers id).All (· = w.printer.prints)) ∧
        ∀ id ∈ resetTimers, ∀ x ∈ (w.printer.timers id).inside, x.tag = w.printer.prints := by
      by_cases hstage : w.stage = .loading
      · exact hs hl hstage
      · exact ⟨h.speed hl hstage, h.waiting hl hstage⟩
    refine ⟨fun id => he.tidy id (h.tidy id), fun _ _ id hid => ?_, fun _ _ id hid x hx => ?_,
      fun _ _ id hid => ?_⟩
    · rw [he.prints]
      exact he.all id (hleft.1 id hid)
    · rw [he.inside] at hx
      rw [he.prints]
      exact hleft.2 id hid x hx
    · rw [he.prints]
      exact startPrint_resets false extruderTemp bedTemp st hid (h.tidy id) (hleft.2 id hid)
  · rw [if_neg hdone]
    exact h.evolves he

/-- A change of one timer. -/
theorem Fresh.setTimer {w : Staged} (h : Fresh w) {id : Timer}
    {f : Delayed ℕ (List Line) → Delayed ℕ (List Line)}
    (htidy : (f (w.printer.timers id)).Tidy)
    (hall : (w.printer.timers id).All (· = w.printer.prints) →
      (f (w.printer.timers id)).All (· = w.printer.prints))
    (hwaiting : id ∈ resetTimers → w.stage ≠ .loading → Loaded w.printer →
      ∀ x ∈ (f (w.printer.timers id)).inside, x.tag = w.printer.prints) :
    Fresh ⟨w.printer.setTimer id f, w.stage⟩ := by
  have timer : ∀ id', id' = id ∧ (w.printer.setTimer id f).timers id' = f (w.printer.timers id) ∨
      (w.printer.setTimer id f).timers id' = w.printer.timers id' := by
    intro id'
    by_cases hid : id' = id
    · exact .inl ⟨hid, hid ▸ timers_setTimer ..⟩
    · exact .inr (timers_setTimer_of_ne hid ..)
  refine ⟨fun id' => ?_, fun hl hs id' hid => ?_, fun hl hs id' hid => ?_, fun hl hs id' hid => ?_⟩ <;>
    rcases timer id' with ⟨rfl, ht⟩ | ht <;> rw [ht]
  · exact htidy
  · exact h.tidy id'
  · exact hall (h.speed hl hs id' hid)
  · exact h.speed hl hs id' hid
  · exact hwaiting hid hs hl
  · exact h.waiting hl hs id' hid
  · exact hall (h.reset hl hs id' hid)
  · exact h.reset hl hs id' hid

theorem Fresh.expire {w : Staged} (h : Fresh w) (id : Timer) (st : Settings)
    (hs : Spaced (.expire id st) w) :
    Fresh ⟨w.printer.setTimer id (.expire w.printer.now (render st w.printer id)), w.stage⟩ := by
  refine h.setTimer ((h.tidy id).expire _ _) (fun ha => ha.expire _ _) fun hid hstage hl x hx => ?_
  rcases Delayed.inside_expire hx with hx | ⟨a, ha, hdue, htag⟩
  · exact h.waiting hl hstage id hid x hx
  · rw [htag]
    cases hw : w.stage with
    | loading => exact absurd hw hstage
    | begun => exact hs hid hw hl a ha hdue
    | started => exact (h.reset hl hw id hid).wake a ha

theorem Fresh.run {w : Staged} (h : Fresh w) (id : Timer) :
    Fresh ⟨(step (.run id) w.printer).state, w.stage⟩ ∧
      (step (.run id) w.printer).state.prints = w.printer.prints := by
  cases hx : (w.printer.timers id).inside with
  | none =>
    rw [step_run_none hx]
    exact ⟨h, rfl⟩
  | some x =>
    have hlines : Script.OnlyAll Cmd.Settled (Line.macros x.script) :=
      onlyAll_macros (fun _ => trivial) (fun _ => trivial) _
    have he := evolves_execAll hlines w.printer
    have hq := h.evolves he
    rw [step_run_some hx]
    refine ⟨hq.setTimer (hq.tidy id).finish (fun ha => ha.finish) fun hid hstage hl y hy => ?_, he.prints⟩
    rw [Delayed.inside_finish] at hy
    cases hy

/-- The step lemma. -/
theorem advance_fresh {e : Event} {w : Staged} (h : Fresh w) (hs : Spaced e w) :
    Fresh (advance e w).state ∧ FreshRun e w := by
  cases e with
  | tick dt =>
    refine ⟨?_, trivial⟩
    simpa [advance, Event.stage, step] using
      h.evolves (q := { w.printer with now := w.printer.now + dt }) (evolves_of_timers rfl rfl fun hl => hl)
  | expire id st =>
    refine ⟨?_, trivial⟩
    simpa [advance, Event.stage, step, Printer.setTimer] using h.expire id st hs
  | run id =>
    obtain ⟨hfresh, hprints⟩ := h.run id
    refine ⟨by simpa [advance, Event.stage, hprints] using hfresh, fun hid hstage hl x hx => ?_⟩
    refine not_lt_of_ge (ge_of_eq ?_)
    rcases List.mem_append.1 hid with hid | hid
    · exact h.waiting hl hstage id hid x hx
    · exact (h.speed hl hstage id hid).inside x hx
  | fileEnds =>
    refine ⟨?_, trivial⟩
    by_cases hsd : w.printer.sd = .printing
    · have hq := h.evolves (q := { w.printer with sd := .empty })
        (evolves_of_timers rfl rfl fun _ => .inl hsd)
      simpa [advance, Event.stage, step, hsd] using hq
    · simpa [advance, Event.stage, step, hsd] using h
  | give c st =>
    refine ⟨?_, trivial⟩
    have settled : ¬ c.Launches → Evolves w.printer (step (.give c st) w.printer).state :=
      fun hc => evolves_exec (settled_of_not_launches hc st) _
    have launched : c.Launches → Launched w.printer (step (.give c st) w.printer).state :=
      fun hc => launches_exec hc st _
    cases c with
    | SDCARD_PRINT_FILE found => exact h.sdcard found st hs
    | START_PRINT refused reaches extruderTemp bedTemp faulty =>
      exact h.start refused reaches extruderTemp bedTemp faulty st hs
    | M24 => exact h.launched (launched trivial)
    | RESUME => exact h.launched (launched trivial)
    | _ =>
      have he := settled id
      simpa [advance, Event.stage, he.prints] using h.evolves he

/-! ## Main results -/

/-- **No timer of an earlier print.**  In a run from a printer with no print loaded,
whose events all meet the condition, a script of the four timers that runs once
`SDCARD_PRINT_FILE` or `START_PRINT` has completed was armed by the print that is
going on. -/
theorem fresh_runs {w : Staged} (ht : ∀ id, (w.printer.timers id).Tidy) (hw : ¬ Loaded w.printer)
    {es : List Event} (hes : Along advance Spaced es w) : Along advance FreshRun es w :=
  along_of_invariant (fun _ _ h hs => advance_fresh h hs) es w
    ⟨ht, fun hl => absurd hl hw, fun hl => absurd hl hw, fun hl => absurd hl hw⟩ hes

/-! ## A run of each kind -/

/-- The settings with the motors to be switched off after a print. -/
def stopping : Settings := { shipped with stopMotor := 1 }

/-- A print is begun, and goes through `START_PRINT`. -/
def startFile : List Event :=
  [.give (.SDCARD_PRINT_FILE true) stopping, .give (.START_PRINT false true 220 60 false) stopping]

/-- A print ends, the next begins, and the timer of the motors would be due. -/
def endAndStartFile : List Event :=
  [.give .END_PRINT stopping, .fileEnds] ++ startFile ++
    [.tick 25, .expire .STOP_MOTOR stopping, .run .STOP_MOTOR]

/-- The motors stay on. -/
theorem fresh_runs_motors :
    Along advance FreshRun (startFile ++ endAndStartFile) ⟨booted, .loading⟩ := by
  have hnew : ∀ id, (booted.timers id).Tidy := fun _ => Delayed.tidy_new
  refine fresh_runs hnew (by decide) ⟨fun _ => ⟨by decide, by decide⟩, fun _ h => ?_, trivial, trivial,
    fun _ => ⟨by decide, by decide⟩, fun _ h => ?_, trivial, fun _ h => ?_, trivial, trivial⟩
  all_goals exact absurd h (by decide)

/-- The speed of a print is set, the print ends, the next begins, and `_SET_SPEED1`
expires. -/
def speedLeftOver : List Event :=
  startFile ++ [.give (.SPEED_SET 100) stopping, .fileEnds] ++ startFile ++
    [.tick 60, .expire .SET_SPEED1 stopping]

/-- A minute after the speed of a print was set it is set again, in the next print. -/
theorem stale_speed_runs :
    ¬ ∀ (w : Staged) (es : List Event), (∀ id, (w.printer.timers id).Tidy) → ¬ Loaded w.printer →
      Along advance FreshRun es w := by
  intro h
  have hnew : ∀ id, (booted.timers id).Tidy := fun _ => Delayed.tidy_new
  have hrun := h ⟨booted, .loading⟩ (speedLeftOver ++ [.run .SET_SPEED1]) hnew (by decide)
  have hfresh := hrun.2.2.2.2.2.2.2.2.1 (by decide) (by decide) (by decide)
  -- the script that waits was armed by the first print, and the second is going on
  have hwaits : ((session advance speedLeftOver ⟨booted, .loading⟩).state.printer.timers
      .SET_SPEED1).inside.any (fun x => decide (x.tag < 2)) = true := by decide
  obtain ⟨x, hx, hlt⟩ := (Option.any_eq_true _ _).1 hwaits
  exact hfresh x hx (of_decide_eq_true hlt)

end Control

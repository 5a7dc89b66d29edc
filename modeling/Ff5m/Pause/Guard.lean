import Ff5m.Control.Macros
import Ff5m.Pause.Restore

/-!
# The collision guard during a pause

`ZCONTROL_ON` arms the guard that shuts the printer down when the nozzle is pressed,
`ZCONTROL_OFF` disarms it.  The two are spread over the macros of a whole print, so
this module adds the others to those that pause and resume: `SDCARD_PRINT_FILE`,
`START_PRINT`, `CANCEL_PRINT`, `END_PRINT` and `SDCARD_RESET_FILE` in display-off
mode.  Here a move, a preparation or the wait for a temperature may fail.

* `Guarded`: during a pause the guard is disarmed, and the card waits;
* `guard_off_while_paused`: if no file is started during a pause, and a resume that
  arms the guard also ends the pause, the guard is off in every state between two
  commands in which the print is paused.

`M24` arms the guard before `RESUME` has looked at the nozzle and the filament, and
leaves it armed when `RESUME` gives up (`armed_by_m24`).
-/

namespace DisplayOff

open GCode

/-! ## Native commands -/

/-- The native commands of a whole print: those of pausing and resuming, and what
else the macros end in; `fileEnds` is the card at the end of its file. -/
inductive JobCmd where
  | base (k : Cmd)
  | clearPause
  | cancelPrintBase
  | sdcardPrintFileBase (found : Bool)
  | sdcardResetFileBase (fromSd : Bool)
  | fileEnds
  | turnOffHeaters
  | m140 (t : Temp)
  | raiseError (msg : String)
  deriving DecidableEq

/-- `PauseResume.cmd_CLEAR_PAUSE`. -/
def cmdClearPause (p : Printer) : Printer := { p with isPaused := false, pauseCommandSent := false }

/-- `PauseResume.cmd_CANCEL_PRINT`; `do_cancel` stops the card. -/
def cmdCancelPrint (p : Printer) : Printer :=
  cmdClearPause (if p.sdActive ∨ p.sdPaused then { p with sdActive := false } else p)

/-- `VirtualSD.cmd_SDCARD_PRINT_FILE`; `found` says whether the file can be opened. -/
def cmdSdcardPrintFile (found : Bool) (p : Printer) : Printer × Option Failure :=
  if p.sdActive then (p, some .command)
  else if found then ({ p with sdActive := true }, none)
  else (p, some .command)

/-- `VirtualSD.cmd_SDCARD_RESET_FILE`, which a file must not contain. -/
def cmdSdcardResetFile (fromSd : Bool) (p : Printer) : Printer × Option Failure :=
  if fromSd then (p, some .command) else ({ p with sdActive := false }, none)

/-- The commands that may fail for reasons outside of the printer's state here: moves and
preparations, the move back to where a pause began, and waiting for a temperature. -/
def JobCmd.mayFail : JobCmd → Bool
  | .base (.other _) | .base .resumeBase | .base (.m190 _) | .base (.m109 _) => true
  | _ => false

/-- The native commands, where `fails` says which of those that may fail do. -/
def jobNative (fails : JobCmd → Bool) : Native JobCmd Printer := fun k p =>
  if k.mayFail && fails k then (p, some .command)
  else
    match k with
    | .base k => native k p
    | .clearPause => (cmdClearPause p, none)
    | .cancelPrintBase => (cmdCancelPrint p, none)
    | .sdcardPrintFileBase found => cmdSdcardPrintFile found p
    | .sdcardResetFileBase fromSd => cmdSdcardResetFile fromSd p
    | .fileEnds => ({ p with sdActive := false }, none)
    | .turnOffHeaters => ({ p with extruderTarget := 0, bedTarget := 0 }, none)
    | .m140 t => ({ p with bedTarget := t }, none)
    | .raiseError _ => (p, some .command)

/-! ## Macros -/

/-- A script of a whole print. -/
abbrev JobMacro := Script JobCmd Printer

/-- A line that touches nothing of the printer here. -/
def line (s : String) : JobMacro := .cmd (.base (.other s))

/-- `_STOP`. -/
def stop (st : Control.Settings) : JobMacro := .call fun _ =>
  [line "M400", line "M220 S100", line "M221 S100", .cmd (.m140 0),
    .cmd (.base (.setHeaterTemperature 0)), line "M106 S0", line "M107", line "SET_SKEW CLEAR=1"] ++
  (if st.midiEnd ≠ "" then [line "PLAY_MIDI"] else []) ++
  [line "EXCLUDE_OBJECT_DEFINE RESET=1", line "SAVE_VARIABLE VARIABLE=check_md5 VALUE=0",
    line "RUN_SHELL_COMMAND CMD=znice", .cmd (.base .zcontrolOff), .cmd (.base (.respond "Работа завершена"))]

/-- `_COMMON_END_PRINT`. -/
def commonEndPrint (r : Reading) (st : Control.Settings) : JobMacro := .call fun _ =>
  (if r.homed then
    [line "G90", line "G1 Z{z_max}", line "M400", line "G1 X{custom_park_x} Y{custom_park_y}", line "M400"]
  else []) ++
  [stop st, line "AIR_CIRCULATION_STOP"] ++
  (if st.stopMotor = 1 then [line "UPDATE_DELAYED_GCODE ID=_STOP_MOTOR DURATION=25"] else [])

/-- `CANCEL_PRINT`; `park_at_cancel` is off. -/
def cancelPrint (env : Readings) (r : Reading) (st : Control.Settings) : JobMacro := .call fun p =>
  (if p.restoreIdleTimeout > 0 then [.cmd (.base (.setIdleTimeout p.restoreIdleTimeout))] else []) ++
  [(clientRetract env).map .base, .cmd .turnOffHeaters, line "M106 S0", commonEndPrint r st,
    .cmd (.base (.setIdleState false)), line "SET_PAUSE_NEXT_LAYER ENABLE=0",
    line "SET_PAUSE_AT_LAYER ENABLE=0 LAYER=0", .cmd .cancelPrintBase]

/-- `END_PRINT`. -/
def endPrint (r : Reading) (st : Control.Settings) : JobMacro := .call fun _ =>
  (if r.homed ∧ r.canExtrude then [line "G91", line "G1 X-2 Y-2 E-5 F2000"] else []) ++
  (if st.autoReboot ≠ 0 then
    [.cmd (.base (.respond "Автоматическая перезагрузка через 1.5 минуты")),
      line "UPDATE_DELAYED_GCODE ID=_AUTO_REBOOT DURATION=90"]
  else []) ++
  [commonEndPrint r st]

/-- `SDCARD_PRINT_FILE`. -/
def sdcardPrintFile (found : Bool) : JobMacro := .call fun _ =>
  [.cmd (.base .zcontrolOn), line "_G28", line "G1 Z50 F3000", .cmd (.sdcardPrintFileBase found)]

/-- `SDCARD_RESET_FILE`. -/
def sdcardResetFile (fromSd : Bool) : JobMacro := .call fun _ =>
  [.cmd (.base .zcontrolOff), .cmd (.sdcardResetFileBase fromSd)]

/-- `START_PRINT`, which refuses parameters that have moved elsewhere, sets the
variables of `_START_PRINT` and calls it; `refused` says that the sum of the file is
checked and wrong. -/
def startPrint (moved refused : Bool) (extruderTemp bedTemp : Temp) (env : Readings) (r : Reading)
    (st : Control.Settings) : JobMacro := .call fun _ =>
  if moved then [.cmd (.raiseError "Параметр переехал в SAVE_ZMOD_DATA")]
  else
    ["SET_GCODE_VARIABLE MACRO=_START_PRINT", "UPDATE_DELAYED_GCODE ID=_CLOSE_DIALOGS DURATION=0",
      "UPDATE_DELAYED_GCODE ID=_FAST_CLOSE_DIALOGS DURATION=0",
      "UPDATE_DELAYED_GCODE ID=_STOP_MOTOR DURATION=0", "UPDATE_DELAYED_GCODE ID=_AUTO_REBOOT DURATION=0",
      "UPDATE_DELAYED_GCODE ID=_GOTO_PAUSE DURATION=0"].map line ++
    [.cmd .clearPause, .cmd (.base .zcontrolOn),
      line "SET_GCODE_VARIABLE MACRO=_CANCEL_PRINT VARIABLE=cancel_send VALUE=0", line "ZSSH_RELOAD"] ++
    (if refused then
      [cancelPrint env r st,
        .cmd (.raiseError "Проверка MD5 завершилась с ошибкой. Печать отменена.")]
    else []) ++
    [.cmd (.m140 bedTemp), line "SET_SKEW CLEAR=1", line "_G28", line "_START_MESH", .cmd (.m140 bedTemp),
      line "TEMPERATURE_WAIT SENSOR=heater_bed", .cmd (.base (.setHeaterTemperature extruderTemp)),
      line "TEMPERATURE_WAIT SENSOR=extruder", line "{zclear}", line "AIR_CIRCULATION_INTERNAL"]

/-! ## Sessions -/

/-- The commands of a whole print, and the end of its file. -/
inductive JobCommand where
  | pausing (c : Command)
  | SDCARD_PRINT_FILE (found : Bool)
  | SDCARD_RESET_FILE (fromSd : Bool)
  | START_PRINT (moved refused : Bool) (extruderTemp bedTemp : Temp)
  | CANCEL_PRINT
  | END_PRINT
  | fileEnds

/-- A command together with what its templates read, the stored settings, and what of
it fails. -/
structure Job where
  command : JobCommand
  env : Readings
  /-- what `_COMMON_END_PRINT` and `END_PRINT` read -/
  ending : Reading
  settings : Control.Settings
  fails : JobCmd → Bool

/-- The script of such a command. -/
def Job.script (j : Job) : JobMacro :=
  match j.command with
  | .pausing c => (Invocation.script ⟨c, j.env⟩).map .base
  | .SDCARD_PRINT_FILE found => sdcardPrintFile found
  | .SDCARD_RESET_FILE fromSd => sdcardResetFile fromSd
  | .START_PRINT moved refused extruderTemp bedTemp =>
    startPrint moved refused extruderTemp bedTemp j.env j.ending j.settings
  | .CANCEL_PRINT => cancelPrint j.env j.ending j.settings
  | .END_PRINT => endPrint j.ending j.settings
  | .fileEnds => .cmd .fileEnds

/-- One command of a session. -/
def perform (j : Job) (p : Printer) : Run JobCmd Printer := j.script.exec (jobNative j.fails) p

/-- After the command the guard is disarmed if the print is paused. -/
def GuardOff (j : Job) (p : Printer) : Prop :=
  (perform j p).state.isPaused = true → (perform j p).state.zcontrol = false

/-- Nothing of the command fails. -/
def Job.Succeeds (j : Job) : Prop := ∀ k, j.fails k = false

/-- The condition on each command: no file is started during a pause; a `RESUME` out
of a pause that goes on succeeds, and so does an `M24`, which moreover goes on. -/
def Safe (j : Job) (p : Printer) : Prop :=
  match j.command with
  | .SDCARD_PRINT_FILE _ => p.isPaused = false
  | .pausing .RESUME => p.isPaused = true → goesOn (j.env .RESUME) p = true → j.Succeeds
  | .pausing .M24 => p.isPaused = true → goesOn (j.env .RESUME) p = true ∧ j.Succeeds
  | _ => True

/-! ## What the commands leave alone -/

/-- What the guard depends on. -/
def Printer.guard (p : Printer) : Bool × Bool × Bool × Bool × Bool :=
  (p.isPaused, p.pauseCommandSent, p.sdPaused, p.sdActive, p.zcontrol)

/-- The command leaves all of it alone. -/
def JobCmd.Aloof : JobCmd → Prop
  | .base .pauseBase | .base .resumeBase | .base .m24_1 | .base .zcontrolOn | .base .zcontrolOff => False
  | .base _ | .turnOffHeaters | .m140 _ | .raiseError _ => True
  | _ => False

theorem jobNative_of_fails {fails : JobCmd → Bool} {k : JobCmd} (h : (k.mayFail && fails k) = true)
    (p : Printer) : jobNative fails k p = (p, some .command) :=
  if_pos h

theorem jobNative_of_not_fails {fails : JobCmd → Bool} {k : JobCmd}
    (h : (k.mayFail && fails k) = false) (p : Printer) :
    jobNative fails k p = jobNative (fun _ => false) k p := by
  unfold jobNative
  rw [h, Bool.and_false]

theorem jobNative_aloof {fails : JobCmd → Bool} {k : JobCmd} (hk : k.Aloof) (p : Printer) :
    (jobNative fails k p).1.guard = p.guard := by
  cases hf : k.mayFail && fails k with
  | true => rw [jobNative_of_fails hf]
  | false =>
    rw [jobNative_of_not_fails hf]
    cases k with
    | base k => cases k <;> first | rfl | exact hk.elim
    | _ => first | rfl | exact hk.elim

/-- A pause that has been asked for is in force, and during a pause the card waits. -/
structure CardWaits (p : Printer) : Prop where
  sent : p.pauseCommandSent = true → p.isPaused = true
  card : p.isPaused = true → p.sdPaused = true → p.sdActive = false

/-- The invariant: moreover, during a pause the guard is disarmed. -/
structure Guarded (p : Printer) : Prop extends CardWaits p where
  off : p.isPaused = true → p.zcontrol = false

/-- No pause is in force. -/
structure Running (p : Printer) : Prop where
  isPaused : p.isPaused = false
  sent : p.pauseCommandSent = false

theorem Running.guarded {p : Printer} (h : Running p) : Guarded p where
  sent := fun hs => absurd (hs.symm.trans h.sent) Bool.noConfusion
  card := fun hp => absurd (hp.symm.trans h.isPaused) Bool.noConfusion
  off := fun hp => absurd (hp.symm.trans h.isPaused) Bool.noConfusion

theorem CardWaits.running {p : Printer} (h : CardWaits p) (hp : p.isPaused = false) : Running p where
  isPaused := hp
  sent := by
    cases hs : p.pauseCommandSent with
    | true => exact absurd ((h.sent hs).symm.trans hp) Bool.noConfusion
    | false => rfl

theorem CardWaits.of_guard {p q : Printer} (h : CardWaits p) (hg : q.guard = p.guard) : CardWaits q := by
  simp only [Printer.guard, Prod.mk.injEq] at hg
  obtain ⟨hp, hs, hsd, ha, -⟩ := hg
  exact ⟨by rw [hp, hs]; exact h.sent, by rw [hp, hsd, ha]; exact h.card⟩

theorem Guarded.of_guard {p q : Printer} (h : Guarded p) (hg : q.guard = p.guard) : Guarded q := by
  refine ⟨h.toCardWaits.of_guard hg, ?_⟩
  simp only [Printer.guard, Prod.mk.injEq] at hg
  rw [hg.1, hg.2.2.2.2]
  exact h.off

theorem Running.of_guard {p q : Printer} (h : Running p) (hg : q.guard = p.guard) : Running q := by
  simp only [Printer.guard, Prod.mk.injEq] at hg
  exact ⟨hg.1.trans h.isPaused, hg.2.1.trans h.sent⟩

/-! ## What the commands keep -/

/-- The command begins no pause. -/
def JobCmd.Pauseless (k : JobCmd) : Prop := k ≠ .base .pauseBase

theorem doResume_running {p : Printer} (h : Running p) : Running (doResume p).1 := by
  unfold doResume
  split_ifs
  · exact h
  · exact ⟨h.isPaused, h.sent⟩

/-- Outside of a pause only `PAUSE_BASE` begins one. -/
theorem jobNative_running {fails : JobCmd → Bool} {k : JobCmd} (hk : k.Pauseless) {p : Printer}
    (h : Running p) : Running (jobNative fails k p).1 := by
  by_cases ha : k.Aloof
  · exact h.of_guard (jobNative_aloof ha p)
  cases hf : k.mayFail && fails k with
  | true =>
    rw [jobNative_of_fails hf]
    exact h
  | false =>
    rw [jobNative_of_not_fails hf]
    cases k with
    | base k =>
      cases k with
      | pauseBase => exact absurd rfl hk
      | resumeBase =>
        show Running (cmdResume p).1
        unfold cmdResume
        rw [if_pos h.isPaused]
        exact h
      | m24_1 => exact doResume_running h
      | zcontrolOn => exact ⟨h.isPaused, h.sent⟩
      | zcontrolOff => exact ⟨h.isPaused, h.sent⟩
      | _ => exact absurd trivial ha
    | clearPause => exact ⟨rfl, rfl⟩
    | cancelPrintBase => exact ⟨rfl, rfl⟩
    | sdcardPrintFileBase found =>
      show Running (cmdSdcardPrintFile found p).1
      unfold cmdSdcardPrintFile
      split_ifs
      · exact h
      · exact ⟨h.isPaused, h.sent⟩
      · exact h
    | sdcardResetFileBase fromSd =>
      show Running (cmdSdcardResetFile fromSd p).1
      unfold cmdSdcardResetFile
      split_ifs
      · exact h
      · exact ⟨h.isPaused, h.sent⟩
    | fileEnds => exact ⟨h.isPaused, h.sent⟩
    | _ => exact absurd trivial ha

theorem running_exec (fails : JobCmd → Bool) {c : JobMacro} (hc : c.Only JobCmd.Pauseless) {p : Printer}
    (h : Running p) : Running (c.exec (jobNative fails) p).state :=
  hc.rel (R := fun p q => Running p → Running q) (fun _ h => h) (fun _ _ _ hab hbc h => hbc (hab h))
    (fun _ hk _ h => jobNative_running hk h) p h

/-- The command ends a pause or stops the card or disarms the guard, or leaves them
alone. -/
def JobCmd.Tame : JobCmd → Prop
  | .base .pauseBase | .base .resumeBase | .base .m24_1 | .base .zcontrolOn
  | .sdcardPrintFileBase _ => False
  | _ => True

theorem jobNative_tame {fails : JobCmd → Bool} {k : JobCmd} (hk : k.Tame) {p : Printer}
    (h : Guarded p) : Guarded (jobNative fails k p).1 := by
  by_cases ha : k.Aloof
  · exact h.of_guard (jobNative_aloof ha p)
  cases hf : k.mayFail && fails k with
  | true =>
    rw [jobNative_of_fails hf]
    exact h
  | false =>
    rw [jobNative_of_not_fails hf]
    cases k with
    | base k =>
      cases k with
      | zcontrolOff => exact ⟨⟨h.sent, h.card⟩, fun _ => rfl⟩
      | pauseBase => exact hk.elim
      | resumeBase => exact hk.elim
      | m24_1 => exact hk.elim
      | zcontrolOn => exact hk.elim
      | _ => exact absurd trivial ha
    | clearPause => exact Running.guarded ⟨rfl, rfl⟩
    | cancelPrintBase => exact Running.guarded ⟨rfl, rfl⟩
    | sdcardResetFileBase fromSd =>
      show Guarded (cmdSdcardResetFile fromSd p).1
      unfold cmdSdcardResetFile
      split_ifs
      · exact h
      · exact ⟨⟨h.sent, fun _ _ => rfl⟩, h.off⟩
    | fileEnds => exact ⟨⟨h.sent, fun _ _ => rfl⟩, h.off⟩
    | sdcardPrintFileBase found => exact hk.elim
    | _ => exact absurd trivial ha

theorem tame_exec (fails : JobCmd → Bool) {c : JobMacro} (hc : c.Only JobCmd.Tame) {p : Printer}
    (h : Guarded p) : Guarded (c.exec (jobNative fails) p).state :=
  hc.rel (R := fun p q => Guarded p → Guarded q) (fun _ h => h) (fun _ _ _ hab hbc h => hbc (hab h))
    (fun _ hk _ h => jobNative_tame hk h) p h

/-! ## Ending a print -/

theorem tame_pauseless {k : JobCmd} (hk : k.Tame) : k.Pauseless := by
  rintro rfl
  exact hk

/-- Parking and extruding are moves and messages only. -/
theorem clientExtrude_only {Q : Cmd → Prop} (hother : ∀ s, Q (.other s)) (hrespond : ∀ s, Q (.respond s))
    (env : Readings) : (clientExtrude env).Only Q := by
  simp [clientExtrude, hother, hrespond]

theorem clientRetract_only {Q : Cmd → Prop} (hother : ∀ s, Q (.other s)) (hrespond : ∀ s, Q (.respond s))
    (env : Readings) : (clientRetract env).Only Q := by
  simp [clientRetract, clientExtrude_only hother hrespond]

theorem toolheadParkPauseCancel_only {Q : Cmd → Prop} (hother : ∀ s, Q (.other s))
    (hrespond : ∀ s, Q (.respond s)) (env : Readings) : (toolheadParkPauseCancel env).Only Q := by
  simp [toolheadParkPauseCancel, clientRetract_only hother hrespond, hother, hrespond]

theorem line_tame (s : String) : (line s).Only JobCmd.Tame := .cmd trivial

theorem stop_tame (st : Control.Settings) : (stop st).Only JobCmd.Tame := by
  simp [stop, line_tame, JobCmd.Tame]

theorem commonEndPrint_tame (r : Reading) (st : Control.Settings) :
    (commonEndPrint r st).Only JobCmd.Tame := by
  simp [commonEndPrint, stop_tame, line_tame]

theorem cancelPrint_tame (env : Readings) (r : Reading) (st : Control.Settings) :
    (cancelPrint env r st).Only JobCmd.Tame := by
  have hretract : ((clientRetract env).map JobCmd.base).Only JobCmd.Tame :=
    (clientRetract_only (Q := fun k => (JobCmd.base k).Tame) (fun _ => trivial) (fun _ => trivial) env).map
      (f := JobCmd.base) fun _ hk => hk
  simp [cancelPrint, hretract, commonEndPrint_tame, line_tame, JobCmd.Tame]

theorem endPrint_tame (r : Reading) (st : Control.Settings) : (endPrint r st).Only JobCmd.Tame := by
  simp [endPrint, commonEndPrint_tame, line_tame, JobCmd.Tame]

theorem sdcardResetFile_tame (fromSd : Bool) : (sdcardResetFile fromSd).Only JobCmd.Tame := by
  simp [sdcardResetFile, JobCmd.Tame]

/-! ## Starting a print -/

theorem sdcardPrintFile_pauseless (found : Bool) : (sdcardPrintFile found).Only JobCmd.Pauseless := by
  simp [sdcardPrintFile, line, JobCmd.Pauseless]

/-- Lines change nothing, and what follows them runs if they do not fail. -/
theorem lines_execAll (fails : JobCmd → Bool) (ss : List String) (cs : List JobMacro) (p : Printer) :
    (Script.execAll (jobNative fails) (ss.map line ++ cs) p).state = p ∨
      (Script.execAll (jobNative fails) (ss.map line ++ cs) p).state
        = (Script.execAll (jobNative fails) cs p).state := by
  induction ss with
  | nil => exact .inr rfl
  | cons s ss ih =>
    cases hf : fails (.base (.other s)) with
    | true => exact .inl (by simp [line, jobNative, JobCmd.mayFail, hf])
    | false =>
      have hskip : (Script.execAll (jobNative fails) ((s :: ss).map line ++ cs) p).state
          = (Script.execAll (jobNative fails) (ss.map line ++ cs) p).state := by
        simp [line, jobNative, JobCmd.mayFail, hf, native]
      rwa [hskip]

/-- `START_PRINT` clears a pause before it arms the guard. -/
theorem startPrint_guarded {fails : JobCmd → Bool} (moved refused : Bool) (extruderTemp bedTemp : Temp)
    (env : Readings) (r : Reading) (st : Control.Settings) {p : Printer} (h : Guarded p) :
    Guarded ((startPrint moved refused extruderTemp bedTemp env r st).exec (jobNative fails) p).state := by
  rw [startPrint, Script.exec_call]
  cases moved with
  | true =>
    rw [if_pos rfl]
    simpa [jobNative, JobCmd.mayFail] using h
  | false =>
    rw [if_neg Bool.false_ne_true]
    rw [List.append_assoc, List.append_assoc]
    rcases lines_execAll fails _ _ p with hstate | hstate <;> rw [hstate]
    · exact h
    rw [List.cons_append, Script.execAll_cons, Script.exec_cmd]
    have hclear : jobNative fails .clearPause p = (cmdClearPause p, none) := rfl
    rw [hclear, Run.andThen_mk_none]
    have hrest : ∀ cs : List JobMacro, Script.OnlyAll JobCmd.Pauseless cs →
        Guarded (Script.execAll (jobNative fails) cs (cmdClearPause p)).state := by
      intro cs hcs
      have hrun := running_exec fails hcs.call (p := cmdClearPause p) ⟨rfl, rfl⟩
      rw [Script.exec_call] at hrun
      exact hrun.guarded
    refine hrest _ ?_
    have hcancel := (cancelPrint_tame env r st).mono fun _ => tame_pauseless
    simp [line, hcancel, JobCmd.Pauseless]

/-! ## Pausing -/

theorem cmdPause_waits {p : Printer} (h : CardWaits p) : CardWaits (cmdPause p) := by
  unfold cmdPause sendPauseCommand
  by_cases hp : p.isPaused = true
  · rw [if_pos hp]
    exact h
  · have hs := (h.running (Bool.eq_false_iff.2 hp)).sent
    rw [if_neg hp, hs]
    exact ⟨fun _ => rfl, fun _ _ => rfl⟩

theorem afterPause_guarded (env : Readings) (restore : Option ℤ) {p : Printer} (h : CardWaits p) :
    Guarded (afterPause env restore p) := by
  have hwaits := cmdPause_waits (p := { p with
      lastExtruderTemp :=
        { restore := restore.getD 1 == 1, temp := p.extruderTarget, heater_bed_temp := p.bedTarget }
      restoreIdleTimeout := (env .PAUSE).configTimeout
      idleTimeout := clientIdleTimeout }) ⟨h.sent, h.card⟩
  exact ⟨⟨hwaits.sent, hwaits.card⟩, fun _ => rfl⟩

/-- `PAUSE` disarms the guard before it moves. -/
theorem pause_guarded (fails : JobCmd → Bool) (env : Readings) (restore : Option ℤ) {p : Printer}
    (h : CardWaits p) : Guarded (((pause env restore).map .base).exec (jobNative fails) p).state := by
  have htimeout : clientIdleTimeout > 0 := by norm_num [clientIdleTimeout]
  have hpark : (toolheadParkPauseCancel env).Only fun k => (JobCmd.base k).Tame :=
    toolheadParkPauseCancel_only (fun _ => trivial) (fun _ => trivial) env
  have htail : Script.OnlyAll JobCmd.Tame (Script.mapAll .base (toolheadParkPauseCancel env ::
      if runoutResume (env .PAUSE) then [] else [.cmd (.respond "Кончился филамент.")])) := by
    refine Script.OnlyAll.mapAll (Q := fun k => (JobCmd.base k).Tame) (fun _ hk => hk) _ ?_
    refine Script.onlyAll_cons.2 ⟨hpark, ?_⟩
    split_ifs <;> simp [JobCmd.Tame]
  have hrun := tame_exec fails htail.call (afterPause_guarded env restore h)
  rw [Script.exec_call] at hrun
  have hstate : (((pause env restore).map .base).exec (jobNative fails) p).state
      = (Script.execAll (jobNative fails) (Script.mapAll .base (toolheadParkPauseCancel env ::
          if runoutResume (env .PAUSE) then [] else [.cmd (.respond "Кончился филамент.")]))
        (afterPause env restore p)).state := by
    simp [pause, htimeout, pauseMacro, jobNative, JobCmd.mayFail, native, afterPause]
  rw [hstate]
  exact hrun

theorem m25_guarded {fails : JobCmd → Bool} (env : Readings) {p : Printer} (h : CardWaits p) :
    Guarded (((m25 env).map .base).exec (jobNative fails) p).state := by
  have hpause := pause_guarded fails env none (p := { p with zcontrol := false }) ⟨h.sent, h.card⟩
  simpa [m25, jobNative, JobCmd.mayFail, native] using hpause

theorem m600_guarded {fails : JobCmd → Bool} (env : Readings) {p : Printer} (h : CardWaits p) :
    Guarded (((m600 env).map .base).exec (jobNative fails) p).state := by
  have hpause := pause_guarded fails env none (p := { p with zextruderTemp := p.extruderTarget })
    ⟨h.sent, h.card⟩
  have htail : Script.OnlyAll JobCmd.Tame [(.cmd (.base (.respond "action:prompt_begin Замена филамента")) :
      JobMacro), .cmd (.base (.respond "action:prompt_show"))] := by
    simp [JobCmd.Tame]
  simp only [m600, Script.map_call, Script.mapAll_cons, Script.mapAll_nil, Script.map_cmd,
    Script.exec_call]
  rw [Script.execAll_cons, Script.exec_cmd]
  show Guarded (Script.execAll (jobNative fails) _ { p with zextruderTemp := p.extruderTarget }).state
  rw [Script.execAll_cons, Script.exec_cmd]
  show Guarded (Script.execAll (jobNative fails) _ { p with zextruderTemp := p.extruderTarget }).state
  rw [Script.execAll_cons]
  refine Run.andThen_state hpause fun q hq => ?_
  have hrun := tame_exec fails htail.call hq
  rwa [Script.exec_call] at hrun

/-! ## Resuming -/

theorem resume_pauseless (env : Readings) : ((resume env).map .base).Only JobCmd.Pauseless := by
  have hextrude : (clientExtrude env).Only fun k => k ≠ .pauseBase :=
    clientExtrude_only (fun _ => Cmd.noConfusion) (fun _ => Cmd.noConfusion) env
  have honly : (resume env).Only fun k => k ≠ .pauseBase := by
    simp [resume, resumeHeat, resumeContinue, resumePrompt, hextrude]
  exact honly.map (f := JobCmd.base) fun k hk heq => hk (JobCmd.base.inj heq)

/-- A `RESUME` that gives up leaves pause and guard alone. -/
theorem resume_stays_guarded {fails : JobCmd → Bool} {env : Readings} {p : Printer}
    (hg : goesOn (env .RESUME) p = false) (h : Guarded p) :
    Guarded (((resume env).map .base).exec (jobNative fails) p).state := by
  have hheat : Script.OnlyAll (fun k => (JobCmd.base k).Tame) (resumeHeat (env .RESUME) p) := by
    simp [resumeHeat, JobCmd.Tame]
  have hcontinue : Script.OnlyAll (fun k => (JobCmd.base k).Tame) (resumeContinue env p) := by
    unfold goesOn at hg
    unfold resumeContinue
    by_cases hr : runoutResume (env .RESUME) = true
    · have hd : doResumeFlag (env .RESUME) p = false := by simpa [hr] using hg
      simp [hr, hd]
    · simp [hr, JobCmd.Tame]
  have hprompt : Script.OnlyAll (fun k => (JobCmd.base k).Tame) (resumePrompt (env .RESUME) p) := by
    simp [resumePrompt, JobCmd.Tame]
  have hall := Script.OnlyAll.mapAll (f := JobCmd.base) (fun k hk => hk) _
    (Script.onlyAll_append.2 ⟨Script.onlyAll_append.2 ⟨hheat, hcontinue⟩, hprompt⟩)
  have hrun := tame_exec fails hall.call h
  rw [Script.exec_call] at hrun
  rw [resume, Script.map_call, Script.exec_call]
  exact hrun

/-- A `RESUME` that goes on and succeeds ends the pause. -/
theorem resume_goes_running {fails : JobCmd → Bool} (hf : ∀ k, fails k = false) {env : Readings}
    {p : Printer} (hg : goesOn (env .RESUME) p = true) (hp : p.isPaused = true) (h : CardWaits p) :
    Running (((resume env).map .base).exec (jobNative fails) p).state := by
  have hsame : ∀ k q, jobNative fails (.base k) q = native k q := by
    intro k q
    simp [jobNative, hf]
  obtain ⟨log, hexec, -⟩ := resume_exec_goes hg
  rw [Script.exec_map hsame, hexec]
  have hbefore : (beforeResumeBase (env .RESUME) p).isPaused = p.isPaused ∧
      (beforeResumeBase (env .RESUME) p).sdPaused = p.sdPaused ∧
      (beforeResumeBase (env .RESUME) p).sdActive = p.sdActive := by
    unfold beforeResumeBase afterRestore
    split_ifs <;> exact ⟨rfl, rfl, rfl⟩
  obtain ⟨hpaused, hsdPaused, hsdActive⟩ := hbefore
  show Running (cmdResume (beforeResumeBase (env .RESUME) p)).1
  unfold cmdResume
  rw [hpaused, hsdPaused, hsdActive, hp, if_neg Bool.noConfusion]
  cases hsd : p.sdPaused with
  | true =>
    rw [h.card hp hsd]
    exact ⟨rfl, rfl⟩
  | false => exact ⟨rfl, rfl⟩

theorem resume_guarded {fails : JobCmd → Bool} {env : Readings} {p : Printer} (h : Guarded p)
    (hs : p.isPaused = true → goesOn (env .RESUME) p = true → ∀ k, fails k = false) :
    Guarded (((resume env).map .base).exec (jobNative fails) p).state := by
  cases hp : p.isPaused with
  | false => exact (running_exec _ (resume_pauseless env) (h.running hp)).guarded
  | true =>
    cases hg : goesOn (env .RESUME) p with
    | false => exact resume_stays_guarded hg h
    | true => exact (resume_goes_running (hs hp hg) hg hp h.toCardWaits).guarded

/-- `M24` arms the guard first, so out of a pause it has to go on. -/
theorem m24_guarded {fails : JobCmd → Bool} {env : Readings} {p : Printer} (h : Guarded p)
    (hs : p.isPaused = true → goesOn (env .RESUME) p = true ∧ ∀ k, fails k = false) :
    Guarded (((m24 env).map .base).exec (jobNative fails) p).state := by
  cases hp : p.isPaused with
  | false =>
    have hrun : Running { p with zcontrol := true } := ⟨hp, (h.running hp).sent⟩
    have hstate : (((m24 env).map .base).exec (jobNative fails) p).state
        = (doResume { p with zcontrol := true }).1 := by
      simp [m24, hp, jobNative, JobCmd.mayFail, native]
    rw [hstate]
    exact (doResume_running hrun).guarded
  | true =>
    obtain ⟨hg, hf⟩ := hs hp
    have hstate : (((m24 env).map .base).exec (jobNative fails) p).state
        = (((resume env).map .base).exec (jobNative fails) { p with zcontrol := true }).state := by
      simp [m24, hp, jobNative, JobCmd.mayFail, native]
    rw [hstate]
    exact (resume_goes_running (p := { p with zcontrol := true }) hf hg hp ⟨h.sent, h.card⟩).guarded

/-! ## Main results -/

/-- The step lemma: a command that meets the condition keeps the invariant. -/
theorem perform_guarded {j : Job} {p : Printer} (h : Guarded p) (hs : Safe j p) :
    Guarded (perform j p).state := by
  obtain ⟨command, env, ending, st, fails⟩ := j
  cases command with
  | pausing c =>
    cases c with
    | PAUSE restore => exact pause_guarded _ env restore h.toCardWaits
    | M25 => exact m25_guarded env h.toCardWaits
    | M600 => exact m600_guarded env h.toCardWaits
    | RESUME => exact resume_guarded h hs
    | M24 => exact m24_guarded h hs
  | SDCARD_PRINT_FILE found =>
    exact (running_exec _ (sdcardPrintFile_pauseless found) (h.running hs)).guarded
  | SDCARD_RESET_FILE fromSd => exact tame_exec _ (sdcardResetFile_tame fromSd) h
  | START_PRINT moved refused extruderTemp bedTemp =>
    exact startPrint_guarded moved refused extruderTemp bedTemp env ending st h
  | CANCEL_PRINT => exact tame_exec _ (cancelPrint_tame env ending st) h
  | END_PRINT => exact tame_exec _ (endPrint_tame ending st) h
  | fileEnds => exact tame_exec _ (Script.only_cmd.2 (show JobCmd.fileEnds.Tame from trivial)) h

/-- **The guard is off during a pause.**  In a session that starts with no pause in
force, and whose commands all meet the condition, the guard is disarmed in every
state between two commands in which the print is paused. -/
theorem guard_off_while_paused {p : Printer} (h : Running p) {js : List Job}
    (hjs : Along perform Safe js p) : Along perform GuardOff js p :=
  along_of_invariant (fun _ _ hq hs => ⟨perform_guarded hq hs, (perform_guarded hq hs).off⟩) js p
    h.guarded hjs

/-! ## A run of each kind -/

/-- A job of which nothing fails, with the nozzle warm or cold. -/
def jobOf (c : Command) (canExtrude : Bool) : Job where
  command := .pausing c
  env := fun _ => { warm .printing with canExtrude := canExtrude }
  ending := warm .printing
  settings := Control.shipped
  fails := fun _ => false

theorem running_printing240 : Running printing240 := ⟨rfl, rfl⟩

/-- A pause, and an `M24` with the nozzle still warm. -/
theorem guard_off_while_paused_warm :
    Along perform GuardOff [jobOf (.PAUSE none) true, jobOf .M24 true] printing240 := by
  refine guard_off_while_paused running_printing240 ⟨trivial, fun _ => ⟨?_, fun _ => rfl⟩, trivial⟩
  rfl

/-- An `M24` during a pause that does not go on leaves the guard armed, whatever the
reason. -/
theorem armed_by_m24 {j : Job} (hj : j.command = .pausing .M24) {p : Printer} (hp : p.isPaused = true)
    (hg : goesOn (j.env .RESUME) p = false) (hf : j.Succeeds) : ¬ GuardOff j p := by
  have hsame : ∀ k q, jobNative j.fails (.base k) q = native k q := by
    intro k q
    simp [jobNative, hf (.base k)]
  obtain ⟨log, hexec, -⟩ := resume_exec_stays (p := { p with zcontrol := true }) hg
  have hstate : (perform j p).state = afterRestore (j.env .RESUME) { p with zcontrol := true } := by
    rw [perform, Job.script, hj]
    show (((m24 j.env).map JobCmd.base).exec (jobNative j.fails) p).state = _
    rw [Script.exec_map hsame, m24, Script.exec_call, if_pos hp]
    simp [native, hexec, Run.map]
  have hguard : (afterRestore (j.env .RESUME) { p with zcontrol := true }).isPaused = true ∧
      (afterRestore (j.env .RESUME) { p with zcontrol := true }).zcontrol = true := by
    unfold afterRestore
    split_ifs <;> exact ⟨hp, rfl⟩
  intro hoff
  unfold GuardOff at hoff
  rw [hstate] at hoff
  exact absurd (hoff hguard.1) (by rw [hguard.2]; decide)

/-- So a pause with the nozzle switched off, and an `M24` once it is cold. -/
theorem guard_armed_while_paused :
    ¬ ∀ (p : Printer) (js : List Job), Running p → Along perform GuardOff js p := by
  intro h
  have hrun := h printing240 [jobOf (.PAUSE none) true, jobOf .M24 false] running_printing240
  exact armed_by_m24 rfl (by decide) (by decide) (fun _ => rfl) hrun.2.1

end DisplayOff

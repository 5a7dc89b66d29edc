import Ff5m.GCode.DelayedGcode
import Ff5m.GCode.Line

/-!
# Starting, pausing and ending a print

The macros of `mod.cfg` (screen mode) and `display_off.cfg` with `client.cfg`
(display-off mode) that start, pause, resume, cancel and end a print, and those
of `base.cfg` they share: `_STOP`, `_START_PRINT`, `SDCARD_PRINT_FILE`,
`_SPEED_SET` and the delayed G-codes.  What they change is a `Printer`: the timers, the
card, the pause state, the flag `cancel_send`, the heater targets and the speed.

A macro holds the G-code mutex from its first command to its last, so to the
timers it is one step, however long it takes.  A timer that expires meanwhile
renders its script and waits; `Event` has the expiry and the run of the script
apart.  Moves, messages and preparations that touch nothing of this are kept as
`other`, or as `attempt` where it matters that they may end in an error.  An error ends
the macro it comes up in and those around it.  The shell commands can be started.
-/

namespace Control

open TextTools (Text str)
open ConfigParser (rstrip)
open GCode

/-! ## The printer -/

/-- The two configurations: `mod.cfg` with the native screen, `display_off.cfg`
without. -/
inductive Mode where
  | screen
  | displayOff
  deriving DecidableEq

/-- The delayed G-codes of `base.cfg` that the macros arm. -/
inductive Timer where
  | STOP_MOTOR
  | GOTO_PAUSE
  | CLOSE_DIALOGS
  | FAST_CLOSE_DIALOGS
  | AUTO_REBOOT
  | SET_SPEED1
  | SET_SPEED2
  deriving DecidableEq

/-- `virtual_sdcard` with its `print_stats`: no file, a file that has been selected,
one that is being printed, and one whose print is paused. -/
inductive Sd where
  | empty
  | selected
  | printing
  | paused
  deriving DecidableEq

/-- A line of the script of a delayed G-code. -/
inductive Line where
  | text (s : String)
  | m220 (percent : ℚ)
  deriving DecidableEq

/-- What the commands change.  `prints` counts the prints started so far; the
code has no such counter, it only tells the armings of the timers apart. -/
structure Printer where
  mode : Mode
  now : ℕ
  timers : Timer → Delayed ℕ (List Line)
  sd : Sd
  prints : ℕ
  /-- `pause_resume` -/
  isPaused : Bool
  pauseCommandSent : Bool
  sdPaused : Bool
  /-- the variable of `_CANCEL_PRINT` -/
  cancelSend : ℤ
  extruderTarget : ℚ
  bedTarget : ℚ
  /-- the factor of `M220`, in per cent -/
  speed : ℚ
  /-- the variables of `_SPEED_SET` -/
  speed1 : ℚ
  speed2 : ℚ
  zcontrol : Bool

/-- The stored variables that the macros read, and what else they meet. -/
structure Settings where
  closeDialogs : ℤ
  autoReboot : ℤ
  stopMotor : ℤ
  midiEnd : String
  /-- the variable of `PLAY_MIDI` -/
  mute : Bool
  upper : Upper
  /-- the line ends in an error -/
  raises : String → Bool

/-! ## Native commands -/

/-- The native commands that the macros end in. -/
inductive Cmd where
  | respond (msg : String)
  | zsend (msg : String)
  | setCancelSend (v : ℤ)
  | setSpeed1 (v : ℚ)
  | setSpeed2 (v : ℚ)
  | updateDelayedGcode (id : Timer) (duration : ℕ)
  | m23
  | m24
  | m25_1
  | sdcardPrintFileBase (found : Bool)
  | pauseBase
  | resumeBase
  | clearPause
  | cancelPrintBase
  | m140 (t : ℚ)
  | m104 (t : ℚ)
  | turnOffHeaters
  | m220 (percent : ℚ)
  | zcontrolOn
  | zcontrolOff
  | raiseError (msg : String)
  | attempt (line : String) (failure : Option Failure)
  | other (line : String)
  deriving DecidableEq

/-- The update of one timer. -/
def Printer.setTimer (id : Timer) (f : Delayed ℕ (List Line) → Delayed ℕ (List Line)) (p : Printer) :
    Printer :=
  { p with timers := Function.update p.timers id (f (p.timers id)) }

/-- `VirtualSD.do_pause`. -/
def doPause (p : Printer) : Printer := if p.sd = .printing then { p with sd := .paused } else p

/-- `VirtualSD.do_resume`: "SD busy" when the card is being printed from; without a
file the work timer gives up at once; with a selected one a print starts. -/
def doResume (p : Printer) : Printer × Option Failure :=
  match p.sd with
  | .printing => (p, some .command)
  | .empty => (p, none)
  | .selected => ({ p with sd := .printing, prints := p.prints + 1 }, none)
  | .paused => ({ p with sd := .printing }, none)

/-- `VirtualSD.cmd_M23`, for a file that exists. -/
def cmdM23 (p : Printer) : Printer × Option Failure :=
  if p.sd = .printing then (p, some .command) else ({ p with sd := .selected }, none)

/-- `VirtualSD.cmd_SDCARD_PRINT_FILE`; `found` says whether the file can be opened. -/
def cmdSdcardPrintFile (found : Bool) (p : Printer) : Printer × Option Failure :=
  if p.sd = .printing then (p, some .command)
  else if found then ({ p with sd := .printing, prints := p.prints + 1 }, none)
  else ({ p with sd := .empty }, some .command)

/-- `PauseResume.cmd_PAUSE`. -/
def cmdPause (p : Printer) : Printer :=
  if p.isPaused then p
  else if p.pauseCommandSent then { p with isPaused := true }
  else
    { doPause p with
      sdPaused := p.sd = .printing, pauseCommandSent := true, isPaused := true }

/-- `PauseResume.cmd_RESUME`. -/
def cmdResume (p : Printer) : Printer × Option Failure :=
  if p.isPaused = false then (p, none)
  else if p.sdPaused then
    if (doResume p).2.isSome then (p, some .command)
    else ({ (doResume p).1 with sdPaused := false, pauseCommandSent := false, isPaused := false }, none)
  else ({ p with pauseCommandSent := false, isPaused := false }, none)

/-- `PauseResume.cmd_CLEAR_PAUSE`. -/
def cmdClearPause (p : Printer) : Printer := { p with isPaused := false, pauseCommandSent := false }

/-- `PauseResume.cmd_CANCEL_PRINT`: `do_cancel` closes the file. -/
def cmdCancelPrint (p : Printer) : Printer :=
  cmdClearPause (if p.sd = .printing ∨ p.sdPaused then { p with sd := .empty } else p)

/-- The native commands. -/
def native : Native Cmd Printer
  | .setCancelSend v, p => ({ p with cancelSend := v }, none)
  | .setSpeed1 v, p => ({ p with speed1 := v }, none)
  | .setSpeed2 v, p => ({ p with speed2 := v }, none)
  | .updateDelayedGcode id duration, p => (p.setTimer id (.update p.now duration p.prints), none)
  | .m23, p => cmdM23 p
  | .m24, p => doResume p
  | .m25_1, p => (doPause p, none)
  | .sdcardPrintFileBase found, p => cmdSdcardPrintFile found p
  | .pauseBase, p => (cmdPause p, none)
  | .resumeBase, p => cmdResume p
  | .clearPause, p => (cmdClearPause p, none)
  | .cancelPrintBase, p => (cmdCancelPrint p, none)
  | .m140 t, p => ({ p with bedTarget := t }, none)
  | .m104 t, p => ({ p with extruderTarget := t }, none)
  | .turnOffHeaters, p => ({ p with bedTarget := 0, extruderTarget := 0 }, none)
  | .m220 percent, p => ({ p with speed := percent }, none)
  | .zcontrolOn, p => ({ p with zcontrol := true }, none)
  | .zcontrolOff, p => ({ p with zcontrol := false }, none)
  | .raiseError _, p => (p, some .command)
  | .respond _, p => (p, none)
  | .zsend _, p => (p, none)
  | .attempt _ failure, p => (p, failure)
  | .other _, p => (p, none)

/-! ## What the card and `pause_resume` leave alone -/

/-- The printer with the state of the card and of `pause_resume` of another. -/
def Printer.withJob (p q : Printer) : Printer :=
  { p with
    sd := q.sd, prints := q.prints, isPaused := q.isPaused,
    pauseCommandSent := q.pauseCommandSent, sdPaused := q.sdPaused }

theorem doPause_job (p : Printer) : ∃ q, doPause p = p.withJob q := by
  unfold doPause
  by_cases h : p.sd = .printing
  · exact ⟨{ p with sd := .paused }, by rw [if_pos h]; rfl⟩
  · exact ⟨p, by rw [if_neg h]; rfl⟩

theorem doResume_job (p : Printer) : ∃ q, (doResume p).1 = p.withJob q := by
  unfold doResume
  cases p.sd with
  | printing => exact ⟨p, rfl⟩
  | empty => exact ⟨p, rfl⟩
  | selected => exact ⟨{ p with sd := .printing, prints := p.prints + 1 }, rfl⟩
  | paused => exact ⟨{ p with sd := .printing }, rfl⟩

theorem cmdM23_job (p : Printer) : ∃ q, (cmdM23 p).1 = p.withJob q := by
  unfold cmdM23
  by_cases h : p.sd = .printing
  · exact ⟨p, by rw [if_pos h]; rfl⟩
  · exact ⟨{ p with sd := .selected }, by rw [if_neg h]; rfl⟩

theorem cmdSdcardPrintFile_job (found : Bool) (p : Printer) :
    ∃ q, (cmdSdcardPrintFile found p).1 = p.withJob q := by
  unfold cmdSdcardPrintFile
  by_cases h : p.sd = .printing
  · exact ⟨p, by rw [if_pos h]; rfl⟩
  · rw [if_neg h]
    cases found with
    | true => exact ⟨{ p with sd := .printing, prints := p.prints + 1 }, rfl⟩
    | false => exact ⟨{ p with sd := .empty }, rfl⟩

theorem cmdPause_job (p : Printer) : ∃ q, cmdPause p = p.withJob q := by
  obtain ⟨q, hq⟩ := doPause_job p
  unfold cmdPause
  rw [hq]
  by_cases h : p.isPaused = true
  · exact ⟨p, by rw [if_pos h]; rfl⟩
  · rw [if_neg h]
    by_cases hs : p.pauseCommandSent = true
    · exact ⟨{ p with isPaused := true }, by rw [if_pos hs]; rfl⟩
    · exact ⟨{ q with sdPaused := p.sd = .printing, pauseCommandSent := true, isPaused := true },
        by rw [if_neg hs]; rfl⟩

theorem cmdResume_job (p : Printer) : ∃ q, (cmdResume p).1 = p.withJob q := by
  obtain ⟨q, hq⟩ := doResume_job p
  unfold cmdResume
  rw [hq]
  by_cases h : p.isPaused = false
  · exact ⟨p, by rw [if_pos h]; rfl⟩
  · rw [if_neg h]
    by_cases hs : p.sdPaused = true
    · rw [if_pos hs]
      by_cases hf : (doResume p).2.isSome = true
      · exact ⟨p, by rw [if_pos hf]; rfl⟩
      · exact ⟨{ q with sdPaused := false, pauseCommandSent := false, isPaused := false },
          by rw [if_neg hf]; rfl⟩
    · exact ⟨{ p with pauseCommandSent := false, isPaused := false }, by rw [if_neg hs]; rfl⟩

theorem cmdCancelPrint_job (p : Printer) : ∃ q, cmdCancelPrint p = p.withJob q := by
  unfold cmdCancelPrint
  by_cases h : p.sd = .printing ∨ p.sdPaused = true
  · exact ⟨{ p with sd := .empty, isPaused := false, pauseCommandSent := false },
      by rw [if_pos h]; rfl⟩
  · exact ⟨{ p with isPaused := false, pauseCommandSent := false }, by rw [if_neg h]; rfl⟩

/-- The native commands of the card and of `pause_resume`. -/
def Cmd.job : Cmd → Bool
  | .m23 | .m24 | .m25_1 | .sdcardPrintFileBase _ | .pauseBase | .resumeBase | .clearPause
  | .cancelPrintBase => true
  | _ => false

/-- They change nothing else. -/
theorem native_job {k : Cmd} (hk : k.job = true) (p : Printer) :
    ∃ q, (native k p).1 = p.withJob q := by
  cases k with
  | m23 => exact cmdM23_job p
  | m24 => exact doResume_job p
  | m25_1 => exact doPause_job p
  | sdcardPrintFileBase found => exact cmdSdcardPrintFile_job found p
  | pauseBase => exact cmdPause_job p
  | resumeBase => exact cmdResume_job p
  | clearPause => exact ⟨{ p with isPaused := false, pauseCommandSent := false }, rfl⟩
  | cancelPrintBase => exact cmdCancelPrint_job p
  | _ => cases hk

/-- What does not depend on the card is changed at most by the commands that are not
of the card. -/
theorem native_frame {β : Type} {f : Printer → β} (hf : ∀ p q, f (p.withJob q) = f p) {k : Cmd}
    (hk : k.job = false → ∀ p, f (native k p).1 = f p) (p : Printer) :
    f (native k p).1 = f p := by
  cases hj : k.job with
  | true =>
    obtain ⟨q, hq⟩ := native_job hj p
    rw [hq, hf]
  | false => exact hk hj p

theorem native_mode (k : Cmd) (p : Printer) : (native k p).1.mode = p.mode := by
  refine native_frame (f := Printer.mode) (fun _ _ => rfl) (fun hj q => ?_) p
  cases k <;> first | rfl | cases hj

@[simp] theorem timers_setTimer (id : Timer) (f : Delayed ℕ (List Line) → Delayed ℕ (List Line))
    (p : Printer) : (p.setTimer id f).timers id = f (p.timers id) :=
  Function.update_self ..

theorem timers_setTimer_of_ne {id id' : Timer} (h : id ≠ id')
    (f : Delayed ℕ (List Line) → Delayed ℕ (List Line)) (p : Printer) :
    (p.setTimer id' f).timers id = p.timers id :=
  Function.update_of_ne h ..

/-- The command does not touch the timer. -/
def Cmd.Spares (id : Timer) : Cmd → Prop
  | .updateDelayedGcode id' _ => id ≠ id'
  | _ => True

theorem native_timers {id : Timer} {k : Cmd} (hk : k.Spares id) (p : Printer) :
    (native k p).1.timers id = p.timers id := by
  refine native_frame (f := fun p => p.timers id) (fun _ _ => rfl) (fun hj q => ?_) p
  cases k with
  | updateDelayedGcode id' duration => exact timers_setTimer_of_ne hk ..
  | _ => first | rfl | cases hj

/-- The command leaves alone what the card does. -/
def Cmd.Idle : Cmd → Prop
  | .m23 | .m24 | .m25_1 | .sdcardPrintFileBase _ | .pauseBase | .resumeBase | .cancelPrintBase => False
  | _ => True

theorem native_sd {k : Cmd} (hk : k.Idle) (p : Printer) : (native k p).1.sd = p.sd := by
  cases k <;> first | rfl | exact hk.elim

/-! ## Macros of base.cfg -/

/-- A script of the printer. -/
abbrev Macro := Script Cmd Printer

/-- A line that may end in an error. -/
def Settings.attempt (st : Settings) (line : String) : Macro :=
  .cmd (.attempt line (if st.raises line then some .command else none))

/-- How `RUN_SHELL_COMMAND CMD=audio_midi PARAMS="{FILE}"` fails; to start another command
counts as an error. -/
def audioFailure (up : Upper) (file : Text) : Option Failure :=
  match extendedParams up (str "CMD=audio_midi PARAMS=\"" ++ file ++ str "\"") with
  | none => some .command
  | some ps =>
    if getParam ps (str "CMD") ≠ some (str "audio_midi") then some .command
    else if (Shlex.split ((getParam ps (str "PARAMS")).getD [])).isNone then some .internal
    else none

/-- How `PLAY_MIDI FILE={zmidi_end}` fails, where the name has no quotes around it; one
with line breaks counts as an error. -/
def Settings.midiFailure (st : Settings) : Option Failure :=
  if '\n' ∈ str st.midiEnd then some .command
  else
    match extendedParams st.upper (rstrip (str "FILE=" ++ str st.midiEnd)) with
    | none => some .command
    | some ps =>
      if st.mute then none
      else audioFailure st.upper ((getParam ps (str "FILE")).getD (str "For_Elise.mid"))

/-- The line of `_STOP` that stores a variable. -/
def saveCheckMd5 : String := "SAVE_VARIABLE VARIABLE=check_md5 VALUE=0"

/-- `_STOP` comes to its end: a melody can be played by its name, and the variable can be
stored. -/
def Settings.Stops (st : Settings) : Prop :=
  (st.midiEnd ≠ "" → st.midiFailure = none) ∧ st.raises saveCheckMd5 = false

/-- `_STOP`. -/
def stop (st : Settings) : Macro := .call fun _ =>
  [.cmd (.other "M400"), .cmd (.m220 100), .cmd (.other "M221 S100"), .cmd (.m140 0), .cmd (.m104 0),
    .cmd (.other "M106 S0"), .cmd (.other "M107"), .cmd (.other "SET_SKEW CLEAR=1")] ++
  (if st.midiEnd ≠ "" then [.cmd (.attempt "PLAY_MIDI" st.midiFailure)] else []) ++
  [.cmd (.other "EXCLUDE_OBJECT_DEFINE RESET=1"), st.attempt saveCheckMd5,
    .cmd (.other "RUN_SHELL_COMMAND CMD=znice"), .cmd .zcontrolOff,
    .cmd (.respond "Работа завершена")]

/-- The lines of `CANCEL_PRINT` and `END_PRINT` that close the dialogs of the screen. -/
def closeDialogs (st : Settings) : List Macro :=
  (if st.closeDialogs = 1 then [.cmd (.updateDelayedGcode .CLOSE_DIALOGS 20)] else []) ++
  (if st.closeDialogs = 2 then [.cmd (.updateDelayedGcode .FAST_CLOSE_DIALOGS 20)] else [])

/-- Those that switch the motors off in a while. -/
def stopMotor (st : Settings) : List Macro :=
  if st.stopMotor = 1 then [.cmd (.updateDelayedGcode .STOP_MOTOR 25)] else []

/-- Those of `END_PRINT` that restart the printer in a while. -/
def autoReboot (st : Settings) : List Macro :=
  if st.autoReboot ≠ 0 then
    [.cmd (.respond "Автоматическая перезагрузка через 1.5 минуты"),
      .cmd (.updateDelayedGcode .AUTO_REBOOT 90)]
  else []

/-- `SDCARD_PRINT_FILE`. -/
def sdcardPrintFile (found : Bool) : Macro := .call fun _ =>
  [.cmd .zcontrolOn, .cmd (.other "_G28"), .cmd (.other "G1 Z50 F3000"),
    .cmd (.sdcardPrintFileBase found)]

/-- `_SPEED_SET`. -/
def speedSet (zspeed : ℤ) : Macro := .call fun _ =>
  [.cmd (.setSpeed1 (zspeed / 2)), .cmd (.setSpeed2 zspeed), .cmd (.m220 (zspeed / 4)),
    .cmd (.updateDelayedGcode .SET_SPEED1 60), .cmd (.updateDelayedGcode .SET_SPEED2 120)]

/-- The script that a delayed G-code renders when it expires. -/
def render (st : Settings) (p : Printer) : Timer → List Line
  | .STOP_MOTOR => [.text "RESPOND PREFIX=\"info\" MSG=\"Моторы отключены\"", .text "M84"]
  | .GOTO_PAUSE =>
    [.text "RESPOND PREFIX=\"info\" MSG=\"Отвожу голову в дальний правый угол\"",
      .text "G1 Y108 F7800", .text "M400", .text "G1 X108 F7800", .text "M400"]
  | .CLOSE_DIALOGS => [.text "CLOSE_DIALOGS"]
  | .FAST_CLOSE_DIALOGS => [.text "FAST_CLOSE_DIALOGS"]
  | .AUTO_REBOOT =>
    if st.autoReboot = 2 ∧ p.mode = .displayOff then [.text "FIRMWARE_RESTART"] else [.text "REBOOT"]
  | .SET_SPEED1 => [.m220 p.speed1]
  | .SET_SPEED2 => [.m220 p.speed2]

/-- A line of such a script, as a command. -/
def Line.cmd : Line → Cmd
  | .text s => .other s
  | .m220 percent => .m220 percent

/-! ## Macros of the two modes -/

/-- `_COMMON_END_PRINT`. -/
def commonEndPrint (st : Settings) : Macro := .call fun _ =>
  [.cmd (.other "G1 Z{z_max}"), .cmd (.other "G1 X{custom_park_x} Y{custom_park_y}"), stop st,
    .cmd (.other "AIR_CIRCULATION_STOP")] ++ stopMotor st

/-- `CANCEL_PRINT`. -/
def cancelPrint (st : Settings) : Macro := .call fun p =>
  match p.mode with
  | .screen =>
    (if p.cancelSend = 1 then
      [.cmd (.respond "Повторная отправка отмены на родной экрана отменена"),
        .cmd (.setCancelSend 0), .cmd .zcontrolOff]
    else
      [.cmd (.zsend "M26"), stop st, .cmd (.setCancelSend 1),
        .cmd (.respond "Отмена отправлена на родной экран")]) ++
    closeDialogs st ++ stopMotor st ++ [.cmd .cancelPrintBase]
  | .displayOff =>
    [.cmd (.other "SET_IDLE_TIMEOUT"), .cmd (.other "_CLIENT_RETRACT"), .cmd .turnOffHeaters,
      .cmd (.other "M106 S0"), commonEndPrint st,
      .cmd (.other "SET_GCODE_VARIABLE MACRO=RESUME VARIABLE=idle_state VALUE=False"),
      .cmd (.other "SET_PAUSE_NEXT_LAYER ENABLE=0"), .cmd (.other "SET_PAUSE_AT_LAYER ENABLE=0 LAYER=0"),
      .cmd .cancelPrintBase]

/-- `END_PRINT`. -/
def endPrint (st : Settings) : Macro := .call fun p =>
  match p.mode with
  | .screen =>
    [.cmd (.other "G1 E-3 F3600"), .cmd (.other "G0 X105 Y105 F30000")] ++ closeDialogs st ++
      autoReboot st ++ [stop st] ++ stopMotor st
  | .displayOff =>
    [.cmd (.other "G91"), .cmd (.other "G1 X-2 Y-2 E-5 F2000")] ++ autoReboot st ++ [commonEndPrint st]

/-- The refusal of the sum check that `_START_PRINT` may make. -/
def refuseMd5 (st : Settings) : Macro := .call fun _ =>
  [cancelPrint st, .cmd (.raiseError "Проверка MD5 завершилась с ошибкой. Печать отменена.")]

/-- The lines of `_START_PRINT` before the check of the sum. -/
def resetting : List Macro :=
  [.cmd (.updateDelayedGcode .CLOSE_DIALOGS 0), .cmd (.updateDelayedGcode .FAST_CLOSE_DIALOGS 0),
    .cmd (.updateDelayedGcode .STOP_MOTOR 0), .cmd (.updateDelayedGcode .AUTO_REBOOT 0),
    .cmd (.updateDelayedGcode .GOTO_PAUSE 0), .cmd .clearPause, .cmd .zcontrolOn,
    .cmd (.setCancelSend 0), .cmd (.other "ZSSH_RELOAD")]

/-- What `_START_PRINT` does after that: it reports the parameters, checks the sum of the
file, which is wrong if `refused`, and prepares the bed and the nozzle. -/
def preparing (refused : Bool) (extruderTemp bedTemp : ℚ) (st : Settings) : List Macro :=
  st.attempt "RESPOND" :: (if refused then [refuseMd5 st] else []) ++
  [.cmd (.m140 bedTemp), st.attempt "_G28", st.attempt "_START_MESH", .cmd (.m104 extruderTemp),
    st.attempt "TEMPERATURE_WAIT", st.attempt "{zclear}"]

/-- `START_PRINT`, which sets the variables of `_START_PRINT` and calls it; `faulty` says
that it does not get there, as with a parameter that has moved elsewhere or a value that
is no literal. -/
def startPrint (refused : Bool) (extruderTemp bedTemp : ℚ) (faulty : Bool) (st : Settings) : Macro :=
  .call fun _ =>
    if faulty then [.cmd (.raiseError "Параметр переехал в SAVE_ZMOD_DATA")]
    else resetting ++ preparing refused extruderTemp bedTemp st

theorem startPrint_faulty (refused : Bool) (extruderTemp bedTemp : ℚ) (st : Settings) (p : Printer) :
    (startPrint refused extruderTemp bedTemp true st).exec native p
      = ⟨p, [(.raiseError "Параметр переехал в SAVE_ZMOD_DATA", p)], some .command⟩ := by
  simp [startPrint, native]

/-- A start that comes to `_START_PRINT`. -/
theorem startPrint_started (refused : Bool) (extruderTemp bedTemp : ℚ) (st : Settings) (p : Printer) :
    (startPrint refused extruderTemp bedTemp false st).exec native p
      = (Script.execAll native resetting p).andThen
          (Script.execAll native (preparing refused extruderTemp bedTemp st)) := by
  rw [startPrint, Script.exec_call, ← Script.execAll_append]
  rfl

/-- What the first part of a start leaves: it resets the flag, and disarms the
timers of its list where their scripts do not wait. -/
theorem resetting_exec (p : Printer) :
    ∃ q log, Script.execAll native resetting p = ⟨q, log, none⟩ ∧
      q.mode = p.mode ∧ q.cancelSend = 0 ∧
      ∀ id ∈ [Timer.STOP_MOTOR, .AUTO_REBOOT, .GOTO_PAUSE],
        q.timers id = (p.timers id).update p.now 0 p.prints := by
  have hraised : (Script.execAll native resetting p).raised = none := by
    simp [resetting, native]
  refine ⟨_, _, by rw [← hraised], ?_, ?_, ?_⟩
  · simp [resetting, native, Printer.setTimer, cmdClearPause]
  · simp [resetting, native, Printer.setTimer, cmdClearPause]
  · simp [resetting, native, Printer.setTimer, cmdClearPause, Function.update_of_ne]

/-- `PAUSE`. -/
def pause : Macro := .call fun p =>
  match p.mode with
  | .screen =>
    [.cmd (.zsend "M25"), .cmd (.updateDelayedGcode .GOTO_PAUSE 10), .cmd .zcontrolOff]
  | .displayOff =>
    [.cmd .pauseBase, .cmd (.m104 0), .cmd .zcontrolOff, .cmd (.other "_TOOLHEAD_PARK_PAUSE_CANCEL")]

/-- `RESUME`; in display-off mode, one that goes on. -/
def resume : Macro := .call fun p =>
  match p.mode with
  | .screen => [.cmd .zcontrolOn, .cmd (.zsend "M24")]
  | .displayOff => [.cmd .zcontrolOn, .cmd (.other "_CLIENT_EXTRUDE"), .cmd .resumeBase]

/-- `M25`. -/
def m25 : Macro := .call fun p =>
  match p.mode with
  | .screen => [.cmd .zcontrolOff, .cmd .m25_1, .cmd (.updateDelayedGcode .GOTO_PAUSE 10)]
  | .displayOff => [.cmd .zcontrolOff, pause]

/-- `M24`, a native command in screen mode. -/
def m24 : Macro := .call fun p =>
  match p.mode with
  | .screen => [.cmd .m24]
  | .displayOff => if p.isPaused then [.cmd .zcontrolOn, resume] else [.cmd .zcontrolOn, .cmd .m24]

/-! ## Events -/

/-- Who gave a `CANCEL_PRINT`. -/
inductive Sender where
  | user
  | screen
  deriving DecidableEq

/-- The commands that a user, the screen or a file may give.  `reaches` says
whether the `M26` that the macro may send arrives at the screen. -/
inductive Command where
  | M23
  | M24
  | M25
  | PAUSE
  | RESUME
  | SDCARD_PRINT_FILE (found : Bool)
  | START_PRINT (refused reaches : Bool) (extruderTemp bedTemp : ℚ) (faulty : Bool)
  | END_PRINT
  | CANCEL_PRINT (sender : Sender) (reaches : Bool)
  | SPEED_SET (zspeed : ℤ)

/-- The script of a command. -/
def Command.script (st : Settings) : Command → Macro
  | .M23 => .cmd .m23
  | .M24 => m24
  | .M25 => m25
  | .PAUSE => pause
  | .RESUME => resume
  | .SDCARD_PRINT_FILE found => sdcardPrintFile found
  | .START_PRINT refused _ extruderTemp bedTemp faulty =>
    startPrint refused extruderTemp bedTemp faulty st
  | .END_PRINT => endPrint st
  | .CANCEL_PRINT _ _ => cancelPrint st
  | .SPEED_SET zspeed => speedSet zspeed

/-- What can happen: time passes, a timer expires, its script gets the mutex and
runs, a command is given with the settings of the moment, or the card comes to
the end of the file. -/
inductive Event where
  | tick (dt : ℕ)
  | expire (id : Timer) (st : Settings)
  | run (id : Timer)
  | give (c : Command) (st : Settings)
  | fileEnds

/-- One event. -/
def step : Event → Printer → Run Cmd Printer
  | .tick dt, p => ⟨{ p with now := p.now + dt }, [], none⟩
  | .expire id st, p => ⟨p.setTimer id (.expire p.now (render st p id)), [], none⟩
  | .run id, p =>
    match (p.timers id).inside with
    | none => ⟨p, [], none⟩
    | some x =>
      let r := Script.execAll native (x.script.map fun l => .cmd l.cmd) p
      ⟨r.state.setTimer id .finish, r.log, none⟩
  | .give c st, p => (c.script st).exec native p
  | .fileEnds, p => ⟨if p.sd = .printing then { p with sd := .empty } else p, [], none⟩

/-- The lines of the script of a delayed G-code. -/
def Line.macros (lines : List Line) : List Macro := lines.map fun l => .cmd l.cmd

theorem step_run_none {id : Timer} {p : Printer} (h : (p.timers id).inside = none) :
    step (.run id) p = ⟨p, [], none⟩ := by
  simp only [step, h]

theorem step_run_some {id : Timer} {p : Printer} {x : Expired ℕ (List Line)}
    (h : (p.timers id).inside = some x) :
    step (.run id) p =
      ⟨(Script.execAll native (Line.macros x.script) p).state.setTimer id .finish,
        (Script.execAll native (Line.macros x.script) p).log, none⟩ := by
  simp only [step, h]
  rfl

theorem step_mode (e : Event) (p : Printer) : (step e p).state.mode = p.mode := by
  have hmode : ∀ k q, Printer.mode q = p.mode → (native k q).1.mode = p.mode :=
    fun k q hq => (native_mode k q).trans hq
  cases e with
  | tick dt => rfl
  | expire id st => rfl
  | give c st => exact (Script.exec_invariant hmode (c.script st) p rfl).1
  | run id =>
    cases hx : (p.timers id).inside with
    | none => rw [step_run_none hx]
    | some x =>
      rw [step_run_some hx]
      exact (Script.execAll_invariant hmode (Line.macros x.script) p rfl).1
  | fileEnds =>
    show (if p.sd = .printing then _ else p : Printer).mode = p.mode
    split_ifs <;> rfl

/-- A script of a delayed G-code is limited to the commands of its lines. -/
theorem onlyAll_macros {Q : Cmd → Prop} (hother : ∀ s, Q (.other s)) (hm220 : ∀ v, Q (.m220 v))
    (lines : List Line) : Script.OnlyAll Q (Line.macros lines) := by
  intro c hc
  obtain ⟨l, -, rfl⟩ := List.mem_map.1 hc
  cases l with
  | text s => exact .cmd (hother s)
  | m220 v => exact .cmd (hm220 v)

/-! ## A printer after a boot -/

/-- In screen mode, with nothing selected and no timer armed. -/
def booted : Printer where
  mode := .screen
  now := 0
  timers := fun _ => .new
  sd := .empty
  prints := 0
  isPaused := false
  pauseCommandSent := false
  sdPaused := false
  cancelSend := 0
  extruderTarget := 0
  bedTarget := 0
  speed := 100
  speed1 := 100
  speed2 := 100
  zcontrol := false

/-- The settings of the stored variables as they are shipped. -/
def shipped : Settings := ⟨0, 0, 0, "", false, asciiUpper, fun _ => false⟩

end Control

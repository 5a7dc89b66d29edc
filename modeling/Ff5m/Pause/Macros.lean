import Ff5m.GCode.Script

/-!
# Pausing and resuming in display-off mode

The macros `PAUSE` and `RESUME` of `client.cfg`, with the values that
`display_off.cfg` gives to `_CLIENT_VARIABLE`, the macros `_PAUSE_MACRO`, `M25`
and `M24` of `display_off.cfg`, `M600` of `base.cfg`, and the native commands of
Klipper they end in.  Every macro is a template over the printer state; what it
reads besides (the idle timer, the filament sensor, whether the nozzle is hot
enough, the homing state) is a `Reading`, given anew for each template.

The extruder is always configured, so that the alternatives of the templates
for a printer without one are left out; moves and messages touch nothing that
is modelled, and are kept as `other` and `respond`.
-/

namespace DisplayOff

open GCode

/-! ## The printer -/

/-- A temperature, in °C. -/
abbrev Temp := ℚ

/-- `RESUME.last_extruder_temp`. -/
structure Saved where
  restore : Bool
  temp : Temp
  heater_bed_temp : Temp
  deriving DecidableEq

/-- What the commands change: the heater targets, the state of `pause_resume` and
`virtual_sdcard`, the variables of the macros, the idle timeout and the nozzle
control flag. -/
structure Printer where
  extruderTarget : Temp
  bedTarget : Temp
  /-- `pause_resume` -/
  isPaused : Bool
  pauseCommandSent : Bool
  sdPaused : Bool
  /-- `virtual_sdcard.is_active` -/
  sdActive : Bool
  /-- the variables of `RESUME` -/
  lastExtruderTemp : Saved
  restoreIdleTimeout : ℚ
  idleState : Bool
  /-- the variable of `M600` -/
  zextruderTemp : Temp
  idleTimeout : ℚ
  zcontrol : Bool
  deriving DecidableEq

/-- The states of `idle_timeout`. -/
inductive IdleTimeout where
  | idle
  | ready
  | printing
  deriving DecidableEq

/-- What a template reads of the printer besides `Printer`. -/
structure Reading where
  idleTimeout : IdleTimeout
  sensorEnabled : Bool
  filamentDetected : Bool
  canExtrude : Bool
  homed : Bool
  absoluteCoordinates : Bool
  absoluteExtrude : Bool
  /-- `printer.configfile.settings.idle_timeout.timeout` -/
  configTimeout : ℚ

/-- The templates that read one. -/
inductive Template where
  | PAUSE
  | RESUME
  | TOOLHEAD_PARK_PAUSE_CANCEL
  | CLIENT_EXTRUDE

/-- The readings of one command, template by template. -/
abbrev Readings := Template → Reading

/-! ## Native commands -/

/-- The native commands that the macros end in. -/
inductive Cmd where
  | setLastExtruderTemp (v : Saved)
  | setRestoreIdleTimeout (t : ℚ)
  | setIdleState (b : Bool)
  | setZextruderTemp (t : Temp)
  | setIdleTimeout (t : ℚ)
  | pauseBase
  | resumeBase
  | m24_1
  | setHeaterTemperature (t : Temp)
  | m190 (t : Temp)
  | m109 (t : Temp)
  | zcontrolOn
  | zcontrolOff
  | respond (msg : String)
  | other (line : String)
  deriving DecidableEq

/-- `PauseResume.send_pause_command`. -/
def sendPauseCommand (p : Printer) : Printer :=
  if p.pauseCommandSent then p
  else { p with sdPaused := p.sdActive, sdActive := false, pauseCommandSent := true }

/-- `PauseResume.cmd_PAUSE`. -/
def cmdPause (p : Printer) : Printer :=
  if p.isPaused then p else { sendPauseCommand p with isPaused := true }

/-- `VirtualSD.do_resume`: "SD busy" when the card is being printed from. -/
def doResume (p : Printer) : Printer × Option Failure :=
  if p.sdActive then (p, some .command) else ({ p with sdActive := true }, none)

/-- `PauseResume.cmd_RESUME`. -/
def cmdResume (p : Printer) : Printer × Option Failure :=
  if p.isPaused = false then (p, none)
  else if p.sdPaused then
    if p.sdActive then (p, some .command)
    else
      ({ (doResume p).1 with sdPaused := false, pauseCommandSent := false, isPaused := false }, none)
  else ({ p with pauseCommandSent := false, isPaused := false }, none)

/-- The native commands. -/
def native : Native Cmd Printer
  | .setLastExtruderTemp v, p => ({ p with lastExtruderTemp := v }, none)
  | .setRestoreIdleTimeout t, p => ({ p with restoreIdleTimeout := t }, none)
  | .setIdleState b, p => ({ p with idleState := b }, none)
  | .setZextruderTemp t, p => ({ p with zextruderTemp := t }, none)
  | .setIdleTimeout t, p => ({ p with idleTimeout := t }, none)
  | .pauseBase, p => (cmdPause p, none)
  | .resumeBase, p => cmdResume p
  | .m24_1, p => doResume p
  | .setHeaterTemperature t, p => ({ p with extruderTarget := t }, none)
  | .m190 t, p => ({ p with bedTarget := t }, none)
  | .m109 t, p => ({ p with extruderTarget := t }, none)
  | .zcontrolOn, p => ({ p with zcontrol := true }, none)
  | .zcontrolOff, p => ({ p with zcontrol := false }, none)
  | .respond _, p => (p, none)
  | .other _, p => (p, none)

/-! ## Macros -/

/-- A script of the printer. -/
abbrev Macro := Script Cmd Printer

/-- `_CLIENT_EXTRUDE`. -/
def clientExtrude (env : Readings) : Macro := .call fun _ =>
  let r := env .CLIENT_EXTRUDE
  if r.canExtrude then
    [.cmd (.other "M83"), .cmd (.other "G1 E{length}")] ++
      (if r.absoluteExtrude then [.cmd (.other "M82")] else [])
  else [.cmd (.respond "\"extruder\" недостаточно горяч")]

/-- `_CLIENT_RETRACT`. -/
def clientRetract (env : Readings) : Macro := .call fun _ => [clientExtrude env]

/-- `_TOOLHEAD_PARK_PAUSE_CANCEL`. -/
def toolheadParkPauseCancel (env : Readings) : Macro := .call fun _ =>
  let r := env .TOOLHEAD_PARK_PAUSE_CANCEL
  clientRetract env ::
    if r.homed then
      [.cmd (.other "G90"), .cmd (.other "G1 Z{z_park}"), .cmd (.other "G1 X{x_park} Y{y_park}")] ++
        (if r.absoluteCoordinates then [] else [.cmd (.other "G91")])
    else [.cmd (.respond "Принтер не был дома (G28)")]

/-- `_PAUSE_MACRO`, the `user_pause_macro` of `display_off.cfg`. -/
def pauseMacro : Macro := .call fun _ => [.cmd (.setHeaterTemperature 0), .cmd .zcontrolOff]

/-- The `idle_timeout` that `display_off.cfg` sets. -/
def clientIdleTimeout : ℚ := 86400

/-- `runout_resume`: no filament sensor speaks against going on. -/
def runoutResume (r : Reading) : Bool := !r.sensorEnabled || r.filamentDetected

/-- `PAUSE`; the argument is the value of `params.RESTORE | int`, if given. -/
def pause (env : Readings) (restore : Option ℤ) : Macro := .call fun p =>
  let r := env .PAUSE
  [.cmd (.setLastExtruderTemp
      { restore := restore.getD 1 == 1, temp := p.extruderTarget, heater_bed_temp := p.bedTarget })] ++
  (if clientIdleTimeout > 0 then
    [.cmd (.setRestoreIdleTimeout r.configTimeout), .cmd (.setIdleTimeout clientIdleTimeout)]
  else []) ++
  [.cmd .pauseBase, pauseMacro, toolheadParkPauseCancel env] ++
  (if runoutResume r then [] else [.cmd (.respond "Кончился филамент.")])

/-- The printer comes from the idle state, and not out of a regular pause. -/
def fromIdle (r : Reading) (p : Printer) : Bool :=
  r.idleTimeout == .idle || r.idleTimeout == .ready || p.idleState

/-- `RESUME` takes the branch that restores the temperatures. -/
def restoring (r : Reading) (p : Printer) : Bool := fromIdle r p && p.lastExtruderTemp.restore

/-- `do_resume`. -/
def doResumeFlag (r : Reading) (p : Printer) : Bool := restoring r p || r.canExtrude

/-- The first part of `RESUME`: restore the temperatures, or find the nozzle hot
enough, or complain. -/
def resumeHeat (r : Reading) (p : Printer) : List Macro :=
  if fromIdle r p then
    .cmd (.setIdleState false) ::
      if p.lastExtruderTemp.restore then
        [.cmd (.respond "Восстанавливаю \"extruder\" температуру"),
          .cmd (.m190 p.lastExtruderTemp.heater_bed_temp), .cmd (.m109 p.lastExtruderTemp.temp)]
      else if r.canExtrude then []
      else [.cmd (.respond "Возобновление прервано !!! \"extruder\" недостаточно горяч(1)")]
  else if r.canExtrude then []
  else [.cmd (.respond "Возобновление прервано !!! \"extruder\" недостаточно горяч(2)")]

/-- The second part of `RESUME`: go on, unless the filament has run out. -/
def resumeContinue (env : Readings) (p : Printer) : List Macro :=
  let r := env .RESUME
  if runoutResume r then
    if doResumeFlag r p then
      (if p.restoreIdleTimeout > 0 then [.cmd (.setIdleTimeout p.restoreIdleTimeout)] else []) ++
        [.cmd .zcontrolOn, clientExtrude env, .cmd .resumeBase]
    else []
  else [.cmd (.respond "Возобновление прервано !!! \"e0_sensor\" определил, что кончился филамент")]

/-- The last part of `RESUME`: the box that tells why it was given up. -/
def resumePrompt (r : Reading) (p : Printer) : List Macro :=
  if runoutResume r && doResumeFlag r p then []
  else [.cmd (.respond "action:prompt_begin Восстановление прервано !!!"),
    .cmd (.respond "action:prompt_show")]

/-- `RESUME`. -/
def resume (env : Readings) : Macro := .call fun p =>
  resumeHeat (env .RESUME) p ++ resumeContinue env p ++ resumePrompt (env .RESUME) p

/-- `M25`. -/
def m25 (env : Readings) : Macro := .call fun _ => [.cmd .zcontrolOff, pause env none]

/-- `M600`. -/
def m600 (env : Readings) : Macro := .call fun p =>
  [.cmd (.setZextruderTemp p.extruderTarget), .cmd (.respond "Температура сопла"), pause env none,
    .cmd (.respond "action:prompt_begin Замена филамента"), .cmd (.respond "action:prompt_show")]

/-- `M24`. -/
def m24 (env : Readings) : Macro := .call fun p =>
  if p.isPaused then [.cmd .zcontrolOn, resume env] else [.cmd .zcontrolOn, .cmd .m24_1]

/-- The commands a user or a file may give. -/
inductive Command where
  | PAUSE (restore : Option ℤ)
  | M25
  | M600
  | RESUME
  | M24

/-- A command together with what its templates read. -/
structure Invocation where
  command : Command
  env : Readings

/-- The script of an invocation. -/
def Invocation.script (i : Invocation) : Macro :=
  match i.command with
  | .PAUSE restore => pause i.env restore
  | .M25 => m25 i.env
  | .M600 => m600 i.env
  | .RESUME => resume i.env
  | .M24 => m24 i.env

end DisplayOff

import Ff5m.GCode.Line
import Ff5m.GCode.Script

/-!
# Klipper's G-code coordinates

`gcode_move.py` as it comes with the mod: the position of the last move, the base
that G-code coordinates are relative to, the modes and the factors, and the named
states that `SAVE_GCODE_STATE` keeps.  A `G1` is the text of its line, from which it reads
its words; the numbers themselves are exact.  What `G1` hands to the toolhead goes through
the move transform (bed mesh, skew), and the toolhead may refuse it.

After a command error `last_position` is read back from the toolhead, so a move that
was refused leaves it where it was.

* `exec_g1`: what a `G1` does;
* `bracket_raised`, `bracket_done`: commands between `SAVE_GCODE_STATE` and
  `RESTORE_GCODE_STATE`: if they fail, what they did stays; if not, only the position
  has changed, and the base of E with it.
-/

namespace Motion

open TextTools (Text str)
open GCode

/-! ## The state -/

inductive Axis where
  | X
  | Y
  | Z
  | E
  deriving DecidableEq

instance : Fintype Axis := ⟨{.X, .Y, .Z, .E}, fun a => by cases a <;> decide⟩

/-- A position. -/
abbrev Pos := Axis → ℚ

/-- What `SAVE_GCODE_STATE` keeps. -/
structure State where
  absoluteCoord : Bool
  absoluteExtrude : Bool
  basePosition : Pos
  lastPosition : Pos
  homingPosition : Pos
  speed : ℚ
  speedFactor : ℚ
  extrudeFactor : ℚ

/-- `GCodeMove`. -/
structure GCodeMove extends State where
  savedStates : String → Option State

/-- `_get_gcode_position`. -/
def State.gcodePosition (s : State) : Pos := fun a =>
  if a = .E then (s.lastPosition a - s.basePosition a) / s.extrudeFactor
  else s.lastPosition a - s.basePosition a

/-! ## The commands -/

/-- A value; `none` is a text that `float` does not read. -/
abbrev Num := Option ℚ

/-- The words of a `G1`. -/
structure Words where
  axis : Axis → Option Num
  f : Option Num

/-- What the commands rest on. -/
structure Env where
  upper : Upper
  /-- `float`; `none` is a `ValueError` -/
  float : Text → Option PyFloat
  /-- `str` of a float -/
  text : PyFloat → Text
  /-- the move transform -/
  transform : Pos → Pos
  /-- the toolhead takes a move between two of its positions with this speed -/
  accepts : Pos → Pos → ℚ → Bool
  /-- `M104` with this temperature is accepted -/
  heats : Text → Bool
  /-- `TEMPERATURE_WAIT` with this minimum comes to its end -/
  waits : Text → Bool

/-- The commands that the macros use. -/
inductive Cmd where
  | g1 (line : Text)
  | g90
  | g91
  | m82
  | m83
  | g92 (offsets : Axis → Option ℚ)
  | saveGcodeState (name : String)
  | restoreGcodeState (name : String)
  | respond (raw : Text)
  | m104 (temp : Text)
  | temperatureWait (minimum : Text)

/-- The value of a parameter. -/
def Env.number (env : Env) (t : Text) : Num := (env.float t).bind PyFloat.finite?

/-- The key of an axis. -/
def Axis.key : Axis → Text
  | .X => str "X"
  | .Y => str "Y"
  | .Z => str "Z"
  | .E => str "E"

/-- The words that a `G1` reads from its line. -/
def Env.words (env : Env) (line : Text) : Words where
  axis a := (getArg env.upper line a.key).map env.number
  f := (getArg env.upper line (str "F")).map env.number

/-- All values of the words are read, and the speed is positive. -/
def Words.Ok (w : Words) : Prop :=
  (∀ a, w.axis a ≠ some none) ∧ w.f ≠ some none ∧ ∀ f, w.f = some (some f) → 0 < f

instance (w : Words) : Decidable w.Ok :=
  decidable_of_iff ((∀ a, w.axis a ≠ some none) ∧
      (match w.f with | none => true | some none => false | some (some f) => decide (0 < f)) = true) <| by
    unfold Words.Ok
    rcases w.f with - | - | f <;> simp

/-- Where the words lead. -/
def State.target (s : State) (w : Words) : Pos := fun a =>
  match (w.axis a).join with
  | none => s.lastPosition a
  | some v =>
    if a = .E then
      let v := v * s.extrudeFactor
      if !s.absoluteCoord || !s.absoluteExtrude then s.lastPosition a + v else v + s.basePosition a
    else if !s.absoluteCoord then s.lastPosition a + v
    else v + s.basePosition a

/-- The speed that they set. -/
def State.speedOf (s : State) (w : Words) : ℚ :=
  match w.f.join with
  | none => s.speed
  | some f => f * s.speedFactor

/-- `cmd_G1`. -/
def cmdG1 (env : Env) (w : Words) (s : GCodeMove) : GCodeMove × Option Failure :=
  if w.Ok then
    if env.accepts (env.transform s.lastPosition) (env.transform (s.target w)) (s.speedOf w) then
      ({ s with lastPosition := s.target w, speed := s.speedOf w }, none)
    else ({ s with speed := s.speedOf w }, some .command)
  else (s, some .command)

/-- `cmd_G92`. -/
def cmdG92 (offsets : Axis → Option ℚ) (s : GCodeMove) : GCodeMove :=
  if ∀ a, offsets a = none then { s with basePosition := s.lastPosition }
  else
    { s with
      basePosition := fun a =>
        match offsets a with
        | none => s.basePosition a
        | some v => s.lastPosition a - if a = .E then v * s.extrudeFactor else v }

/-- `cmd_SAVE_GCODE_STATE`. -/
def cmdSaveGcodeState (name : String) (s : GCodeMove) : GCodeMove :=
  { s with savedStates := Function.update s.savedStates name (some s.toState) }

/-- What a state is restored to: only where the toolhead is remains, and the base of E
follows it. -/
def State.restored (saved : State) (last : Pos) : State :=
  { saved with
    lastPosition := last
    basePosition := Function.update saved.basePosition .E
      (saved.basePosition .E + (last .E - saved.lastPosition .E)) }

/-- `cmd_RESTORE_GCODE_STATE`, without `MOVE`. -/
def cmdRestoreGcodeState (name : String) (s : GCodeMove) : GCodeMove × Option Failure :=
  match s.savedStates name with
  | none => (s, some .command)
  | some saved => ({ s with toState := saved.restored s.lastPosition }, none)

/-- The native commands. -/
def native (env : Env) : Native Cmd GCodeMove
  | .g1 line, s => cmdG1 env (env.words line) s
  | .g90, s => ({ s with absoluteCoord := true }, none)
  | .g91, s => ({ s with absoluteCoord := false }, none)
  | .m82, s => ({ s with absoluteExtrude := true }, none)
  | .m83, s => ({ s with absoluteExtrude := false }, none)
  | .g92 offsets, s => (cmdG92 offsets s, none)
  | .saveGcodeState name, s => (cmdSaveGcodeState name s, none)
  | .restoreGcodeState name, s => cmdRestoreGcodeState name s
  | .respond raw, s => (s, if respondAccepts env.upper raw then none else some .command)
  | .m104 temp, s => (s, if env.heats temp then none else some .command)
  | .temperatureWait minimum, s => (s, if env.waits minimum then none else some .command)

/-- A macro. -/
abbrev Macro := Script Cmd GCodeMove

/-- The value of a text of digits. -/
def digits (t : Text) : ℚ := t.foldl (fun n c => n * 10 + (c.toNat - '0'.toNat : ℕ)) 0

/-- `float` of a decimal. -/
def decimal : Text → Option PyFloat
  | '-' :: t => (unsigned t).map fun q => .finite (-q)
  | '+' :: t => (unsigned t).map .finite
  | t => (unsigned t).map .finite
where
  /-- without a sign -/
  unsigned (t : Text) : Option ℚ :=
    let whole := t.takeWhile Char.isDigit
    match t.dropWhile Char.isDigit with
    | [] => if whole = [] then none else some (digits whole)
    | '.' :: part =>
      if whole ++ part ≠ [] ∧ part.all Char.isDigit = true then
        some (digits whole + digits part / 10 ^ part.length)
      else none
    | _ => none

/-- `str` of a whole number, as a float. -/
def wholeText : PyFloat → Text
  | .finite q => str (toString q.num) ++ str ".0"
  | .infinite negative => if negative then str "-inf" else str "inf"
  | .nan => str "nan"

/-- A toolhead that takes every move, without a transform. -/
def free : Env :=
  ⟨asciiUpper, decimal, wholeText, id, fun _ _ _ => true, fun _ => true, fun _ => true⟩

/-- The G-code state after a start. -/
def fresh : GCodeMove := ⟨⟨true, true, 0, 0, 0, 25, 1 / 60, 1⟩, fun _ => none⟩

/-! ## What they do -/

section Env

variable {env : Env}

/-- A `G1` in its three outcomes. -/
theorem exec_g1 (line : Text) (s : GCodeMove) :
    (Script.cmd (.g1 line)).exec (native env) s =
      let w := env.words line
      if w.Ok then
        if env.accepts (env.transform s.lastPosition) (env.transform (s.target w)) (s.speedOf w) then
          ⟨{ s with lastPosition := s.target w, speed := s.speedOf w }, [(.g1 line, s)], none⟩
        else ⟨{ s with speed := s.speedOf w }, [(.g1 line, s)], some .command⟩
      else ⟨s, [(.g1 line, s)], some .command⟩ := by
  rw [Script.exec_cmd]
  simp only [native, cmdG1]
  split_ifs <;> rfl

@[simp] theorem restored_coord (saved : State) (last : Pos) :
    (saved.restored last).absoluteCoord = saved.absoluteCoord ∧
      (saved.restored last).absoluteExtrude = saved.absoluteExtrude ∧
      (saved.restored last).homingPosition = saved.homingPosition ∧
      (saved.restored last).speed = saved.speed ∧
      (saved.restored last).speedFactor = saved.speedFactor ∧
      (saved.restored last).extrudeFactor = saved.extrudeFactor :=
  ⟨rfl, rfl, rfl, rfl, rfl, rfl⟩

/-- The base of the other axes is put back. -/
theorem restored_base (saved : State) (last : Pos) {a : Axis} (ha : a ≠ .E) :
    (saved.restored last).basePosition a = saved.basePosition a :=
  Function.update_of_ne ha ..

/-- The G-code position of E is put back wherever E has gone. -/
theorem restored_gcodePosition_E (saved : State) (last : Pos) :
    (saved.restored last).gcodePosition .E = saved.gcodePosition .E := by
  have hbase : (saved.restored last).basePosition .E
      = saved.basePosition .E + (last .E - saved.lastPosition .E) := by
    simp only [State.restored, Function.update_self]
  unfold State.gcodePosition
  rw [if_pos rfl, if_pos rfl, hbase]
  congr 1
  show last .E - (saved.basePosition .E + (last .E - saved.lastPosition .E)) = _
  ring

/-- That of another axis as far as the axis is where it was. -/
theorem restored_gcodePosition {saved : State} {last : Pos} {a : Axis} (ha : a ≠ .E) :
    (saved.restored last).gcodePosition a = saved.gcodePosition a ↔ last a = saved.lastPosition a := by
  unfold State.gcodePosition
  rw [if_neg ha, if_neg ha, restored_base saved last ha]
  exact sub_left_inj

/-! ## Between SAVE_GCODE_STATE and RESTORE_GCODE_STATE -/

/-- The command leaves the named states alone. -/
def Cmd.Plain : Cmd → Prop
  | .saveGcodeState _ => False
  | _ => True

theorem native_savedStates {k : Cmd} (hk : k.Plain) (s : GCodeMove) :
    (native env k s).1.savedStates = s.savedStates := by
  cases k with
  | g1 line =>
    simp only [native, cmdG1]
    split_ifs <;> rfl
  | g92 offsets =>
    simp only [native, cmdG92]
    split_ifs <;> rfl
  | saveGcodeState name => exact hk.elim
  | restoreGcodeState name =>
    simp only [native, cmdRestoreGcodeState]
    cases s.savedStates name <;> rfl
  | _ => rfl

/-- Commands between the two. -/
def bracket (name : String) (body : List Macro) : List Macro :=
  .cmd (.saveGcodeState name) :: body ++ [.cmd (.restoreGcodeState name)]

/-- If they fail, what they did stays. -/
theorem bracket_raised (name : String) {body : List Macro} {s : GCodeMove} {e : Failure}
    (hbody : (Script.execAll (native env) body (cmdSaveGcodeState name s)).raised = some e) :
    (Script.execAll (native env) (bracket name body) s).state
        = (Script.execAll (native env) body (cmdSaveGcodeState name s)).state ∧
      (Script.execAll (native env) (bracket name body) s).log
        = (.saveGcodeState name, s) ::
          (Script.execAll (native env) body (cmdSaveGcodeState name s)).log := by
  have hsave : native env (.saveGcodeState name) s = (cmdSaveGcodeState name s, none) := rfl
  unfold bracket
  rw [List.cons_append, Script.execAll_cons, Script.exec_cmd, hsave, Run.andThen_mk_none,
    Script.execAll_append]
  unfold Run.andThen
  rw [hbody]
  exact ⟨rfl, rfl⟩

/-- If they do not, only the position has changed. -/
theorem bracket_done (name : String) {body : List Macro} (hplain : Script.OnlyAll Cmd.Plain body)
    {s : GCodeMove}
    (hbody : (Script.execAll (native env) body (cmdSaveGcodeState name s)).raised = none) :
    (Script.execAll (native env) (bracket name body) s).state.toState
        = s.toState.restored
          (Script.execAll (native env) body (cmdSaveGcodeState name s)).state.lastPosition ∧
      ∃ t, (Script.execAll (native env) (bracket name body) s).log
        = (.saveGcodeState name, s) ::
          ((Script.execAll (native env) body (cmdSaveGcodeState name s)).log ++
            [(.restoreGcodeState name, t)]) := by
  have hsave : native env (.saveGcodeState name) s = (cmdSaveGcodeState name s, none) := rfl
  have hsaved : (Script.execAll (native env) body (cmdSaveGcodeState name s)).state.savedStates name
      = some s.toState := by
    rw [hplain.frame (f := GCodeMove.savedStates) (fun _ hk => native_savedStates hk)]
    exact Function.update_self ..
  set r := Script.execAll (native env) body (cmdSaveGcodeState name s) with hr
  have hrestore : native env (.restoreGcodeState name) r.state
      = ({ r.state with toState := s.toState.restored r.state.lastPosition }, none) := by
    simp only [native, cmdRestoreGcodeState, hsaved]
  unfold bracket
  rw [List.cons_append, Script.execAll_cons, Script.exec_cmd, hsave, Run.andThen_mk_none,
    Script.execAll_append, ← hr]
  unfold Run.andThen
  rw [hbody, if_neg (by simp), Script.execAll_singleton, Script.exec_cmd, hrestore]
  exact ⟨rfl, r.state, rfl⟩

end Env

end Motion

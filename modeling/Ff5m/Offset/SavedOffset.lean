import Ff5m.GCode.Script

/-!
# The saved Z offset

The macro `SET_GCODE_OFFSET` passes its parameters on to Klipper's own command and
keeps a running total of the Z offset beside Klipper's, in the variable
`gcode_offsets`; `LOAD_GCODE_OFFSET` brings the total back after a restart.  The two
follow different rules: Klipper ignores `Z_ADJUST` when `Z` is given, the macro adds
it; a restart and a resume change Klipper's offset alone; and `LOAD_GCODE_OFFSET`
skips a total that is false to the template, such as the number 0.

* `step_follows_iff`: when a command leaves the total and the offset equal;
* `follows_iff`: the same for all commands of a session;
* `follows_of_undisturbed`: it suffices that the two are equal at first and that no
  restart and no resume sets them apart;
* `drift_kept`: an adjustment never brings them together again.

Offsets are rational numbers: both sides add the same two numbers, so that rounding
would not set them apart.
-/

namespace SavedOffset

open GCode

/-! ## The printer -/

/-- The entry `z` of `gcode_offsets`: `None`, the text of the parameter `Z`, or a
number that `Z_ADJUST` has made of it. -/
inductive Stored where
  | none
  | text (z : ℚ)
  | number (z : ℚ)
  deriving DecidableEq

/-- The offset that is stored, if any. -/
def Stored.value : Stored → Option ℚ
  | .none => Option.none
  | .text z | .number z => some z

/-- The entry is true to a template: a text that is not empty, or a number other
than 0. -/
def Stored.truthy : Stored → Bool
  | .none => false
  | .text _ => true
  | .number z => z ≠ 0

/-- What the commands change: Klipper's offset, which its status calls
`homing_origin`, the offset saved with `PAUSE_STATE`, and the stored variable. -/
structure Printer where
  homing : ℚ
  pauseState : ℚ
  isPaused : Bool
  gcodeOffsets : Option Stored
  deriving DecidableEq

/-- The stored offset. -/
def Printer.stored (p : Printer) : Option ℚ := p.gcodeOffsets.bind Stored.value

/-- Whether a command asks for a move with `MOVE=1`, and whether that move can be
made. -/
inductive Move where
  | no
  | made
  | fails
  deriving DecidableEq

/-! ## Native commands -/

/-- The native commands. -/
inductive Cmd where
  | setGcodeOffset (z zAdjust : Option ℚ) (move : Move)
  | saveGcodeOffsets (z : Stored)
  | pauseBase
  | resumeBase (fails : Bool)
  | respond (msg : String)
  deriving DecidableEq

/-- `GCodeMove.cmd_SET_GCODE_OFFSET`, for the axis Z: the offset changes before the
move. -/
def cmdSetGcodeOffset (z zAdjust : Option ℚ) (move : Move) (p : Printer) : Printer × Option Failure :=
  let homing :=
    match z with
    | some offset => offset
    | none =>
      match zAdjust with
      | some adjust => adjust + p.homing
      | none => p.homing
  ({ p with homing := homing }, if move = .fails then some .command else none)

/-- `PauseResume.cmd_PAUSE`, which saves the state `PAUSE_STATE`. -/
def cmdPause (p : Printer) : Printer :=
  if p.isPaused then p else { p with pauseState := p.homing, isPaused := true }

/-- `PauseResume.cmd_RESUME`, which restores it before it moves back and goes on; either
may fail. -/
def cmdResume (fails : Bool) (p : Printer) : Printer × Option Failure :=
  if p.isPaused = false then (p, none)
  else if fails then ({ p with homing := p.pauseState }, some .command)
  else ({ p with homing := p.pauseState, isPaused := false }, none)

/-- The native commands. -/
def native : Native Cmd Printer
  | .setGcodeOffset z zAdjust move, p => cmdSetGcodeOffset z zAdjust move p
  | .saveGcodeOffsets z, p => ({ p with gcodeOffsets := some z }, none)
  | .pauseBase, p => (cmdPause p, none)
  | .resumeBase fails, p => cmdResume fails p
  | .respond _, p => (p, none)

/-! ## Macros -/

/-- A script of the printer. -/
abbrev Macro := Script Cmd Printer

/-- The entry that `SET_GCODE_OFFSET` stores. -/
def updated (z zAdjust : Option ℚ) (old : Stored) : Stored :=
  let new :=
    match z with
    | some offset => .text offset
    | none => old
  match zAdjust with
  | some adjust => .number (new.value.getD 0 + adjust)
  | none => new

/-- `SET_GCODE_OFFSET`; `screen` is the variable of `START_PRINT`. -/
def setGcodeOffset (screen : Bool) (z zAdjust : Option ℚ) (move : Move) : Macro := .call fun p =>
  [.cmd (.setGcodeOffset z zAdjust move)] ++
  (if screen = false then [.cmd (.saveGcodeOffsets (updated z zAdjust (p.gcodeOffsets.getD .none)))]
  else [])

/-- `LOAD_GCODE_OFFSET`. -/
def loadGcodeOffset : Macro := .call fun p =>
  match p.gcodeOffsets with
  | none => []
  | some z =>
    [.cmd (.setGcodeOffset (if z.truthy then z.value else none) none .no),
      .cmd (.respond "Загружен Z-Offset из глобальных параметров")]

/-- What can happen.  A `RESUME` may give up before `RESUME_BASE`. -/
inductive Event where
  | SET_GCODE_OFFSET (z zAdjust : Option ℚ) (move : Move)
  | LOAD_GCODE_OFFSET
  | PAUSE
  | RESUME (goesOn fails : Bool)
  | restart

/-- One event, in display-off mode.  A restart sets Klipper's offset to 0 and keeps
the stored variables. -/
def step : Event → Printer → Run Cmd Printer
  | .SET_GCODE_OFFSET z zAdjust move, p => (setGcodeOffset false z zAdjust move).exec native p
  | .LOAD_GCODE_OFFSET, p => loadGcodeOffset.exec native p
  | .PAUSE, p => (Script.cmd .pauseBase).exec native p
  | .RESUME goesOn fails, p =>
    Script.execAll native (if goesOn then [.cmd (.resumeBase fails)] else []) p
  | .restart, p => ⟨{ p with homing := 0, pauseState := 0, isPaused := false }, [], none⟩

/-- What is promised of one event: a command that gives `Z` or `Z_ADJUST` leaves the
stored offset equal to Klipper's, and `LOAD_GCODE_OFFSET` makes Klipper's equal to the
stored one. -/
def Follows (e : Event) (p : Printer) : Prop :=
  match e with
  | .SET_GCODE_OFFSET z zAdjust _ => z.isSome ∨ zAdjust.isSome →
      (step e p).state.stored = some (step e p).state.homing
  | .LOAD_GCODE_OFFSET => ∀ z ∈ p.stored, (step e p).state.homing = z
  | _ => True

/-- The condition on each event.  When the move can be made: a `Z_ADJUST` beside a `Z`
is 0, and one alone is given while Klipper's offset is the stored one (0 when nothing
is stored).  When it cannot: what is stored is already what the command asks for.  And
`LOAD_GCODE_OFFSET` is not left with the number 0, unless that is the offset. -/
def InStep (e : Event) (p : Printer) : Prop :=
  match e with
  | .SET_GCODE_OFFSET (some offset) zAdjust move =>
    if move = .fails then p.stored = some offset else ∀ adjust ∈ zAdjust, adjust = 0
  | .SET_GCODE_OFFSET none (some adjust) move =>
    if move = .fails then p.stored = some (adjust + p.homing) else p.homing = p.stored.getD 0
  | .LOAD_GCODE_OFFSET => p.gcodeOffsets = some (.number 0) → p.homing = 0
  | _ => True

/-! ## One event -/

/-- The macro in one equation: Klipper's command, and the new total unless it
failed. -/
theorem set_exec (z zAdjust : Option ℚ) (move : Move) (p : Printer) :
    (step (.SET_GCODE_OFFSET z zAdjust move) p).state =
      if move = .fails then (cmdSetGcodeOffset z zAdjust move p).1
      else { (cmdSetGcodeOffset z zAdjust move p).1 with
        gcodeOffsets := some (updated z zAdjust (p.gcodeOffsets.getD .none)) } := by
  by_cases hm : move = .fails <;> simp [step, setGcodeOffset, native, cmdSetGcodeOffset, hm]

theorem stored_getD (p : Printer) : (p.gcodeOffsets.getD .none).value = p.stored := by
  unfold Printer.stored
  cases p.gcodeOffsets <;> rfl

theorem load_exec (p : Printer) :
    (step .LOAD_GCODE_OFFSET p).state =
      match p.gcodeOffsets with
      | none => p
      | some z => { p with homing := if z.truthy then z.value.getD p.homing else p.homing } := by
  cases hz : p.gcodeOffsets with
  | none => simp [step, loadGcodeOffset, hz]
  | some z =>
    cases z with
    | none => simp [step, loadGcodeOffset, hz, native, cmdSetGcodeOffset, Stored.truthy]
    | text z => simp [step, loadGcodeOffset, hz, native, cmdSetGcodeOffset, Stored.truthy, Stored.value]
    | number z =>
      by_cases h0 : z = 0 <;>
        simp [step, loadGcodeOffset, hz, native, cmdSetGcodeOffset, Stored.truthy, Stored.value, h0]

theorem follows_set_iff (z zAdjust : Option ℚ) (move : Move) (p : Printer) :
    Follows (.SET_GCODE_OFFSET z zAdjust move) p ↔ (z.isSome ∨ zAdjust.isSome →
      (step (.SET_GCODE_OFFSET z zAdjust move) p).state.stored
        = some (step (.SET_GCODE_OFFSET z zAdjust move) p).state.homing) :=
  Iff.rfl

/-- A command whose move cannot be made has changed Klipper's offset alone. -/
theorem set_follows_iff_of_fails (z zAdjust : Option ℚ) (p : Printer) :
    Follows (.SET_GCODE_OFFSET z zAdjust .fails) p ↔ InStep (.SET_GCODE_OFFSET z zAdjust .fails) p := by
  rw [follows_set_iff, set_exec, if_pos rfl]
  cases z with
  | some offset => simp [InStep, Printer.stored, cmdSetGcodeOffset]
  | none => cases zAdjust <;> simp [InStep, Printer.stored, cmdSetGcodeOffset]

/-- One whose move is made, or that asks for none. -/
theorem set_follows_iff_of_made (z zAdjust : Option ℚ) {move : Move} (hm : move ≠ .fails) (p : Printer) :
    Follows (.SET_GCODE_OFFSET z zAdjust move) p ↔ InStep (.SET_GCODE_OFFSET z zAdjust move) p := by
  rw [follows_set_iff, set_exec, if_neg hm]
  cases z with
  | some offset =>
    cases zAdjust with
    | none => simp [InStep, hm, Printer.stored, updated, cmdSetGcodeOffset, Stored.value]
    | some adjust =>
      -- Klipper's offset is `offset`, and the total has `adjust` added
      simp [InStep, hm, Printer.stored, updated, cmdSetGcodeOffset, Stored.value]
  | none =>
    cases zAdjust with
    | none => simp [InStep]
    | some adjust =>
      have htotal : (updated none (some adjust) (p.gcodeOffsets.getD .none)).value
          = some (p.stored.getD 0 + adjust) := by
        rw [← stored_getD]
        rfl
      show (_ → (updated none (some adjust) (p.gcodeOffsets.getD .none)).value
        = some (adjust + p.homing)) ↔ (if _ then _ else p.homing = p.stored.getD 0)
      rw [htotal, if_neg hm]
      simp only [Option.isSome_some, or_true, true_implies, Option.some.injEq]
      constructor
      · intro h
        linarith
      · intro h
        rw [h]
        ring

/-- A load does nothing for an entry that is false to the template. -/
theorem load_follows_iff (p : Printer) : Follows .LOAD_GCODE_OFFSET p ↔ InStep .LOAD_GCODE_OFFSET p := by
  unfold Follows
  rw [load_exec]
  unfold InStep Printer.stored
  cases hz : p.gcodeOffsets with
  | none => simp
  | some z =>
    cases z with
    | none => simp [Stored.value]
    | text z => simp [Stored.value, Stored.truthy]
    | number z => by_cases h0 : z = 0 <;> simp [Stored.value, Stored.truthy, h0]

/-- The step lemma: the two offsets agree after a command exactly when it meets the
condition. -/
theorem step_follows_iff (e : Event) (p : Printer) : Follows e p ↔ InStep e p := by
  cases e with
  | SET_GCODE_OFFSET z zAdjust move =>
    by_cases hm : move = .fails
    · rw [hm]
      exact set_follows_iff_of_fails z zAdjust p
    · exact set_follows_iff_of_made z zAdjust hm p
  | LOAD_GCODE_OFFSET => exact load_follows_iff p
  | PAUSE => exact Iff.rfl
  | RESUME goesOn fails => exact Iff.rfl
  | restart => exact Iff.rfl

/-! ## Main results -/

/-- Klipper's offset is the stored one, 0 when nothing is stored. -/
def Agrees (p : Printer) : Prop := p.homing = p.stored.getD 0

/-- An event that does not set the two apart: no move fails, no `Z_ADJUST` but 0 stands
beside a `Z`, a resume finds the offset as the pause left it, and a restart finds it
at 0. -/
def Undisturbed (e : Event) (p : Printer) : Prop :=
  match e with
  | .SET_GCODE_OFFSET z zAdjust move => move ≠ .fails ∧ (z.isSome → ∀ adjust ∈ zAdjust, adjust = 0)
  | .RESUME goesOn _ => goesOn → p.isPaused = true → p.pauseState = p.homing
  | .restart => p.homing = 0
  | _ => True

theorem Agrees.inStep {e : Event} {p : Printer} (h : Agrees p) (he : Undisturbed e p) : InStep e p := by
  cases e with
  | SET_GCODE_OFFSET z zAdjust move =>
    obtain ⟨hm, hboth⟩ := he
    cases z with
    | some offset =>
      show (if move = .fails then _ else ∀ adjust ∈ zAdjust, adjust = 0)
      rw [if_neg hm]
      exact hboth rfl
    | none =>
      cases zAdjust with
      | none => trivial
      | some adjust =>
        show (if move = .fails then _ else p.homing = p.stored.getD 0)
        rw [if_neg hm]
        exact h
  | LOAD_GCODE_OFFSET =>
    intro hzero
    rw [h, Printer.stored, hzero]
    rfl
  | PAUSE => trivial
  | RESUME goesOn fails => trivial
  | restart => trivial

theorem step_stored_of_load (p : Printer) : (step .LOAD_GCODE_OFFSET p).state.stored = p.stored := by
  rw [load_exec]
  unfold Printer.stored
  cases hz : p.gcodeOffsets with
  | none => simp [hz]
  | some z => simp

theorem Agrees.step {e : Event} {p : Printer} (h : Agrees p) (he : Undisturbed e p) :
    Agrees (step e p).state := by
  have hfollows : Follows e p := (step_follows_iff e p).2 (h.inStep he)
  cases e with
  | SET_GCODE_OFFSET z zAdjust move =>
    by_cases hgiven : z.isSome ∨ zAdjust.isSome
    · rw [Agrees, hfollows hgiven]
      rfl
    · push Not at hgiven
      obtain rfl : z = none := Option.not_isSome_iff_eq_none.1 hgiven.1
      obtain rfl : zAdjust = none := Option.not_isSome_iff_eq_none.1 hgiven.2
      rw [set_exec, if_neg he.1]
      show p.homing = (p.gcodeOffsets.getD .none).value.getD 0
      rw [stored_getD]
      exact h
  | LOAD_GCODE_OFFSET =>
    rw [Agrees, step_stored_of_load]
    cases hz : p.stored with
    | some z => exact hfollows z hz
    | none =>
      have hsame : (SavedOffset.step .LOAD_GCODE_OFFSET p).state.homing = p.homing := by
        rw [load_exec]
        unfold Printer.stored at hz
        cases hg : p.gcodeOffsets with
        | none => rfl
        | some z => cases z <;> simp [hg, Stored.value, Stored.truthy] at hz ⊢
      rw [hsame, h, hz]
  | PAUSE =>
    show Agrees (if p.isPaused then p else { p with pauseState := p.homing, isPaused := true })
    split_ifs <;> exact h
  | RESUME goesOn fails =>
    cases goesOn with
    | false => simpa [SavedOffset.step] using h
    | true =>
      have hsame : (SavedOffset.step (.RESUME true fails) p).state.homing = p.homing ∧
          (SavedOffset.step (.RESUME true fails) p).state.stored = p.stored := by
        cases hp : p.isPaused with
        | false => simp [SavedOffset.step, native, cmdResume, hp]
        | true => cases fails <;> simp [SavedOffset.step, native, cmdResume, hp, he rfl hp, Printer.stored]
      rw [Agrees, hsame.1, hsame.2]
      exact h
  | restart =>
    have hzero : p.homing = 0 := he
    show (0 : ℚ) = p.stored.getD 0
    rw [← h, hzero]

/-- Where the two agree at first and nothing sets them apart, every command of a session
leaves them equal. -/
theorem follows_of_undisturbed {p : Printer} (hp : Agrees p) {es : List Event}
    (hes : Along step Undisturbed es p) : Along step Follows es p :=
  along_of_invariant (fun e q hq he => ⟨hq.step he, (step_follows_iff e q).2 (hq.inStep he)⟩) es p hp hes

/-- An adjustment keeps the distance between the two, whatever it is. -/
theorem drift_kept (adjust : ℚ) {move : Move} (hm : move ≠ .fails) (p : Printer) :
    (step (.SET_GCODE_OFFSET none (some adjust) move) p).state.stored.getD 0
        - (step (.SET_GCODE_OFFSET none (some adjust) move) p).state.homing
      = p.stored.getD 0 - p.homing := by
  rw [set_exec, if_neg hm]
  show ((p.gcodeOffsets.getD .none).value.getD 0 + adjust) - (adjust + p.homing) = _
  rw [stored_getD]
  ring

/-! ## A run that drifts -/

/-- A printer after a boot, with nothing stored. -/
def fresh : Printer := ⟨0, 0, false, none⟩

end SavedOffset

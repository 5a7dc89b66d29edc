import Ff5m.Motion.GCodeMove

/-!
# The move macro of the clients

`_CLIENT_LINEAR_MOVE` of `base.cfg`: the buttons of the clients move the head through
it.  It clamps the axes to the bed, and its guard is to keep the head still while a
print is running.

The guard reads `state`, a name that the template does not have, and an undefined name
differs from every text.  A relative axis is clamped at the position of the toolhead,
an absolute one in G-code coordinates.  What is clamped goes into the text of a line, and
so do E and F as they are given: `G1` may read other words there.  A height of `9e-05`
makes a word `Z9` and a word `E-05`, and `E="1 X500"` one that nobody has clamped.

* `clientLine`, `clientLinearMove`: the macro;
* `axisValue_finite`, `clamp_sub`: what is written for an axis, and where a relative one
  ends if it is read back;
* `fits_iff`: when an axis ends within its range;
* `safe_iff`: when a call does what the macro is for.
-/

namespace Motion

open TextTools (Text str)
open GCode

/-! ## The macro -/

/-- `print_stats.state`. -/
inductive PrintState where
  | standby
  | printing
  | paused
  | complete
  | cancelled
  | error
  deriving DecidableEq

/-- What a template can read of the printer, besides the position. -/
structure Printer where
  printStats : PrintState
  /-- the variable `z` of `G28` -/
  g28Z : Option ℚ

/-- The parameters of a call, the modes as the filter `int` reads them. -/
structure MoveParams where
  axis : Axis → Option Text
  f : Option Text
  absolute : Option ℤ
  absoluteE : Option ℤ

def MoveParams.isAbsolute (ps : MoveParams) : Bool := ps.absolute.getD 0 != 0

def MoveParams.isAbsoluteE (ps : MoveParams) : Bool := ps.absoluteE.getD 0 != 0

/-- One of `x_move`, `y_move`, `z_move` is not empty. -/
def MoveParams.moves (ps : MoveParams) : Bool :=
  (ps.axis .X).isSome || (ps.axis .Y).isSome || (ps.axis .Z).isSome

/-- `z_max`. -/
def Printer.zMax (c : Printer) : ℚ := min (c.g28Z.getD 220) 220

def lowest : Axis → ℚ
  | .Z => 0
  | _ => -110

def Printer.highest (c : Printer) : Axis → ℚ
  | .Z => c.zMax
  | _ => 110

/-- The name `state` in this template. -/
def templateState : Option PrintState := none

/-- The filter `float`, which makes 0 of what is no number. -/
def Env.filterFloat (env : Env) (t : Text) : PyFloat := (env.float t).getD (.finite 0)

/-- What is written for X, Y or Z. -/
def axisValue (env : Env) (c : Printer) (ps : MoveParams) (s : State) (a : Axis) (t : Text) : PyFloat :=
  let pos := env.transform s.lastPosition
  if ps.isAbsolute then
    ((env.filterFloat t).min (.finite (c.highest a))).max (.finite (lowest a))
  else
    (PyFloat.finite (lowest a - pos a)).max ((PyFloat.finite (c.highest a - pos a)).min (env.filterFloat t))

/-- `x_move`, `y_move`, `z_move` and `e_move`. -/
def moveText (env : Env) (c : Printer) (ps : MoveParams) (s : State) (a : Axis) : Text :=
  match ps.axis a with
  | none => []
  | some t => a.key ++ if a = .E then t else env.text (axisValue env c ps s a t)

/-- `rate`. -/
def rateText (ps : MoveParams) : Text :=
  match ps.f with
  | none => []
  | some t => str "F" ++ t

/-- The line of the move. -/
def clientLine (env : Env) (c : Printer) (ps : MoveParams) (s : State) : Text :=
  str "G1 " ++ moveText env c ps s .X ++ str " " ++ moveText env c ps s .Y ++ str " " ++
    moveText env c ps s .Z ++ str " " ++ moveText env c ps s .E ++ str " " ++ rateText ps

/-- The modes of the move. -/
def setModes (ps : MoveParams) : List Macro :=
  (if ps.moves then [.cmd (if ps.isAbsolute then .g90 else .g91)] else []) ++
  (if (ps.axis .E).isSome then [.cmd (if ps.isAbsoluteE then .m82 else .m83)] else [])

/-- `_CLIENT_LINEAR_MOVE`. -/
def clientLinearMove (env : Env) (c : Printer) (ps : MoveParams) : Macro := .call fun s =>
  bracket "_client_movement"
    (setModes ps ++
      if templateState ≠ some .printing then [.cmd (.g1 (clientLine env c ps s.toState))] else [])

/-! ## What it is for -/

def Cmd.isMove : Cmd → Bool
  | .g1 _ => true
  | _ => false

/-- The modes, the speed and the origin are those before. -/
structure Kept (s r : State) : Prop where
  absoluteCoord : r.absoluteCoord = s.absoluteCoord
  absoluteExtrude : r.absoluteExtrude = s.absoluteExtrude
  speed : r.speed = s.speed
  basePosition : ∀ a, a ≠ .E → r.basePosition a = s.basePosition a
  homingPosition : r.homingPosition = s.homingPosition

/-- The head stays still while a print is running, and otherwise goes to a place within
the range of the axes. -/
structure Safe (env : Env) (c : Printer) (s : GCodeMove) (r : Run Cmd GCodeMove) : Prop where
  still : c.printStats = .printing → ∀ e ∈ r.log, e.1.isMove = false
  within : c.printStats ≠ .printing → ∀ e ∈ r.log, ∀ line, e.1 = .g1 line → (env.words line).Ok →
    ∀ a, a ≠ .E → env.transform (e.2.target (env.words line)) a ∈ Set.Icc (lowest a) (c.highest a)
  kept : Kept s.toState r.state.toState

/-! ## The conditions -/

/-- The words that `G1` reads. -/
def clientWords (env : Env) (c : Printer) (ps : MoveParams) (s : State) : Words :=
  env.words (clientLine env c ps s)

/-- The call asks for the modes that are already set. -/
def MoveParams.KeepsModes (ps : MoveParams) (s : State) : Prop :=
  (ps.moves = true → ps.isAbsolute = s.absoluteCoord) ∧
    ((ps.axis .E).isSome = true → ps.isAbsoluteE = s.absoluteExtrude)

/-- The state with the modes of the move. -/
def moded (ps : MoveParams) (s : State) : State :=
  { s with
    absoluteCoord := if ps.moves then ps.isAbsolute else s.absoluteCoord
    absoluteExtrude := if (ps.axis .E).isSome then ps.isAbsoluteE else s.absoluteExtrude }

/-- Where the call leads. -/
def landing (env : Env) (c : Printer) (ps : MoveParams) (s : State) : Pos :=
  (moded ps s).target (clientWords env c ps s)

/-- What the transform adds to a coordinate. -/
def Env.shift (env : Env) (p : Pos) (a : Axis) : ℚ := env.transform p a - p a

/-- How that changes on the way. -/
def drift (env : Env) (c : Printer) (ps : MoveParams) (s : State) (a : Axis) : ℚ :=
  env.shift (landing env c ps s) a - env.shift s.lastPosition a

/-- The axis has no word and is within its range; or its word is relative and does not lead
it out of there; or the word is absolute and its origin does not: each up to what the
transform adds. -/
def Fits (env : Env) (c : Printer) (ps : MoveParams) (s : State) (a : Axis) : Prop :=
  match ((clientWords env c ps s).axis a).join with
  | none => env.transform s.lastPosition a + drift env c ps s a ∈ Set.Icc (lowest a) (c.highest a)
  | some v =>
    if (moded ps s).absoluteCoord then
      v + s.basePosition a + env.shift (landing env c ps s) a ∈ Set.Icc (lowest a) (c.highest a)
    else env.transform s.lastPosition a + v + drift env c ps s a ∈ Set.Icc (lowest a) (c.highest a)

/-- The toolhead takes the move. -/
def Taken (env : Env) (c : Printer) (ps : MoveParams) (s : State) : Prop :=
  env.accepts (env.transform s.lastPosition) (env.transform (landing env c ps s))
    (s.speedOf (clientWords env c ps s)) = true

/-! ## Clamping -/

/-- `max` and `min` of a list of two numbers. -/
def clamp (lo hi v : ℚ) : ℚ := max lo (min hi v)

theorem min_finite (a b : ℚ) : (PyFloat.finite a).min (.finite b) = .finite (min a b) := by
  unfold PyFloat.min PyFloat.lt
  rcases lt_or_ge b a with h | h
  · simp [h, min_eq_right h.le]
  · simp [not_lt.2 h, min_eq_left h]

theorem max_finite (a b : ℚ) : (PyFloat.finite a).max (.finite b) = .finite (max a b) := by
  unfold PyFloat.max PyFloat.lt
  rcases lt_or_ge a b with h | h
  · simp [h, max_eq_right h.le]
  · simp [not_lt.2 h, max_eq_left h]

section Call

variable {env : Env} {c : Printer} {ps : MoveParams}

/-- What is written for an axis that is given a number. -/
theorem axisValue_finite (s : State) (a : Axis) {t : Text} {v : ℚ} (ht : env.float t = some (.finite v)) :
    axisValue env c ps s a t = .finite (
      if ps.isAbsolute then clamp (lowest a) (c.highest a) v
      else clamp (lowest a - env.transform s.lastPosition a)
        (c.highest a - env.transform s.lastPosition a) v) := by
  have hv : env.filterFloat t = .finite v := by rw [Env.filterFloat, ht, Option.getD_some]
  unfold axisValue clamp
  rw [hv]
  by_cases habs : ps.isAbsolute = true
  · simp only [habs, if_true]
    rw [min_finite, max_finite, min_comm, max_comm]
  · simp only [habs, if_false, Bool.false_eq_true]
    rw [min_finite, max_finite]

/-- Clamping a relative move at a position is clamping where it leads. -/
theorem clamp_sub (lo hi pos v : ℚ) : pos + clamp (lo - pos) (hi - pos) v = clamp lo hi (pos + v) := by
  unfold clamp
  rw [← max_add_add_left, ← min_add_add_left, add_sub_cancel, add_sub_cancel]

theorem clamp_mem {lo hi : ℚ} (h : lo ≤ hi) (v : ℚ) : clamp lo hi v ∈ Set.Icc lo hi :=
  ⟨le_max_left .., max_le h (min_le_left ..)⟩

/-- The condition on an axis, and where the move leads. -/
theorem fits_iff {a : Axis} (ha : a ≠ .E) (s : State) :
    Fits env c ps s a ↔ env.transform (landing env c ps s) a ∈ Set.Icc (lowest a) (c.highest a) := by
  have hshift : env.transform (landing env c ps s) a
      = landing env c ps s a + env.shift (landing env c ps s) a := (add_sub_cancel ..).symm
  have hlast : env.transform s.lastPosition a
      = s.lastPosition a + env.shift s.lastPosition a := (add_sub_cancel ..).symm
  have hbase : (moded ps s).basePosition = s.basePosition := rfl
  have hpos : (moded ps s).lastPosition = s.lastPosition := rfl
  unfold Fits drift
  rw [hshift, hlast]
  cases hword : ((clientWords env c ps s).axis a).join with
  | none =>
    have hland : landing env c ps s a = s.lastPosition a := by
      unfold landing State.target
      rw [hword]
      exact congrFun hpos a
    simp only
    rw [hland, show ∀ x y z : ℚ, x + y + (z - y) = x + z by intros; ring]
  | some v =>
    by_cases habs : (moded ps s).absoluteCoord = true
    · have hland : landing env c ps s a = v + s.basePosition a := by
        unfold landing State.target
        rw [hword, ← hbase]
        simp only [ha, habs, if_false, Bool.not_true, Bool.false_eq_true]
      simp only [habs, if_true]
      rw [hland]
    · have hland : landing env c ps s a = s.lastPosition a + v := by
        unfold landing State.target
        rw [hword, ← hpos]
        simp [ha, habs]
      simp only [habs, if_false, Bool.false_eq_true]
      rw [hland, show ∀ x y z t : ℚ, x + y + z + (t - y) = x + z + t by intros; ring]

/-- A relative axis stays within its range wherever it is, if `G1` reads what was clamped and
the transform adds the same before and after. -/
theorem fits_of_relative {s : State} {a : Axis} {v : ℚ} (hrelative : (moded ps s).absoluteCoord = false)
    (hread : (clientWords env c ps s).axis a = some (some (clamp
      (lowest a - env.transform s.lastPosition a) (c.highest a - env.transform s.lastPosition a) v)))
    (hrange : lowest a ≤ c.highest a) (hdrift : drift env c ps s a = 0) : Fits env c ps s a := by
  unfold Fits
  rw [hread, hrelative, hdrift]
  simp only [Option.join_some, Bool.false_eq_true, if_false, add_zero]
  rw [clamp_sub]
  exact clamp_mem hrange _

/-! ## The run -/

theorem setModes_still (ps : MoveParams) :
    Script.OnlyAll (fun k => k.isMove = false) (setModes ps) := by
  unfold setModes
  by_cases habs : ps.isAbsolute = true <;> by_cases habsE : ps.isAbsoluteE = true <;>
    simp [habs, habsE, Cmd.isMove]

theorem setModes_plain (ps : MoveParams) : Script.OnlyAll Cmd.Plain (setModes ps) := by
  unfold setModes
  by_cases habs : ps.isAbsolute = true <;> by_cases habsE : ps.isAbsoluteE = true <;>
    simp [habs, habsE, Cmd.Plain]

theorem exec_setModes (env : Env) (ps : MoveParams) (s : GCodeMove) :
    (Script.execAll (native env) (setModes ps) s).state = { s with toState := moded ps s.toState } ∧
      (Script.execAll (native env) (setModes ps) s).raised = none := by
  unfold setModes moded
  by_cases hmoves : ps.moves = true <;> by_cases habs : ps.isAbsolute = true <;>
    by_cases he : (ps.axis .E).isSome = true <;> by_cases habsE : ps.isAbsoluteE = true <;>
    simp [hmoves, habs, he, habsE, native]

/-- The move itself, after the modes are set. -/
def move (env : Env) (c : Printer) (ps : MoveParams) (s : State) : List Macro :=
  setModes ps ++ [.cmd (.g1 (clientLine env c ps s))]

theorem exec_move (env : Env) (c : Printer) (ps : MoveParams) (s t : GCodeMove) :
    ∃ log, (∀ e ∈ log, e.1.isMove = false) ∧
      Script.execAll (native env) (move env c ps s.toState) t =
        (Run.mk { t with toState := moded ps t.toState } log none).andThen
          ((Script.cmd (.g1 (clientLine env c ps s.toState))).exec (native env)) := by
  obtain ⟨hstate, hraised⟩ := exec_setModes env ps t
  have hlog : ∀ e ∈ (Script.execAll (native env) (setModes ps) t).log, e.1.isMove = false :=
    (setModes_still ps).log t
  refine ⟨_, hlog, ?_⟩
  unfold move
  rw [Script.execAll_append, Script.execAll_singleton, ← hstate, ← hraised]

/-- The run of the macro: one move, in the modes that were set. -/
structure Outcome (env : Env) (c : Printer) (ps : MoveParams) (s : GCodeMove)
    (r : Run Cmd GCodeMove) : Prop where
  move : ∃ t : GCodeMove, t.toState = moded ps s.toState ∧
    (Cmd.g1 (clientLine env c ps s.toState), t) ∈ r.log ∧
    ∀ e ∈ r.log, e.1.isMove = true → e = (.g1 (clientLine env c ps s.toState), t)
  taken : (clientWords env c ps s.toState).Ok → Taken env c ps s.toState →
    ∃ last, r.state.toState = s.toState.restored last
  refused : (clientWords env c ps s.toState).Ok → ¬ Taken env c ps s.toState →
    r.state.toState = { moded ps s.toState with speed := s.toState.speedOf (clientWords env c ps s.toState) }
  unread : ¬ (clientWords env c ps s.toState).Ok → r.state.toState = moded ps s.toState

theorem outcome (env : Env) (c : Printer) (ps : MoveParams) (name : String) (s : GCodeMove) :
    Outcome env c ps s
      (Script.execAll (native env) (bracket name (move env c ps s.toState)) s) := by
  set line := clientLine env c ps s.toState with hline
  set saved := cmdSaveGcodeState name s with hsaved
  set t : GCodeMove := { saved with toState := moded ps s.toState } with ht
  have hplain : Script.OnlyAll Cmd.Plain (move env c ps s.toState) := by
    unfold move
    simp [setModes_plain, Cmd.Plain]
  obtain ⟨log, hlog, hexec⟩ := exec_move env c ps s saved
  have hsame : ({ saved with toState := moded ps saved.toState } : GCodeMove) = t := rfl
  have hwords : env.words (clientLine env c ps s.toState) = clientWords env c ps s.toState := rfl
  rw [hsame, Run.andThen_mk_none, exec_g1] at hexec
  simp only [hwords] at hexec
  -- the other commands of the script are no moves
  have honly : ∀ l : List (Cmd × GCodeMove), (∀ e ∈ l, e.1.isMove = false) →
      ∀ e ∈ (Cmd.saveGcodeState name, s) :: (log ++ [(.g1 line, t)] ++ l),
        e.1.isMove = true → e = (.g1 line, t) := by
    intro l hl e he hmove
    rcases List.mem_cons.1 he with rfl | he
    · exact absurd hmove (by simp [Cmd.isMove])
    · rcases List.mem_append.1 he with he | he
      · rcases List.mem_append.1 he with he | he
        · exact absurd hmove (by simp [hlog e he])
        · exact List.mem_singleton.1 he
      · exact absurd hmove (by simp [hl e he])
  by_cases hok : (clientWords env c ps s.toState).Ok
  · rw [if_pos hok] at hexec
    by_cases htaken : Taken env c ps s.toState
    · have haccepts : env.accepts (env.transform t.lastPosition)
          (env.transform (t.target (clientWords env c ps s.toState)))
          (t.speedOf (clientWords env c ps s.toState)) = true := htaken
      rw [if_pos haccepts] at hexec
      obtain ⟨hstate, u, hl⟩ := bracket_done name hplain (by rw [hexec])
      rw [hexec] at hstate hl
      rw [← List.cons_append] at hl
      refine ⟨⟨t, rfl, ?_, ?_⟩, fun _ _ => ⟨_, hstate⟩, fun _ h => absurd htaken h,
        fun h => absurd hok h⟩
      · rw [hl]
        simp
      · rw [hl]
        exact honly [(.restoreGcodeState name, u)] (by simp [Cmd.isMove])
    · have hrefuses : ¬ env.accepts (env.transform t.lastPosition)
          (env.transform (t.target (clientWords env c ps s.toState)))
          (t.speedOf (clientWords env c ps s.toState)) = true := htaken
      rw [if_neg hrefuses] at hexec
      obtain ⟨hstate, hl⟩ := bracket_raised name (s := s) (by rw [hexec])
      rw [hexec] at hstate hl
      refine ⟨⟨t, rfl, ?_, ?_⟩, fun _ h => absurd h htaken,
        fun _ _ => by rw [hstate]; rfl, fun h => absurd hok h⟩
      · rw [hl]
        simp
      · rw [hl]
        simpa using honly [] (by simp)
  · rw [if_neg hok] at hexec
    obtain ⟨hstate, hl⟩ := bracket_raised name (s := s) (by rw [hexec])
    rw [hexec] at hstate hl
    refine ⟨⟨t, rfl, ?_, ?_⟩, fun h => absurd h hok, fun h => absurd h hok,
      fun _ => by rw [hstate]⟩
    · rw [hl]
      simp
    · rw [hl]
      simpa using honly [] (by simp)

/-! ## When a call is safe -/

theorem kept_restored (s : State) (last : Pos) : Kept s (s.restored last) :=
  ⟨rfl, rfl, rfl, fun _ ha => restored_base s last ha, rfl⟩

theorem kept_moded_iff (s : State) (speed : ℚ) :
    Kept s { moded ps s with speed := speed } ↔ ps.KeepsModes s ∧ speed = s.speed := by
  have hmodes : ps.KeepsModes s ↔
      (moded ps s).absoluteCoord = s.absoluteCoord ∧
        (moded ps s).absoluteExtrude = s.absoluteExtrude := by
    unfold MoveParams.KeepsModes moded
    by_cases hmoves : ps.moves = true <;> by_cases he : (ps.axis .E).isSome = true <;>
      simp [hmoves, he]
  rw [hmodes]
  exact ⟨fun h => ⟨⟨h.absoluteCoord, h.absoluteExtrude⟩, h.speed⟩,
    fun h => ⟨h.1.1, h.1.2, h.2, fun _ _ => rfl, rfl⟩⟩

/-- The move stands in the log, so a safe call has it allowed and within the range. -/
theorem Outcome.safe_iff_fits {s : GCodeMove} {r : Run Cmd GCodeMove} (h : Outcome env c ps s r) :
    Safe env c s r ↔
      c.printStats ≠ .printing ∧
        ((clientWords env c ps s.toState).Ok → ∀ a, a ≠ .E → Fits env c ps s.toState a) ∧
        Kept s.toState r.state.toState := by
  obtain ⟨t, ht, hmem, honly⟩ := h.move
  have hfits : ∀ a, a ≠ .E → (Fits env c ps s.toState a ↔
      env.transform (t.target (clientWords env c ps s.toState)) a
        ∈ Set.Icc (lowest a) (c.highest a)) := by
    intro a ha
    rw [fits_iff ha, ht]
    rfl
  constructor
  · intro hsafe
    have hidle : c.printStats ≠ .printing := fun hp =>
      absurd (hsafe.still hp _ hmem) (by simp [Cmd.isMove])
    exact ⟨hidle, fun hok a ha => (hfits a ha).2 (hsafe.within hidle _ hmem _ rfl hok a ha), hsafe.kept⟩
  · rintro ⟨hidle, hall, hkept⟩
    refine ⟨fun hp => absurd hp hidle, fun _ e he line hline hok a ha => ?_, hkept⟩
    obtain rfl := honly e he (by rw [hline]; rfl)
    obtain rfl := (Cmd.g1.inj hline).symm
    exact (hfits a ha).1 (hall hok a ha)

end Call

/-! ## Examples -/

/-- `E="1 X500"` has a word X that was not clamped. -/
example : (clientWords free ⟨.standby, none⟩
    ⟨fun a => if a = .E then some (str "1 X500") else none, none, none, none⟩ fresh.toState).axis .X
      = some (some 500) := by decide +kernel

end Motion

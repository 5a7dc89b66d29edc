import Ff5m.Motion.GCodeMove

/-!
# Loading and unloading filament

`LOAD_FILAMENT`, `UNLOAD_FILAMENT` and `PURGE_FILAMENT` of `base.cfg` heat up, save
the G-code state, move E by a length relative to where it is, and restore the state.
A pause for a filament change rests on them: afterwards a print goes on as if nothing
had happened.

The length and the speed stand in the text of the move: what `G1` reads of them are its
words.  `SPEED=1e3` makes `F1e3`, which has a word E of its own.

* `exec_feed`: what the move comes to, with whatever words it has;
* `neutral_iff`: when heating and moving leave everything as it was but the filament;
* `filament_iff`: so for each of the three macros.  `LOAD_FILAMENT` announces
  `EXTRUDE_LEN`, but moves its own distance.
-/

namespace Motion

open TextTools (Text str)
open GCode

/-! ## The macros -/

/-- Heating up. -/
def heat (temp : Text) : List Macro := [.cmd (.m104 temp), .cmd (.temperatureWait temp)]

/-- The line `G1 E… F…`. -/
def feedLine (len speed : Text) : Text := str "G1 E" ++ len ++ str " F" ++ speed

/-- `G91`, `G92 E0`, `G1 E… F…`. -/
def feed (len speed : Text) : List Macro :=
  [.cmd .g91, .cmd (.g92 fun a => if a = .E then some 0 else none), .cmd (.g1 (feedLine len speed))]

/-- The parameters of the three macros. -/
structure Params where
  speed : Option Text
  extruderTemp : Option Text
  extrudeLen : Option Text

/-- The message of `LOAD_FILAMENT`. -/
def loadMessage (temp len : Text) : Text :=
  str "PREFIX=\"info\" MSG=\"Загрузка филамента с температурой " ++ temp ++ str " на " ++ len ++ str " мм\""

/-- `LOAD_FILAMENT`, with the temperature of `M600` and its own `load_distance`. -/
def loadFilament (m600Temp loadDistance : Text) (ps : Params) : Macro := .call fun _ =>
  let speed := ps.speed.getD (str "450")
  let extruderTemp := ps.extruderTemp.getD m600Temp
  let extrudeLen := ps.extrudeLen.getD loadDistance
  [.cmd (.respond (loadMessage extruderTemp extrudeLen))] ++
  heat extruderTemp ++
  bracket "load_state" (feed loadDistance speed)

/-- `UNLOAD_FILAMENT`. -/
def unloadFilament (m600Temp unloadDistance : Text) (ps : Params) : Macro := .call fun _ =>
  let speed := ps.speed.getD (str "450")
  heat m600Temp ++
  bracket "unload_state" (feed ('-' :: unloadDistance) speed)

/-- `PURGE_FILAMENT`. -/
def purgeFilament (m600Temp purgeDistance : Text) (ps : Params) : Macro := .call fun _ =>
  let speed := ps.speed.getD (str "450")
  heat m600Temp ++
  bracket "purge_state" (feed purgeDistance speed)

/-! ## What they are for -/

/-- The filament has moved by this length, and nothing else that a G-code sees has
changed. -/
structure Neutral (requested : Num) (s r : State) : Prop where
  moved : requested = some (r.lastPosition .E - s.lastPosition .E)
  position : ∀ a, r.gcodePosition a = s.gcodePosition a
  absoluteCoord : r.absoluteCoord = s.absoluteCoord
  absoluteExtrude : r.absoluteExtrude = s.absoluteExtrude
  speed : r.speed = s.speed
  speedFactor : r.speedFactor = s.speedFactor
  extrudeFactor : r.extrudeFactor = s.extrudeFactor

/-- How far the words move an axis that is relative. -/
def Words.distance (w : Words) (a : Axis) : ℚ := (w.axis a).join.getD 0

/-- Where they lead from a position, with this extrude factor. -/
def State.fed (s : State) (w : Words) : Pos := fun a =>
  s.lastPosition a + if a = .E then w.distance a * s.extrudeFactor else w.distance a

/-- The values of the words are read, the speed is positive, and the toolhead takes the
move. -/
def Accepted (env : Env) (s : State) (w : Words) : Prop :=
  w.Ok ∧ env.accepts (env.transform s.lastPosition) (env.transform (s.fed w)) (s.speedOf w) = true

/-- The move is accepted, has the requested length once it is scaled, and moves no other
axis; or there is nothing to move, and either it does not come to the move, or what the
macro has changed up to there was so before. -/
def Fed (env : Env) (s : State) (ready : Prop) (w : Words) (requested : Num) : Prop :=
  (ready ∧ Accepted env s w ∧ requested = some (w.distance .E * s.extrudeFactor) ∧
      ∀ a, a ≠ .E → w.distance a = 0) ∨
    (requested = some 0 ∧ (¬ ready ∨
      (¬ Accepted env s w ∧ s.absoluteCoord = false ∧ s.gcodePosition .E = 0 ∧
        (w.Ok → s.speedOf w = s.speed))))

/-- Heating up succeeds. -/
def Heats (env : Env) (temp : Text) : Prop := env.heats temp = true ∧ env.waits temp = true

instance (env : Env) (temp : Text) : Decidable (Heats env temp) := inferInstanceAs (Decidable (_ ∧ _))

/-! ## The move -/

section Env

variable {env : Env}

/-- The state in which the move is made. -/
def zeroed (s : GCodeMove) : GCodeMove :=
  { s with
    absoluteCoord := false
    basePosition := Function.update s.basePosition .E (s.lastPosition .E) }

/-- Where the words of the move lead. -/
theorem target_zeroed (s : GCodeMove) (w : Words) : (zeroed s).target w = s.toState.fed w := by
  funext a
  unfold State.target State.fed Words.distance
  cases (w.axis a).join with
  | none => by_cases ha : a = .E <;> simp [ha, zeroed]
  | some v => by_cases ha : a = .E <;> simp [ha, zeroed]

/-- The move, in its two outcomes. -/
theorem exec_feed (env : Env) (len speed : Text) (s : GCodeMove) :
    let w := env.words (feedLine len speed)
    let r := Script.execAll (native env) (feed len speed) s
    (Accepted env s.toState w → r.raised = none ∧ r.state.lastPosition = s.toState.fed w) ∧
      (¬ Accepted env s.toState w → r.raised = some .command ∧
        r.state.toState = { (zeroed s).toState with
          speed := if w.Ok then s.toState.speedOf w else s.speed }) := by
  have hzero : cmdG92 (fun a => if a = .E then some 0 else none) { s with absoluteCoord := false }
      = zeroed s := by
    have hsome : ¬ ∀ a : Axis, (if a = .E then some (0 : ℚ) else none) = none := by
      intro h
      exact absurd (h .E) (by simp)
    unfold cmdG92 zeroed
    rw [if_neg hsome]
    congr 2
    funext a
    cases a <;> simp
  have h91 : native env .g91 s = ({ s with absoluteCoord := false }, none) := rfl
  have h92 : native env (.g92 fun a => if a = .E then some 0 else none) { s with absoluteCoord := false }
      = (zeroed s, none) := by
    rw [← hzero]
    rfl
  have hlast : (zeroed s).lastPosition = s.lastPosition := rfl
  intro w r
  have hspeed : (zeroed s).speedOf w = s.toState.speedOf w := rfl
  have hr : r = (Run.mk (zeroed s) [(.g91, s), (.g92 fun a => if a = .E then some 0 else none,
      { s with absoluteCoord := false })] none).andThen
        ((Script.cmd (.g1 (feedLine len speed))).exec (native env)) := by
    show Script.execAll (native env) (feed len speed) s = _
    unfold feed
    rw [Script.execAll_cons, Script.exec_cmd, h91, Run.andThen_mk_none, Script.execAll_cons,
      Script.exec_cmd, h92, Run.andThen_mk_none, Script.execAll_singleton]
    rfl
  rw [hr, Run.andThen_mk_none, exec_g1]
  simp only
  rw [target_zeroed, hlast, hspeed]
  unfold Accepted
  by_cases hok : w.Ok
  · rw [if_pos hok, if_pos hok]
    by_cases htaken : env.accepts (env.transform s.lastPosition) (env.transform (s.toState.fed w))
        (s.toState.speedOf w) = true
    · rw [if_pos htaken]
      exact ⟨fun _ => ⟨rfl, rfl⟩, fun h => absurd ⟨hok, htaken⟩ h⟩
    · rw [if_neg htaken]
      exact ⟨fun h => absurd h.2 htaken, fun _ => ⟨rfl, rfl⟩⟩
  · rw [if_neg hok, if_neg hok]
    exact ⟨fun h => absurd h.1 hok, fun _ => ⟨rfl, rfl⟩⟩

theorem feed_plain (len speed : Text) : Script.OnlyAll Cmd.Plain (feed len speed) := by
  simp [feed, Cmd.Plain]

/-! ## The macros as a whole -/

/-- Heating up does nothing to the G-code state. -/
theorem exec_heat (env : Env) (temp : Text) (s : GCodeMove) :
    (Script.execAll (native env) (heat temp) s).state = s ∧
      (Script.execAll (native env) (heat temp) s).raised
        = if Heats env temp then none else some .command := by
  unfold Heats
  by_cases hheats : env.heats temp = true <;> by_cases hwaits : env.waits temp = true <;>
    simp [heat, native, hheats, hwaits]

/-- After an accepted move everything is restored. -/
theorem neutral_restored (s : State) (w : Words) (requested : Num) :
    Neutral requested s (s.restored (s.fed w)) ↔
      requested = some (w.distance .E * s.extrudeFactor) ∧ ∀ a, a ≠ .E → w.distance a = 0 := by
  have hmoved : (s.restored (s.fed w)).lastPosition .E - s.lastPosition .E
      = w.distance .E * s.extrudeFactor := by
    simp only [State.restored, State.fed, if_true]
    ring
  have hother : ∀ a, a ≠ .E → (s.fed w a = s.lastPosition a ↔ w.distance a = 0) := by
    intro a ha
    simp [State.fed, ha]
  constructor
  · intro h
    refine ⟨h.moved.trans (congrArg some hmoved), fun a ha => ?_⟩
    exact (hother a ha).1 ((restored_gcodePosition ha).1 (h.position a))
  · rintro ⟨hE, hzero⟩
    refine ⟨hE.trans (congrArg some hmoved.symm), fun a => ?_, rfl, rfl, rfl, rfl, rfl⟩
    by_cases ha : a = .E
    · rw [ha, restored_gcodePosition_E]
    · rw [restored_gcodePosition ha]
      exact (hother a ha).2 (hzero a ha)

/-- After a refused one the mode and the base remain changed. -/
theorem neutral_zeroed (s : GCodeMove) (speed : ℚ) (requested : Num) :
    Neutral requested s.toState { (zeroed s).toState with speed := speed } ↔
      requested = some 0 ∧ s.absoluteCoord = false ∧ s.toState.gcodePosition .E = 0 ∧ speed = s.speed := by
  have hmoved : some ((zeroed s).lastPosition .E - s.lastPosition .E) = some 0 :=
    congrArg some (sub_self _)
  have hE : State.gcodePosition { (zeroed s).toState with speed := speed } .E = 0 := by
    simp [State.gcodePosition, zeroed]
  have hother : ∀ a, a ≠ .E → State.gcodePosition { (zeroed s).toState with speed := speed } a
      = s.toState.gcodePosition a := by
    intro a ha
    simp [State.gcodePosition, zeroed, ha]
  constructor
  · intro h
    exact ⟨h.moved.trans hmoved, h.absoluteCoord.symm, by rw [← h.position .E, hE], h.speed⟩
  · rintro ⟨h0, hcoord, hpos, hspeed⟩
    refine ⟨h0.trans hmoved.symm, fun a => ?_, hcoord.symm, rfl, hspeed, rfl, rfl⟩
    by_cases ha : a = .E
    · rw [ha, hE, hpos]
    · exact hother a ha

/-- Where nothing was done, nothing may have been asked for. -/
theorem neutral_self (s : State) (requested : Num) : Neutral requested s s ↔ requested = some 0 := by
  have hmoved : some (s.lastPosition .E - s.lastPosition .E) = some 0 := congrArg some (sub_self _)
  constructor
  · intro h
    exact h.moved.trans hmoved
  · intro h
    exact ⟨h.trans hmoved.symm, fun _ => rfl, rfl, rfl, rfl, rfl, rfl⟩

/-- Heating and moving between saving and restoring. -/
theorem neutral_iff (env : Env) (name : String) (temp len speed : Text) (requested : Num) (s : GCodeMove) :
    Neutral requested s.toState
        (Script.execAll (native env) (heat temp ++ bracket name (feed len speed)) s).state.toState ↔
      Fed env s.toState (Heats env temp) (env.words (feedLine len speed)) requested := by
  obtain ⟨hstate, hraised⟩ := exec_heat env temp s
  rw [Script.execAll_append]
  unfold Run.andThen Fed
  rw [hraised, hstate]
  by_cases htemp : Heats env temp
  swap
  · have hfailed : (some Failure.command).isSome = true := rfl
    rw [if_neg htemp, if_pos hfailed, hstate, neutral_self]
    simp [htemp]
  · rw [if_pos htemp, if_neg (by simp)]
    simp only [htemp, not_true, true_and, false_or]
    obtain ⟨htaken, hrefused⟩ := exec_feed env len speed (cmdSaveGcodeState name s)
    by_cases hacc : Accepted env s.toState (env.words (feedLine len speed))
    · obtain ⟨hnone, hlast⟩ := htaken hacc
      obtain ⟨hend, -⟩ := bracket_done name (feed_plain len speed) hnone
      rw [hend, hlast]
      simp only [hacc, true_and, not_true, false_and, and_false, or_false]
      exact neutral_restored s.toState _ requested
    · obtain ⟨hsome, hleft⟩ := hrefused hacc
      obtain ⟨hend, -⟩ := bracket_raised name hsome
      have hzero : (zeroed (cmdSaveGcodeState name s)).toState = (zeroed s).toState := rfl
      have hspeed : (if (env.words (feedLine len speed)).Ok then
            s.toState.speedOf (env.words (feedLine len speed)) else s.speed) = s.speed ↔
          ((env.words (feedLine len speed)).Ok →
            s.toState.speedOf (env.words (feedLine len speed)) = s.speed) := by
        by_cases hok : (env.words (feedLine len speed)).Ok <;> simp [hok]
      rw [hend, hleft, hzero]
      simp only [hacc, false_and, false_or, not_false_eq_true, true_and]
      rw [neutral_zeroed]
      exact and_congr_right fun _ => and_congr_right fun _ => and_congr_right fun _ => hspeed

end Env

/-! ## Examples -/

/-- `SPEED=1e3` moves the filament by 3 mm. -/
example : (free.words (feedLine (str "25") (str "1e3"))).axis .E = some (some 3) := by decide +kernel

end Motion

import Ff5m.GCode.Line
import Ff5m.GCode.Script
import Mathlib.Data.List.AList

/-!
# Bed meshes and START_PRINT

`bed_mesh` with its active mesh and its stored profiles, and the macros through which
`START_PRINT` of display-off mode gets to them: it keeps its parameters in variables of
`_START_PRINT`, which loads the stored profile that was asked for, if there is one.
`_START_MESH` then looks at what is loaded and probes the bed where it has to.

The name of the mesh goes through the macros as text: it is quoted for
`SET_GCODE_VARIABLE`, where it is read as a Python literal, and for the messages, but not
for `BED_MESH_PROFILE` and `_FULL_BED_LEVEL`.

* `native`: what the commands do to the active mesh and to the profiles;
* `rendered`: a line that holds the name, and what follows if the name has line breaks;
* `startMesh`, `doStartPrint`, `startPrint`: the macros, each rendered when its turn
  comes.
-/

namespace BedMesh

open TextTools (Text str)
open ConfigParser (strip rstrip)
open GCode

/-! ## Meshes -/

/-- The whole bed, the area of the objects, or points that the parameters of a probing
ask for. -/
inductive Area where
  | full
  | kamp
  | asked
  deriving DecidableEq

/-- The points of a mesh, known by the probing that they come from. -/
structure Points where
  probing : ℕ
  area : Area
  deriving DecidableEq

/-- `name.strip()` is empty. -/
def blank (name : Text) : Bool := strip name = []

theorem ne_nil_of_not_blank {name : Text} (h : ¬ blank name = true) : name ≠ [] := by
  rintro rfl
  exact h rfl

/-- A mesh in use; it has a name. -/
structure Mesh where
  name : Text
  points : Points
  name_ne : name ≠ []

/-- A Python literal: what it is compared with, and how it is rendered. -/
inductive Literal where
  | bool (b : Bool)
  | num (q : ℚ) (shown : Text)
  | text (t : Text)
  | other (shown : Text)
  deriving DecidableEq

/-- `== True`. -/
def Literal.isTrue : Literal → Bool
  | .bool b => b
  | .num q _ => q = 1
  | _ => false

/-- `== False`. -/
def Literal.isFalse : Literal → Bool
  | .bool b => !b
  | .num q _ => q = 0
  | _ => false

/-- The literal in a template. -/
def Literal.shown : Literal → Text
  | .bool b => if b then str "True" else str "False"
  | .num _ t => t
  | .text t => t
  | .other t => t

/-- The variables of `_START_PRINT` that hold an option. -/
inductive Variable where
  | zforceKamp
  | zforceLeveling
  | zskipZoffset
  | zskipLeveling
  deriving DecidableEq

/-- The variable with this name. -/
def optionNamed (name : Text) : Option Variable :=
  if name = str "zforce_kamp" then some .zforceKamp
  else if name = str "zforce_leveling" then some .zforceLeveling
  else if name = str "zskip_zoffset" then some .zskipZoffset
  else if name = str "zskip_leveling" then some .zskipLeveling
  else none

/-- `bed_mesh` and the variables of `_START_PRINT`. -/
structure State where
  mesh : Option Mesh
  profiles : AList fun _ : Text => Points
  /-- how many times the bed was probed -/
  probings : ℕ
  options : Variable → Literal
  zmesh : Literal
  mesh_old : ∀ m, mesh = some m → m.points.probing < probings
  profiles_old : ∀ n points, profiles.lookup n = some points → points.probing < probings

/-- `profile_name` of the status. -/
def State.profileName (s : State) : Text :=
  match s.mesh with
  | none => []
  | some m => m.name

theorem State.profileName_eq_nil (s : State) : s.profileName = [] ↔ s.mesh = none := by
  unfold profileName
  cases hm : s.mesh with
  | none => simp
  | some m => simpa using m.name_ne

/-- Without a mesh. -/
def State.clear (s : State) : State := { s with mesh := none, mesh_old := by simp }

/-- With the mesh of a stored profile. -/
def State.load (s : State) (name : Text) (points : Points) (hname : name ≠ [])
    (hlookup : s.profiles.lookup name = some points) : State :=
  { s with
    mesh := some ⟨name, points, hname⟩
    mesh_old := fun m hm => by
      obtain rfl := Option.some.inj hm
      exact s.profiles_old name points hlookup }

/-- With the mesh of one more probing, which is stored. -/
def State.probe (s : State) (name : Text) (area : Area) (hname : name ≠ []) : State :=
  { s with
    mesh := some ⟨name, ⟨s.probings, area⟩, hname⟩
    profiles := s.profiles.insert name ⟨s.probings, area⟩
    probings := s.probings + 1
    mesh_old := fun m hm => by
      obtain rfl := Option.some.inj hm
      exact Nat.lt_succ_self _
    profiles_old := fun n points hlookup => by
      by_cases hn : n = name
      · subst hn
        rw [AList.lookup_insert] at hlookup
        obtain rfl := Option.some.inj hlookup
        exact Nat.lt_succ_self _
      · rw [AList.lookup_insert_ne hn] at hlookup
        exact Nat.lt_succ_of_lt (s.profiles_old n points hlookup) }

/-- One more probing, which failed. -/
def State.probeFailed (s : State) : State :=
  { s with
    mesh := none
    probings := s.probings + 1
    mesh_old := by simp
    profiles_old := fun n points hlookup => Nat.lt_succ_of_lt (s.profiles_old n points hlookup) }

/-! ## Commands -/

inductive Cmd where
  | bedMeshClear
  | bedMeshProfile (raw : Text)
  /-- `_BED_MESH_CALIBRATE` -/
  | bedMeshCalibrate (raw : Text)
  /-- `_BED_MESH_CALIBRATE` with the area of the objects -/
  | kampCalibrate
  | setGcodeVariable (raw : Text)
  /-- `SET_GCODE_VARIABLE` with an option; `none` is a text that is no literal -/
  | setOption (v : Variable) (value : Option Literal)
  | respond (raw : Text)
  | raiseError (msg : String)
  /-- a macro whose line is malformed -/
  | malformed (raw : Text)
  /-- any other line -/
  | line (text : String)
  /-- a line that a name with a line break makes -/
  | injected (text : Text)

/-- What the commands meet. -/
structure Env where
  upper : Upper
  /-- `ast.literal_eval` -/
  literal : Text → Option Literal
  literal_quoted : ∀ t : Text, (∀ c ∈ t, ' ' ≤ c ∧ c ≠ '"' ∧ c ≠ '\\') →
    literal ('"' :: (t ++ ['"'])) = some (.text t)
  /-- the filter `float`, rendered -/
  float : Text → Text
  /-- the line ends in an error -/
  raises : String → State → Bool
  /-- what a line does that a name brings along -/
  injected : Text → State → State × Option Failure
  /-- the probing with this number succeeds -/
  probes : ℕ → Bool

/-- `load_profile`. -/
def loadProfile (name : Text) (s : State) : State × Option Failure :=
  if h : blank name = true then (s, some .command)
  else match hlookup : s.profiles.lookup name with
    | none => (s, some .command)
    | some points => (s.load name points (ne_nil_of_not_blank h) hlookup, none)

/-- `cmd_BED_MESH_CALIBRATE` and `probe_finalize`, which saves the profile. -/
def calibrate (env : Env) (name : Text) (area : Area) (s : State) : State × Option Failure :=
  if h : blank name = true then (s, some .command)
  else if env.probes s.probings then (s.probe name area (ne_nil_of_not_blank h), none)
  else (s.probeFailed, some .command)

/-- The parameters with which other points are probed than the configured ones. -/
def pointParams : List Text :=
  [str "MESH_MIN", str "MESH_MAX", str "PROBE_COUNT", str "ADAPTIVE", str "METHOD"]

/-- The area that is probed with these parameters. -/
def areaOf (ps : List (Text × Text)) : Area :=
  if ps.any (·.1 ∈ pointParams) then .asked else .full

/-- `cmd_SET_GCODE_VARIABLE`; the other variables and macros do not matter here. -/
def setGcodeVariable (env : Env) (raw : Text) (s : State) : State × Option Failure :=
  match extendedParams env.upper raw with
  | none => (s, some .command)
  | some ps =>
    if getParam ps (str "MACRO") = some (str "_START_PRINT") then
      match getParam ps (str "VARIABLE"), (getParam ps (str "VALUE")).bind env.literal with
      | some name, some value =>
        if name = str "zmesh" then ({ s with zmesh := value }, none)
        else match optionNamed name with
          | some v => ({ s with options := Function.update s.options v value }, none)
          | none => (s, if env.raises "SET_GCODE_VARIABLE" s then some .command else none)
      | _, _ => (s, some .command)
    else (s, if env.raises "SET_GCODE_VARIABLE" s then some .command else none)

/-- The native commands.  The other lines, among them those of the parking, homing,
cleaning and purging macros, do nothing to the mesh.  `LOAD` is the first key that
`BED_MESH_PROFILE` looks for. -/
def native (env : Env) : Native Cmd State
  | .bedMeshClear, s => (s.clear, none)
  | .bedMeshProfile raw, s =>
    match (extendedParams env.upper raw).bind (getParam · (str "LOAD")) with
    | none => (s, some .command)
    | some name => loadProfile name s
  | .bedMeshCalibrate raw, s =>
    match extendedParams env.upper raw with
    | none => (s, some .command)
    | some ps => calibrate env ((getParam ps (str "PROFILE")).getD (str "default")) (areaOf ps) s
  | .kampCalibrate, s => calibrate env (str "default") .kamp s
  | .setGcodeVariable raw, s => setGcodeVariable env raw s
  | .setOption v (some value), s => ({ s with options := Function.update s.options v value }, none)
  | .setOption _ none, s => (s, some .command)
  | .respond raw, s => (s, if respondAccepts env.upper raw then none else some .command)
  | .raiseError _, s => (s, some .command)
  | .malformed _, s => (s, some .command)
  | .line text, s => (s, if env.raises text s then some .command else none)
  | .injected text, s => env.injected text s

abbrev Macro := Script Cmd State

/-- Lines that are not about the mesh. -/
def lines (texts : List String) : List Macro := texts.map fun text => .cmd (.line text)

/-- The lines of a text. -/
def splitLines : Text → Text × List Text
  | [] => ([], [])
  | c :: t =>
    match splitLines t with
    | (first, rest) => if c = '\n' then ([], first :: rest) else (c :: first, rest)

/-- A line that holds a name: up to the first line break it is the command, and each
further line is one of its own. -/
def rendered (command : Text → Macro) (raw : Text) : List Macro :=
  command (rstrip (splitLines raw).1) :: (splitLines raw).2.map fun text => .cmd (.injected text)

/-- `PREFIX="…" MSG="…"` -/
def message (sender : String) (msg : Text) : Text :=
  str "PREFIX=\"" ++ str sender ++ str "\" MSG=\"" ++ msg ++ str "\""

/-- A message that holds the name. -/
def respond (sender : String) (msg : Text) : List Macro :=
  rendered (fun raw => .cmd (.respond raw)) (message sender msg)

/-! ## The macros -/

/-- What the saved variables and the KAMP settings say. -/
structure Settings where
  printLeveling : ℤ
  useKamp : ℤ
  forceMd5 : ℤ
  disablePriming : ℤ
  disableSkew : ℤ
  loadZoffset : ℤ
  zclear : String
  midiStart : String
  /-- the value of `weightValue` -/
  weight : ℚ
  /-- `attach_macro` and `detach_macro` with `probe_dock_enable` -/
  probeDock : Option (String × String)
  /-- the temperatures, as they are rendered -/
  bedTemp : {t : Text // plain t = true}
  extruderTemp : {t : Text // plain t = true}

/-- The profile that `_FULL_BED_LEVEL` reads from its parameters. -/
def profileIn (ps : List (Text × Text)) : Text := (getParam ps (str "PROFILE")).getD (str "auto")

/-- `PROFILE="…"` -/
def calibrateLine (profile : Text) : Text := str "PROFILE=\"" ++ profile ++ str "\""

/-- `_FULL_BED_LEVEL`. -/
def fullBedLevel (env : Env) (raw : Text) : Macro := .call fun _ =>
  match extendedParams env.upper raw with
  | none => [.cmd (.malformed raw)]
  | some ps =>
    let temp (key other : String) := env.float ((getParam ps (str key)).getD (str other))
    [.cmd (.respond (message "info" (str "Калибровка стола. Профиль " ++ profileIn ps ++ str ". " ++
        temp "EXTRUDER_TEMP" "240" ++ str "/" ++ temp "BED_TEMP" "80"))),
      .cmd .bedMeshClear] ++ lines ["M400", "CLEAR_NOZZLE"] ++
    [.cmd (.bedMeshCalibrate (calibrateLine (profileIn ps)))] ++ lines ["_UGOL_PARK"]

/-- The temperatures that are handed to `_FULL_BED_LEVEL`. -/
def tempsLine (st : Settings) : Text :=
  str "BED_TEMP=" ++ st.bedTemp.1 ++ str " EXTRUDER_TEMP=" ++ st.extruderTemp.1

/-- The same with a profile. -/
def profileLine (st : Settings) (name : Text) : Text := tempsLine st ++ str " PROFILE=" ++ name

/-- `_KAMP_BED_MESH_CALIBRATE`. -/
def kampBedMeshCalibrate (st : Settings) : Macro := .call fun _ =>
  lines (st.probeDock.map Prod.fst).toList ++
  [.cmd .kampCalibrate] ++
  lines ((st.probeDock.map Prod.snd).toList ++
    ["M300 S1318 P50", "M300 S1244 P50", "M300 S1318 P50", "M300 S987 P50", "M300 S1174 P50",
      "M300 S1046 P50", "M300 S880 P100"])

/-- `KAMP`. -/
def kamp (st : Settings) : Macro := .call fun _ =>
  [.cmd .bedMeshClear] ++ lines ["M400", "CLEAR_NOZZLE"] ++ [kampBedMeshCalibrate st] ++
  lines ["_SMART_PARK", "M190", "M109"]

/-- `_START_MESH`. -/
def startMesh (env : Env) (st : Settings) : Macro := .call fun s =>
  if (s.options .zskipLeveling).isFalse then
    if (s.options .zforceKamp).isTrue then [kamp st]
    else
      (if s.profileName = [] ∨ (s.options .zforceLeveling).isTrue = true then
        if s.zmesh ≠ .text [] then
          respond "!!" (str "Запущено построение карты стола " ++ s.zmesh.shown ++ str ", т.к. она не найдена") ++
          rendered (fullBedLevel env) (profileLine st s.zmesh.shown)
        else [fullBedLevel env (tempsLine st)]
      else []) ++
      [.cmd (.respond (message "//" (str "Нет необходимости строить карту стола. Загружен профиль " ++
        s.profileName ++ str ".")))]
  else []

/-- The lines with which `_START_PRINT` begins. -/
def beginning : List String :=
  ["UPDATE_DELAYED_GCODE ID=_CLOSE_DIALOGS DURATION=0",
    "UPDATE_DELAYED_GCODE ID=_FAST_CLOSE_DIALOGS DURATION=0",
    "UPDATE_DELAYED_GCODE ID=_STOP_MOTOR DURATION=0", "UPDATE_DELAYED_GCODE ID=_AUTO_REBOOT DURATION=0",
    "UPDATE_DELAYED_GCODE ID=_GOTO_PAUSE DURATION=0", "CLEAR_PAUSE", "ZCONTROL_ON",
    "SET_GCODE_VARIABLE MACRO=_CANCEL_PRINT VARIABLE=cancel_send VALUE=0", "ZSSH_RELOAD"]

/-- The lines before the mesh. -/
def preparing (st : Settings) (s : State) : List String :=
  (if st.forceMd5 = 1 then ["CHECK_MD5 DELETE=True"] else []) ++
  ["M140", "SET_SKEW CLEAR=1"] ++
  (if st.loadZoffset = 1 then ["LOAD_GCODE_OFFSET"]
    else if (s.options .zskipZoffset).isTrue then [] else ["SET_GCODE_OFFSET"]) ++
  ["_G28"] ++ (if st.weight ≠ 0 then ["LOAD_CELL_TARE"] else [])

/-- The loop over the stored profiles; only a text is equal to one of their names. -/
def loading (s : State) : List Macro :=
  match s.zmesh with
  | .text name => ((s.profiles.keys.filter (· == name)).map fun _ =>
      rendered (fun raw => .cmd (.bedMeshProfile raw)) (str "LOAD=" ++ name) ++
      respond "info" (str "Карта стола " ++ name ++ str " загружена")).flatten
  | _ => []

/-- The part of `_START_PRINT` about the mesh. -/
def choosing (env : Env) (st : Settings) (s : State) : List Macro :=
  if st.printLeveling = 1 then
    [.cmd .bedMeshClear] ++ lines ["M400"] ++
    [if st.useKamp = 1 then kamp st else fullBedLevel env (tempsLine st)]
  else
    (if s.zmesh ≠ .text [] then
      respond "info" (str "Пробую загрузить карту стола " ++ s.zmesh.shown) ++
      [.cmd .bedMeshClear] ++ lines ["M400"] ++ loading s else []) ++
    [startMesh env st]

/-- The lines after it. -/
def finishing (st : Settings) (s : State) : List String :=
  let forced := (s.options .zforceKamp).isTrue
  (if st.disableSkew = 0 then ["SKEW_PROFILE LOAD=skew_profile"] else []) ++ ["G90"] ++
  (if (st.printLeveling = 0 ∧ forced = true) ∨ (st.printLeveling = 1 ∧ st.useKamp = 1) then
    ["_SMART_PARK"] else ["_UGOL_PARK"]) ++
  ["M140", "TEMPERATURE_WAIT SENSOR=heater_bed", "M104", "TEMPERATURE_WAIT SENSOR=extruder"] ++
  if st.disablePriming = 1 then
    ["_PRINT_MESH"] ++ (if st.midiStart ≠ "" then ["PLAY_MIDI"] else [])
  else
    (if forced = true ∨ st.printLeveling = 1 ∨ (s.options .zforceLeveling).isTrue = true then
      ["_PRINT_MESH"] else ["_MESH_TEST"]) ++
    (if st.midiStart ≠ "" then ["PLAY_MIDI"] else []) ++
    [if (forced = true ∨ st.useKamp = 1) ∧ st.zclear ∈ ["_CLEAR1", "_CLEAR2", "_CLEAR3", "_CLEAR4"] then
      "LINE_PURGE" else st.zclear]

/-- `_START_PRINT` in display-off mode; of its messages those with the name. -/
def doStartPrint (env : Env) (st : Settings) : Macro := .call fun s =>
  lines beginning ++
  (if st.printLeveling = 0 then respond "info" (str "Подгружать карту стола: " ++ s.zmesh.shown) else []) ++
  lines (preparing st s) ++ choosing env st s ++ lines (finishing st s)

/-- The parameters of `START_PRINT`.  An option is a literal, or a text that is none. -/
structure Params where
  forceKamp : Option (Option Literal)
  forceLeveling : Option (Option Literal)
  skipLeveling : Option (Option Literal)
  skipZoffset : Option (Option Literal)
  mesh : Option Text
  internal : Option ℤ
  forceMd5 : Option String
  disablePriming : Option String
  disableSkewCorrect : Option String
  clear : Option String

/-- A parameter that has moved to the settings; its text is never equal to `True`. -/
def moved (param : Option String) (name setting : String) : List String :=
  if param.any (· ≠ "") then
    ["Параметр " ++ name ++ " переехал в SAVE_ZMOD_DATA\nИспользуйте SAVE_ZMOD_DATA " ++ setting]
  else []

def Params.moved (ps : Params) : List String :=
  BedMesh.moved ps.forceMd5 "FORCE_MD5" "FORCE_MD5=0" ++
  BedMesh.moved ps.disablePriming "DISABLE_PRIMING" "DISABLE_PRIMING=0" ++
  BedMesh.moved ps.disableSkewCorrect "DISABLE_SKEW_CORRECT" "DISABLE_SKEW=0" ++
  BedMesh.moved ps.clear "CLEAR" ("CLEAR=" ++ ps.clear.getD "")

def Params.meshName (ps : Params) : Text := ps.mesh.getD []

/-- `MACRO=_START_PRINT VARIABLE=zmesh VALUE='"…"'` -/
def nameLine (name : Text) : Text :=
  str "MACRO=_START_PRINT VARIABLE=zmesh VALUE='\"" ++ name ++ str "\"'"

/-- `START_PRINT` in display-off mode; without `MESH` the name is empty. -/
def startPrint (env : Env) (st : Settings) (ps : Params) : Macro := .call fun _ =>
  match ps.moved with
  | msg :: _ => [.cmd (.raiseError msg)]
  | [] =>
    lines ["SET_GCODE_VARIABLE MACRO=_START_PRINT VARIABLE=zforce_kamp VALUE={force_kamp|int}",
      "SET_GCODE_VARIABLE MACRO=_START_PRINT VARIABLE=zbed_temp VALUE={bed_temp|float}",
      "SET_GCODE_VARIABLE MACRO=_START_PRINT VARIABLE=zextruder_temp VALUE={extruder_temp|float}"] ++
    [.cmd (.setOption .zforceLeveling (ps.forceLeveling.getD (some (.bool false)))),
      .cmd (.setOption .zforceKamp (ps.forceKamp.getD (some (.bool false)))),
      .cmd (.setOption .zskipZoffset (ps.skipZoffset.getD (some (.bool true)))),
      .cmd (.setOption .zskipLeveling (ps.skipLeveling.getD (some (.bool false))))] ++
    lines ["SET_GCODE_VARIABLE MACRO=_START_PRINT VARIABLE=zzoffset VALUE={zoffset|float}"] ++
    [.cmd (.setGcodeVariable (nameLine ps.meshName)), doStartPrint env st] ++
    lines [if ps.internal.getD 1 = 1 then "AIR_CIRCULATION_INTERNAL" else "AIR_CIRCULATION_EXTERNAL"]

end BedMesh

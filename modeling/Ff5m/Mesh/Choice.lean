import Ff5m.Mesh.Macros

/-!
# The mesh of a print

The options of `START_PRINT` are compared with `True` and with `False`: a value that is
neither, as in `FORCE_KAMP=2`, does not force anything, and as `SKIP_LEVELING` it skips.

`BED_MESH_PROFILE LOAD={mesh}` has the name without quotes, so that the line may read as
another name than the one that was found among the profiles.

* `Chosen`: the mesh that the parameters ask for;
* `exec_startMesh`: what `_START_MESH` does to the mesh;
* `exec_loading_done`: the mesh after the loop over the stored profiles;
* `ComesThrough`: what the lines read as, where the name matters;
* `startPrint_chosen_iff`: a call that completes has the mesh that was asked for exactly
  when the name comes through;
* `startPrint_chosen_plain`: as a name without special characters does.
-/

namespace BedMesh

open TextTools (Text str)
open ConfigParser (rstrip)
open GCode

/-! ## What was asked for -/

/-- The active mesh was probed, in this area, after the state `s`. -/
def ProbedSince (s : State) (area : Area) (t : State) : Prop :=
  ∃ m, t.mesh = some m ∧ m.points.area = area ∧ s.probings ≤ m.points.probing

/-- The options that a call gives. -/
def Params.kampValue (ps : Params) : Option Literal := ps.forceKamp.getD (some (.bool false))

def Params.levelingValue (ps : Params) : Option Literal := ps.forceLeveling.getD (some (.bool false))

def Params.skipValue (ps : Params) : Option Literal := ps.skipLeveling.getD (some (.bool false))

/-- The mesh that was asked for, by the options that are set and the name. -/
structure Chosen (forcedKamp forcedLeveling skipped : Prop) (name : Text) (s t : State) : Prop where
  kamp : forcedKamp → ¬ skipped → ProbedSince s .kamp t
  leveling : ¬ forcedKamp → forcedLeveling → ¬ skipped → ProbedSince s .full t
  stored : (¬ forcedKamp ∧ ¬ forcedLeveling) ∨ skipped → name ≠ [] →
    ∀ points, s.profiles.lookup name = some points →
      ∃ m, t.mesh = some m ∧ m.name = name ∧ m.points = points
  unknown : (¬ forcedKamp ∧ ¬ forcedLeveling) ∨ skipped → name ≠ [] →
    s.profiles.lookup name = none →
      (skipped → t.mesh = none) ∧ (¬ skipped → ProbedSince s .full t)
  unnamed : (¬ forcedKamp ∧ ¬ forcedLeveling) ∨ skipped → name = [] →
    (s.mesh = none ∧ ¬ skipped → ProbedSince s .full t) ∧
      (s.mesh ≠ none ∨ skipped → t.mesh = s.mesh)

/-- An option is set, by what that means for its value. -/
def IsSet (set : Literal → Prop) (value : Option Literal) : Prop := ∃ v, value = some v ∧ set v

theorem isSet_some (set : Literal → Prop) (v : Literal) : IsSet set (some v) ↔ set v :=
  ⟨fun ⟨_, hw, h⟩ => Option.some.inj hw ▸ h, fun h => ⟨v, rfl, h⟩⟩

/-! ## What the lines read as -/

section Run

variable (env : Env)

/-- What `SET_GCODE_VARIABLE` stores for a name, if its line sets `zmesh` at all. -/
def storedName (name : Text) : Option Literal :=
  (extendedParams env.upper (nameLine name)).bind fun ps =>
    if getParam ps (str "MACRO") = some (str "_START_PRINT") ∧
        getParam ps (str "VARIABLE") = some (str "zmesh") then
      (getParam ps (str "VALUE")).bind env.literal
    else none

/-- The line of the name sets `zmesh`, to a value that stands on one line. -/
def SetsName (name : Text) (z : Literal) : Prop := storedName env name = some z ∧ '\n' ∉ z.shown

/-- The profile that `BED_MESH_PROFILE LOAD={mesh}` names. -/
def loadedName (name : Text) : Option Text :=
  (extendedParams env.upper (rstrip (str "LOAD=" ++ name))).bind (getParam · (str "LOAD"))

/-- The area that `_FULL_BED_LEVEL` has probed. -/
def probedArea (raw : Text) : Option Area :=
  (extendedParams env.upper raw).bind fun ps =>
    (extendedParams env.upper (calibrateLine (profileIn ps))).map areaOf

/-- The profile is stored that the loop looks for. -/
def Found (z : Literal) (s : State) : Prop := z ≠ .text [] ∧ ∃ t ∈ s.profiles, z = .text t

/-- The lines with the name read as they should: where one is probed, a full mesh is asked
for; a stored profile is found, and loaded by its own name; an unknown one is not found. -/
structure ComesThrough (st : Settings) (z : Literal) (forcedKamp forcedLeveling skipped : Prop)
    (name : Text) (s : State) : Prop where
  leveling : ¬ forcedKamp → forcedLeveling → ¬ skipped → z ≠ .text [] →
    probedArea env (rstrip (profileLine st z.shown)) = some .full
  stored : (¬ forcedKamp ∧ ¬ forcedLeveling) ∨ skipped → name ≠ [] →
    ∀ points, s.profiles.lookup name = some points →
      (Found z s ∧ loadedName env z.shown = some name) ∨
        (z = .text [] ∧ ∃ m, s.mesh = some m ∧ m.name = name ∧ m.points = points)
  unknown : (¬ forcedKamp ∧ ¬ forcedLeveling) ∨ skipped → name ≠ [] →
    s.profiles.lookup name = none →
      ¬ Found z s ∧ (z = .text [] → s.mesh = none) ∧
        (¬ skipped → z ≠ .text [] → probedArea env (rstrip (profileLine st z.shown)) = some .full)

/-! ## What the macros do to the mesh -/

variable {env}

theorem exec_lines_done {texts : List String} {s t : State} {l : List (Cmd × State)}
    (h : Script.execAll (native env) (lines texts) s = ⟨t, l, none⟩) : t = s := by
  induction texts generalizing s l with
  | nil =>
    rw [lines, List.map_nil, Script.execAll_nil] at h
    exact (Run.mk.inj h).1.symm
  | cons text texts ih =>
    rw [lines, List.map_cons, Script.execAll_cons] at h
    obtain ⟨u, l₁, l₂, hfirst, hrest, -⟩ := Run.andThen_done h
    obtain ⟨hline, -⟩ := Script.exec_cmd_done _ hfirst
    rw [ih hrest]
    exact (Prod.mk.inj hline).1.symm

/-- A name without line breaks makes one line. -/
theorem splitLines_of_not_mem {t : Text} (h : '\n' ∉ t) : splitLines t = (t, []) := by
  induction t with
  | nil => rfl
  | cons c t ih =>
    rw [List.mem_cons, not_or] at h
    rw [splitLines, ih h.2]
    exact if_neg (Ne.symm h.1)

theorem rendered_line {raw : Text} (h : '\n' ∉ raw) (command : Text → Macro) :
    rendered command raw = [command (rstrip raw)] := by
  rw [rendered, splitLines_of_not_mem h, List.map_nil]

/-- A message with the name. -/
theorem exec_respond_done {sender : String} {msg : Text} (hsender : '\n' ∉ str sender) (hmsg : '\n' ∉ msg)
    {s t : State} {l : List (Cmd × State)}
    (h : Script.execAll (native env) (respond sender msg) s = ⟨t, l, none⟩) : t = s := by
  have hraw : '\n' ∉ message sender msg := by
    unfold message
    simp only [List.mem_append, not_or]
    exact ⟨⟨⟨⟨by decide, hsender⟩, by decide⟩, hmsg⟩, by decide⟩
  rw [respond, rendered_line hraw, Script.execAll_singleton] at h
  obtain ⟨hnative, -⟩ := Script.exec_cmd_done _ h
  exact (Prod.mk.inj hnative).1.symm

/-- Only the mesh is another one. -/
structure Kept (s t : State) : Prop where
  profiles : t.profiles = s.profiles
  probings : t.probings = s.probings
  options : t.options = s.options
  zmesh : t.zmesh = s.zmesh

theorem Kept.refl (s : State) : Kept s s := ⟨rfl, rfl, rfl, rfl⟩

theorem Kept.clear (s : State) : Kept s s.clear := ⟨rfl, rfl, rfl, rfl⟩

/-- A probing: the new mesh has the area that was asked for. -/
theorem calibrate_done {name : Text} {area : Area} {s t : State}
    (h : calibrate env name area s = (t, none)) : ProbedSince s area t := by
  unfold calibrate at h
  split_ifs at h with hblank hprobes
  · cases h
  · obtain ⟨rfl, -⟩ := Prod.mk.inj h
    exact ⟨⟨name, ⟨s.probings, area⟩, ne_nil_of_not_blank hblank⟩, rfl, rfl, Nat.le_refl s.probings⟩
  · cases h

/-- Clearing the mesh is no probing. -/
theorem ProbedSince.of_clear {s t : State} {area : Area} (h : ProbedSince s.clear area t) :
    ProbedSince s area t := h

theorem exec_fullBedLevel_done {raw : Text} {s t : State} {l : List (Cmd × State)}
    (h : (fullBedLevel env raw).exec (native env) s = ⟨t, l, none⟩) :
    ∃ area, probedArea env raw = some area ∧ ProbedSince s area t := by
  rw [fullBedLevel, Script.exec_call] at h
  unfold probedArea
  cases hps : extendedParams env.upper raw with
  | none =>
    simp only [hps, Script.execAll_singleton] at h
    cases (Script.exec_cmd_done _ h).1
  | some ps =>
    simp only [hps] at h
    rw [Script.execAll_append] at h
    obtain ⟨t₁, l₁, l₂, h₁, hpark, -⟩ := Run.andThen_done h
    obtain rfl := exec_lines_done hpark
    rw [Script.execAll_append, Script.execAll_singleton] at h₁
    obtain ⟨t₂, l₃, l₄, h₂, hprobe, -⟩ := Run.andThen_done h₁
    rw [Script.execAll_append] at h₂
    obtain ⟨t₃, l₅, l₆, h₃, hwait, -⟩ := Run.andThen_done h₂
    obtain rfl := exec_lines_done hwait
    rw [Script.execAll_cons, Script.execAll_singleton] at h₃
    obtain ⟨t₄, l₇, l₈, hrespond, hclear, -⟩ := Run.andThen_done h₃
    obtain ⟨rfl, -⟩ := Prod.mk.inj (Script.exec_cmd_done _ hrespond).1
    obtain ⟨rfl, -⟩ := Prod.mk.inj (Script.exec_cmd_done _ hclear).1
    obtain ⟨hcalibrate, -⟩ := Script.exec_cmd_done _ hprobe
    simp only [native] at hcalibrate
    cases hqs : extendedParams env.upper (calibrateLine (profileIn ps)) with
    | none =>
      simp only [hqs] at hcalibrate
      cases hcalibrate
    | some qs =>
      simp only [hqs] at hcalibrate
      exact ⟨_, by rw [Option.bind_some, hqs]; rfl, (calibrate_done hcalibrate).of_clear⟩

theorem exec_kampBedMeshCalibrate_done {st : Settings} {s t : State} {l : List (Cmd × State)}
    (h : (kampBedMeshCalibrate st).exec (native env) s = ⟨t, l, none⟩) : ProbedSince s .kamp t := by
  rw [kampBedMeshCalibrate, Script.exec_call, Script.execAll_append] at h
  obtain ⟨t₁, l₁, l₂, h₁, hsound, -⟩ := Run.andThen_done h
  obtain rfl := exec_lines_done hsound
  rw [Script.execAll_append, Script.execAll_singleton] at h₁
  obtain ⟨t₂, l₃, l₄, hattach, hprobe, -⟩ := Run.andThen_done h₁
  obtain rfl := exec_lines_done hattach
  exact calibrate_done (Script.exec_cmd_done _ hprobe).1

theorem exec_kamp_done {st : Settings} {s t : State} {l : List (Cmd × State)}
    (h : (kamp st).exec (native env) s = ⟨t, l, none⟩) : ProbedSince s .kamp t := by
  rw [kamp, Script.exec_call, Script.execAll_append] at h
  obtain ⟨t₁, l₁, l₂, h₁, hpark, -⟩ := Run.andThen_done h
  obtain rfl := exec_lines_done hpark
  rw [Script.execAll_append, Script.execAll_singleton] at h₁
  obtain ⟨t₂, l₃, l₄, h₂, hprobe, -⟩ := Run.andThen_done h₁
  rw [Script.execAll_append, Script.execAll_singleton] at h₂
  obtain ⟨t₃, l₅, l₆, hclear, hwait, -⟩ := Run.andThen_done h₂
  obtain rfl := exec_lines_done hwait
  obtain ⟨rfl, -⟩ := Prod.mk.inj (Script.exec_cmd_done _ hclear).1
  exact (exec_kampBedMeshCalibrate_done hprobe).of_clear

/-! ## Lines without special characters -/

/-- A plain assignment at the end of a line. -/
theorem extendedParams_plain_last (up : Upper) {k v : Text} (hk : k.all isKeyChar = true) (hv : plain v = true) :
    extendedParams up (k ++ '=' :: v) = some [(k, v)] := by
  have hplain : plain (k ++ '=' :: v) = true := by
    rw [show k ++ '=' :: v = (k ++ ['=']) ++ v by simp, plain, List.all_append, Bool.and_eq_true]
    exact ⟨plain_key hk, hv⟩
  have hscan := Shlex.scan_gap_append (by simp) (mem_of_plain hplain) [] []
  unfold extendedParams
  rw [← List.append_nil (k ++ '=' :: v), hscan, Shlex.scan, Shlex.finish]
  simp [splitParam_key up hk v]

theorem no_break_of_plain {u : Text} (hu : plain u = true) : '\n' ∉ u := fun h =>
  absurd (mem_of_plain hu _ h).1 (by decide)

theorem extendedParams_tempsLine (st : Settings) : extendedParams env.upper (tempsLine st)
    = some [(str "BED_TEMP", st.bedTemp.1), (str "EXTRUDER_TEMP", st.extruderTemp.1)] := by
  have hlast := extendedParams_plain_last env.upper (by decide : (str "EXTRUDER_TEMP").all isKeyChar = true)
    st.extruderTemp.2
  have hfirst := extendedParams_plain env.upper (by decide : (str "BED_TEMP").all isKeyChar = true)
    st.bedTemp.2 (str "EXTRUDER_TEMP" ++ '=' :: st.extruderTemp.1)
  rw [hlast] at hfirst
  rw [tempsLine, ← Option.map_some, ← hfirst]
  simp [str]

/-- The probed area of a line whose profile has a name without special characters. -/
theorem areaOf_calibrateLine {profile : Text} (hq : '"' ∉ profile) (hb : '\\' ∉ profile) :
    (extendedParams env.upper (calibrateLine profile)).map areaOf = some .full := by
  have hps := extendedParams_double env.upper (by decide : (str "PROFILE").all isKeyChar = true) hq
    (Shlex.readDouble_of_noPair (Shlex.noPair_of_not_mem hb) fun h => hb (List.mem_of_getLast? h))
  have hline : calibrateLine profile = str "PROFILE" ++ '=' :: '"' :: (profile ++ ['"']) := by
    simp [calibrateLine, str]
  rw [hline, hps]
  rfl

theorem probedArea_tempsLine (st : Settings) : probedArea env (tempsLine st) = some .full := by
  unfold probedArea
  rw [extendedParams_tempsLine, Option.bind_some]
  have hprofile : profileIn [(str "BED_TEMP", st.bedTemp.1), (str "EXTRUDER_TEMP", st.extruderTemp.1)]
      = str "auto" := by
    rfl
  rw [hprofile]
  exact areaOf_calibrateLine (by decide) (by decide)

/-! ## The choice -/

theorem no_break_profileLine (st : Settings) {name : Text} (h : '\n' ∉ name) : '\n' ∉ profileLine st name := by
  unfold profileLine tempsLine
  simp only [List.mem_append, not_or]
  exact ⟨⟨⟨⟨⟨by decide, no_break_of_plain st.bedTemp.2⟩, by decide⟩, no_break_of_plain st.extruderTemp.2⟩,
    by decide⟩, h⟩

/-- `_START_MESH`: skipping leaves the mesh as it is, the options force a probing, and
without a mesh there is one. -/
theorem exec_startMesh {st : Settings} {s t : State} {l : List (Cmd × State)} (hline : '\n' ∉ s.zmesh.shown)
    (h : (startMesh env st).exec (native env) s = ⟨t, l, none⟩) :
    if (s.options .zskipLeveling).isFalse = true then
      if (s.options .zforceKamp).isTrue = true then ProbedSince s .kamp t
      else if s.mesh = none ∨ (s.options .zforceLeveling).isTrue = true then
        ∃ area, ProbedSince s area t ∧ (s.zmesh = .text [] → area = .full) ∧
          (s.zmesh ≠ .text [] → probedArea env (rstrip (profileLine st s.zmesh.shown)) = some area)
      else t.mesh = s.mesh
    else t.mesh = s.mesh := by
  rw [startMesh, Script.exec_call] at h
  simp only [s.profileName_eq_nil] at h
  split_ifs with hskip hkamp hprobe
  · rw [if_pos hskip, if_pos hkamp, Script.execAll_singleton] at h
    exact exec_kamp_done h
  · rw [if_pos hskip, if_neg hkamp, if_pos hprobe, Script.execAll_append] at h
    obtain ⟨t₁, l₁, l₂, h₁, hrespond, -⟩ := Run.andThen_done h
    rw [Script.execAll_singleton] at hrespond
    obtain ⟨rfl, -⟩ := Prod.mk.inj (Script.exec_cmd_done _ hrespond).1
    by_cases hname : s.zmesh = .text []
    · rw [if_neg (not_not.2 hname), Script.execAll_singleton] at h₁
      obtain ⟨area, harea, hprobed⟩ := exec_fullBedLevel_done h₁
      rw [probedArea_tempsLine] at harea
      exact ⟨area, hprobed, fun _ => (Option.some.inj harea).symm, fun hne => absurd hname hne⟩
    · rw [if_pos hname, rendered_line (no_break_profileLine st hline), Script.execAll_append] at h₁
      obtain ⟨t₂, l₃, l₄, hmsg, hlevel, -⟩ := Run.andThen_done h₁
      obtain rfl := exec_respond_done (by decide) (by simp [str, hline]) hmsg
      rw [Script.execAll_singleton] at hlevel
      obtain ⟨area, harea, hprobed⟩ := exec_fullBedLevel_done hlevel
      exact ⟨area, hprobed, fun he => absurd he hname, fun _ => harea⟩
  · rw [if_pos hskip, if_neg hkamp, if_neg hprobe, List.nil_append, Script.execAll_singleton] at h
    obtain ⟨rfl, -⟩ := Prod.mk.inj (Script.exec_cmd_done _ h).1
    rfl
  · rw [if_neg hskip, Script.execAll_nil] at h
    rw [(Run.mk.inj h).1]

/-- The loop over the profiles: a stored one is loaded once. -/
theorem loading_eq {s : State} {name : Text} (hz : s.zmesh = .text name) :
    loading s = if name ∈ s.profiles then
      rendered (fun raw => .cmd (.bedMeshProfile raw)) (str "LOAD=" ++ name) ++
        respond "info" (str "Карта стола " ++ name ++ str " загружена")
    else [] := by
  have hcount : s.profiles.keys.filter (· == name)
      = List.replicate (s.profiles.keys.count name) name := List.filter_beq ..
  unfold loading
  simp only [hz]
  rw [hcount, List.map_replicate]
  by_cases hmem : name ∈ s.profiles
  · rw [if_pos hmem, List.count_eq_one_of_mem s.profiles.keys_nodup (AList.mem_keys.1 hmem)]
    simp
  · rw [if_neg hmem, List.count_eq_zero_of_not_mem (fun h => hmem (AList.mem_keys.2 h))]
    rfl

/-- The mesh once the name was looked up: an empty one leaves it, a profile that was found
is replaced by the one that the line loads, and otherwise there is none. -/
structure Loaded (env : Env) (z : Literal) (s : State) (mesh : Option Mesh) : Prop where
  kept : z = .text [] → mesh = s.mesh
  found : Found z s → ∃ name points, loadedName env z.shown = some name ∧
    s.profiles.lookup name = some points ∧ ∃ m, mesh = some m ∧ m.name = name ∧ m.points = points
  missed : z ≠ .text [] → ¬ Found z s → mesh = none

theorem exec_load_done {name : Text} (hline : '\n' ∉ name) {s t : State} {l : List (Cmd × State)}
    (h : Script.execAll (native env) (rendered (fun raw => .cmd (.bedMeshProfile raw)) (str "LOAD=" ++ name)) s
      = ⟨t, l, none⟩) :
    ∃ other points, loadedName env name = some other ∧ s.profiles.lookup other = some points ∧ Kept s t ∧
      ∃ m, t.mesh = some m ∧ m.name = other ∧ m.points = points := by
  have hraw : '\n' ∉ str "LOAD=" ++ name := by simp [str, hline]
  rw [rendered_line hraw, Script.execAll_singleton] at h
  obtain ⟨hloaded, -⟩ := Script.exec_cmd_done _ h
  simp only [native] at hloaded
  cases hname : loadedName env name with
  | none =>
    unfold loadedName at hname
    rw [hname] at hloaded
    cases hloaded
  | some other =>
    have hread := hname
    unfold loadedName at hread
    rw [hread] at hloaded
    simp only [loadProfile] at hloaded
    split_ifs at hloaded with hblank
    · cases hloaded
    · split at hloaded
      · cases hloaded
      next points hlookup =>
        obtain ⟨rfl, -⟩ := Prod.mk.inj hloaded
        exact ⟨other, points, rfl, hlookup, ⟨rfl, rfl, rfl, rfl⟩, _, rfl, rfl, rfl⟩

/-- Clearing the mesh, and the loop. -/
theorem exec_loading_done {s t : State} {l : List (Cmd × State)} (hne : s.zmesh ≠ .text [])
    (hline : '\n' ∉ s.zmesh.shown)
    (h : Script.execAll (native env) (respond "info" (str "Пробую загрузить карту стола " ++ s.zmesh.shown) ++
      [.cmd .bedMeshClear] ++ lines ["M400"] ++ loading s) s = ⟨t, l, none⟩) :
    Kept s t ∧ Loaded env s.zmesh s t.mesh := by
  rw [Script.execAll_append] at h
  obtain ⟨t₁, l₁, l₂, h₁, hload, -⟩ := Run.andThen_done h
  rw [Script.execAll_append] at h₁
  obtain ⟨t₂, l₃, l₄, h₂, hwait, -⟩ := Run.andThen_done h₁
  obtain rfl := exec_lines_done hwait
  rw [Script.execAll_append, Script.execAll_singleton] at h₂
  obtain ⟨t₃, l₅, l₆, hmsg, hclear, -⟩ := Run.andThen_done h₂
  obtain rfl : s = t₃ := (exec_respond_done (by decide) (by simp [str, hline]) hmsg).symm
  obtain ⟨rfl, -⟩ := Prod.mk.inj (Script.exec_cmd_done _ hclear).1
  cases hz : s.zmesh with
  | text name =>
    rw [hz] at hne hline
    have hbreak : '\n' ∉ name := hline
    rw [loading_eq hz] at hload
    have hfound : Found (.text name) s ↔ name ∈ s.profiles := by
      unfold Found
      simp only [hne, ne_eq, not_false_eq_true, true_and, Literal.text.injEq, exists_eq_right']
    by_cases hmem : name ∈ s.profiles
    · rw [if_pos hmem, Script.execAll_append] at hload
      obtain ⟨t₄, l₇, l₈, hprofile, hdone, -⟩ := Run.andThen_done hload
      obtain ⟨other, points, hname, hlookup, hkept, hmesh⟩ := exec_load_done hbreak hprofile
      obtain rfl := exec_respond_done (by decide) (by simp [str, hbreak]) hdone
      refine ⟨⟨hkept.profiles, hkept.probings, hkept.options, hkept.zmesh⟩, ⟨fun he => absurd he hne, fun _ => ?_,
        fun _ hmissed => absurd (hfound.2 hmem) hmissed⟩⟩
      exact ⟨other, points, hname, hlookup, hmesh⟩
    · rw [if_neg hmem, Script.execAll_nil] at hload
      obtain rfl := (Run.mk.inj hload).1
      exact ⟨.clear s, ⟨fun he => absurd he hne, fun h => absurd (hfound.1 h) hmem, fun _ _ => rfl⟩⟩
  | bool _ | num _ _ | other _ =>
    simp only [loading, hz, Script.execAll_nil] at hload
    obtain rfl := (Run.mk.inj hload).1
    refine ⟨.clear s, ⟨fun he => absurd he (by simp), ?_, fun _ _ => rfl⟩⟩
    rintro ⟨-, t, -, ht⟩
    exact absurd ht (by simp)

/-- `_START_PRINT` up to `_START_MESH`. -/
theorem exec_doStartPrint_done {st : Settings} (hleveling : st.printLeveling = 0) {s t : State}
    {l : List (Cmd × State)} (hline : '\n' ∉ s.zmesh.shown)
    (h : (doStartPrint env st).exec (native env) s = ⟨t, l, none⟩) :
    ∃ u l', (startMesh env st).exec (native env) u = ⟨t, l', none⟩ ∧ Kept s u ∧ Loaded env s.zmesh s u.mesh := by
  rw [doStartPrint, Script.exec_call, Script.execAll_append] at h
  obtain ⟨t₁, l₁, l₂, h₁, hfinish, -⟩ := Run.andThen_done h
  obtain rfl := exec_lines_done hfinish
  rw [Script.execAll_append] at h₁
  obtain ⟨t₂, l₃, l₄, h₂, hchoose, -⟩ := Run.andThen_done h₁
  rw [Script.execAll_append] at h₂
  obtain ⟨t₃, l₅, l₆, h₃, hprepare, -⟩ := Run.andThen_done h₂
  rw [Script.execAll_append, if_pos hleveling] at h₃
  obtain ⟨t₄, l₇, l₈, hbegin, hmsg, -⟩ := Run.andThen_done h₃
  obtain rfl : s = t₄ := (exec_lines_done hbegin).symm
  obtain rfl : s = t₃ := (exec_respond_done (by decide) (by simp [str, hline]) hmsg).symm
  obtain rfl : s = t₂ := (exec_lines_done hprepare).symm
  have hone : ¬ st.printLeveling = 1 := by rw [hleveling]; decide
  rw [choosing, if_neg hone, Script.execAll_append, Script.execAll_singleton] at hchoose
  obtain ⟨u, l₉, l₁₀, hload, hstart, -⟩ := Run.andThen_done hchoose
  by_cases hname : s.zmesh = .text []
  · rw [if_neg (not_not.2 hname), Script.execAll_nil] at hload
    obtain rfl := (Run.mk.inj hload).1
    exact ⟨s, l₁₀, hstart, .refl _, ⟨fun _ => rfl, fun h => absurd hname h.1, fun hne => absurd hname hne⟩⟩
  · rw [if_pos hname] at hload
    obtain ⟨hkept, hloaded⟩ := exec_loading_done hname hline hload
    exact ⟨u, l₁₀, hstart, hkept, hloaded⟩

/-- A command that sets an option. -/
theorem execAll_setOption_done {v : Variable} {value : Option Literal} {cs : List Macro}
    {s t : State} {l : List (Cmd × State)}
    (h : Script.execAll (native env) (.cmd (.setOption v value) :: cs) s = ⟨t, l, none⟩) :
    ∃ x l', value = some x ∧
      Script.execAll (native env) cs { s with options := Function.update s.options v x }
        = ⟨t, l', none⟩ := by
  rw [Script.execAll_cons] at h
  obtain ⟨t₁, l₁, l₂, hset, hrest, -⟩ := Run.andThen_done h
  obtain ⟨hnative, -⟩ := Script.exec_cmd_done _ hset
  cases value with
  | none => cases hnative
  | some x =>
    obtain ⟨rfl, -⟩ := Prod.mk.inj hnative
    exact ⟨x, l₂, rfl, hrest⟩

theorem setGcodeVariable_name {name : Text} {z : Literal} (hz : storedName env name = some z) (s : State) :
    setGcodeVariable env (nameLine name) s = ({ s with zmesh := z }, none) := by
  obtain ⟨ps, hps, hstored⟩ := Option.bind_eq_some_iff.1 hz
  split_ifs at hstored with hkeys
  unfold setGcodeVariable
  rw [hps]
  simp only [hkeys.1, hkeys.2, hstored, if_true]

/-- `START_PRINT` up to `_START_PRINT`, which finds the parameters in its variables. -/
theorem exec_startPrint_done {st : Settings} {ps : Params} {s t : State} {l : List (Cmd × State)} {z : Literal}
    (hz : storedName env ps.meshName = some z)
    (h : (startPrint env st ps).exec (native env) s = ⟨t, l, none⟩) :
    ∃ u l', (doStartPrint env st).exec (native env) u = ⟨t, l', none⟩ ∧
      ps.kampValue = some (u.options .zforceKamp) ∧
      ps.levelingValue = some (u.options .zforceLeveling) ∧
      ps.skipValue = some (u.options .zskipLeveling) ∧
      u.mesh = s.mesh ∧ u.profiles = s.profiles ∧ u.probings = s.probings ∧ u.zmesh = z := by
  rw [startPrint, Script.exec_call] at h
  cases hmoved : ps.moved with
  | cons msg rest =>
    rw [hmoved] at h
    simp only [Script.execAll_singleton] at h
    cases (Script.exec_cmd_done _ h).1
  | nil =>
    rw [hmoved] at h
    simp only [List.append_assoc] at h
    rw [Script.execAll_append] at h
    obtain ⟨t₁, l₁, l₂, hset, h₁, -⟩ := Run.andThen_done h
    obtain rfl := exec_lines_done hset
    simp only [List.cons_append, List.nil_append] at h₁
    obtain ⟨leveling, l₃, hleveling, h₂⟩ := execAll_setOption_done h₁
    obtain ⟨kamp, l₄, hkamp, h₃⟩ := execAll_setOption_done h₂
    obtain ⟨skipZoffset, l₅, -, h₄⟩ := execAll_setOption_done h₃
    obtain ⟨skip, l₆, hskip, h₅⟩ := execAll_setOption_done h₄
    rw [Script.execAll_append] at h₅
    obtain ⟨t₂, l₇, l₈, hoffset, h₆, -⟩ := Run.andThen_done h₅
    obtain rfl := exec_lines_done hoffset
    rw [Script.execAll_cons] at h₆
    obtain ⟨t₃, l₉, l₁₀, hname, h₇, -⟩ := Run.andThen_done h₆
    obtain ⟨hnamed, -⟩ := Script.exec_cmd_done _ hname
    simp only [native, setGcodeVariable_name hz] at hnamed
    obtain ⟨rfl, -⟩ := Prod.mk.inj hnamed
    rw [Script.execAll_cons] at h₇
    obtain ⟨t₄, l₁₁, l₁₂, hstart, hair, -⟩ := Run.andThen_done h₇
    obtain rfl := exec_lines_done hair
    exact ⟨_, l₁₁, hstart, hkamp, hleveling, hskip, rfl, rfl, rfl, rfl⟩

/-! ## What comes of it -/

/-- Two areas of one probing. -/
theorem ProbedSince.area_eq {s t : State} {a b : Area} (ha : ProbedSince s a t) (hb : ProbedSince s b t) :
    a = b := by
  obtain ⟨m, hm, rfl, -⟩ := ha
  obtain ⟨m', hm', rfl, -⟩ := hb
  rw [Option.some.inj (hm.symm.trans hm')]

/-- A mesh from before was not probed since. -/
theorem not_probedSince {s t : State} {area : Area} (h : ∀ m, t.mesh = some m → m.points.probing < s.probings) :
    ¬ ProbedSince s area t := by
  rintro ⟨m, hm, -, hsince⟩
  exact absurd hsince (Nat.not_le.2 (h m hm))

section Loaded

variable {z : Literal} {s : State} {mesh : Option Mesh} (h : Loaded env z s mesh)
include h

/-- There is no mesh if no profile was found, and there was none to be kept. -/
theorem Loaded.none_iff : mesh = none ↔ ¬ Found z s ∧ (z = .text [] → s.mesh = none) := by
  constructor
  · intro hnone
    refine ⟨fun hfound => ?_, fun he => (h.kept he).symm.trans hnone⟩
    obtain ⟨name, points, -, -, m, hm, -⟩ := h.found hfound
    exact absurd (hm.symm.trans hnone) (by simp)
  · rintro ⟨hmissed, hkept⟩
    by_cases he : z = .text []
    · exact (h.kept he).trans (hkept he)
    · exact h.missed he hmissed

/-- The mesh is this profile if it was found and its line reads as its name, or if it was
there before and is kept. -/
theorem Loaded.profile_iff {name : Text} {points : Points} (hlookup : s.profiles.lookup name = some points) :
    (∃ m, mesh = some m ∧ m.name = name ∧ m.points = points) ↔
      (Found z s ∧ loadedName env z.shown = some name) ∨
        (z = .text [] ∧ ∃ m, s.mesh = some m ∧ m.name = name ∧ m.points = points) := by
  constructor
  · rintro ⟨m, hm, hname, hpoints⟩
    by_cases he : z = .text []
    · exact Or.inr ⟨he, m, (h.kept he).symm.trans hm, hname, hpoints⟩
    · by_cases hfound : Found z s
      · obtain ⟨other, points', hother, -, m', hm', rfl, -⟩ := h.found hfound
        obtain rfl := Option.some.inj (hm.symm.trans hm')
        exact Or.inl ⟨hfound, hname ▸ hother⟩
      · exact absurd ((h.missed he hfound).symm.trans hm) (by simp)
  · rintro (⟨hfound, hloaded⟩ | ⟨he, m, hm, hname, hpoints⟩)
    · obtain ⟨other, points', hother, hlookup', m, hm, hname, hpoints⟩ := h.found hfound
      obtain rfl := Option.some.inj (hloaded.symm.trans hother)
      obtain rfl := Option.some.inj (hlookup.symm.trans hlookup')
      exact ⟨m, hm, hname, hpoints⟩
    · exact ⟨m, (h.kept he).trans hm, hname, hpoints⟩

end Loaded

/-- The mesh after the name was looked up, and what `_START_MESH` makes of it, are what
was asked for exactly when the name comes through. -/
theorem chosen_iff_comesThrough {st : Settings} {kamp leveling skip z : Literal} {name : Text} {s t : State}
    {mesh : Option Mesh} (hempty : name = [] → z = .text []) (hloaded : Loaded env z s mesh)
    (hold : ∀ m, mesh = some m → m.points.probing < s.probings)
    (hchoice : if skip.isFalse = true then
        if kamp.isTrue = true then ProbedSince s .kamp t
        else if mesh = none ∨ leveling.isTrue = true then
          ∃ area, ProbedSince s area t ∧ (z = .text [] → area = .full) ∧
            (z ≠ .text [] → probedArea env (rstrip (profileLine st z.shown)) = some area)
        else t.mesh = mesh
      else t.mesh = mesh) :
    Chosen (kamp.isTrue = true) (leveling.isTrue = true) (skip.isFalse = false) name s t ↔
      ComesThrough env st z (kamp.isTrue = true) (leveling.isTrue = true) (skip.isFalse = false) name s := by
  have hfull : ∀ {area}, ProbedSince s area t → (z = .text [] → area = .full) →
      (z ≠ .text [] → probedArea env (rstrip (profileLine st z.shown)) = some area) →
      (ProbedSince s .full t ↔
        (z ≠ .text [] → probedArea env (rstrip (profileLine st z.shown)) = some .full)) := by
    intro area hprobed hplain hread
    constructor
    · intro hp hne
      rw [hp.area_eq hprobed]
      exact hread hne
    · intro hp
      by_cases he : z = .text []
      · exact hplain he ▸ hprobed
      · rwa [Option.some.inj ((hp he).symm.trans (hread he))]
  split_ifs at hchoice with hoff hforced hprobe
  · -- the KAMP probing does not look at the name
    have hon : ¬ skip.isFalse = false := by simp [hoff]
    have hnot : ¬ ((¬ kamp.isTrue = true ∧ ¬ leveling.isTrue = true) ∨ skip.isFalse = false) :=
      fun h => h.elim (fun h => h.1 hforced) hon
    exact ⟨fun _ => ⟨fun h => absurd hforced h, fun h => absurd h hnot, fun h => absurd h hnot⟩,
      fun _ => ⟨fun _ _ => hchoice, fun h => absurd hforced h, fun h => absurd h hnot, fun h => absurd h hnot,
        fun h => absurd h hnot⟩⟩
  · -- the bed is probed: a stored profile is not used
    have hon : ¬ skip.isFalse = false := by simp [hoff]
    obtain ⟨area, hprobed, hplain, hread⟩ := hchoice
    have hiff := hfull hprobed hplain hread
    have hmissing : (¬ kamp.isTrue = true ∧ ¬ leveling.isTrue = true) ∨ skip.isFalse = false →
        mesh = none := fun h => h.elim (fun h => hprobe.resolve_right h.2) fun h => absurd h hon
    constructor
    · intro hc
      refine ⟨fun h h' h'' => hiff.1 (hc.leveling h h' h''), fun h hne points hlookup => ?_,
        fun h hne hlookup => ?_⟩
      · obtain ⟨m, hm, -, hpoints⟩ := hc.stored h hne points hlookup
        obtain ⟨m', hm', -, hsince⟩ := hprobed
        obtain rfl := Option.some.inj (hm.symm.trans hm')
        rw [hpoints] at hsince
        exact absurd hsince (Nat.not_le.2 (s.profiles_old name points hlookup))
      · obtain ⟨hmissed, hkept⟩ := hloaded.none_iff.1 (hmissing h)
        exact ⟨hmissed, hkept, fun _ => hiff.1 ((hc.unknown h hne hlookup).2 hon)⟩
    · intro hc
      refine ⟨fun h => absurd h hforced, fun h h' h'' => hiff.2 (hc.leveling h h' h''),
        fun h hne points hlookup => ?_, fun h hne hlookup => ⟨fun h => absurd h hon, fun _ => ?_⟩,
        fun h he => ⟨fun _ => ?_, fun hany => ?_⟩⟩
      · obtain ⟨m, hm, -⟩ := (hloaded.profile_iff hlookup).2 (hc.stored h hne points hlookup)
        exact absurd (hm.symm.trans (hmissing h)) (by simp)
      · exact hiff.2 ((hc.unknown h hne hlookup).2.2 hon)
      · exact hplain (hempty he) ▸ hprobed
      · have hnone := (hloaded.kept (hempty he)).symm.trans (hmissing h)
        exact absurd (hany.resolve_right hon) (not_not.2 hnone)
  · -- the mesh that is there is used
    rw [not_or] at hprobe
    have hon : ¬ skip.isFalse = false := by simp [hoff]
    have hstale : ∀ {area}, ¬ ProbedSince s area t := fun {_} => not_probedSince fun m hm => hold m (hchoice ▸ hm)
    constructor
    · intro hc
      refine ⟨fun _ h => absurd h hprobe.2, fun h hne points hlookup => ?_, fun h hne hlookup => ?_⟩
      · have hm := hc.stored h hne points hlookup
        rw [hchoice] at hm
        exact (hloaded.profile_iff hlookup).1 hm
      · exact absurd ((hc.unknown h hne hlookup).2 hon) hstale
    · intro hc
      refine ⟨fun h => absurd h hforced, fun _ h => absurd h hprobe.2, fun h hne points hlookup => ?_,
        fun h hne hlookup => ?_, fun h he => ⟨fun hnone => ?_, fun _ => ?_⟩⟩
      · rw [hchoice]
        exact (hloaded.profile_iff hlookup).2 (hc.stored h hne points hlookup)
      · obtain ⟨hmissed, hkept, -⟩ := hc.unknown h hne hlookup
        exact absurd (hloaded.none_iff.2 ⟨hmissed, hkept⟩) hprobe.1
      · exact absurd ((hloaded.kept (hempty he)).trans hnone.1) hprobe.1
      · exact hchoice.trans (hloaded.kept (hempty he))
  · -- the levelling is skipped
    rw [Bool.not_eq_true] at hoff
    constructor
    · intro hc
      refine ⟨fun _ _ h => absurd hoff h, fun h hne points hlookup => ?_, fun h hne hlookup => ?_⟩
      · have hm := hc.stored h hne points hlookup
        rw [hchoice] at hm
        exact (hloaded.profile_iff hlookup).1 hm
      · have hnone := (hc.unknown h hne hlookup).1 hoff
        obtain ⟨hmissed, hkept⟩ := hloaded.none_iff.1 (hchoice.symm.trans hnone)
        exact ⟨hmissed, hkept, fun h => absurd hoff h⟩
    · intro hc
      refine ⟨fun _ h => absurd hoff h, fun _ _ h => absurd hoff h, fun h hne points hlookup => ?_,
        fun h hne hlookup => ⟨fun _ => ?_, fun h => absurd hoff h⟩,
        fun h he => ⟨fun hnone => absurd hoff hnone.2, fun _ => ?_⟩⟩
      · rw [hchoice]
        exact (hloaded.profile_iff hlookup).2 (hc.stored h hne points hlookup)
      · obtain ⟨hmissed, hkept, -⟩ := hc.unknown h hne hlookup
        exact hchoice.trans (hloaded.none_iff.2 ⟨hmissed, hkept⟩)
      · exact hchoice.trans (hloaded.kept (hempty he))

/-! ## Names without special characters -/

/-- Nothing in the name is special to a line or to a literal. -/
def PlainName (name : Text) : Prop :=
  plain name = true ∧ name.all (fun c => ' ' ≤ c && !ConfigParser.isSpace c) = true

theorem PlainName.chars {name : Text} (h : PlainName name) :
    ∀ c ∈ name, ' ' ≤ c ∧ ConfigParser.isSpace c = false := by
  intro c hc
  have hall := List.all_eq_true.1 h.2 c hc
  simpa using hall

theorem storedName_plain {name : Text} (h : PlainName name) : storedName env name = some (.text name) := by
  have hchars := h.chars
  obtain ⟨hplain, -⟩ := h
  have hspecial : ∀ c ∈ name, c ≠ '\'' ∧ c ≠ '"' ∧ c ≠ '\\' := by
    intro c hc
    refine ⟨?_, ?_, ?_⟩ <;> rintro rfl <;> exact absurd (mem_of_plain hplain _ hc).1 (by decide)
  have hliteral := env.literal_quoted name fun c hc => ⟨(hchars c hc).1, (hspecial c hc).2⟩
  have hvalue := extendedParams_single env.upper (by decide : (str "VALUE").all isKeyChar = true)
    (u := '"' :: (name ++ ['"'])) (by simpa using fun h => (hspecial _ h).1 rfl)
  have hvariable := extendedParams_plain env.upper (by decide : (str "VARIABLE").all isKeyChar = true)
    (by decide : plain (str "zmesh") = true) (str "VALUE" ++ '=' :: '\'' :: ('"' :: (name ++ ['"']) ++ ['\'']))
  have hmacro := extendedParams_plain env.upper (by decide : (str "MACRO").all isKeyChar = true)
    (by decide : plain (str "_START_PRINT") = true) (str "VARIABLE" ++ '=' :: str "zmesh" ++ ' ' ::
      (str "VALUE" ++ '=' :: '\'' :: ('"' :: (name ++ ['"']) ++ ['\''])))
  have hline : nameLine name = str "MACRO" ++ '=' :: str "_START_PRINT" ++ ' ' ::
      (str "VARIABLE" ++ '=' :: str "zmesh" ++ ' ' ::
        (str "VALUE" ++ '=' :: '\'' :: ('"' :: (name ++ ['"']) ++ ['\'']))) := by
    simp [nameLine, str]
  rw [hvariable, hvalue] at hmacro
  unfold storedName
  rw [hline, hmacro, Option.map_some, Option.map_some, Option.bind_some]
  have hm : getParam [(str "MACRO", str "_START_PRINT"), (str "VARIABLE", str "zmesh"),
      (str "VALUE", '"' :: (name ++ ['"']))] (str "MACRO") = some (str "_START_PRINT") := by
    rfl
  have hv : getParam [(str "MACRO", str "_START_PRINT"), (str "VARIABLE", str "zmesh"),
      (str "VALUE", '"' :: (name ++ ['"']))] (str "VARIABLE") = some (str "zmesh") := by
    rfl
  have hx : getParam [(str "MACRO", str "_START_PRINT"), (str "VARIABLE", str "zmesh"),
      (str "VALUE", '"' :: (name ++ ['"']))] (str "VALUE") = some ('"' :: (name ++ ['"'])) := by
    rfl
  rw [if_pos ⟨hm, hv⟩, hx]
  exact hliteral

/-- A line that ends in such a name is not stripped. -/
theorem rstrip_plain {name : Text} (h : PlainName name) (hne : name ≠ []) (u : Text) :
    rstrip (u ++ name) = u ++ name := by
  unfold rstrip
  rw [List.rdropWhile_eq_self_iff]
  intro hl
  rw [List.getLast_append_of_right_ne_nil _ _ hne, (h.chars _ (List.getLast_mem hne)).2]
  simp

theorem loadedName_plain {name : Text} (h : PlainName name) (hne : name ≠ []) :
    loadedName env name = some name := by
  have hps := extendedParams_plain_last env.upper (by decide : (str "LOAD").all isKeyChar = true) h.1
  have hline : str "LOAD=" ++ name = str "LOAD" ++ '=' :: name := by simp [str]
  unfold loadedName
  rw [rstrip_plain h hne, hline, hps]
  simp [getParam]

theorem probedArea_plain (st : Settings) {name : Text} (h : PlainName name) (hne : name ≠ []) :
    probedArea env (rstrip (profileLine st name)) = some .full := by
  have hlast := extendedParams_plain_last env.upper (by decide : (str "PROFILE").all isKeyChar = true) h.1
  have hmiddle := extendedParams_plain env.upper (by decide : (str "EXTRUDER_TEMP").all isKeyChar = true)
    st.extruderTemp.2 (str "PROFILE" ++ '=' :: name)
  have hfirst := extendedParams_plain env.upper (by decide : (str "BED_TEMP").all isKeyChar = true)
    st.bedTemp.2 (str "EXTRUDER_TEMP" ++ '=' :: st.extruderTemp.1 ++ ' ' :: (str "PROFILE" ++ '=' :: name))
  have hline : profileLine st name = str "BED_TEMP" ++ '=' :: st.bedTemp.1 ++ ' ' ::
      (str "EXTRUDER_TEMP" ++ '=' :: st.extruderTemp.1 ++ ' ' :: (str "PROFILE" ++ '=' :: name)) := by
    simp [profileLine, tempsLine, str]
  have hquotes : '"' ∉ name ∧ '\\' ∉ name :=
    ⟨fun hc => absurd (mem_of_plain h.1 _ hc).1 (by decide), fun hc => absurd (mem_of_plain h.1 _ hc).1 (by decide)⟩
  rw [hmiddle, hlast] at hfirst
  unfold probedArea
  rw [profileLine, rstrip_plain h hne, ← profileLine, hline, hfirst, Option.map_some, Option.map_some, Option.bind_some]
  have hprofile : profileIn [(str "BED_TEMP", st.bedTemp.1), (str "EXTRUDER_TEMP", st.extruderTemp.1),
      (str "PROFILE", name)] = name := by
    rfl
  rw [hprofile]
  exact areaOf_calibrateLine hquotes.1 hquotes.2

/-- Such a name comes through. -/
theorem comesThrough_plain (st : Settings) {name : Text} (h : PlainName name)
    (forcedKamp forcedLeveling skipped : Prop) (s : State) :
    ComesThrough env st (.text name) forcedKamp forcedLeveling skipped name s := by
  have hne : ∀ {x : Text}, Literal.text x ≠ .text [] → x ≠ [] := fun hx he => hx (by rw [he])
  refine ⟨fun _ _ _ hx => probedArea_plain st h (hne hx), fun _ hname points hlookup => Or.inl ?_,
    fun _ hname hlookup => ⟨?_, fun he => ?_, fun _ hx => probedArea_plain st h (hne hx)⟩⟩
  · refine ⟨⟨by simpa using hname, name, ?_, rfl⟩, loadedName_plain h hname⟩
    exact AList.lookup_isSome.1 (by rw [hlookup]; rfl)
  · rintro ⟨-, t, ht, heq⟩
    obtain rfl := Literal.text.inj heq
    rw [AList.lookup_eq_none] at hlookup
    exact hlookup ht
  · exact absurd (Literal.text.inj he) hname

theorem storedName_nil : storedName env [] = some (.text []) :=
  storedName_plain ⟨rfl, rfl⟩

/-! ## The mesh of a print -/

/-- What a call that completes has come to: the options are literals, the name was looked
up, and `_START_MESH` has probed the bed or left the mesh as it is. -/
theorem startPrint_done {st : Settings} {ps : Params} {s : State} {z : Literal}
    (hleveling : st.printLeveling = 0) (hz : storedName env ps.meshName = some z) (hline : '\n' ∉ z.shown)
    (hdone : ((startPrint env st ps).exec (native env) s).raised = none) :
    ∃ kamp leveling skip mesh, ps.kampValue = some kamp ∧ ps.levelingValue = some leveling ∧
      ps.skipValue = some skip ∧ Loaded env z s mesh ∧ (∀ m, mesh = some m → m.points.probing < s.probings) ∧
      let t := ((startPrint env st ps).exec (native env) s).state
      if skip.isFalse = true then
        if kamp.isTrue = true then ProbedSince s .kamp t
        else if mesh = none ∨ leveling.isTrue = true then
          ∃ area, ProbedSince s area t ∧ (z = .text [] → area = .full) ∧
            (z ≠ .text [] → probedArea env (rstrip (profileLine st z.shown)) = some area)
        else t.mesh = mesh
      else t.mesh = mesh := by
  set r := (startPrint env st ps).exec (native env) s with hr
  have hrun : (startPrint env st ps).exec (native env) s = ⟨r.state, r.log, none⟩ := by
    rw [← hr, ← hdone]
  obtain ⟨u, l', hdo, hkamp, hlev, hskip, hmesh, hprofiles, hprobings, hname⟩ := exec_startPrint_done hz hrun
  rw [← hname] at hline
  obtain ⟨v, l'', hstart, hkept, hloaded⟩ := exec_doStartPrint_done hleveling hline hdo
  rw [← hkept.zmesh] at hline
  have hchoice := exec_startMesh hline hstart
  have hsince : ∀ {area}, ProbedSince v area r.state → ProbedSince s area r.state := by
    rintro area ⟨m, hm, harea, hle⟩
    rw [hkept.probings, hprobings] at hle
    exact ⟨m, hm, harea, hle⟩
  refine ⟨_, _, _, v.mesh, hkamp, hlev, hskip, ⟨fun he => ?_, fun hfound => ?_, fun hne hmissed => ?_⟩,
    fun m hm => ?_, ?_⟩
  · exact (hloaded.kept (hname ▸ he)).trans hmesh
  · have hloads := hloaded.found (by rwa [Found, hprofiles, hname])
    rwa [hprofiles, hname] at hloads
  · exact hloaded.missed (by rwa [hname]) (by rwa [Found, hprofiles, hname])
  · rw [← hprobings, ← hkept.probings]
    exact v.mesh_old m hm
  · simp only
    rw [hkept.options, hkept.zmesh, hname] at hchoice
    split_ifs at hchoice ⊢
    · exact hsince hchoice
    · obtain ⟨area, hprobed, hplain, hread⟩ := hchoice
      exact ⟨area, hsince hprobed, hplain, hread⟩
    · exact hchoice
    · exact hchoice

/-- A name without special characters has the mesh that was asked for. -/
theorem startPrint_chosen_plain {st : Settings} {ps : Params} {s : State} (hleveling : st.printLeveling = 0)
    (hplain : PlainName ps.meshName) (hdone : ((startPrint env st ps).exec (native env) s).raised = none) :
    Chosen (IsSet (·.isTrue = true) ps.kampValue) (IsSet (·.isTrue = true) ps.levelingValue)
      (IsSet (·.isFalse = false) ps.skipValue) ps.meshName s
      ((startPrint env st ps).exec (native env) s).state := by
  have hline : '\n' ∉ (Literal.text ps.meshName).shown := no_break_of_plain hplain.1
  obtain ⟨kamp, leveling, skip, mesh, hkamp, hlev, hskip, hloaded, hold, hchoice⟩ :=
    startPrint_done hleveling (storedName_plain hplain) hline hdone
  rw [hkamp, hlev, hskip]
  simp only [isSet_some]
  exact (chosen_iff_comesThrough (fun he => by rw [he]) hloaded hold hchoice).2 (comesThrough_plain st hplain _ _ _ s)

end Run

/-! ## Examples -/

/-- A literal in double quotes without anything to unescape. -/
def quotedLiteral : Text → Option Literal
  | '"' :: t => if t.getLast? = some '"' ∧ t.dropLast.all (fun c => ' ' ≤ c && c != '"' && c != '\\') then
      some (.text t.dropLast) else none
  | _ => none

/-- A printer on which everything succeeds. -/
def fine : Env where
  upper := asciiUpper
  literal := quotedLiteral
  literal_quoted t ht := by
    have hall : t.all (fun c => ' ' ≤ c && c != '"' && c != '\\') = true := by
      rw [List.all_eq_true]
      intro c hc
      obtain ⟨h1, h2, h3⟩ := ht c hc
      simp [h1, h2, h3]
    simp only [quotedLiteral, List.getLast?_concat, List.dropLast_concat]
    rw [if_pos ⟨trivial, hall⟩]
  float t := t
  raises _ _ := false
  injected _ s := (s, none)
  probes _ := true

def defaults : Settings :=
  ⟨0, 0, 1, 0, 1, 0, "LINE_PURGE", "", 0, none, ⟨str "80.0", by decide⟩, ⟨str "245.0", by decide⟩⟩

/-- `START_PRINT` with this name, and no option. -/
def named (name : Text) : Params := ⟨none, none, none, none, some name, none, none, none, none, none⟩

/-- Two profiles are stored, and none is loaded. -/
def stored : State where
  mesh := none
  profiles := (AList.singleton (str "PLA") ⟨0, .full⟩).insert (str "PLA#2") ⟨1, .full⟩
  probings := 2
  options _ := .bool false
  zmesh := .text []
  mesh_old := fun m hm => by cases hm
  profiles_old := fun n points hlookup => by
    by_cases hn : n = str "PLA#2"
    · subst hn
      rw [AList.lookup_insert] at hlookup
      obtain rfl := Option.some.inj hlookup
      decide
    · rw [AList.lookup_insert_ne hn] at hlookup
      have hmem := AList.mem_lookup_iff.1 hlookup
      simp only [AList.singleton, List.mem_singleton, Sigma.mk.injEq, heq_eq_eq] at hmem
      rw [hmem.2]
      decide

/-- `START_PRINT` with these options, and no name. -/
def call (forceKamp skipLeveling : Option Literal) : Params :=
  ⟨forceKamp.map some, none, skipLeveling.map some, none, none, none, none, none, none, none⟩

/-- After an earlier print with the mesh `auto`. -/
def printed : State where
  mesh := some ⟨str "auto", ⟨0, .full⟩, by decide⟩
  profiles := ∅
  probings := 1
  options _ := .bool false
  zmesh := .text []
  mesh_old := fun m hm => by
    obtain rfl := Option.some.inj hm
    decide
  profiles_old := by simp

/-- No one meaning of being set fits all options: a value such as `2` forces nothing, but
skips. -/
theorem not_chosen_uniformly :
    ¬ ∃ set : Literal → Prop, set (.bool true) ∧ ¬ set (.bool false) ∧
      ∀ (env : Env) (st : Settings) (ps : Params) (s : State), ps.mesh = none → st.printLeveling = 0 →
        ((startPrint env st ps).exec (native env) s).raised = none →
          Chosen (IsSet set ps.kampValue) (IsSet set ps.levelingValue) (IsSet set ps.skipValue)
            ps.meshName s ((startPrint env st ps).exec (native env) s).state := by
  rintro ⟨set, htrue, hfalse, h⟩
  have hno : ∀ forceKamp skipLeveling : Option Literal,
      ((startPrint fine defaults (call forceKamp skipLeveling)).exec (native fine) printed).raised = none →
      ((startPrint fine defaults (call forceKamp skipLeveling)).exec (native fine) printed).state.mesh.map
        (·.points.area) = some .full →
      IsSet set (call forceKamp skipLeveling).kampValue →
      IsSet set (call forceKamp skipLeveling).skipValue := by
    intro forceKamp skipLeveling hdone harea hkamp
    by_contra hskip
    obtain ⟨m, hm, hkind, -⟩ := (h fine defaults (call forceKamp skipLeveling) printed rfl rfl hdone).kamp hkamp hskip
    rw [hm, Option.map_some, hkind] at harea
    exact absurd harea (by simp)
  have htwo : IsSet (set ·) (some (.num 2 (str "2"))) ↔ set (.num 2 (str "2")) := isSet_some ..
  by_cases hset : set (.num 2 (str "2"))
  · have hskip := hno (some (.num 2 (str "2"))) none (by decide +kernel) (by decide +kernel) (htwo.2 hset)
    exact hfalse ((isSet_some ..).1 hskip)
  · have hskip := hno (some (.bool true)) (some (.num 2 (str "2"))) (by decide +kernel) (by decide +kernel)
      ⟨_, rfl, htrue⟩
    exact hset ((isSet_some ..).1 hskip)

end BedMesh

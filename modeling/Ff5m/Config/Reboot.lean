import Ff5m.Config.Includes

/-!
# When the migration reboots

`NEED_REBOOT` is set by hand in every step.  A step that edits a file sets it, so that no
edit is lost; but some steps set it and find nothing to edit.

* `same_of_needReboot_eq_false`: without the flag both copies are the originals;
* `Migrated`: what the originals are when the copies are, step by step;
* `Restless`: the steps that set the flag nevertheless;
* `flagRight_iff`: the flag is right but for a migrated system with such a step.
-/

namespace FixConfig

open TextTools Sections

variable {w : Work} {d : Diff}

/-! ## The steps on `printer.base.cfg` -/

/-- The sections that are removed. -/
def sectionNames : List String :=
  ["heater_bed", "fan_generic pcb_fan", "controller_fan pcb_fan", "filament_switch_sensor e0_sensor",
    "filament_motion_sensor e0_sensor"]

/-- The number of their headers. -/
def headers (base : List Line) : ℕ := base.countP fun l => sectionNames.any (starts · l)

theorem followDelete_sublist (s : Line → Bool) (n k : ℕ) (ls : List Line) :
    (followDelete s n k ls).Sublist ls := by
  induction ls generalizing k with
  | nil => cases k <;> exact List.Sublist.refl []
  | cons l ls ih =>
    cases k with
    | zero =>
      rw [followDelete]
      split
      · exact (ih n).cons l
      · exact (ih 0).cons_cons l
    | succ k => exact (ih k).cons l

/-- The first line of the range goes. -/
theorem countP_followDelete_lt {s f : Line → Bool} (hf : ∀ l, s l = true → f l = true) (n : ℕ)
    {ls : List Line} (h : ls.any s = true) : (followDelete s n 0 ls).countP f < ls.countP f := by
  induction ls with
  | nil => cases h
  | cons l ls ih =>
    rw [followDelete]
    split
    · next hl =>
      rw [List.countP_cons_of_pos (hf l hl)]
      exact Nat.lt_succ_of_le (followDelete_sublist s n n ls).countP_le
    · next hl =>
      rw [List.any_cons, Bool.or_eq_true] at h
      rw [List.countP_cons, List.countP_cons]
      exact Nat.add_lt_add_right (ih (h.resolve_left hl)) _

/-- A removal takes a header away. -/
theorem headers_removeStep (w : Work) (d : Diff) {p : String} (hp : p ∈ sectionNames) :
    headers (w.removeStep d p).base + (w.base.any (starts p)).toNat ≤ headers w.base := by
  rw [Work.removeStep, editBase_base]
  cases h : w.base.any (starts p)
  · simp
  have hf : ∀ l, starts p l = true → sectionNames.any (starts · l) = true :=
    fun l hl => List.any_eq_true.2 ⟨p, hp, hl⟩
  have hlt : headers (removeSection d p w.base) < headers w.base := by
    simp only [removeSection, headers]
    split
    · obtain ⟨l, hl, hs⟩ := List.any_eq_true.1 h
      exact List.countP_pos_iff.2 ⟨l, hl, hf l hs⟩
    · exact countP_followDelete_lt hf _ h
  simpa using hlt

theorem headers_append {text : List Line} (h : headers text = 0) (w : Work) (g : List Line → Bool) :
    headers (w.editBase g (· ++ text)).base = headers w.base := by
  rw [editBase_base]
  split
  · rw [headers, List.countP_append, ← headers, ← headers, h, Nat.add_zero]
  · rfl

theorem switchStep_base :
    (w.switchStep d).base = (w.removeStep d "filament_switch_sensor e0_sensor").base := by
  have hbase : (if w.base.any (starts "filament_switch_sensor e0_sensor") then w.motionDefault "0"
      else w).base = w.base := by
    split
    · exact motionDefault_base w "0"
    · rfl
  simp only [Work.switchStep, Work.removeStep, editBase_base, hbase]

theorem motionStep_base :
    (w.motionStep d).base = (w.removeStep d "filament_motion_sensor e0_sensor").base := by
  simp only [Work.motionStep, Work.removeStep, editBase_base]
  split
  · next h => simp only [motionDefault_base, h, if_true]
  · rfl

/-- The limit that this version of Klipper does not know. -/
def Work.oldLimit (w : Work) : String :=
  if w.var "klipper12 = 1" then "max_accel_to_decel" else "minimum_cruise_ratio"

/-- The limit in its place. -/
def Work.newLimit (w : Work) : String :=
  if w.var "klipper12 = 1" then "minimum_cruise_ratio: 0.5" else "max_accel_to_decel:5000"

theorem cruiseStep_eq : w.cruiseStep = w.editBase (·.any (matchAt (lit w.oldLimit)))
    (replaceStarting (lit w.oldLimit) (str w.newLimit)) := by
  rw [Work.cruiseStep, Work.oldLimit, Work.newLimit]
  split <;> rfl

theorem headers_cruiseStep : headers w.cruiseStep.base = headers w.base := by
  have hplain : ∀ l : Line, isHeader l = false → sectionNames.any (starts · l) = false := by
    intro l hl
    rw [List.any_eq_false]
    intro p _ hp
    rw [isHeader_of_starts hp] at hl
    cases hl
  have hold : ∀ l : Line, matchAt (lit w.oldLimit) l = true → isHeader l = false := by
    intro l
    apply not_both_of_clash
    rw [Work.oldLimit]
    split <;> decide
  have hnew : isHeader (str w.newLimit) = false := by
    rw [Work.newLimit]
    split <;> decide
  rw [cruiseStep_eq, editBase_base]
  split
  · rw [headers, replaceStarting, List.countP_map, headers]
    apply List.countP_congr
    intro l _
    simp only [Function.comp_apply]
    split
    · next h => rw [hplain _ hnew, hplain l (hold l h)]
    · rfl
  · rfl

/-! ## A migrated `printer.base.cfg` -/

/-- A `printer.base.cfg` that no step edits. -/
structure BaseMigrated (w : Work) : Prop where
  no_section : ∀ p ∈ sectionNames, w.base.any (starts p) = false
  level_pin : w.base.any (starts "gcode_button check_level_pin") = true
  driver_fan : w.base.any (starts "controller_fan driver_fan") = true
  limit : w.base.any (matchAt (lit w.oldLimit)) = false

theorem removeStep_of_not {p : String} (h : w.base.any (starts p) = false) : w.removeStep d p = w :=
  editBase_of_not _ _ _ h

theorem switchStep_of_not (h : w.base.any (starts "filament_switch_sensor e0_sensor") = false) :
    w.switchStep d = w := by
  simp only [Work.switchStep, h, Bool.false_eq_true, if_false]
  exact removeStep_of_not h

theorem motionStep_of_not (h : w.base.any (starts "filament_motion_sensor e0_sensor") = false) :
    w.motionStep d = w := by
  simp only [Work.motionStep, h, Bool.false_eq_true, if_false]
  exact removeStep_of_not h

theorem baseSteps_of_migrated (h : BaseMigrated w) : w.baseSteps d = w := by
  have hno := h.no_section
  simp only [sectionNames, List.forall_mem_cons, List.not_mem_nil, false_imp_iff, implies_true,
    and_true] at hno
  obtain ⟨hbed, hfan, hcontroller, hswitch, hmotion⟩ := hno
  rw [Work.baseSteps, removeStep_of_not hbed, removeStep_of_not hfan, removeStep_of_not hcontroller,
    Work.addLevelPin, editBase_of_not w _ _ (by simp [h.level_pin]), switchStep_of_not hswitch,
    motionStep_of_not hmotion, Work.addDriverFan, editBase_of_not w _ _ (by simp [h.driver_fan]),
    cruiseStep_eq, editBase_of_not w _ _ h.limit]

theorem any_of_append {f : Line → Bool} {g : List Line → Bool} {text : List Line}
    (h : (w.editBase g (· ++ text)).base.any f = false) : w.base.any f = false := by
  rw [editBase_base] at h
  split at h
  · rw [List.any_append, Bool.or_eq_false_iff] at h
    exact h.1
  · exact h

/-- Steps that leave the headers as they are remove no section. -/
theorem no_section_of_headers (h : headers w.base ≤ headers (w.baseSteps d).base) :
    (∀ p ∈ sectionNames, w.base.any (starts p) = false) ∧
      w.baseSteps d = w.addLevelPin.addDriverFan.cruiseStep := by
  let w₁ := w.removeStep d "heater_bed"
  let w₂ := w₁.removeStep d "fan_generic pcb_fan"
  let w₃ := w₂.removeStep d "controller_fan pcb_fan"
  let w₄ := w₃.addLevelPin
  let w₅ := w₄.switchStep d
  let w₆ := w₅.motionStep d
  let w₇ := w₆.addDriverFan
  have h₁ : headers w₁.base + (w.base.any (starts "heater_bed")).toNat ≤ headers w.base :=
    headers_removeStep w d (by simp [sectionNames])
  have h₂ : headers w₂.base + (w₁.base.any (starts "fan_generic pcb_fan")).toNat ≤
      headers w₁.base := headers_removeStep w₁ d (by simp [sectionNames])
  have h₃ : headers w₃.base + (w₂.base.any (starts "controller_fan pcb_fan")).toNat ≤
      headers w₂.base := headers_removeStep w₂ d (by simp [sectionNames])
  have h₄ : headers w₄.base = headers w₃.base := headers_append (by decide) _ _
  have h₅ : headers w₅.base + (w₄.base.any (starts "filament_switch_sensor e0_sensor")).toNat ≤
      headers w₄.base := by
    rw [switchStep_base]
    exact headers_removeStep w₄ d (by simp [sectionNames])
  have h₆ : headers w₆.base + (w₅.base.any (starts "filament_motion_sensor e0_sensor")).toNat ≤
      headers w₅.base := by
    rw [motionStep_base]
    exact headers_removeStep w₅ d (by simp [sectionNames])
  have h₇ : headers w₇.base = headers w₆.base := headers_append (by decide) _ _
  have h₈ : headers (w.baseSteps d).base = headers w₇.base := headers_cruiseStep
  have hbed : w.base.any (starts "heater_bed") = false := Bool.toNat_eq_zero.1 (by omega)
  have hfan : w₁.base.any (starts "fan_generic pcb_fan") = false := Bool.toNat_eq_zero.1 (by omega)
  have hcontroller : w₂.base.any (starts "controller_fan pcb_fan") = false :=
    Bool.toNat_eq_zero.1 (by omega)
  have hswitch : w₄.base.any (starts "filament_switch_sensor e0_sensor") = false :=
    Bool.toNat_eq_zero.1 (by omega)
  have hmotion : w₅.base.any (starts "filament_motion_sensor e0_sensor") = false :=
    Bool.toNat_eq_zero.1 (by omega)
  have e₁ : w₁ = w := removeStep_of_not hbed
  have e₂ : w₂ = w := (removeStep_of_not hfan).trans e₁
  have e₃ : w₃ = w := (removeStep_of_not hcontroller).trans e₂
  have e₅ : w₅ = w₄ := switchStep_of_not hswitch
  have e₆ : w₆ = w₄ := (motionStep_of_not hmotion).trans e₅
  have hbase : w.base = w₃.base := by rw [e₃]
  constructor
  · simp only [sectionNames, List.forall_mem_cons, List.not_mem_nil, false_imp_iff, implies_true,
      and_true]
    rw [e₁] at hfan
    rw [e₂] at hcontroller
    rw [e₅] at hmotion
    rw [hbase]
    exact ⟨hbase ▸ hbed, hbase ▸ hfan, hbase ▸ hcontroller, any_of_append hswitch,
      any_of_append hmotion⟩
  · have hall : w.baseSteps d = w₇.cruiseStep := rfl
    rw [hall, ← e₃]
    exact congrArg (fun u : Work => u.addDriverFan.cruiseStep) e₆

/-- The old limit is gone. -/
theorem starting_cruiseStep : starting (lit w.oldLimit) w.cruiseStep.base = 0 := by
  have hnew : matchAt (lit w.oldLimit) (str w.newLimit) = false := by
    rw [Work.oldLimit, Work.newLimit]
    split <;> decide
  rw [cruiseStep_eq, editBase_base]
  split
  · rw [starting, List.countP_eq_zero, replaceStarting]
    intro l hl
    obtain ⟨m, -, rfl⟩ := List.mem_map.1 hl
    split
    · simp [hnew]
    · assumption
  · next h =>
    rw [starting_eq_zero_iff]
    exact Bool.eq_false_iff.2 h

theorem oldLimit_congr {v : Work} (h : v.vars = w.vars) : v.oldLimit = w.oldLimit := by
  rw [Work.oldLimit, Work.oldLimit, Work.var, Work.var, h]

theorem starting_append_step (w : Work) {g : List Line → Bool} {p : Pat} {text : List Line}
    (h : starting p text = 0) : starting p (w.editBase g (· ++ text)).base = starting p w.base := by
  rw [editBase_base]
  split
  · rw [starting, List.countP_append, ← starting, ← starting, h, Nat.add_zero]
  · rfl

theorem guard_of_base_eq {g : List Line → Bool} {t : List Line} (ht : t ≠ [])
    (h : (w.editBase g (· ++ t)).base.length ≤ w.base.length) : g w.base = false := by
  rw [editBase_base] at h
  split at h
  · rw [List.length_append] at h
    exact absurd (List.length_pos_iff.2 ht) (by omega)
  · next hg => exact Bool.eq_false_iff.2 hg

theorem length_le_append_step (w : Work) (g : List Line → Bool) (text : List Line) :
    w.base.length ≤ (w.editBase g (· ++ text)).base.length := by
  rw [editBase_base]
  split
  · simp
  · exact le_rfl

/-- Steps that take no header and no limit away, and do not make the file longer, had nothing
to do. -/
theorem baseMigrated_of_le (hheaders : headers w.base ≤ headers (w.baseSteps d).base)
    (hlimit : starting (lit w.oldLimit) w.base ≤
      starting (lit w.oldLimit) (w.baseSteps d).base)
    (hlength : (w.baseSteps d).base.length ≤ w.base.length) : BaseMigrated w := by
  obtain ⟨hno, hsteps⟩ := no_section_of_headers hheaders
  let x := w.addLevelPin
  let y := x.addDriverFan
  have hold : y.oldLimit = w.oldLimit :=
    oldLimit_congr ((editBase_vars _ _ _).trans (editBase_vars _ _ _))
  have htexts : starting (lit w.oldLimit) checkLevelPin = 0 ∧
      starting (lit w.oldLimit) driverFan = 0 := by
    rw [Work.oldLimit]
    split <;> decide
  have hzero : starting (lit w.oldLimit) w.base = 0 := by
    have hcruise := starting_cruiseStep (w := y)
    rw [← hsteps, hold] at hcruise
    omega
  have hy : starting (lit y.oldLimit) y.base = 0 := by
    rw [hold]
    exact (starting_append_step x htexts.2).trans ((starting_append_step w htexts.1).trans hzero)
  have hcruise : y.cruiseStep = y := by
    rw [cruiseStep_eq]
    exact editBase_of_not y _ _ (starting_eq_zero_iff.1 hy)
  rw [hsteps, hcruise] at hlength
  -- Neither text is appended, for the file has not grown.
  have hxy : x.base.length ≤ y.base.length := length_le_append_step x _ _
  have hwx : w.base.length ≤ x.base.length := length_le_append_step w _ _
  have hpin := guard_of_base_eq (by simp [checkLevelPin]) (hxy.trans hlength)
  have hdriver := guard_of_base_eq (w := x) (t := driverFan)
    (g := fun b => !b.any (starts "controller_fan driver_fan")) (by simp [driverFan])
    (hlength.trans hwx)
  have hx : x = w := editBase_of_not w _ _ hpin
  rw [hx] at hdriver
  exact ⟨hno, by simpa using hpin, by simpa using hdriver, starting_eq_zero_iff.1 hzero⟩

/-! ## No edit is lost -/

/-- Lines are the contents of a file. -/
def Same (ls : List Line) (t : Text) : Prop := Terminated t ∧ lines t = ls

/-- Without the flag, steps leave both copies as they are. -/
def Kept (v w : Work) : Prop :=
  w.needReboot = false → v.needReboot = false ∧ w.cfg = v.cfg ∧ w.base = v.base

theorem Kept.refl (w : Work) : Kept w w := fun h => ⟨h, rfl, rfl⟩

theorem Kept.trans {u v w : Work} (h : Kept u v) (h' : Kept v w) : Kept u w := by
  intro hw
  obtain ⟨hv, hcfg, hbase⟩ := h' hw
  obtain ⟨hu, hcfg', hbase'⟩ := h hv
  exact ⟨hu, hcfg.trans hcfg', hbase.trans hbase'⟩

theorem kept_editCfg (w : Work) (g : List Line → Bool) (f : List Line → List Line) :
    Kept w (w.editCfg g f) := by
  intro h
  rw [Work.editCfg] at h ⊢
  split at h
  · cases h
  · next hg => simp [hg, h]

theorem kept_editBase (w : Work) (g : List Line → Bool) (f : List Line → List Line) :
    Kept w (w.editBase g f) := by
  intro h
  rw [Work.editBase] at h ⊢
  split at h
  · cases h
  · next hg => simp [hg, h]

theorem kept_motionDefault (w : Work) (n : String) : Kept w (w.motionDefault n) := by
  intro h
  rw [motionDefault_needReboot] at h
  exact ⟨h, motionDefault_cfg w n, motionDefault_base w n⟩

theorem kept_removeStep (w : Work) (d : Diff) (p : String) : Kept w (w.removeStep d p) :=
  kept_editBase _ _ _

theorem kept_includeSteps (w : Work) : Kept w w.includeSteps := by
  have hmd5 : Kept w w.dropCheckMd5 := kept_editCfg _ _ _
  have hoff : ∀ v : Work, Kept v v.dropDisplayOff := fun v => kept_editCfg _ _ _
  have hseveral : ∀ (v : Work) (i : Inc), Kept v (v.dropSeveral i) := fun v i => kept_editCfg _ _ _
  have hmod : ∀ v : Work, Kept v v.insertMod := fun v => kept_editCfg _ _ _
  have hold : ∀ v : Work, Kept v v.renameUser := fun v => kept_editCfg _ _ _
  have huser : ∀ v : Work, Kept v v.insertUser := fun v => kept_editCfg _ _ _
  exact (((((hmd5.trans (hoff _)).trans (hseveral _ .user)).trans (hseveral _ .mod)).trans
    (hmod _)).trans (hold _)).trans (huser _)

theorem kept_toDisplayOff (w : Work) : Kept w w.toDisplayOff := by
  rw [Work.toDisplayOff]
  split
  · exact kept_editCfg _ _ _
  · exact Kept.refl w

theorem kept_toMod (w : Work) : Kept w w.toMod := by
  rw [Work.toMod]
  split
  · exact kept_editCfg _ _ _
  · exact Kept.refl w

theorem kept_modeSteps (w : Work) : Kept w w.modeSteps :=
  ((kept_includeSteps w).trans (kept_toDisplayOff _)).trans (kept_toMod _)

theorem kept_bedStep {b : Work} (h : w.bedStep d = some b) : Kept w b := by
  rw [Work.bedStep] at h
  split at h
  · cases h
    exact Kept.refl w
  · rw [Option.map_eq_some_iff] at h
    obtain ⟨⟨base, cfg⟩, -, rfl⟩ := h
    intro hflag
    cases hflag

theorem kept_switchStep (w : Work) (d : Diff) : Kept w (w.switchStep d) := by
  rw [Work.switchStep]
  split
  · exact (kept_motionDefault w "0").trans (kept_editBase _ _ _)
  · exact kept_editBase _ _ _

theorem kept_motionStep (w : Work) (d : Diff) : Kept w (w.motionStep d) := by
  rw [Work.motionStep]
  split
  · refine Kept.trans (kept_motionDefault w "1") (Kept.trans ?_ (kept_editBase _ _ _))
    exact fun h => ⟨h, rfl, rfl⟩
  · exact kept_editBase _ _ _

theorem kept_baseSteps (w : Work) (d : Diff) : Kept w (w.baseSteps d) := by
  have hpin : ∀ v : Work, Kept v v.addLevelPin := fun v => kept_editBase _ _ _
  have hfan : ∀ v : Work, Kept v v.addDriverFan := fun v => kept_editBase _ _ _
  have hlimit : ∀ v : Work, Kept v v.cruiseStep := by
    intro v
    rw [cruiseStep_eq]
    exact kept_editBase _ _ _
  have hremove := ((kept_removeStep w d "heater_bed").trans
    (kept_removeStep _ d "fan_generic pcb_fan")).trans (kept_removeStep _ d "controller_fan pcb_fan")
  exact ((((hremove.trans (hpin _)).trans (kept_switchStep _ d)).trans (kept_motionStep _ d)).trans
    (hfan _)).trans (hlimit _)

theorem kept_sensorBlock (w : Work) (mode wrong right : Inc) :
    Kept w (w.sensorBlock mode wrong right) := by
  rw [sensorBlock_eq]
  split
  · exact ((kept_editCfg _ _ _).trans (kept_editCfg _ _ _)).trans (kept_editCfg _ _ _)
  · exact Kept.refl w

theorem kept_sensorSteps (w : Work) : Kept w w.sensorSteps := by
  rw [Work.sensorSteps]
  exact ((kept_motionDefault w "0").trans (kept_sensorBlock _ .mod .switchOff .switch)).trans
    (kept_sensorBlock _ .displayOff .switch .switchOff)

theorem kept_finish (w : Work) : Kept w w.finish :=
  (kept_editCfg w _ _).trans (kept_editBase _ _ _)

/-- The result of a run, by its stages. -/
theorem fixConfig_stages {cfg base vars : Text} (h : fixConfig d cfg base vars = some w) :
    ∃ b, (start cfg base vars).modeSteps.bedStep d = some b ∧
      w = (b.baseSteps d).sensorSteps.finish := by
  rw [fixConfig, Option.map_eq_some_iff] at h
  obtain ⟨b, hb, rfl⟩ := h
  exact ⟨b, hb, rfl⟩

/-- **No edit is lost**: without the flag both copies are the originals. -/
theorem same_of_needReboot_eq_false {cfg base vars : Text}
    (h : fixConfig d cfg base vars = some w) (hw : w.needReboot = false) :
    Same w.cfg cfg ∧ Same w.base base := by
  obtain ⟨b, hb, hstages⟩ := fixConfig_stages h
  have hkept : Kept (start cfg base vars) w := by
    rw [hstages]
    exact ((((kept_modeSteps _).trans (kept_bedStep hb)).trans (kept_baseSteps b d)).trans
      (kept_sensorSteps _)).trans (kept_finish _)
  obtain ⟨hstart, hcfg, hbase⟩ := hkept hw
  simp only [start, Bool.or_eq_false_iff, decide_eq_false_iff_not, not_not] at hstart
  rw [hcfg, hbase]
  simp only [start, hstart.1, hstart.2]
  exact ⟨⟨(newlineStep_eq_self_iff.1 hstart.1).1, rfl⟩, ⟨(newlineStep_eq_self_iff.1 hstart.2).1, rfl⟩⟩

/-! ## A migrated system -/

/-- `variables.cfg` asks for no other mode.  With `display_off = 1` no line has the include of `mod.cfg`
in it, with `display_off = 0` none begins with that of `display_off.cfg`; where both are there, each line
is itself again when the first include in it has been renamed and renamed back. -/
structure RightMode (w : Work) : Prop where
  one : w.var "display_off = 1" = true → w.var "display_off = 0" = false →
    ∀ l ∈ w.cfg, occurs Inc.mod.pat l = false
  zero : w.var "display_off = 1" = false → w.var "display_off = 0" = true → tally w.cfg .displayOff = 0
  both : w.var "display_off = 1" = true → w.var "display_off = 0" = true → ∀ l ∈ w.cfg,
    substFirst Inc.displayOff.pat Inc.mod.line (substFirst Inc.mod.pat Inc.displayOff.line l) = l

theorem map_eq_self_iff {α : Type*} {f : α → α} {ls : List α} : ls.map f = ls ↔ ∀ l ∈ ls, f l = l := by
  conv_lhs => rw [← List.map_id ls, List.map_map]
  exact List.map_inj_left

/-- That is when the mode steps leave `printer.cfg` as it is. -/
theorem rightMode_iff (huser : 0 < tally w.cfg .user) (hmode : 0 < tally w.cfg .mod + tally w.cfg .displayOff) :
    RightMode w ↔ w.toDisplayOff.toMod.cfg = w.cfg := by
  have hoff : w.toDisplayOff.cfg = if w.var "display_off = 1" then rename .mod .displayOff w.cfg else w.cfg := by
    rw [Work.toDisplayOff]
    split_ifs
    · rw [Work.editCfg, if_pos (has_iff.2 huser)]
    · rfl
  have hvar : w.toDisplayOff.var "display_off = 0" = w.var "display_off = 0" := by
    rw [Work.var, Work.var, toDisplayOff_vars]
  have hmod : w.toDisplayOff.toMod.cfg = if w.var "display_off = 0" ∧ 0 < tally w.toDisplayOff.cfg .displayOff
      then rename .displayOff .mod w.toDisplayOff.cfg else w.toDisplayOff.cfg := by
    rw [Work.toMod, hvar]
    by_cases hzero : w.var "display_off = 0" = true
    · rw [if_pos hzero, Work.editCfg]
      split_ifs with hhas htally htally
      · rfl
      · exact absurd ⟨hzero, has_iff.1 hhas⟩ htally
      · exact absurd (has_iff.2 htally.2) hhas
      · rfl
    · rw [if_neg hzero, if_neg fun h => hzero h.1]
  have hlength : Inc.mod.pat.length ≠ Inc.displayOff.line.length := by decide
  cases hone : w.var "display_off = 1" <;> cases hzero : w.var "display_off = 0"
  · refine iff_of_true ⟨by simp [hone], by simp [hzero], by simp [hone]⟩ ?_
    rw [hmod, if_neg (by simp [hzero]), hoff, if_neg (by simp [hone])]
  · have hcfg : w.toDisplayOff.cfg = w.cfg := by rw [hoff, if_neg (by simp [hone])]
    constructor
    · intro h
      have hnone := h.zero hone hzero
      rw [hmod, hcfg, if_neg fun hpos => by omega]
    · intro h
      refine ⟨by simp [hone], fun _ _ => ?_, by simp [hone]⟩
      have htally := tally_toMod_step w.toDisplayOff .displayOff
      rwa [h, hvar, if_pos hzero, if_pos rfl] at htally
  · rw [hmod, if_neg (by simp [hzero]), hoff, if_pos hone, rename, map_eq_self_iff]
    simp only [substFirst_eq_self_iff hlength]
    exact ⟨fun h => h.one hone hzero, fun h => ⟨fun _ _ => h, by simp [hone], by simp [hzero]⟩⟩
  · have htally : 0 < tally w.toDisplayOff.cfg .displayOff := by
      have hstep := tally_toDisplayOff_step w .displayOff
      rw [if_pos ⟨hone, huser⟩, if_neg (by simp), if_pos rfl] at hstep
      omega
    rw [hmod, if_pos ⟨hzero, htally⟩, hoff, if_pos hone, rename, rename, List.map_map, map_eq_self_iff]
    exact ⟨fun h => h.both hone hzero, fun h => ⟨by simp [hzero], by simp [hone], fun _ _ => h⟩⟩

/-- Files that the migration leaves as they are. -/
structure Migrated (w : Work) : Prop where
  cfg_end : needsBlank w.cfg = false
  base_end : needsBlank w.base = false
  no_md5 : tally w.cfg .checkMd5 = 0
  no_old_user : tally w.cfg .modUser = 0
  one_user : tally w.cfg .user = 1
  one_mode : tally w.cfg .mod = 1 ∧ tally w.cfg .displayOff = 0 ∨
    tally w.cfg .mod = 0 ∧ 0 < tally w.cfg .displayOff
  right_mode : RightMode w
  bed : w.cfg.any (starts "heater_bed") = true
  base : BaseMigrated w
  sensors : Sensors w (modeOf w.cfg) (modeOf w.cfg).otherSwitch (modeOf w.cfg).ownSwitch

/-- A step sets the flag and finds nothing to edit: the mode is set again whenever
`variables.cfg` has `display_off = 1`, and a sensor that is not included is looked for
again. -/
def Restless (w : Work) : Prop :=
  w.var "display_off = 1" = true ∨ has (w.sensor (modeOf w.cfg).ownSwitch) w.cfg = false

/-- The files before the migration. -/
def original (cfg base vars : Text) : Work := ⟨lines cfg, lines base, lines vars, false⟩

theorem Migrated.includeSteps (h : Migrated w) : w.includeSteps = w := by
  have h1 : w.dropCheckMd5 = w := editCfg_of_not _ _ _ (has_eq_false_iff.2 h.no_md5)
  have h2 : w.dropDisplayOff = w := by
    apply editCfg_of_not
    rcases h.one_mode with ⟨-, hd⟩ | ⟨hm, -⟩
    · simp [has_eq_false_iff.2 hd]
    · simp [has_eq_false_iff.2 hm]
  have h3 : w.dropSeveral .user = w := editCfg_of_not _ _ _ (by simp [h.one_user])
  have h4 : w.dropSeveral .mod = w := by
    apply editCfg_of_not
    rcases h.one_mode with ⟨hm, -⟩ | ⟨hm, -⟩ <;> simp [hm]
  have h5 : w.insertMod = w := by
    apply editCfg_of_not
    rcases h.one_mode with ⟨hm, -⟩ | ⟨-, hd⟩
    · simp [has_iff.2 (hm ▸ Nat.one_pos)]
    · simp [has_iff.2 hd]
  have h6 : w.renameUser = w := editCfg_of_not _ _ _ (has_eq_false_iff.2 h.no_old_user)
  have h7 : w.insertUser = w :=
    editCfg_of_not _ _ _ (by simp [has_iff.2 (h.one_user ▸ Nat.one_pos)])
  rw [Work.includeSteps, h1, h2, h3, h4, h5, h6, h7]

/-- Only the flag changes when the mode is set. -/
theorem Migrated.modeSteps (h : Migrated w) :
    w.modeSteps = { w with needReboot := w.needReboot || w.var "display_off = 1" } := by
  have huser : has .user w.cfg = true := has_iff.2 (h.one_user ▸ Nat.one_pos)
  have hmode : 0 < tally w.cfg .mod + tally w.cfg .displayOff := by
    have := h.one_mode
    omega
  have hcfg := (rightMode_iff (h.one_user ▸ Nat.one_pos) hmode).1 h.right_mode
  rw [Work.modeSteps, h.includeSteps]
  cases hv : w.var "display_off = 1" with
  | false =>
    have hoff : w.toDisplayOff = w := by rw [Work.toDisplayOff, hv, if_neg (by simp)]
    rw [hoff] at hcfg ⊢
    have hmod : w.toMod = w := by
      rw [Work.toMod]
      split
      · next hzero =>
        apply editCfg_of_not
        have hd := tally_toMod_step w .displayOff
        rw [hcfg, if_pos hzero, if_pos rfl] at hd
        exact has_eq_false_iff.2 hd
      · rfl
    rw [hmod, Bool.or_false]
  | true =>
    have hflag : w.toDisplayOff.needReboot = true := by
      rw [Work.toDisplayOff, if_pos hv, Work.editCfg, if_pos huser]
    have hkept := kept_toMod w.toDisplayOff
    apply Work.ext
    · exact hcfg
    · simp
    · simp
    · by_contra hfalse
      rw [Bool.or_true, Bool.not_eq_true] at hfalse
      rw [(hkept hfalse).1] at hflag
      cases hflag

theorem BaseMigrated.congr {v : Work} (h : BaseMigrated w) (hbase : v.base = w.base)
    (hvars : v.vars = w.vars) : BaseMigrated v := by
  obtain ⟨hno, hpin, hfan, hlimit⟩ := h
  rw [← hbase] at hno hpin hfan hlimit
  rw [← oldLimit_congr hvars] at hlimit
  exact ⟨hno, hpin, hfan, hlimit⟩

theorem Sensors.congr {v : Work} {mode wrong right : Inc} (h : Sensors w mode wrong right)
    (hcfg : v.cfg = w.cfg) (hvar : v.var "motion_sensor = 1" = w.var "motion_sensor = 1") :
    Sensors v mode wrong right := by
  obtain ⟨hwrong, hother, hmissing⟩ := h
  refine ⟨hcfg ▸ hwrong, ?_, ?_⟩
  · rwa [Work.otherSensor, hvar, hcfg]
  · rwa [Work.sensor, hvar, hcfg]

theorem has_modeOf {cfg : List Line} (h : 0 < tally cfg .mod + tally cfg .displayOff) :
    has (modeOf cfg) cfg = true := by
  rw [modeOf]
  split
  · assumption
  · next hm =>
    have hzero := has_eq_false_iff.1 (Bool.eq_false_iff.2 hm)
    exact has_iff.2 (by omega)

/-- The sensor steps of a migrated system set the flag at most. -/
theorem sensorSteps_of_sensors (hone : tally w.cfg .mod = 0 ∨ tally w.cfg .displayOff = 0)
    (hmode : 0 < tally w.cfg .mod + tally w.cfg .displayOff)
    (h : Sensors w (modeOf w.cfg) (modeOf w.cfg).otherSwitch (modeOf w.cfg).ownSwitch) :
    w.sensorSteps.cfg = w.cfg ∧ w.sensorSteps.base = w.base ∧
      w.sensorSteps.needReboot = (w.needReboot || !has (w.sensor (modeOf w.cfg).ownSwitch) w.cfg) := by
  have hdefault : Sensors (w.motionDefault "0") (modeOf w.cfg) (modeOf w.cfg).otherSwitch
      (modeOf w.cfg).ownSwitch := h.congr (motionDefault_cfg w "0") var_motionDefault
  have hhas : has (modeOf w.cfg) (w.motionDefault "0").cfg = true := by
    rw [motionDefault_cfg]
    exact has_modeOf hmode
  rw [sensorSteps_eq hone, sensorBlock_of_sensors hhas hdefault]
  simp only [motionDefault_cfg, motionDefault_base, motionDefault_needReboot, Work.sensor,
    var_motionDefault, and_self]

/-- A migrated system stays as it is, and reboots when a step is restless. -/
theorem fixConfig_of_migrated {cfg base vars : Text} (d : Diff)
    (h : Migrated (original cfg base vars)) (hcfg : Terminated cfg) (hbase : Terminated base) :
    ∃ w, fixConfig d cfg base vars = some w ∧ Same w.cfg cfg ∧ Same w.base base ∧
      (w.needReboot = true ↔ Restless (original cfg base vars)) := by
  have hstart : start cfg base vars = original cfg base vars := by
    have hc := newlineStep_eq_self_iff.2 ⟨hcfg, h.cfg_end⟩
    have hb := newlineStep_eq_self_iff.2 ⟨hbase, h.base_end⟩
    simp [start, original, hc, hb]
  generalize ho : original cfg base vars = o at h hstart
  have hocfg : o.cfg = lines cfg := by rw [← ho]; rfl
  have hobase : o.base = lines base := by rw [← ho]; rfl
  have hoflag : o.needReboot = false := by rw [← ho]; rfl
  have hone : tally o.cfg .mod = 0 ∨ tally o.cfg .displayOff = 0 :=
    h.one_mode.elim (fun hm => .inr hm.2) (fun hd => .inl hd.1)
  have hmode : 0 < tally o.cfg .mod + tally o.cfg .displayOff := by
    rcases h.one_mode with ⟨hm, -⟩ | ⟨-, hd⟩ <;> omega
  let m : Work := { o with needReboot := o.needReboot || o.var "display_off = 1" }
  have hsensors : Sensors m (modeOf m.cfg) (modeOf m.cfg).otherSwitch (modeOf m.cfg).ownSwitch :=
    h.sensors.congr rfl rfl
  obtain ⟨hscfg, hsbase, hsflag⟩ := sensorSteps_of_sensors (w := m) hone hmode hsensors
  have hfinish : m.sensorSteps.finish = m.sensorSteps := by
    rw [Work.finish, editCfg_of_not _ _ _ (by rw [hscfg]; exact h.cfg_end),
      editBase_of_not _ _ _ (by rw [hsbase]; exact h.base_end)]
  have hmbase : m.baseSteps d = m := baseSteps_of_migrated (h.base.congr rfl rfl)
  have hbed : m.bedStep d = some m := if_pos h.bed
  refine ⟨m.sensorSteps, ?_, ⟨hcfg, ?_⟩, ⟨hbase, ?_⟩, ?_⟩
  · have hstages : fixConfig d cfg base vars = ((start cfg base vars).modeSteps.bedStep d).map
        fun w => (w.baseSteps d).sensorSteps.finish := rfl
    rw [hstages, hstart, h.modeSteps, hbed, Option.map_some, hmbase, hfinish]
  · rw [hscfg, ← hocfg]
  · rw [hsbase, ← hobase]
  · rw [hsflag, Restless]
    simp only [m, hoflag, Bool.false_or, Bool.or_eq_true, Bool.not_eq_true']
    rfl

/-! ## Copies that are the originals -/

theorem plain_editCfg {f : List Line → List Line} (hf : ∀ c, plain (f c) = plain c) (w : Work)
    (g : List Line → Bool) : plain (w.editCfg g f).cfg = plain w.cfg := by
  rw [editCfg_cfg]
  split
  · exact hf _
  · rfl

theorem plain_includeSteps (w : Work) : plain w.includeSteps.cfg = plain w.cfg := by
  simp only [Work.includeSteps, Work.insertUser, Work.renameUser, Work.insertMod, Work.dropSeveral,
    Work.dropDisplayOff, Work.dropCheckMd5, plain_editCfg (plain_remove _),
    plain_editCfg (plain_insertLine _ _), plain_editCfg plain_substUser]

theorem plain_modeSteps (w : Work) : plain w.modeSteps.cfg = plain w.cfg := by
  have hoff : ∀ v : Work, plain v.toDisplayOff.cfg = plain v.cfg := by
    intro v
    rw [Work.toDisplayOff]
    split
    · exact plain_editCfg (plain_rename _ _) v _
    · rfl
  have hmod : ∀ v : Work, plain v.toMod.cfg = plain v.cfg := by
    intro v
    rw [Work.toMod]
    split
    · exact plain_editCfg (plain_rename _ _) v _
    · rfl
  rw [Work.modeSteps, hmod, hoff, plain_includeSteps]

theorem plain_sensorBlock (w : Work) (mode wrong right : Inc) :
    plain (w.sensorBlock mode wrong right).cfg = plain w.cfg := by
  rw [sensorBlock_eq]
  split
  · rw [plain_editCfg (plain_remove _), plain_editCfg (plain_addBehind _ _),
      plain_editCfg (plain_remove _)]
  · rfl

theorem plain_sensorSteps (w : Work) : plain w.sensorSteps.cfg = plain w.cfg := by
  rw [Work.sensorSteps, plain_sensorBlock, plain_sensorBlock, motionDefault_cfg]

theorem plain_append (ls ms : List Line) : plain (ls ++ ms) = plain ls + plain ms :=
  List.countP_append

/-- A section of the bed comes with a blank line. -/
theorem plain_bedStep {b : Work} (h : w.bedStep d = some b) :
    plain w.cfg + (!w.cfg.any (starts "heater_bed")).toNat ≤ plain b.cfg := by
  rw [Work.bedStep] at h
  split at h
  · next hbed =>
    cases h
    simp [hbed]
  · next hbed =>
    rw [Option.map_eq_some_iff] at h
    obtain ⟨⟨base, cfg⟩, hmove, rfl⟩ := h
    have hinsert : ∀ (num : ℕ) (bed : List Line), plain w.cfg + 1 ≤ plain (insertBed num bed w.cfg) := by
      intro num bed
      have hcut : plain w.cfg = plain (w.cfg.take num) + plain (w.cfg.drop num) := by
        rw [← plain_append, List.take_append_drop]
      have hblank : plain [[]] = 1 := rfl
      rw [insertBed, plain_append, plain_append, plain_append, hcut, hblank]
      omega
    rw [Bool.eq_false_iff.2 hbed, Bool.not_false, Bool.toNat_true]
    rw [moveBed] at hmove
    split at hmove
    · cases hmove
      exact hinsert _ _
    · cases hmove
      exact hinsert _ _
    · cases hmove

theorem baseSteps_cfg (w : Work) (d : Diff) : (w.baseSteps d).cfg = w.cfg := by
  have hswitch : ∀ v : Work, (v.switchStep d).cfg = v.cfg := by
    intro v
    rw [Work.switchStep, Work.removeStep, editBase_cfg]
    split
    · exact motionDefault_cfg v "0"
    · rfl
  have hmotion : ∀ v : Work, (v.motionStep d).cfg = v.cfg := by
    intro v
    rw [Work.motionStep, Work.removeStep, editBase_cfg]
    split
    · exact motionDefault_cfg v "1"
    · rfl
  rw [Work.baseSteps, cruiseStep_eq, editBase_cfg, Work.addDriverFan, editBase_cfg, hmotion, hswitch,
    Work.addLevelPin, editBase_cfg, Work.removeStep, editBase_cfg, Work.removeStep, editBase_cfg,
    Work.removeStep, editBase_cfg]

theorem sensorSteps_base (w : Work) : w.sensorSteps.base = w.base := by
  have hblock : ∀ (v : Work) (mode wrong right : Inc),
      (v.sensorBlock mode wrong right).base = v.base := by
    intro v mode wrong right
    rw [sensorBlock_eq]
    split
    · simp only [editCfg_base]
    · rfl
  rw [Work.sensorSteps, hblock, hblock, motionDefault_base]

theorem finish_cfg (w : Work) :
    w.finish.cfg = w.cfg ++ if needsBlank w.cfg then [[]] else [] := by
  rw [Work.finish, editBase_cfg, editCfg_cfg]
  split
  · rfl
  · rw [List.append_nil]

theorem finish_base (w : Work) :
    w.finish.base = w.base ++ if needsBlank w.base then [[]] else [] := by
  rw [Work.finish, editBase_base, editCfg_base]
  split
  · rfl
  · rw [List.append_nil]

theorem plain_blank (b : Bool) : plain (if b then [[]] else []) = b.toNat := by
  cases b <;> rfl

/-- Where `printer.cfg` is the original, it has the section of the bed, and no blank line was
added. -/
theorem plain_of_same {cfg base vars : Text} {b : Work}
    (hb : (start cfg base vars).modeSteps.bedStep d = some b)
    (h : (b.baseSteps d).sensorSteps.finish.cfg = lines cfg) :
    needsBlank (lines cfg) = false ∧ b = (start cfg base vars).modeSteps ∧
      (start cfg base vars).modeSteps.cfg.any (starts "heater_bed") = true ∧
      (b.baseSteps d).sensorSteps.cfg = lines cfg := by
  have hplain := congrArg plain h
  rw [finish_cfg, plain_append, plain_blank, plain_sensorSteps, baseSteps_cfg] at hplain
  have hbed := plain_bedStep hb
  rw [plain_modeSteps] at hbed
  have hstart : plain (start cfg base vars).cfg = plain (lines cfg) + (needsBlank (lines cfg)).toNat := by
    rw [← plain_blank, ← plain_append, ← lines_newlineStep]
    rfl
  have hcfg : needsBlank (lines cfg) = false := Bool.toNat_eq_zero.1 (by omega)
  have hhas : (!(start cfg base vars).modeSteps.cfg.any (starts "heater_bed")) = false :=
    Bool.toNat_eq_zero.1 (by omega)
  have hend : needsBlank (b.baseSteps d).sensorSteps.cfg = false := Bool.toNat_eq_zero.1 (by omega)
  rw [Bool.not_eq_false'] at hhas
  rw [Work.bedStep, if_pos hhas, Option.some.injEq] at hb
  rw [finish_cfg, hend, if_neg (by simp), List.append_nil] at h
  exact ⟨hcfg, hb.symm, hhas, h⟩

theorem tally_sensorSteps_of_ne {k : Inc} (hs : k ≠ .switch) (ho : k ≠ .switchOff)
    (hm : k ≠ .motion) : tally w.sensorSteps.cfg k = tally w.cfg k := by
  rw [Work.sensorSteps, tally_sensorBlock_of_ne hs ho hm, tally_sensorBlock_of_ne ho hs hm,
    motionDefault_cfg]

/-- The numbers are those of the original all the way. -/
theorem tally_modeSteps_of_same {cfg : List Line} {s : Work} (hs : s.cfg = cfg)
    (h : (s.modeSteps.baseSteps d).sensorSteps.cfg = cfg) (i : Inc) :
    tally s.modeSteps.cfg i = tally s.cfg i := by
  by_cases hi : i = .switch ∨ i = .switchOff ∨ i = .motion
  · exact tally_modeSteps_sensor s i hi
  · simp only [not_or] at hi
    have hlast := tally_sensorSteps_of_ne (w := s.modeSteps.baseSteps d) hi.1 hi.2.1 hi.2.2
    rw [h, baseSteps_cfg] at hlast
    rw [← hlast, hs]

/-- A file that ends in two blank lines and has an include has three lines. -/
theorem three_lines {cfg : List Line} (hend : needsBlank cfg = false)
    (h : 0 < tally cfg .mod + tally cfg .displayOff) : 3 ≤ cfg.length := by
  obtain ⟨i, hi⟩ : ∃ i, 0 < tally cfg i := by
    rcases Nat.add_pos_iff_pos_or_pos.1 h with h | h
    · exact ⟨_, h⟩
    · exact ⟨_, h⟩
  obtain ⟨l, hl, hp⟩ := List.countP_pos_iff.1 hi
  have hheader : 0 < cfg.countP isHeader := List.countP_pos_iff.2 ⟨l, hl, isHeader_of_pat hp⟩
  have hplain : 2 ≤ plain cfg := by
    simp only [needsBlank, Bool.or_eq_false_iff, decide_eq_false_iff_not, not_lt,
      List.any_eq_false, decide_eq_true_eq, not_not] at hend
    have htwo : (cfg.drop (cfg.length - 2)).countP (!isHeader ·) =
        (cfg.drop (cfg.length - 2)).length := by
      rw [List.countP_eq_length]
      intro m hm
      rw [hend.2 m hm]
      rfl
    exact (hend.1.trans htwo.ge).trans (List.drop_sublist _ _).countP_le
  have hsum := List.length_eq_countP_add_countP isHeader (l := cfg)
  rw [hsum]
  have hrest : plain cfg = cfg.countP fun m => ¬ isHeader m = true := by
    rw [plain]
    apply List.countP_congr
    simp
  omega

theorem modeSteps_base (w : Work) : w.modeSteps.base = w.base := by
  simp only [Work.modeSteps, toMod_base, toDisplayOff_base, Work.includeSteps, Work.insertUser,
    Work.renameUser, Work.insertMod, Work.dropSeveral, Work.dropDisplayOff, Work.dropCheckMd5,
    editCfg_base]

theorem modeSteps_vars (w : Work) : w.modeSteps.vars = w.vars := by
  simp only [Work.modeSteps, toMod_vars, toDisplayOff_vars, Work.includeSteps, Work.insertUser,
    Work.renameUser, Work.insertMod, Work.dropSeveral, Work.dropDisplayOff, Work.dropCheckMd5,
    editCfg_vars]

theorem headers_blank (ls : List Line) (b : Bool) :
    headers (ls ++ if b then [[]] else []) = headers ls := by
  rw [headers, List.countP_append]
  cases b
  · rfl
  · exact Nat.add_zero _

theorem oldLimit_blank (w : Work) (ls : List Line) (b : Bool) :
    starting (lit w.oldLimit) (ls ++ if b then [[]] else []) = starting (lit w.oldLimit) ls := by
  have hblank : starting (lit w.oldLimit) [[]] = 0 := by
    rw [Work.oldLimit]
    split <;> rfl
  rw [starting, List.countP_append, ← starting, ← starting]
  cases b
  · rfl
  · exact hblank ▸ Nat.add_zero _

/-- Where `printer.base.cfg` is the original, no step edited it. -/
theorem baseMigrated_of_same {base : Text} {s : Work}
    (hs : s.base = lines base ++ if needsBlank (lines base) then [[]] else [])
    (h : (s.baseSteps d).sensorSteps.finish.base = lines base) :
    BaseMigrated s ∧ needsBlank (lines base) = false := by
  rw [finish_base, sensorSteps_base] at h
  have hmigrated : BaseMigrated s := by
    refine baseMigrated_of_le (d := d) ?_ ?_ ?_
    · rw [hs, headers_blank, ← h, headers_blank]
    · rw [hs, oldLimit_blank, ← h, oldLimit_blank]
    · rw [hs, ← h]
      simp only [List.length_append]
      omega
  refine ⟨hmigrated, ?_⟩
  rw [baseSteps_of_migrated hmigrated, hs] at h
  have hlen := congrArg List.length h
  cases hb : needsBlank (lines base)
  · rfl
  · simp [hb] at hlen

theorem switch_ne (mode : Inc) : mode.otherSwitch ≠ mode.ownSwitch ∧
    mode.otherSwitch ≠ .motion ∧ mode.ownSwitch ≠ .motion := by
  rw [Inc.otherSwitch, Inc.ownSwitch]
  split <;> decide

/-- Sensor steps that leave the numbers as they are had nothing to do. -/
theorem sensors_of_same (hone : tally w.cfg .mod = 0 ∨ tally w.cfg .displayOff = 0)
    (hmode : 0 < tally w.cfg .mod + tally w.cfg .displayOff)
    (h : ∀ i, tally w.sensorSteps.cfg i = tally w.cfg i) :
    Sensors w (modeOf w.cfg) (modeOf w.cfg).otherSwitch (modeOf w.cfg).ownSwitch := by
  obtain ⟨hdiff, hother, hown⟩ := switch_ne (modeOf w.cfg)
  rw [sensorSteps_eq hone] at h
  have hhas : has (modeOf w.cfg) (w.motionDefault "0").cfg = true := by
    rw [motionDefault_cfg]
    exact has_modeOf hmode
  have hsensors := sensors_of_tally hhas hdiff hother hown fun i => by
    rw [h, motionDefault_cfg]
  exact hsensors.congr (motionDefault_cfg w "0").symm var_motionDefault.symm

theorem migrated_of_same {cfg base vars : Text} (h : fixConfig d cfg base vars = some w)
    (hcfg : Same w.cfg cfg) (hbase : Same w.base base) : Migrated (original cfg base vars) := by
  obtain ⟨b, hb, hstages⟩ := fixConfig_stages h
  rw [hstages] at hcfg hbase
  obtain ⟨hend, hmodes, hbed, hsensors⟩ := plain_of_same hb hcfg.2.symm
  have hclean : newlineStep cfg = cfg := newlineStep_eq_self_iff.2 ⟨hcfg.1, hend⟩
  rw [hmodes] at hsensors hbase
  generalize hs : start cfg base vars = s at hbed hsensors hbase
  have hscfg : s.cfg = lines cfg := by
    rw [← hs, start]
    simp only [hclean]
  have hsbase : s.base = lines base ++ if needsBlank (lines base) then [[]] else [] := by
    rw [← hs, ← lines_newlineStep]
    rfl
  have hsvars : s.vars = lines vars := by
    rw [← hs]
    rfl
  have htally := tally_modeSteps_of_same hscfg hsensors
  have hblank : needsBlank s.cfg = false := by rw [hscfg, hend]
  obtain ⟨hmd5, hold, huser, hmod, hone⟩ := numbers_of_tally s htally
  obtain ⟨hinc, hupos, hmode⟩ := includeSteps_eq_self s htally (blank_of_not_needsBlank hblank).1
    (three_lines hblank)
  obtain ⟨hbmigrated, hbend⟩ := baseMigrated_of_same ((modeSteps_base s).trans hsbase) hbase.2.symm
  rw [baseSteps_of_migrated hbmigrated] at hsensors
  have hone' : tally s.modeSteps.cfg .mod = 0 ∨ tally s.modeSteps.cfg .displayOff = 0 := by
    rw [htally, htally]
    exact hone
  have hmode' : 0 < tally s.modeSteps.cfg .mod + tally s.modeSteps.cfg .displayOff := by
    rw [htally, htally]
    exact hmode
  have hexact := sensors_of_same hone' hmode' fun i => by rw [hsensors, htally, hscfg]
  have hright : s.modeSteps.cfg = s.cfg := by
    rw [hscfg, ← hsensors, (sensorSteps_of_sensors hone' hmode' hexact).1]
  have hmodes' : s.modeSteps = s.toDisplayOff.toMod := by rw [Work.modeSteps, hinc]
  rw [hright] at hexact hbed
  have horiginal : original cfg base vars = s := by
    have hclean' : newlineStep base = base := newlineStep_eq_self_iff.2 ⟨hbase.1, hbend⟩
    rw [← hs]
    simp [start, original, hclean, hclean']
  rw [horiginal]
  refine ⟨hblank, ?_, hmd5, hold, by omega, by omega,
    (rightMode_iff (by omega) hmode).2 (hmodes' ▸ hright), hbed, ?_, ?_⟩
  · rw [hsbase, hbend]
    simpa using hbend
  · exact hbmigrated.congr (modeSteps_base s).symm (modeSteps_vars s).symm
  · refine hexact.congr hright.symm ?_
    rw [Work.var, Work.var, modeSteps_vars]

/-! ## The flag -/

/-- At the end `NEED_REBOOT` is set exactly when a copy differs from its original. -/
def FlagRight (d : Diff) (cfg base vars : Text) : Prop :=
  ∀ w ∈ fixConfig d cfg base vars, (w.needReboot = true ↔ ¬ (Same w.cfg cfg ∧ Same w.base base))

/-- **The flag is right** but for a migrated system with a restless step, which is written back
and rebooted every time. -/
theorem flagRight_iff (d : Diff) (cfg base vars : Text) :
    FlagRight d cfg base vars ↔
      ¬ (Terminated cfg ∧ Terminated base ∧ Migrated (original cfg base vars) ∧
        Restless (original cfg base vars)) := by
  constructor
  · rintro hright ⟨hcfg, hbase, hmigrated, hrestless⟩
    obtain ⟨w, hw, hscfg, hsbase, hflag⟩ := fixConfig_of_migrated d hmigrated hcfg hbase
    exact (hright w hw).1 (hflag.2 hrestless) ⟨hscfg, hsbase⟩
  · intro h w hw
    constructor
    · rintro hflag ⟨hcfg, hbase⟩
      have hmigrated := migrated_of_same hw hcfg hbase
      obtain ⟨w', hw', -, -, hflag'⟩ := fixConfig_of_migrated d hmigrated hcfg.1 hbase.1
      rw [Option.mem_def.1 hw, Option.some.injEq] at hw'
      rw [hw'] at hflag
      exact h ⟨hcfg.1, hbase.1, hmigrated, hflag'.1 hflag⟩
    · intro hdiff
      by_contra hflag
      exact hdiff (same_of_needReboot_eq_false hw (Bool.eq_false_iff.2 hflag))

/-- `printer.cfg` of a migrated printer without its screen. -/
def settledCfg : Text := unlines (["[include ./mod/display_off.cfg]", "[include ./mod_data/user.cfg]",
  "[include ./mod/switch_sensor_display_off.cfg]", "[heater_bed]", "", ""].map str)

/-- Its `printer.base.cfg`. -/
def settledBase : Text :=
  unlines (["[gcode_button check_level_pin]", "[controller_fan driver_fan]", "", ""].map str)

/-- Its `variables.cfg`. -/
def settledVars : Text :=
  unlines (["[Variables]", "display_off = 1", "motion_sensor = 0"].map str)

/-- Without its screen a migrated printer is rebooted every time. -/
theorem flag_not_right : ¬ FlagRight blockDiff settledCfg settledBase settledVars := by
  intro h
  have hrun : fixConfig blockDiff settledCfg settledBase settledVars =
      some ⟨lines settledCfg, lines settledBase, lines settledVars, true⟩ := by
    decide +kernel
  exact (h _ hrun).1 rfl ⟨⟨terminated_unlines _, rfl⟩, ⟨terminated_unlines _, rfl⟩⟩

end FixConfig

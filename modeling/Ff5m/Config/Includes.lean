import Ff5m.Config.FixConfig

/-!
# The include lines after the migration

What each step does to the number of include lines of each kind.  The steps that edit them
look at nothing else, but for the number of lines of the file.

* `tally_dropDisplayOff` and its siblings: one formula a step;
* `settled_of_tally`: steps that leave the numbers as they are find nothing to do.
-/

namespace FixConfig

open TextTools Sections

variable (w : Work) (i k : Inc)

theorem not_has_iff {i : Inc} {cfg : List Line} : (!has i cfg) = true ↔ tally cfg i = 0 := by
  rw [Bool.not_eq_true', has_eq_false_iff]

/-! ## One step -/

theorem tally_dropCheckMd5 :
    tally w.dropCheckMd5.cfg k = if k = .checkMd5 then 0 else tally w.cfg k := by
  rw [Work.dropCheckMd5, tally_editCfg, tally_remove]
  by_cases hk : k = .checkMd5
  · subst hk
    cases h : has .checkMd5 w.cfg
    · simp [has_eq_false_iff.1 h]
    · simp
  · simp [hk]

theorem tally_dropDisplayOff :
    tally w.dropDisplayOff.cfg k =
      if k = .displayOff ∧ 0 < tally w.cfg .mod then 0 else tally w.cfg k := by
  simp only [Work.dropDisplayOff, tally_editCfg, tally_remove, Bool.and_eq_true, has_iff]
  by_cases hk : k = .displayOff
  · subst hk
    simp only [true_and, if_true]
    split_ifs <;> omega
  · simp [hk]

theorem tally_dropSeveral :
    tally (w.dropSeveral i).cfg k = if k = i ∧ 1 < tally w.cfg i then 0 else tally w.cfg k := by
  rw [Work.dropSeveral, tally_editCfg, tally_remove]
  by_cases hk : k = i
  · simp [hk]
  · simp [hk]

theorem tally_insertMod :
    tally w.insertMod.cfg k = tally w.cfg k +
      if k = .mod ∧ tally w.cfg .mod = 0 ∧ tally w.cfg .displayOff = 0 ∧ 2 ≤ w.cfg.length then 1
      else 0 := by
  simp only [Work.insertMod, tally_editCfg, tally_insertLine, Bool.and_eq_true, not_has_iff]
  by_cases h : tally w.cfg .mod = 0 ∧ tally w.cfg .displayOff = 0
  · simp [h.1, h.2, and_comm]
  · rw [if_neg h, if_neg (fun hc => h ⟨hc.2.1, hc.2.2.1⟩), Nat.add_zero]

theorem tally_renameUser :
    tally w.renameUser.cfg k =
      if k = .modUser then 0
      else if k = .user then tally w.cfg .user + tally w.cfg .modUser else tally w.cfg k := by
  simp only [Work.renameUser, tally_editCfg, tally_substUser, has_iff]
  by_cases h : 0 < tally w.cfg .modUser
  · rw [if_pos h]
  · have h0 : tally w.cfg .modUser = 0 := Nat.eq_zero_of_not_pos h
    rw [if_neg h, h0, Nat.add_zero]
    split_ifs with hm hu
    · rw [hm, h0]
    · rw [hu]
    · rfl

theorem tally_insertUser :
    tally w.insertUser.cfg k = tally w.cfg k +
      if k = .user ∧ tally w.cfg .user = 0 ∧ 3 ≤ w.cfg.length then 1 else 0 := by
  simp only [Work.insertUser, tally_editCfg, tally_insertLine, not_has_iff]
  by_cases h : tally w.cfg .user = 0
  · simp [h, and_comm]
  · rw [if_neg h, if_neg (fun hc => h hc.2.1), Nat.add_zero]

theorem tally_toDisplayOff_step :
    tally w.toDisplayOff.cfg k =
      if w.var "display_off = 1" ∧ 0 < tally w.cfg .user then
        if k = .mod then 0
        else if k = .displayOff then tally w.cfg .displayOff + tally w.cfg .mod else tally w.cfg k
      else tally w.cfg k := by
  rw [Work.toDisplayOff]
  split
  · next h => simp only [tally_editCfg, has_iff, tally_toDisplayOff, h, true_and]
  · next h => rw [if_neg (fun hc => h hc.1)]

theorem tally_toMod_step :
    tally w.toMod.cfg k =
      if w.var "display_off = 0" then
        if k = .displayOff then 0
        else if k = .mod then tally w.cfg .mod + tally w.cfg .displayOff else tally w.cfg k
      else tally w.cfg k := by
  rw [Work.toMod]
  split
  · simp only [tally_editCfg, has_iff, tally_toMod]
    by_cases h : 0 < tally w.cfg .displayOff
    · rw [if_pos h]
    · rw [if_neg h]
      have h0 : tally w.cfg .displayOff = 0 := Nat.eq_zero_of_not_pos h
      split_ifs with hd hm
      · rw [hd, h0]
      · rw [hm, h0, Nat.add_zero]
      · rfl
  · rfl

/-! ## All steps -/

/-- The steps on the includes of the mode and of `user.cfg`. -/
def Work.modeSteps (w : Work) : Work := w.includeSteps.toDisplayOff.toMod

theorem tally_includeSteps_user :
    ∃ e ≤ 1, tally w.includeSteps.cfg .user =
      (if 1 < tally w.cfg .user then 0 else tally w.cfg .user) + tally w.cfg .modUser + e := by
  simp only [Work.includeSteps, tally_dropCheckMd5, tally_dropDisplayOff, tally_dropSeveral,
    tally_insertMod, tally_renameUser, tally_insertUser, reduceCtorEq, false_and, if_false, if_true,
    Nat.add_zero, true_and]
  exact ⟨_, by split_ifs <;> omega, rfl⟩

theorem tally_includeSteps_mode :
    tally w.includeSteps.cfg .displayOff =
        (if 0 < tally w.cfg .mod then 0 else tally w.cfg .displayOff) ∧
      ∃ e ≤ 1, tally w.includeSteps.cfg .mod =
        (if 1 < tally w.cfg .mod then 0 else tally w.cfg .mod) + e := by
  simp only [Work.includeSteps, tally_dropCheckMd5, tally_dropDisplayOff, tally_dropSeveral,
    tally_insertMod, tally_renameUser, tally_insertUser, reduceCtorEq, false_and, if_false, if_true,
    Nat.add_zero, true_and]
  exact ⟨_, by split_ifs <;> omega, rfl⟩

theorem tally_modeSteps_gone :
    tally w.modeSteps.cfg .checkMd5 = 0 ∧ tally w.modeSteps.cfg .modUser = 0 := by
  constructor <;>
    simp only [Work.modeSteps, Work.includeSteps, tally_dropCheckMd5, tally_dropDisplayOff,
      tally_dropSeveral, tally_insertMod, tally_renameUser, tally_insertUser,
      tally_toDisplayOff_step, tally_toMod_step, reduceCtorEq, false_and, if_false, if_true,
      ite_self, Nat.add_zero]

theorem tally_modeSteps_sensor (hk : k = .switch ∨ k = .switchOff ∨ k = .motion) :
    tally w.modeSteps.cfg k = tally w.cfg k := by
  rcases hk with rfl | rfl | rfl <;>
    simp only [Work.modeSteps, Work.includeSteps, tally_dropCheckMd5, tally_dropDisplayOff,
      tally_dropSeveral, tally_insertMod, tally_renameUser, tally_insertUser,
      tally_toDisplayOff_step, tally_toMod_step, reduceCtorEq, false_and, if_false,
      ite_self, Nat.add_zero]

theorem tally_toMod_toDisplayOff_user :
    tally w.toDisplayOff.toMod.cfg .user = tally w.cfg .user := by
  simp only [tally_toDisplayOff_step, tally_toMod_step, reduceCtorEq, if_false, ite_self]

/-- The includes of the mode are renamed, all or none. -/
theorem tally_toMod_toDisplayOff_mode :
    tally w.toDisplayOff.toMod.cfg .mod + tally w.toDisplayOff.toMod.cfg .displayOff =
        tally w.cfg .mod + tally w.cfg .displayOff ∧
      (tally w.toDisplayOff.toMod.cfg .mod = 0 ∨ tally w.toDisplayOff.toMod.cfg .displayOff = 0 ∨
        tally w.toDisplayOff.toMod.cfg .mod = tally w.cfg .mod) := by
  simp only [tally_toDisplayOff_step, tally_toMod_step, reduceCtorEq, if_false, if_true]
  split_ifs <;> omega

/-- Steps that leave the numbers as they are had nothing to do. -/
theorem numbers_of_tally (h : ∀ i, tally w.modeSteps.cfg i = tally w.cfg i) :
    tally w.cfg .checkMd5 = 0 ∧ tally w.cfg .modUser = 0 ∧ tally w.cfg .user ≤ 1 ∧
      tally w.cfg .mod ≤ 1 ∧ (tally w.cfg .mod = 0 ∨ tally w.cfg .displayOff = 0) := by
  have hgone := tally_modeSteps_gone w
  rw [h, h] at hgone
  obtain ⟨e, he, hu⟩ := tally_includeSteps_user w
  obtain ⟨hd, f, hf, hm⟩ := tally_includeSteps_mode w
  have huser := h .user
  rw [Work.modeSteps, tally_toMod_toDisplayOff_user, hu, hgone.2] at huser
  obtain ⟨hsum, hone⟩ := tally_toMod_toDisplayOff_mode w.includeSteps
  rw [← Work.modeSteps, h, h] at hsum hone
  rw [hd, hm] at hsum
  rw [hm] at hone
  refine ⟨hgone.1, hgone.2, ?_, ?_, ?_⟩
  · split_ifs at huser <;> omega
  · split_ifs at hsum hone <;> omega
  · split_ifs at hsum hone <;> omega

/-- They had indeed nothing to do, in a file of three lines and more. -/
theorem includeSteps_eq_self (h : ∀ i, tally w.modeSteps.cfg i = tally w.cfg i)
    (htwo : 2 ≤ w.cfg.length)
    (hthree : 0 < tally w.cfg .mod + tally w.cfg .displayOff → 3 ≤ w.cfg.length) :
    w.includeSteps = w ∧ 0 < tally w.cfg .user ∧
      0 < tally w.cfg .mod + tally w.cfg .displayOff := by
  obtain ⟨hmd5, hold, huser, hmod, hone⟩ := numbers_of_tally w h
  have h1 : w.dropCheckMd5 = w := editCfg_of_not _ _ _ (has_eq_false_iff.2 hmd5)
  have h2 : w.dropDisplayOff = w := by
    apply editCfg_of_not
    rcases hone with hone | hone <;> simp [has_eq_false_iff.2 hone]
  have h3 : w.dropSeveral .user = w := editCfg_of_not _ _ _ (by simpa using huser)
  have h4 : w.dropSeveral .mod = w := editCfg_of_not _ _ _ (by simpa using hmod)
  have hinc : w.includeSteps = w.insertMod.renameUser.insertUser := by
    rw [Work.includeSteps, h1, h2, h3, h4]
  have hmode : 0 < tally w.cfg .mod + tally w.cfg .displayOff := by
    by_contra hzero
    have hm : tally w.cfg .mod = 0 := by omega
    have hd : tally w.cfg .displayOff = 0 := by omega
    have hsum := (tally_toMod_toDisplayOff_mode w.includeSteps).1
    rw [← Work.modeSteps, h, h, hinc] at hsum
    simp only [tally_insertMod, tally_renameUser, tally_insertUser, hm, hd, htwo, reduceCtorEq,
      false_and, if_false, and_self, if_true] at hsum
    cases hsum
  have h5 : w.insertMod = w := by
    apply editCfg_of_not
    rcases Nat.add_pos_iff_pos_or_pos.1 hmode with hm | hd
    · simp [has_iff.2 hm]
    · simp [has_iff.2 hd]
  have h6 : w.renameUser = w := editCfg_of_not _ _ _ (has_eq_false_iff.2 hold)
  rw [h5, h6] at hinc
  have hpos : 0 < tally w.cfg .user := by
    by_contra hzero
    have hu : tally w.cfg .user = 0 := by omega
    have hsame := h .user
    rw [Work.modeSteps, tally_toMod_toDisplayOff_user, hinc, tally_insertUser, hu] at hsame
    simp only [hthree hmode, and_self, if_true] at hsame
    cases hsame
  have h7 : w.insertUser = w := editCfg_of_not _ _ _ (by simp [has_iff.2 hpos])
  exact ⟨by rw [hinc, h7], hpos, hmode⟩

/-! ## The sensors -/

/-- The include of the sensor that `variables.cfg` names, in a mode with one switch sensor. -/
def Work.sensor (w : Work) (right : Inc) : Inc := if w.var "motion_sensor = 1" then .motion else right

/-- The include of the sensor that it does not name. -/
def Work.otherSensor (w : Work) (right : Inc) : Inc :=
  if w.var "motion_sensor = 1" then right else .motion

theorem tally_removeStep (i k : Inc) :
    tally (w.editCfg (has i) (remove i)).cfg k = if k = i then 0 else tally w.cfg k := by
  rw [tally_editCfg, tally_remove]
  by_cases hk : k = i
  · subst hk
    cases h : has k w.cfg
    · simp [has_eq_false_iff.1 h]
    · simp
  · simp [hk]

theorem tally_addStep (i j k : Inc) :
    tally (w.editCfg (fun c => !has j c) (addBehind i j)).cfg k = tally w.cfg k +
      if k = j ∧ tally w.cfg j = 0 then starting (i.line.map some) w.cfg else 0 := by
  simp only [tally_editCfg, tally_addBehind, not_has_iff]
  by_cases h : tally w.cfg j = 0
  · simp [h]
  · rw [if_neg h, if_neg (fun hc => h hc.2), Nat.add_zero]

/-- A block of steps, with the two branches told apart by the sensor. -/
theorem sensorBlock_eq (mode wrong right : Inc) : w.sensorBlock mode wrong right =
    if has mode w.cfg then
      ((w.editCfg (has wrong) (remove wrong)).editCfg (fun c => !has (w.sensor right) c)
        (addBehind mode (w.sensor right))).editCfg (has (w.otherSensor right))
          (remove (w.otherSensor right))
    else w := by
  have hvar : (w.editCfg (has wrong) (remove wrong)).var "motion_sensor = 1" =
      w.var "motion_sensor = 1" := by
    rw [Work.var, editCfg_vars, Work.var]
  rw [Work.sensorBlock]
  simp only [hvar, Work.sensor, Work.otherSensor]
  split
  · split <;> rfl
  · rfl

variable {w} {mode wrong right : Inc}

theorem sensor_ne_otherSensor (hr : right ≠ .motion) : w.sensor right ≠ w.otherSensor right := by
  rw [Work.sensor, Work.otherSensor]
  split
  · exact hr.symm
  · exact hr

theorem ne_sensor (hwr : wrong ≠ right) (hwm : wrong ≠ .motion) :
    wrong ≠ w.sensor right ∧ wrong ≠ w.otherSensor right := by
  rw [Work.sensor, Work.otherSensor]
  split
  · exact ⟨hwm, hwr⟩
  · exact ⟨hwr, hwm⟩

/-- Other includes stay. -/
theorem tally_sensorBlock_of_ne {k : Inc} (hw : k ≠ wrong) (hr : k ≠ right) (hm : k ≠ .motion) :
    tally (w.sensorBlock mode wrong right).cfg k = tally w.cfg k := by
  obtain ⟨hs, ho⟩ := ne_sensor (w := w) hr hm
  rw [sensorBlock_eq]
  split
  · rw [tally_removeStep, if_neg ho, tally_addStep, if_neg (fun hc => hs hc.1), tally_removeStep,
      if_neg hw, Nat.add_zero]
  · rfl

/-- The sensor includes of a mode are in order, or the line to put the right one behind is not
spelled as `sed` wants it. -/
structure Sensors (w : Work) (mode wrong right : Inc) : Prop where
  no_wrong : tally w.cfg wrong = 0
  no_other : tally w.cfg (w.otherSensor right) = 0
  missing : tally w.cfg (w.sensor right) = 0 → starting (mode.line.map some) w.cfg = 0

/-- A block that leaves the numbers as they are had nothing to do, or failed to do it. -/
theorem sensors_of_tally (hmode : has mode w.cfg = true) (hwr : wrong ≠ right)
    (hwm : wrong ≠ .motion) (hrm : right ≠ .motion)
    (h : ∀ i, tally (w.sensorBlock mode wrong right).cfg i = tally w.cfg i) :
    Sensors w mode wrong right := by
  obtain ⟨hws, hwo⟩ := ne_sensor (w := w) hwr hwm
  have hso := sensor_ne_otherSensor (w := w) hrm
  simp only [sensorBlock_eq, hmode, if_true, tally_removeStep, tally_addStep] at h
  have hwrong : tally w.cfg wrong = 0 := by
    have := h wrong
    simpa [hws, hwo] using this.symm
  have hother : tally w.cfg (w.otherSensor right) = 0 := by
    have := h (w.otherSensor right)
    simpa using this.symm
  refine ⟨hwrong, hother, ?_⟩
  intro hzero
  have hright := h (w.sensor right)
  have hkeep : (w.editCfg (has wrong) (remove wrong)).cfg = w.cfg := by
    rw [editCfg_of_not _ _ _ (has_eq_false_iff.2 hwrong)]
  simpa [hso, hws.symm, hzero, hkeep] using hright

/-- Then only the flag may change. -/
theorem sensorBlock_of_sensors (hmode : has mode w.cfg = true) (h : Sensors w mode wrong right) :
    w.sensorBlock mode wrong right =
      { w with needReboot := w.needReboot || !has (w.sensor right) w.cfg } := by
  rw [sensorBlock_eq, if_pos hmode, editCfg_of_not w _ _ (has_eq_false_iff.2 h.no_wrong)]
  have hadd : w.editCfg (fun c => !has (w.sensor right) c) (addBehind mode (w.sensor right)) =
      { w with needReboot := w.needReboot || !has (w.sensor right) w.cfg } := by
    rw [Work.editCfg]
    cases hs : has (w.sensor right) w.cfg
    · have hself : addBehind mode (w.sensor right) w.cfg = w.cfg :=
        appendAfter_eq_self (h.missing (has_eq_false_iff.1 hs)) _
      simp [hself]
    · simp
  rw [hadd]
  exact editCfg_of_not _ _ _ (has_eq_false_iff.2 h.no_other)

/-- The mode of a file, by its includes. -/
def modeOf (cfg : List Line) : Inc := if has .mod cfg then .mod else .displayOff

/-- The switch sensor of a mode. -/
def Inc.ownSwitch (mode : Inc) : Inc := if mode = .mod then .switch else .switchOff

/-- The switch sensor of the other mode. -/
def Inc.otherSwitch (mode : Inc) : Inc := if mode = .mod then .switchOff else .switch

theorem var_motionDefault : (w.motionDefault "0").var "motion_sensor = 1" =
    w.var "motion_sensor = 1" := by
  rw [Work.motionDefault]
  split
  · rfl
  rw [Work.var, insertLine]
  split
  · next h =>
    have hnew : occurs (lit "motion_sensor = 1") (str ("motion_sensor = " ++ "0")) = false := by
      decide
    have hcut : w.var "motion_sensor = 1" =
        ((w.vars.take (2 - 1) ++ w.vars.drop (2 - 1)).any (occurs (lit "motion_sensor = 1"))) := by
      rw [List.take_append_drop, Work.var]
    rw [hcut, List.any_append, List.any_append, List.any_cons, hnew, Bool.false_or]
  · rfl

/-- With one mode, one block of steps is taken. -/
theorem sensorSteps_eq (hone : tally w.cfg .mod = 0 ∨ tally w.cfg .displayOff = 0) :
    w.sensorSteps = (w.motionDefault "0").sensorBlock (modeOf w.cfg)
      (modeOf w.cfg).otherSwitch (modeOf w.cfg).ownSwitch := by
  rw [Work.sensorSteps, modeOf]
  cases hm : has .mod w.cfg
  · rw [if_neg (by simp), sensorBlock_eq (w.motionDefault "0") .mod, motionDefault_cfg, hm,
      if_neg (by simp)]
    rfl
  · have hd : tally w.cfg .displayOff = 0 := hone.resolve_left (has_iff.1 hm).ne'
    rw [if_pos rfl]
    have hsecond : has .displayOff
        ((w.motionDefault "0").sensorBlock .mod .switchOff .switch).cfg = false := by
      rw [has_eq_false_iff, tally_sensorBlock_of_ne (by decide) (by decide) (by decide),
        motionDefault_cfg, hd]
    rw [sensorBlock_eq _ .displayOff, hsecond, if_neg (by simp)]
    rfl

end FixConfig

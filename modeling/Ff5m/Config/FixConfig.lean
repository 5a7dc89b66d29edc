import Ff5m.Config.Sections
import Ff5m.Text.LineEdit

/-!
# Migrating `printer.cfg` and `printer.base.cfg`

`fix_config` works on copies of both files and of `variables.cfg`.  Each step looks for a
pattern and edits a file, and sets `NEED_REBOOT` when it does; at the end both copies are
written back when it is set.

* `Work`: the three files and the flag, with `editCfg` and `editBase` for one step;
* `fixConfig`: all steps, in their order;
* `tally`: the number of include lines of each kind, and what each command does to it.
-/

namespace FixConfig

open TextTools Sections

/-! ## The include lines -/

/-- The files that `printer.cfg` may include. -/
inductive Inc where
  | checkMd5 | mod | displayOff | user | modUser | switch | switchOff | motion
  deriving DecidableEq, Repr

/-- The path in the include line. -/
def Inc.path : Inc → String
  | .checkMd5 => "check_md5.cfg"
  | .mod => "./mod/mod.cfg"
  | .displayOff => "./mod/display_off.cfg"
  | .user => "./mod_data/user.cfg"
  | .modUser => "mod.user.cfg"
  | .switch => "./mod/switch_sensor.cfg"
  | .switchOff => "./mod/switch_sensor_display_off.cfg"
  | .motion => "./mod/motion_sensor.cfg"

/-- `[include path]` -/
def Inc.line (i : Inc) : Line := str ("[include " ++ i.path ++ "]")

/-- `^\[include path\]` -/
def Inc.pat (i : Inc) : Pat := dots ("[include " ++ i.path ++ "]")

/-- `grep '^\[include path\]' | wc -l` -/
def tally (cfg : List Line) (i : Inc) : ℕ := starting i.pat cfg

/-- `grep -q '^\[include path\]'` -/
def has (i : Inc) (cfg : List Line) : Bool := cfg.any (matchAt i.pat)

/-- `sed -i '/^\[include path\]/d'` -/
def remove (i : Inc) (cfg : List Line) : List Line := deleteStarting i.pat cfg

/-- `sed -i 's|\[include a\]|\[include b\]|'` -/
def rename (i j : Inc) (cfg : List Line) : List Line := cfg.map (substFirst i.pat j.line)

/-- `sed -i '/^\[include a\]/a [include b]'`, with the dots of the address escaped -/
def addBehind (i j : Inc) (cfg : List Line) : List Line := appendAfter (i.line.map some) j.line cfg

/-! ## The files at work -/

/-- The working copies and `NEED_REBOOT`. -/
@[ext]
structure Work where
  cfg : List Line
  base : List Line
  vars : List Line
  needReboot : Bool
  deriving DecidableEq, Repr

/-- A step on `printer.cfg`. -/
def Work.editCfg (w : Work) (guard : List Line → Bool) (f : List Line → List Line) : Work :=
  if guard w.cfg then { w with cfg := f w.cfg, needReboot := true } else w

/-- A step on `printer.base.cfg`. -/
def Work.editBase (w : Work) (guard : List Line → Bool) (f : List Line → List Line) : Work :=
  if guard w.base then { w with base := f w.base, needReboot := true } else w

/-- `grep -q word variables.cfg` -/
def Work.var (w : Work) (word : String) : Bool := w.vars.any (occurs (lit word))

/-! ## The steps -/

/-- The copies, after the newline step. -/
def start (cfg base vars : Text) : Work where
  cfg := lines (newlineStep cfg)
  base := lines (newlineStep base)
  vars := lines vars
  needReboot := newlineStep cfg ≠ cfg || newlineStep base ≠ base

/-- The include of the check of every print goes. -/
def Work.dropCheckMd5 (w : Work) : Work := w.editCfg (has .checkMd5) (remove .checkMd5)

/-- `display_off.cfg` goes beside `mod.cfg`. -/
def Work.dropDisplayOff (w : Work) : Work :=
  w.editCfg (fun c => has .mod c && has .displayOff c) (remove .displayOff)

/-- Several includes of one file go. -/
def Work.dropSeveral (w : Work) (i : Inc) : Work := w.editCfg (fun c => 1 < tally c i) (remove i)

/-- `mod.cfg` is included where no mode is. -/
def Work.insertMod (w : Work) : Work :=
  w.editCfg (fun c => !has .mod c && !has .displayOff c) (insertLine 2 Inc.mod.line)

/-- The old name of `user.cfg`. -/
def Work.renameUser (w : Work) : Work :=
  w.editCfg (has .modUser) (List.map (substStart Inc.modUser.pat Inc.user.line))

/-- `user.cfg` is included where it is not. -/
def Work.insertUser (w : Work) : Work := w.editCfg (fun c => !has .user c) (insertLine 3 Inc.user.line)

/-- One include of `mod.cfg` or `display_off.cfg`, and one of `user.cfg`. -/
def Work.includeSteps (w : Work) : Work :=
  w.dropCheckMd5.dropDisplayOff.dropSeveral .user |>.dropSeveral .mod |>.insertMod.renameUser.insertUser

/-- `display_off = 1` of `variables.cfg`. -/
def Work.toDisplayOff (w : Work) : Work :=
  if w.var "display_off = 1" then w.editCfg (has .user) (rename .mod .displayOff) else w

/-- `display_off = 0` of `variables.cfg`. -/
def Work.toMod (w : Work) : Work :=
  if w.var "display_off = 0" then w.editCfg (has .displayOff) (rename .displayOff .mod) else w

/-- The section of the bed. -/
def Work.bedStep (d : Diff) (w : Work) : Option Work :=
  if w.cfg.any (starts "heater_bed") then some w
  else (moveBed d w.base w.cfg).map fun (base, cfg) =>
    { w with base := base, cfg := cfg, needReboot := true }

/-- The removal of a section. -/
def Work.removeStep (w : Work) (d : Diff) (p : String) : Work :=
  w.editBase (·.any (starts p)) (removeSection d p)

/-- `! grep -q "motion_sensor" && sed -i '2 i\motion_sensor = n'` -/
def Work.motionDefault (w : Work) (n : String) : Work :=
  if w.var "motion_sensor" then w
  else { w with vars := insertLine 2 (str ("motion_sensor = " ++ n)) w.vars }

/-- `[gcode_button check_level_pin]` -/
def checkLevelPin : List Line :=
  ["", "[gcode_button check_level_pin]", "pin: !PE0", "press_gcode:", "    M105", ""].map str

/-- `[controller_fan driver_fan]` -/
def driverFan : List Line :=
  ["", "[controller_fan driver_fan]", "pin:PB7", "fan_speed: 1.0", "idle_timeout: 30",
    "stepper: stepper_x, stepper_y, stepper_z", ""].map str

/-- `[gcode_button check_level_pin]` is added where it is not. -/
def Work.addLevelPin (w : Work) : Work :=
  w.editBase (fun b => !b.any (starts "gcode_button check_level_pin")) (· ++ checkLevelPin)

/-- `[controller_fan driver_fan]` is added where it is not. -/
def Work.addDriverFan (w : Work) : Work :=
  w.editBase (fun b => !b.any (starts "controller_fan driver_fan")) (· ++ driverFan)

/-- The switch sensor goes, and is the sensor unless `variables.cfg` names one. -/
def Work.switchStep (w : Work) (d : Diff) : Work :=
  let p := "filament_switch_sensor e0_sensor"
  (if w.base.any (starts p) then w.motionDefault "0" else w).removeStep d p

/-- The motion sensor goes, and is the sensor. -/
def Work.motionStep (w : Work) (d : Diff) : Work :=
  let p := "filament_motion_sensor e0_sensor"
  let set (w : Work) : Work :=
    { w with vars := replaceStarting (lit "motion_sensor") (str "motion_sensor = 1") w.vars }
  (if w.base.any (starts p) then set (w.motionDefault "1") else w).removeStep d p

/-- The limit that the version of Klipper knows. -/
def Work.cruiseStep (w : Work) : Work :=
  if w.var "klipper12 = 1" then
    w.editBase (·.any (matchAt (lit "max_accel_to_decel")))
      (replaceStarting (lit "max_accel_to_decel") (str "minimum_cruise_ratio: 0.5"))
  else
    w.editBase (·.any (matchAt (lit "minimum_cruise_ratio")))
      (replaceStarting (lit "minimum_cruise_ratio") (str "max_accel_to_decel:5000"))

/-- The steps on `printer.base.cfg`. -/
def Work.baseSteps (w : Work) (d : Diff) : Work :=
  w |>.removeStep d "heater_bed"
    |>.removeStep d "fan_generic pcb_fan"
    |>.removeStep d "controller_fan pcb_fan"
    |>.addLevelPin
    |>.switchStep d
    |>.motionStep d
    |>.addDriverFan
    |>.cruiseStep

/-- The sensor includes of one mode: `wrong` is the switch sensor of the other mode. -/
def Work.sensorBlock (w : Work) (mode wrong right : Inc) : Work :=
  if has mode w.cfg then
    let w := w.editCfg (has wrong) (remove wrong)
    if w.var "motion_sensor = 1" then
      w |>.editCfg (fun c => !has .motion c) (addBehind mode .motion)
        |>.editCfg (has right) (remove right)
    else
      w |>.editCfg (fun c => !has right c) (addBehind mode right)
        |>.editCfg (has .motion) (remove .motion)
  else w

/-- The sensor includes of both modes. -/
def Work.sensorSteps (w : Work) : Work :=
  w |>.motionDefault "0"
    |>.sensorBlock .mod .switchOff .switch
    |>.sensorBlock .displayOff .switch .switchOff

/-- The newline step at the end, where both copies end in a newline. -/
def Work.finish (w : Work) : Work :=
  w |>.editCfg needsBlank (· ++ [[]]) |>.editBase needsBlank (· ++ [[]])

/-- The whole migration.  There is no result when the shell fails on the way. -/
def fixConfig (d : Diff) (cfg base vars : Text) : Option Work :=
  ((start cfg base vars).includeSteps.toDisplayOff.toMod.bedStep d).map fun w =>
    (w.baseSteps d).sensorSteps.finish

section Projections

variable (w : Work) (g : List Line → Bool) (f : List Line → List Line) (d : Diff) (p n word : String)

theorem editCfg_cfg : (w.editCfg g f).cfg = if g w.cfg then f w.cfg else w.cfg := by
  rw [Work.editCfg]
  split <;> rfl

theorem editBase_base : (w.editBase g f).base = if g w.base then f w.base else w.base := by
  rw [Work.editBase]
  split <;> rfl

@[simp] theorem editCfg_base : (w.editCfg g f).base = w.base := by
  rw [Work.editCfg]
  split <;> rfl

@[simp] theorem editCfg_vars : (w.editCfg g f).vars = w.vars := by
  rw [Work.editCfg]
  split <;> rfl

@[simp] theorem editBase_cfg : (w.editBase g f).cfg = w.cfg := by
  rw [Work.editBase]
  split <;> rfl

@[simp] theorem editBase_vars : (w.editBase g f).vars = w.vars := by
  rw [Work.editBase]
  split <;> rfl

@[simp] theorem motionDefault_cfg : (w.motionDefault n).cfg = w.cfg := by
  rw [Work.motionDefault]
  split <;> rfl

@[simp] theorem motionDefault_base : (w.motionDefault n).base = w.base := by
  rw [Work.motionDefault]
  split <;> rfl

@[simp] theorem motionDefault_needReboot : (w.motionDefault n).needReboot = w.needReboot := by
  rw [Work.motionDefault]
  split <;> rfl

@[simp] theorem toDisplayOff_base : w.toDisplayOff.base = w.base := by
  rw [Work.toDisplayOff]
  split
  · exact editCfg_base w _ _
  · rfl

@[simp] theorem toDisplayOff_vars : w.toDisplayOff.vars = w.vars := by
  rw [Work.toDisplayOff]
  split
  · exact editCfg_vars w _ _
  · rfl

@[simp] theorem toMod_base : w.toMod.base = w.base := by
  rw [Work.toMod]
  split
  · exact editCfg_base w _ _
  · rfl

@[simp] theorem toMod_vars : w.toMod.vars = w.vars := by
  rw [Work.toMod]
  split
  · exact editCfg_vars w _ _
  · rfl

/-- A step does nothing where its pattern is not found. -/
theorem editCfg_of_not (h : g w.cfg = false) : w.editCfg g f = w := by
  rw [Work.editCfg, if_neg (by simp [h])]

theorem editBase_of_not (h : g w.base = false) : w.editBase g f = w := by
  rw [Work.editBase, if_neg (by simp [h])]

end Projections

/-! ## Counting include lines -/

theorem has_iff {i : Inc} {cfg : List Line} : has i cfg = true ↔ 0 < tally cfg i :=
  starting_pos_iff.symm

theorem has_eq_false_iff {i : Inc} {cfg : List Line} : has i cfg = false ↔ tally cfg i = 0 :=
  starting_eq_zero_iff.symm

/-- A line includes one file. -/
theorem matchAt_pat_of_ne {i j : Inc} (h : i ≠ j) {l : Line} (hl : matchAt i.pat l = true) :
    matchAt j.pat l = false := by
  refine not_both_of_clash ?_ hl
  revert h
  cases i <;> cases j <;> decide

theorem matchAt_pat_line (i j : Inc) (t : Line) : matchAt i.pat (j.line ++ t) = decide (i = j) := by
  have hself : ∀ k : Inc, matchAt k.pat (k.line ++ t) = true := by
    intro k
    apply matchAt_append
    cases k <;> decide
  by_cases h : i = j
  · subst h
    simp [hself]
  · simp [h, matchAt_pat_of_ne (Ne.symm h) (hself j)]

/-- An include line is a header. -/
theorem isHeader_of_pat {i : Inc} {l : Line} (h : matchAt i.pat l = true) : isHeader l = true := by
  rw [isHeader]
  cases l with
  | nil => cases i <;> cases h
  | cons c cs =>
    have hc : c = '[' := by
      cases i <;> simp [Inc.pat, dots, matchAt] at h <;> exact h.1.symm
    subst hc
    simp [lit, matchAt]

theorem tally_remove (i j : Inc) (cfg : List Line) :
    tally (remove i cfg) j = if j = i then 0 else tally cfg j := by
  split
  · next h => rw [h, tally, remove, starting_deleteStarting]
  · next h => exact countP_deleteStarting (fun l hl => matchAt_pat_of_ne (Ne.symm h) hl) cfg

theorem tally_insertLine (n : ℕ) (i j : Inc) (cfg : List Line) :
    tally (insertLine n i.line cfg) j = tally cfg j + if n ≤ cfg.length ∧ j = i then 1 else 0 := by
  have h := matchAt_pat_line j i []
  rw [List.append_nil] at h
  rw [tally, starting, countP_insertLine, h, ← starting, ← tally]
  simp

theorem tally_addBehind (i j k : Inc) (cfg : List Line) :
    tally (addBehind i j cfg) k = tally cfg k + if k = j then starting (i.line.map some) cfg else 0 := by
  have h := matchAt_pat_line k j []
  rw [List.append_nil] at h
  rw [tally, starting, addBehind, countP_appendAfter, h, ← starting, ← tally]
  simp

/-- What a replacement of one include by another does to the numbers. -/
theorem tally_map {f : Line → Line} {i j : Inc} (hij : i ≠ j)
    (hf : ∀ (k : Inc) (l : Line), matchAt k.pat (f l) =
      if matchAt i.pat l then decide (k = j) else matchAt k.pat l) (k : Inc) (cfg : List Line) :
    tally (cfg.map f) k =
      if k = i then 0 else if k = j then tally cfg j + tally cfg i else tally cfg k := by
  induction cfg with
  | nil => simp [tally, starting]
  | cons l ls ih =>
    have hcons : ∀ (m : Inc) (x : Line) (xs : List Line),
        tally (x :: xs) m = tally xs m + if matchAt m.pat x = true then 1 else 0 :=
      fun m x xs => List.countP_cons
    rw [List.map_cons, hcons, ih, hf, hcons, hcons, hcons]
    cases hi : matchAt i.pat l with
    | true =>
      by_cases hki : k = i
      · subst hki
        simp [hij]
      · have hk := matchAt_pat_of_ne (Ne.symm hki) hi
        have hj := matchAt_pat_of_ne hij hi
        by_cases hkj : k = j
        · subst hkj
          simp [hki, hj]
          omega
        · simp [hki, hkj, hk]
    | false =>
      by_cases hki : k = i
      · subst hki
        simp [hi]
      · by_cases hkj : k = j
        · subst hkj
          simp [hki]
          omega
        · simp [hki, hkj]

/-- `sed -i 's|^\[include mod.user.cfg\]|\[include ./mod_data/user.cfg\]|'` -/
theorem tally_substUser (k : Inc) (cfg : List Line) :
    tally (cfg.map (substStart Inc.modUser.pat Inc.user.line)) k =
      if k = .modUser then 0 else if k = .user then tally cfg .user + tally cfg .modUser
      else tally cfg k := by
  apply tally_map (by decide)
  intro k l
  rw [matchAt_substStart, matchAt_pat_line]

theorem apart_rename (k : Inc) :
    apart k.pat Inc.mod.pat Inc.displayOff.line = true ∧
      apart k.pat Inc.displayOff.pat Inc.mod.line = true := by
  cases k <;> decide

theorem tally_toDisplayOff (k : Inc) (cfg : List Line) :
    tally (rename .mod .displayOff cfg) k =
      if k = .mod then 0 else if k = .displayOff then tally cfg .displayOff + tally cfg .mod
      else tally cfg k := by
  apply tally_map (by decide)
  intro k l
  rw [matchAt_substFirst (apart_rename k).1, matchAt_pat_line]

theorem tally_toMod (k : Inc) (cfg : List Line) :
    tally (rename .displayOff .mod cfg) k =
      if k = .displayOff then 0 else if k = .mod then tally cfg .mod + tally cfg .displayOff
      else tally cfg k := by
  apply tally_map (by decide)
  intro k l
  rw [matchAt_substFirst (apart_rename k).2, matchAt_pat_line]

theorem tally_editCfg (w : Work) (g : List Line → Bool) (f : List Line → List Line) (i : Inc) :
    tally (w.editCfg g f).cfg i = if g w.cfg then tally (f w.cfg) i else tally w.cfg i := by
  rw [editCfg_cfg]
  split <;> rfl

/-! ## Lines that are not headers -/

/-- The number of lines that are not headers. -/
def plain (ls : List Line) : ℕ := ls.countP (!isHeader ·)

theorem plain_remove (i : Inc) (cfg : List Line) : plain (remove i cfg) = plain cfg := by
  apply countP_deleteStarting
  intro l hl
  simp [isHeader_of_pat hl]

theorem isHeader_line (i : Inc) (t : Line) : isHeader (i.line ++ t) = true := by
  apply isHeader_of_pat (i := i)
  simp [matchAt_pat_line]

theorem plain_insertLine (n : ℕ) (i : Inc) (cfg : List Line) :
    plain (insertLine n i.line cfg) = plain cfg := by
  have h := isHeader_line i []
  rw [List.append_nil] at h
  rw [plain, countP_insertLine, h]
  simp [plain]

theorem plain_addBehind (i j : Inc) (cfg : List Line) : plain (addBehind i j cfg) = plain cfg := by
  have h := isHeader_line j []
  rw [List.append_nil] at h
  rw [plain, addBehind, countP_appendAfter, h]
  simp [plain]

theorem plain_map {f : Line → Line} (hf : ∀ l, isHeader (f l) = isHeader l) (cfg : List Line) :
    plain (cfg.map f) = plain cfg := by
  rw [plain, List.countP_map]
  apply List.countP_congr
  intro l _
  simp [hf]

theorem plain_substUser (cfg : List Line) :
    plain (cfg.map (substStart Inc.modUser.pat Inc.user.line)) = plain cfg := by
  apply plain_map
  intro l
  rw [isHeader, matchAt_substStart]
  split
  · next h => rw [← isHeader, isHeader_line, isHeader_of_pat h]
  · rfl

theorem plain_rename (i j : Inc) (cfg : List Line) : plain (rename i j cfg) = plain cfg := by
  apply plain_map
  intro l
  rw [isHeader, matchAt_substFirst rfl]
  split
  · next h => rw [← isHeader, isHeader_line, isHeader_of_pat h]
  · rfl

end FixConfig

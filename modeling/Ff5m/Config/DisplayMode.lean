import Ff5m.Config.FixConfig
import Ff5m.Store.ConfigParser

/-!
# The display mode, as the programs see it

Klipper works without the screen when `printer.cfg` includes `display_off.cfg`.  Moonraker,
`start.sh` and `zdisplay.sh` look for the name of that file anywhere in the text.

* `grepQ_iff_segment`, `grepQ_universal_iff`: what is looked for, in terms of the whole text;
* `agreed_iff`: the tests agree with Klipper when the include is there, or the name is not.
-/

namespace DisplayMode

open TextTools
open ConfigParser (Release sectionHeader)

/-! ## Looking for a word -/

theorem grepQ_iff_segment {p : Pat} (hp : p ≠ []) {t : Text} :
    grepQ p t = true ↔
      ∃ s, s.length = p.length ∧ matchAt p s = true ∧ '\n' ∉ s ∧ s <:+: t := by
  rw [grepQ, List.any_eq_true]
  constructor
  · rintro ⟨l, hl, ho⟩
    obtain ⟨s, hlen, hs, hsl⟩ := occurs_iff_segment.1 ho
    have hnew : '\n' ∉ s := fun h => no_newline_of_mem_lines l hl (hsl.subset h)
    have hne : s ≠ [] := by
      rintro rfl
      exact hp (List.length_eq_zero_iff.1 hlen.symm)
    exact ⟨s, hlen, hs, hnew, (infix_iff_mem_lines hnew hne).2 ⟨l, hl, hsl⟩⟩
  · rintro ⟨s, hlen, hs, hnew, hst⟩
    have hne : s ≠ [] := by
      rintro rfl
      exact hp (List.length_eq_zero_iff.1 hlen.symm)
    obtain ⟨l, hl, hsl⟩ := (infix_iff_mem_lines hnew hne).1 hst
    exact ⟨l, hl, occurs_iff_segment.2 ⟨s, hlen, hs, hsl⟩⟩

/-- A text as Python reads it: a carriage return ends a line.  For two characters that end one
line there is an empty line more, in which nothing is found. -/
def universal (t : Text) : Text := t.map fun c => if c = '\r' then '\n' else c

theorem infix_universal_iff {s t : Text} (hs : '\n' ∉ s) :
    s <:+: universal t ↔ '\r' ∉ s ∧ s <:+: t := by
  have hself : '\r' ∉ s → s.map (fun c => if c = '\r' then '\n' else c) = s := by
    intro h
    conv_rhs => rw [← List.map_id s]
    apply List.map_congr_left
    intro c hc
    exact if_neg (ne_of_mem_of_not_mem hc h)
  constructor
  · rintro ⟨u, v, h⟩
    obtain ⟨x, y, rfl, hx, -⟩ := List.append_eq_map_iff.1 h
    obtain ⟨a, b, rfl, -, hb⟩ := List.append_eq_map_iff.1 hx.symm
    have hcr : '\r' ∉ b := by
      intro hmem
      exact hs (hb ▸ List.mem_map.2 ⟨'\r', hmem, rfl⟩)
    have hbs : b = s := by
      rw [← hb]
      conv_lhs => rw [← List.map_id b]
      apply List.map_congr_left
      intro c hc
      exact (if_neg (ne_of_mem_of_not_mem hc hcr)).symm
    subst hbs
    exact ⟨hcr, a, y, rfl⟩
  · rintro ⟨hcr, u, v, rfl⟩
    refine ⟨universal u, universal v, ?_⟩
    simp only [universal, List.map_append, hself hcr]

theorem grepQ_universal_iff {p : Pat} (hp : p ≠ []) {t : Text} :
    grepQ p (universal t) = true ↔
      ∃ s, s.length = p.length ∧ matchAt p s = true ∧ '\n' ∉ s ∧ '\r' ∉ s ∧ s <:+: t := by
  rw [grepQ_iff_segment hp]
  refine exists_congr fun s => and_congr_right fun _ => and_congr_right fun _ => ?_
  exact and_congr_right fun hs => infix_universal_iff hs

/-! ## Who looks for it -/

/-- `display_off.cfg`, as a pattern -/
def offName : Pat := dots "display_off.cfg"

/-- `start.sh`: is the output of the console saved? -/
def startSh (cfg : Text) : Bool := grepQ offName cfg

/-- `zdisplay.sh test`: does the screen program go? -/
def zdisplayTest (cfg : Text) : Bool := grepQ offName cfg

/-- The command that a print is started with. -/
inductive Command where
  | sdcardPrintFile | levelingPrintFile | nolevelingPrintFile
  deriving DecidableEq, Repr

/-- `start_print` of Moonraker: the command for a print. -/
def startPrint (cfg vars : Text) : Command :=
  if grepQ offName (universal cfg) then .sdcardPrintFile
  else if grepQ (lit "print_leveling = 1") (universal vars) then .levelingPrintFile
  else .nolevelingPrintFile

theorem startPrint_iff (cfg vars : Text) :
    startPrint cfg vars = .sdcardPrintFile ↔ grepQ offName (universal cfg) = true := by
  rw [startPrint]
  split
  · next h => simp [h]
  · next h =>
    refine iff_of_false ?_ h
    split <;> simp

/-! ## What Klipper loads -/

/-- The path that a line includes: the line without its comment is a header that begins with
`include`. -/
def includeSpec (release : Release) (l : Line) : Option Text :=
  match sectionHeader release (l.takeWhile (· ≠ '#')) with
  | some header => if matchAt (lit "include ") header then some (ConfigParser.strip (header.drop 8)) else none
  | none => none

/-- Klipper loads `display_off.cfg`: a line of `printer.cfg` includes it. -/
def loadsOff (release : Release) (cfg : Text) : Bool :=
  (lines (universal cfg)).any fun l => includeSpec release l == some (str "./mod/display_off.cfg")

theorem strip_within (t : Text) : ConfigParser.strip t <:+: t :=
  (List.rdropWhile_prefix _ _).isInfix.trans (List.dropWhile_suffix _).isInfix

/-- A header stands in its line. -/
theorem infix_of_sectionHeader {release : Release} {t header : Text} (h : sectionHeader release t = some header) :
    header <:+: t := by
  unfold sectionHeader at h
  split at h
  · next rest =>
    have hname : ∀ name : Text, name <+: rest → (if name = [] then none else some name) = some header →
        header <:+: '[' :: rest := by
      intro name hprefix hname
      split_ifs at hname
      obtain rfl := Option.some.inj hname
      exact hprefix.isInfix.trans (List.suffix_cons '[' rest).isInfix
    cases release with
    | py37 =>
      refine hname _ ?_ h
      dsimp only
      split_ifs
      · exact List.takeWhile_prefix _
      · exact List.nil_prefix
    | py311 => exact hname _ ((List.dropLast_prefix _).trans (List.rdropWhile_prefix _ _)) h
  · cases h

/-- A path that a line includes stands in the line. -/
theorem infix_of_includeSpec {release : Release} {l : Line} {path : Text} (h : includeSpec release l = some path) :
    path <:+: l := by
  rw [includeSpec] at h
  split at h
  · next header hheader =>
    split_ifs at h
    obtain rfl := Option.some.inj h
    have hline : header <:+: l := (infix_of_sectionHeader hheader).trans (List.takeWhile_prefix _).isInfix
    exact ((strip_within _).trans (List.drop_suffix _ _).isInfix).trans hline
  · cases h

/-- Every test finds an include that Klipper loads. -/
theorem found_of_loadsOff {release : Release} {cfg : Text} (h : loadsOff release cfg = true) :
    grepQ offName (universal cfg) = true ∧ grepQ offName cfg = true := by
  obtain ⟨l, hl, hspec⟩ := List.any_eq_true.1 h
  have hpath : str "display_off.cfg" <:+: str "./mod/display_off.cfg" := by decide
  have hline := infix_of_includeSpec (eq_of_beq hspec)
  have hnew : '\n' ∉ str "display_off.cfg" := by decide
  have huniversal : str "display_off.cfg" <:+: universal cfg :=
    (infix_iff_mem_lines hnew (by decide)).2 ⟨l, hl, hpath.trans hline⟩
  have hword : str "display_off.cfg" <:+: cfg := ((infix_universal_iff hnew).1 huniversal).2
  have hlen : (str "display_off.cfg").length = offName.length := by decide
  have hmatch : matchAt offName (str "display_off.cfg") = true := by decide
  have hne : offName ≠ [] := by decide
  exact ⟨(grepQ_universal_iff hne).2 ⟨_, hlen, hmatch, hnew, by decide, hword⟩,
    (grepQ_iff_segment hne).2 ⟨_, hlen, hmatch, hnew, hword⟩⟩

/-- What Moonraker finds, `grep` finds. -/
theorem grepQ_of_universal {p : Pat} (hp : p ≠ []) {t : Text} (h : grepQ p (universal t) = true) :
    grepQ p t = true := by
  obtain ⟨s, hlen, hs, hnew, -, hst⟩ := (grepQ_universal_iff hp).1 h
  exact (grepQ_iff_segment hp).2 ⟨s, hlen, hs, hnew, hst⟩

/-! ## One notion of the mode -/

/-- All tests decide for the mode without the screen exactly when Klipper is in it. -/
def Agreed (release : Release) (cfg vars : Text) : Prop :=
  (startPrint cfg vars = .sdcardPrintFile ↔ loadsOff release cfg = true) ∧
    (startSh cfg = true ↔ loadsOff release cfg = true) ∧ (zdisplayTest cfg = true ↔ loadsOff release cfg = true)

/-- **The tests agree with Klipper** exactly when `printer.cfg` includes `display_off.cfg`, or
nothing in it has that name. -/
theorem agreed_iff (release : Release) (cfg vars : Text) :
    Agreed release cfg vars ↔ loadsOff release cfg = true ∨ grepQ offName cfg = false := by
  rw [Agreed, startPrint_iff, startSh, zdisplayTest]
  constructor
  · rintro ⟨-, hgrep, -⟩
    cases h : grepQ offName cfg
    · exact .inr rfl
    · exact .inl (hgrep.1 h)
  · rintro (h | h)
    · obtain ⟨huniversal, hgrep⟩ := found_of_loadsOff h
      exact ⟨iff_of_true huniversal h, iff_of_true hgrep h, iff_of_true hgrep h⟩
    · have hloads : ¬ loadsOff release cfg = true := by
        intro hl
        rw [(found_of_loadsOff hl).2] at h
        cases h
      have hgrep : ¬ grepQ offName cfg = true := by simp [h]
      have huniversal : ¬ grepQ offName (universal cfg) = true :=
        fun hu => hgrep (grepQ_of_universal (by decide) hu)
      exact ⟨iff_of_false huniversal hloads, iff_of_false hgrep hloads, iff_of_false hgrep hloads⟩

/-- `printer.cfg` of a printer with its screen, with a comment. -/
def commentedCfg : Text := unlines (["[include ./mod/mod.cfg]", "[include ./mod_data/user.cfg]",
  "[include ./mod/switch_sensor.cfg]", "# display_off.cfg", "[heater_bed]", "", ""].map str)

/-- `fix_config` leaves it as it is, and the print is sent without the screen. -/
theorem comment_not_agreed :
    (FixConfig.fixConfig Sections.blockDiff commentedCfg
        (unlines (["[gcode_button check_level_pin]", "[controller_fan driver_fan]", "", ""].map str))
        (unlines (["[Variables]", "display_off = 0", "motion_sensor = 0"].map str))).map
          (fun w => unlines w.cfg) = some commentedCfg ∧
      ¬ Agreed .py37 commentedCfg (unlines (["[Variables]", "display_off = 0", "motion_sensor = 0"].map str)) := by
  constructor
  · decide +kernel
  · intro h
    have hloads : loadsOff .py37 commentedCfg = true := h.2.1.1 (by decide +kernel)
    have hnot : loadsOff .py37 commentedCfg = false := by decide +kernel
    rw [hnot] at hloads
    cases hloads

end DisplayMode

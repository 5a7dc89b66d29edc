import Ff5m.Md5.Scripts
import Ff5m.Store.SaveVariables

/-!
# The variables file as it is shared with the scripts

`checkMD5.sh` reports its verdict by editing the line of `check_md5` in the
variables file, while Klipper rewrites the whole file from memory.  A save of
another variable between an edit and the next reload takes the edit back; as long
as there is none, no update is lost.

* `loadVariables_sendKlipper`: on a written file it assigns `check_md5`;
* `Along`: the steps of a run that lose nothing;
* `zload_last_writes`: after such a run a reload gives every variable the value of
  the last write to it.
-/

namespace SaveVariables

open TextTools (Text str Line lit matchAt sedLines)
open ConfigParser GCode

/-- The variable of the verdict. -/
def checkMd5 : Text := str "check_md5"

/-- Numerals are digits. -/
instance neZeroTen : NeZero 10 := ⟨by decide⟩

/-- The text of a digit. -/
def digitText (d : Fin 10) : Text := (Nat.repr d).toList

/-- Python's literals include the digits. -/
structure Digits {V : Type} (py : Python V) where
  ofDigit : Fin 10 → V
  repr_ofDigit : ∀ d, py.repr (ofDigit d) = digitText d
  literalEval_digit : ∀ d, py.literalEval (digitText d) = .ok (ofDigit d)
  lower_checkMd5 : py.lower checkMd5 = checkMd5

/-! ## Editing a written file -/

theorem prefix_of_prefix_append {w k t : Text} {c : Char} (hc : c ∉ w) (h : w <+: k ++ c :: t) :
    w <+: k := by
  by_cases hlen : w.length ≤ k.length
  · exact List.prefix_of_prefix_length_le h (List.prefix_append k _) hlen
  · have hk : k ++ [c] <+: k ++ c :: t := ⟨t, by simp⟩
    have hw : k ++ [c] <+: w :=
      List.prefix_of_prefix_length_le hk h (by rw [List.length_append, List.length_singleton]; omega)
    exact absurd (hw.subset (by simp)) hc

section Edit

variable {V : Type} {py : Python V} (dg : Digits py)

/-- The name `check_md5` with any value that stands on its line. -/
theorem plain_checkMd5 {v : Text} (hv : PlainValue v) (hlower : py.lower checkMd5 = checkMd5) :
    Plain py.release py.lower (checkMd5, v) where
  stable := hlower
  ne_nil := by simp [checkMd5, str]
  no_delimiter := by
    have hall : checkMd5.all (fun c => !isDelimiter c) = true := by decide
    simpa using hall
  one_line := by simp [checkMd5, str]
  trimmed := by
    constructor
    · intro c hc
      obtain rfl : 'c' = c := by simpa [checkMd5, str] using hc
      decide
    · intro c hc
      obtain rfl : '5' = c := by simpa [checkMd5, str] using hc
      decide
  no_comment := by simp [checkMd5, str, ConfigParser.isComment]
  no_section := by cases py.release <;> rfl
  value := hv

/-- `check_md5` with a digit can be stored. -/
theorem storable_checkMd5 (d : Fin 10) : Storable py (checkMd5, dg.ofDigit d) := by
  have hpercent : ∀ d : Fin 10, '%' ∉ digitText d := by decide
  refine ⟨plain_checkMd5 (py.plain_repr _) dg.lower_checkMd5, ?_, ?_⟩
  · rw [dg.repr_ofDigit]
    exact hpercent d
  · rw [dg.repr_ofDigit]
    exact dg.literalEval_digit d

/-- The file as `SAVE_VARIABLE` leaves it, with a line of `check_md5` and no
other that begins like it. -/
structure Editable (py : Python V) (disk : Text) (m : List (Text × V)) : Prop where
  writable : Writable py m
  text : disk = writeSection variablesSection (optionsOf py m)
  present : checkMd5 ∈ m.map Prod.fst
  alone : ∀ k ∈ m.map Prod.fst, checkMd5 <+: k → k = checkMd5

theorem assign_eq_map {m : List (Text × V)} (hm : (m.map Prod.fst).Nodup) {k : Text}
    (hk : k ∈ m.map Prod.fst) (v : V) :
    assign m k v = m.map fun e => if e.1 = k then (k, v) else e := by
  induction m with
  | nil => simp at hk
  | cons e es ih =>
    rw [List.map_cons, List.nodup_cons] at hm
    rw [assign, List.map_cons]
    by_cases he : e.1 = k
    · rw [if_pos he, if_pos he, List.map_congr_left (g := id) ?_, List.map_id]
      intro f hf
      have hne : ¬ f.1 = k := fun hfk => hm.1 (by
        rw [he, ← hfk]
        exact List.mem_map_of_mem hf)
      exact if_neg hne
    · have hes : k ∈ es.map Prod.fst := by
        rw [List.map_cons, List.mem_cons] at hk
        exact hk.resolve_left (Ne.symm he)
      rw [if_neg he, if_neg he, ih hm.2 hes]

/-- The line of an option is the one that `sed` looks for only if the name is. -/
theorem matchAt_optionText_iff (e : Text × Text) :
    matchAt (lit "check_md5") (optionText e) = true ↔ checkMd5 <+: e.1 := by
  have hspace : ' ' ∉ checkMd5 := by decide
  have htext : optionText e = e.1 ++ ' ' :: ('=' :: ' ' :: e.2) := by simp [optionText]
  rw [TextTools.matchAt_lit_iff, htext]
  exact ⟨prefix_of_prefix_append hspace, fun h => h.trans (List.prefix_append _ _)⟩

/-- The edit of an editable file assigns the digit. -/
theorem sendKlipper_eq {disk : Text} {m : List (Text × V)} (h : Editable py disk m) (d : Fin 10) :
    Md5.sendKlipper d disk
      = writeSection variablesSection (optionsOf py (assign m checkMd5 (dg.ofDigit d))) := by
  have hm := h.writable.assign (storable_checkMd5 dg d)
  have hline : ∀ {n : List (Text × V)}, Writable py n → ∀ e ∈ optionsOf py n, '\n' ∉ e.2 := by
    intro n hn e he
    obtain ⟨f, hf, rfl⟩ := List.mem_map.1 he
    exact (hn.storable f hf).plain.value.one_line.1
  have hnl : ∀ l ∈ ('[' :: variablesSection ++ [']']) :: ((optionsOf py m).map optionText ++ [[]]),
      '\n' ∉ l := by
    intro l hl
    rcases List.mem_cons.1 hl with rfl | hl
    · decide
    · rcases List.mem_append.1 hl with hl | hl
      · obtain ⟨e, he, rfl⟩ := List.mem_map.1 hl
        obtain ⟨f, hf, rfl⟩ := List.mem_map.1 he
        have hplain := (h.writable.storable f hf).plain
        simp [optionText, hplain.one_line, hplain.value.one_line]
      · rw [List.mem_singleton.1 hl]
        simp
  have hheader : matchAt (lit "check_md5") ('[' :: variablesSection ++ [']']) = false := by decide
  have hblank : matchAt (lit "check_md5") [] = false := by decide
  have hnew : "check_md5 = ".toList ++ (Nat.repr d).toList
      = optionText (checkMd5, py.repr (dg.ofDigit d)) := by
    rw [dg.repr_ofDigit]
    rfl
  have hoptions : ∀ e ∈ m,
      (if matchAt (lit "check_md5") (optionText (e.1, py.repr e.2)) then
        "check_md5 = ".toList ++ (Nat.repr d).toList else optionText (e.1, py.repr e.2))
      = (fun e : Text × V => optionText (e.1, py.repr e.2))
          (if e.1 = checkMd5 then (checkMd5, dg.ofDigit d) else e) := by
    intro e he
    by_cases hk : e.1 = checkMd5
    · have hmatch := (matchAt_optionText_iff (e.1, py.repr e.2)).2 (by simp [hk])
      rw [if_pos hmatch, if_pos hk, hnew]
    · have hmatch : ¬ matchAt (lit "check_md5") (optionText (e.1, py.repr e.2)) = true := fun hm =>
        hk (h.alone _ (List.mem_map_of_mem he) ((matchAt_optionText_iff _).1 hm))
      rw [if_neg hmatch, if_neg hk]
  rw [writeSection_eq (hline hm), h.text, writeSection_eq (hline h.writable), Md5.sendKlipper, sedLines,
    if_pos (TextTools.terminated_unlines _), TextTools.lines_unlines hnl,
    assign_eq_map h.writable.nodup h.present]
  congr 1
  simp only [List.map_cons, List.map_append, List.map_nil, hheader, hblank, Bool.false_eq_true,
    if_false, optionsOf, List.map_map]
  congr 2
  exact List.map_congr_left hoptions

/-- A reload after the edit sees it. -/
theorem loadVariables_sendKlipper {disk : Text} {m : List (Text × V)} (h : Editable py disk m)
    (d : Fin 10) :
    loadVariables py (Md5.sendKlipper d disk)
      = some (assign m checkMd5 (dg.ofDigit d)) := by
  have hm := h.writable.assign (storable_checkMd5 dg d)
  rw [sendKlipper_eq dg h, loadVariables_written hm.storable hm.nodup]

/-! ## Runs -/

/-- What happens to the store, on either side. -/
inductive Step where
  | save (write : Write) (varname value : Text)
  | zload
  | edit (d : Fin 10)

/-- The store after a step. -/
def apply (py : Python V) (copy : Copy) : Step → Store V → Store V
  | .save write varname value, s => (cmdSaveVariable py copy write varname value s).1
  | .zload, s => (cmdZloadVariable py s).1
  | .edit d, s => { s with disk := Md5.sendKlipper d s.disk }

/-- A sequence of steps. -/
def run (py : Python V) (copy : Copy) (steps : List Step) (s : Store V) : Store V :=
  steps.foldl (fun s a => apply py copy a s) s

variable (copy : Copy)

/-- What a step writes: an assignment, unless it is refused or the file cannot be opened, or a
verdict. -/
def writes : Step → List (Text × V)
  | .save write varname value =>
    if copy = .klipper12 ∧ py.lower varname ≠ varname ∨ write = .unopened then []
    else
      match py.literalEval value with
      | .ok v => [(varname, v)]
      | .error _ => []
  | .zload => []
  | .edit d => [(checkMd5, dg.ofDigit d)]

/-- Memory has the verdict that the file has. -/
def Fresh (py : Python V) (s : Store V) : Prop :=
  ∃ d, loadVariables py s.disk = some d ∧ s.allVariables.lookup checkMd5 = d.lookup checkMd5

/-- The steps that lose nothing: an assignment is refused with a command error, or
it assigns a storable variable while there is no verdict to reload, and the file is
written whole or cannot be opened; an edit finds the file as an assignment leaves it,
with the line it looks for. -/
inductive Harmless : Step → Store V → Prop where
  | zload (s : Store V) : Harmless .zload s
  | refused {write : Write} {varname value : Text} {s : Store V}
      (hnone : writes dg copy (.save .whole varname value) = [])
      (herror : py.literalEval value ≠ .error .other) : Harmless (.save write varname value) s
  | unopened {varname value : Text} {v : V} {s : Store V} (hv : py.literalEval value = .ok v)
      (he : Storable py (varname, v)) : Harmless (.save .unopened varname value) s
  | save {varname value : Text} {v : V} {s : Store V} (hv : py.literalEval value = .ok v)
      (he : Storable py (varname, v)) (hfresh : varname = checkMd5 ∨ Fresh py s) :
      Harmless (.save .whole varname value) s
  | edit {d : Fin 10} {m : List (Text × V)} {s : Store V} (hm : Editable py s.disk m) :
      Harmless (.edit d) s

/-- Every step of the run is harmless. -/
def Along : List Step → Store V → Prop
  | [], _ => True
  | a :: as, s => Harmless dg copy a s ∧ Along as (apply py copy a s)

variable {dg copy}

/-- The invariant of harmless runs: the file holds the map `t` of last writes, and
memory differs from it at most in the verdict. -/
structure Kept (py : Python V) (s : Store V) (d t : List (Text × V)) : Prop where
  load : loadVariables py s.disk = some d
  writable : Writable py s.allVariables
  others : ∀ k, k ≠ checkMd5 → s.allVariables.lookup k = d.lookup k
  last : Same d t
  writable_disk : Writable py d

theorem apply_save_refused {write : Write} {varname value : Text} {s : Store V}
    (hnone : writes dg copy (.save .whole varname value) = []) (herror : py.literalEval value ≠ .error .other) :
    apply py copy (.save write varname value) s = s := by
  simp only [writes, reduceCtorEq, or_false] at hnone
  simp only [apply]
  unfold cmdSaveVariable
  by_cases hname : copy = .klipper12 ∧ py.lower varname ≠ varname
  · rw [if_pos hname]
  · rw [if_neg hname] at hnone ⊢
    cases hv : py.literalEval value with
    | ok v => simp [hv] at hnone
    | error e =>
      cases e with
      | value => rfl
      | other => exact absurd hv herror

/-- A name that is refused is refused whatever becomes of the file. -/
theorem writes_refused {write : Write} {varname value : Text}
    (hnone : writes dg copy (.save .whole varname value) = []) :
    writes dg copy (.save write varname value) = [] := by
  simp only [writes, reduceCtorEq, or_false] at hnone ⊢
  split_ifs with h
  · rfl
  · rwa [if_neg fun hname => h (.inl hname)] at hnone

theorem writes_save {varname value : Text} {v : V} (hv : py.literalEval value = .ok v)
    (he : Storable py (varname, v)) : writes dg copy (.save .whole varname value) = [(varname, v)] := by
  have hname : ¬ (copy = .klipper12 ∧ py.lower varname ≠ varname) := fun h => h.2 he.plain.stable
  simp only [writes, reduceCtorEq, or_false]
  rw [if_neg hname, hv]

/-- A harmless step keeps the invariant. -/
theorem Kept.step {s : Store V} {d t : List (Text × V)} (h : Kept py s d t) {a : Step}
    (ha : Harmless dg copy a s) :
    ∃ d', Kept py (apply py copy a s) d' (update t (writes dg copy a)) := by
  cases ha with
  | zload =>
    have hload : apply py copy .zload s = ⟨s.disk, d⟩ := by
      simp only [apply, cmdZloadVariable, h.load]
    rw [hload]
    exact ⟨d, h.load, h.writable_disk, fun _ _ => rfl, h.last, h.writable_disk⟩
  | refused hnone herror =>
    rw [apply_save_refused hnone herror, writes_refused hnone]
    exact ⟨d, h⟩
  | @unopened varname value v _ hv he =>
    have hnone : writes dg copy (.save .unopened varname value) = [] := if_pos (.inr rfl)
    have hsave : apply py copy (.save .unopened varname value) s = s := by
      simp only [apply, cmdSaveVariable_eq copy .unopened hv h.writable he]
    rw [hsave, hnone]
    exact ⟨d, h⟩
  | @save varname value v _ hv he hfresh =>
    have hm : Writable py (assign s.allVariables varname v) := h.writable.assign he
    have hsorted : Same (sortVariables (assign s.allVariables varname v))
        (assign s.allVariables varname v) :=
      same_of_perm hm.sortVariables.nodup (perm_sortVariables _)
    have hsave : apply py copy (.save .whole varname value) s = written py (assign s.allVariables varname v) := by
      simp only [apply, cmdSaveVariable_storable copy hv h.writable he]
    rw [hsave, writes_save hv he]
    refine ⟨_, loadVariables_disk_written hm, hm.sortVariables, fun _ _ => rfl, ?_, hm.sortVariables⟩
    -- what memory did not know was the verdict, and that was fresh or is assigned
    refine hsorted.trans fun k => ?_
    rw [update, List.foldl_cons, List.foldl_nil, lookup_assign, lookup_assign]
    by_cases hk : k = varname
    · rw [if_pos hk, if_pos hk]
    · rw [if_neg hk, if_neg hk, ← h.last k]
      by_cases hcheck : k = checkMd5
      · obtain ⟨d', hd', hsame⟩ := hfresh.resolve_left fun hv => hk (hcheck.trans hv.symm)
        obtain rfl : d = d' := Option.some.inj (h.load.symm.trans hd')
        rw [hcheck, hsame]
      · exact h.others k hcheck
  | @edit n m _ hm =>
    have hdisk : loadVariables py s.disk = some m := by
      rw [hm.text, loadVariables_written hm.writable.storable hm.writable.nodup]
    obtain rfl : d = m := Option.some.inj (h.load.symm.trans hdisk)
    refine ⟨assign d checkMd5 (dg.ofDigit n), loadVariables_sendKlipper dg hm n, h.writable,
      fun k hk => ?_, h.last.assign _ _, h.writable_disk.assign (storable_checkMd5 dg n)⟩
    rw [lookup_assign, if_neg hk]
    exact h.others k hk

theorem update_append {β : Type} (m as bs : List (Text × β)) :
    update m (as ++ bs) = update (update m as) bs := by
  rw [update, List.foldl_append]
  rfl

/-- A harmless run keeps the invariant. -/
theorem Kept.run {s : Store V} {d t : List (Text × V)} (h : Kept py s d t) {as : List Step}
    (has : Along dg copy as s) :
    ∃ d', Kept py (run py copy as s) d' (update t (as.flatMap (writes dg copy))) := by
  induction as generalizing s d t with
  | nil => exact ⟨d, h⟩
  | cons a as ih =>
    obtain ⟨d', hd'⟩ := h.step has.1
    obtain ⟨d'', hd''⟩ := ih hd' has.2
    refine ⟨d'', ?_⟩
    rw [List.flatMap_cons, update_append]
    exact hd''

/-- After a harmless run a reload succeeds, and gives every variable the value of
the last write to it, whichever side made it. -/
theorem zload_last_writes {s : Store V} (hload : loadVariables py s.disk = some s.allVariables)
    (hinit : ∀ e ∈ s.allVariables, Storable py e) {as : List Step} (has : Along dg copy as s) :
    (cmdZloadVariable py (run py copy as s)).2 = none ∧
      Same (cmdZloadVariable py (run py copy as s)).1.allVariables
        (update s.allVariables (as.flatMap (writes dg copy))) := by
  have hs := writable_of_load hload hinit
  have hstart : Kept py s s.allVariables s.allVariables :=
    ⟨hload, hs, fun _ _ => rfl, fun _ => rfl, hs⟩
  obtain ⟨d, hd⟩ := hstart.run has
  unfold cmdZloadVariable
  rw [hd.load]
  exact ⟨rfl, hd.last⟩

end Edit

/-! ## A lost update -/

/-- The digits of `digits`. -/
def digitsDigits : Digits digits where
  ofDigit d := d
  repr_ofDigit _ := rfl
  literalEval_digit := by decide
  lower_checkMd5 := by decide

/-- A verdict, and a save of another variable before the reload. -/
def lostSteps : List Step :=
  [.save .whole checkMd5 (str "0"), .edit 5, .save .whole (str "a") (str "1")]

/-- The reload finds the verdict taken back. -/
theorem verdict_lost :
    loadVariables digits [] = some [] ∧
    ¬ Same (cmdZloadVariable digits (run digits .stock lostSteps ⟨[], []⟩)).1.allVariables
      (update [] (lostSteps.flatMap (writes digitsDigits .stock))) := by
  refine ⟨by decide, fun h => ?_⟩
  have hcheck := h checkMd5
  have hlost : (cmdZloadVariable digits (run digits .stock lostSteps ⟨[], []⟩)).1.allVariables.lookup
      checkMd5 = some 0 := by
    decide +kernel
  rw [hlost] at hcheck
  exact absurd hcheck (by decide +kernel)

/-- A save of the verdict, the edit, and the reload. -/
theorem zload_last_writes_verdict :
    (cmdZloadVariable digits (run digits .stock [.save .whole checkMd5 (str "0"), .edit 5] ⟨[], []⟩)).2
      = none := by
  have hload : loadVariables digits [] = some [] := by decide
  have hempty : Writable digits (Store.mk [] []).allVariables := writable_of_load hload (by simp)
  have hzero : Storable digits (checkMd5, 0) := storable_checkMd5 digitsDigits 0
  have hliteral : digits.literalEval (str "0") = .ok 0 := by decide
  have hsave := cmdSaveVariable_storable .stock hliteral (s := ⟨[], []⟩) hempty hzero
  have happly : apply digits .stock (.save .whole checkMd5 (str "0")) ⟨[], []⟩
      = written digits (assign [] checkMd5 0) := congrArg Prod.fst hsave
  have hwritten : Writable digits (sortVariables (assign [] checkMd5 (0 : Fin 10))) :=
    (hempty.assign hzero).sortVariables
  have halong : Along digitsDigits .stock [.save .whole checkMd5 (str "0"), .edit 5] ⟨[], []⟩ := by
    refine ⟨.save (v := 0) (by decide) hzero (Or.inl rfl), ?_, trivial⟩
    rw [happly]
    exact .edit ⟨hwritten, rfl, by decide, by decide⟩
  exact (zload_last_writes (s := ⟨[], []⟩) hload (by simp) halong).1

end SaveVariables

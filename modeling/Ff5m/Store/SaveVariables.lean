import Ff5m.GCode.Script
import Ff5m.Store.RoundTrip

/-!
# The variable store

`save_variables.py` keeps the settings of the mod: a map in memory, and a file
that the whole map is written to by every `SAVE_VARIABLE` and read back from.
Two copies of it are installed, and the one for Klipper 12 refuses names with
upper-case letters.

* `cmdSaveVariable`, `cmdZloadVariable`: the two commands;
* `loadVariables_written`: a map of storable variables is read back as it was written;
* `saved_round_trip`: after any sequence of accepted assignments of storable
  variables, memory and file both hold the updated map.
-/

namespace SaveVariables

open TextTools (Text str)
open ConfigParser GCode

/-- How `ast.literal_eval` fails: with a `ValueError`, or with something else,
such as a `SyntaxError`. -/
inductive LiteralError where
  | value
  | other
  deriving DecidableEq

/-- What the store uses of Python: the release, literals and their texts, and `str.lower`. -/
structure Python (V : Type) where
  release : Release
  lower : Text → Text
  repr : V → Text
  literalEval : Text → Except LiteralError V
  plain_repr : ∀ v, PlainValue (repr v)

/-- The two copies of the module. -/
inductive Copy where
  | stock
  | klipper12
  deriving DecidableEq

/-- The variables file and `allVariables`. -/
structure Store (V : Type) where
  disk : Text
  allVariables : List (Text × V)

/-- What becomes of the file when it is written: all of it is, or it cannot be opened, or it
has been emptied and the writing breaks off after so many characters. -/
inductive Write where
  | whole
  | unopened
  | cut (n : ℕ)
  deriving DecidableEq

section Commands

variable {V : Type} (py : Python V)

/-- The section of the file. -/
def variablesSection : Text := str "Variables"

/-- `loadVariables`, on the text of the file; every exception is turned into a
command error. -/
def loadVariables (disk : Text) : Option (List (Text × V)) :=
  (read py.release py.lower disk).bind fun c =>
    if variablesSection ∈ c.sections then
      (items py.lower c variablesSection).bind fun d =>
        d.mapM fun e => (py.literalEval e.2).toOption.map (e.1, ·)
    else some []

/-- `sorted(newvars.items())`; the names are all different. -/
def sortVariables (m : List (Text × V)) : List (Text × V) :=
  m.insertionSort fun e f => ¬ f.1 < e.1

/-- The text that the map is written as; `none` is the `ValueError` of `set`. -/
def render (m : List (Text × V)) : Option Text :=
  ((sortVariables m).foldlM (fun d e => set py.lower d e.1 (py.repr e.2)) []).map
    (writeSection variablesSection)

/-- The end of `cmd_SAVE_VARIABLE`: write the map and read the file back.  Whatever goes wrong
while the file is written is turned into a command error. -/
def writeVariables (write : Write) (newvars : List (Text × V)) (s : Store V) : Store V × Option Failure :=
  match render py newvars with
  | none => (s, some .internal)
  | some text =>
    match write with
    | .unopened => (s, some .command)
    | .cut n => ({ s with disk := text.take n }, some .command)
    | .whole =>
      match loadVariables py text with
      | none => ({ s with disk := text }, some .command)
      | some m => (⟨text, m⟩, none)

/-- `cmd_SAVE_VARIABLE`. -/
def cmdSaveVariable (copy : Copy) (write : Write) (varname value : Text) (s : Store V) :
    Store V × Option Failure :=
  if copy = .klipper12 ∧ py.lower varname ≠ varname then (s, some .command)
  else
    match py.literalEval value with
    | .error .value => (s, some .command)
    | .error .other => (s, some .internal)
    | .ok v => writeVariables py write (assign s.allVariables varname v) s

/-- `cmd_ZLOAD_VARIABLE`. -/
def cmdZloadVariable (s : Store V) : Store V × Option Failure :=
  match loadVariables py s.disk with
  | none => (s, some .command)
  | some m => ({ s with allVariables := m }, none)

/-! ## Maps -/

theorem lookup_eq_some_iff {β : Type} {m : List (Text × β)} (h : (m.map Prod.fst).Nodup) {k : Text}
    {v : β} : m.lookup k = some v ↔ (k, v) ∈ m := by
  induction m with
  | nil => simp
  | cons e es ih =>
    rw [List.map_cons, List.nodup_cons] at h
    rw [List.lookup_cons, List.mem_cons]
    by_cases hk : k = e.1
    · subst hk
      simp only [beq_self_eq_true, Option.some.injEq]
      constructor
      · rintro rfl
        exact Or.inl rfl
      · rintro (heq | hm)
        · rw [← heq]
        · exact absurd (List.mem_map_of_mem hm) h.1
    · rw [beq_eq_false_iff_ne.2 hk]
      simp only [ih h.2]
      constructor
      · exact Or.inr
      · rintro (heq | hm)
        · exact absurd (congrArg Prod.fst heq) hk
        · exact hm

/-- Two maps with the same look-ups. -/
def Same {β : Type} (m n : List (Text × β)) : Prop := ∀ k, m.lookup k = n.lookup k

theorem Same.symm {β : Type} {m n : List (Text × β)} (h : Same m n) : Same n m := fun k => (h k).symm

theorem Same.trans {β : Type} {m n o : List (Text × β)} (h : Same m n) (h' : Same n o) : Same m o :=
  fun k => (h k).trans (h' k)

theorem Same.assign {β : Type} {m n : List (Text × β)} (h : Same m n) (k : Text) (v : β) :
    Same (assign m k v) (assign n k v) := by
  intro l
  rw [lookup_assign, lookup_assign, h l]

theorem Same.update {β : Type} {m n : List (Text × β)} (h : Same m n) (as : List (Text × β)) :
    Same (update m as) (update n as) := by
  induction as generalizing m n with
  | nil => exact h
  | cons a as ih => exact ih (h.assign a.1 a.2)

/-- The order of a dictionary does not matter. -/
theorem same_of_perm {β : Type} {m n : List (Text × β)} (h : (m.map Prod.fst).Nodup)
    (hp : m.Perm n) : Same m n := by
  intro k
  have hn : (n.map Prod.fst).Nodup := (hp.map Prod.fst).nodup_iff.1 h
  apply Option.ext
  intro v
  rw [lookup_eq_some_iff h, lookup_eq_some_iff hn]
  exact hp.mem_iff

theorem perm_sortVariables (m : List (Text × V)) : (sortVariables m).Perm m :=
  List.perm_insertionSort _ m

theorem nodup_sortVariables {m : List (Text × V)} (h : (m.map Prod.fst).Nodup) :
    ((sortVariables m).map Prod.fst).Nodup :=
  ((perm_sortVariables m).map Prod.fst).nodup_iff.2 h

/-! ## Writing and loading -/

/-- A variable that the file can hold: its line is read back as what it was, and
its text as its value. -/
structure Storable (e : Text × V) : Prop where
  plain : Plain py.release py.lower (e.1, py.repr e.2)
  no_percent : '%' ∉ py.repr e.2
  reads_back : py.literalEval (py.repr e.2) = .ok e.2

/-- The options that a map is written as. -/
def optionsOf (m : List (Text × V)) : List (Text × Text) := m.map fun e => (e.1, py.repr e.2)

theorem keys_optionsOf (m : List (Text × V)) : (optionsOf py m).map Prod.fst = m.map Prod.fst := by
  simp [optionsOf]

variable {py}

/-- The options of a map; of names that differ in case only, the one that is sorted last
counts. -/
def lowered (py : Python V) (m : List (Text × V)) : List (Text × Text) :=
  update [] ((sortVariables m).map fun e => (py.lower e.1, py.repr e.2))

theorem foldlM_set (m : List (Text × V)) (d : List (Text × Text)) :
    m.foldlM (fun d e => set py.lower d e.1 (py.repr e.2)) d
      = if ∀ e ∈ m, Settable (py.repr e.2) then
          some (update d (m.map fun e => (py.lower e.1, py.repr e.2)))
        else none := by
  induction m generalizing d with
  | nil => simp [update]
  | cons e es ih =>
    rw [List.foldlM_cons, set_eq_ite]
    by_cases he : Settable (py.repr e.2)
    · have hall : (∀ f ∈ e :: es, Settable (py.repr f.2)) ↔ ∀ f ∈ es, Settable (py.repr f.2) := by
        rw [List.forall_mem_cons]
        exact and_iff_right he
      rw [if_pos he, Option.bind_eq_bind, Option.bind_some, ih, if_congr hall rfl rfl]
      rfl
    · rw [if_neg he, if_neg fun h => he (h e (by simp))]
      rfl

/-- When a map can be written, and its text. -/
theorem render_eq_ite (m : List (Text × V)) :
    render py m = if ∀ e ∈ m, Settable (py.repr e.2) then
        some (writeSection variablesSection (lowered py m))
      else none := by
  have hall : (∀ e ∈ sortVariables m, Settable (py.repr e.2)) ↔ ∀ e ∈ m, Settable (py.repr e.2) :=
    ⟨fun h e he => h e ((perm_sortVariables m).mem_iff.2 he),
      fun h e he => h e ((perm_sortVariables m).mem_iff.1 he)⟩
  rw [render, foldlM_set, if_congr hall rfl rfl]
  by_cases h : ∀ e ∈ m, Settable (py.repr e.2)
  · rw [if_pos h, if_pos h]
    rfl
  · rw [if_neg h, if_neg h]
    rfl

/-- The options of a map with plain names. -/
theorem lowered_eq {m : List (Text × V)} (h : ∀ e ∈ m, py.lower e.1 = e.1) (hm : (m.map Prod.fst).Nodup) :
    lowered py m = optionsOf py (sortVariables m) := by
  have hnames : (sortVariables m).map (fun e => (py.lower e.1, py.repr e.2)) = optionsOf py (sortVariables m) :=
    List.map_congr_left fun e he => by rw [h e ((perm_sortVariables m).mem_iff.1 he)]
  have hnodup : (([] ++ optionsOf py (sortVariables m)).map Prod.fst).Nodup := by
    rw [List.nil_append, keys_optionsOf]
    exact nodup_sortVariables hm
  rw [lowered, hnames, update_append_of_nodup hnodup, List.nil_append]

/-- The text of a map of storable variables. -/
theorem render_eq {m : List (Text × V)} (h : ∀ e ∈ m, Storable py e) (hm : (m.map Prod.fst).Nodup) :
    render py m = some (writeSection variablesSection (optionsOf py (sortVariables m))) := by
  rw [render_eq_ite, if_pos fun e he => settable_of_no_percent (h e he).no_percent,
    lowered_eq (fun e he => (h e he).plain.stable) hm]

theorem mapM_literalEval {m : List (Text × V)} (h : ∀ e ∈ m, Storable py e) :
    (optionsOf py m).mapM (fun e => (py.literalEval e.2).toOption.map (e.1, ·)) = some m := by
  induction m with
  | nil => rfl
  | cons e es ih =>
    have hes := ih fun f hf => h f (by simp [hf])
    simp only [optionsOf, List.map_cons, List.mapM_cons] at hes ⊢
    rw [(h e (by simp)).reads_back, hes]
    rfl

/-- What was written is read back. -/
theorem loadVariables_written {m : List (Text × V)} (h : ∀ e ∈ m, Storable py e)
    (hm : (m.map Prod.fst).Nodup) :
    loadVariables py (writeSection variablesSection (optionsOf py m)) = some m := by
  have hplain : ∀ e ∈ optionsOf py m, Plain py.release py.lower e := by
    intro e he
    obtain ⟨f, hf, rfl⟩ := List.mem_map.1 he
    exact (h f hf).plain
  have hpercent : ∀ e ∈ optionsOf py m, '%' ∉ e.2 := by
    intro e he
    obtain ⟨f, hf, rfl⟩ := List.mem_map.1 he
    exact (h f hf).no_percent
  have hkeys : ((optionsOf py m).map Prod.fst).Nodup := by rwa [keys_optionsOf]
  have hname : variablesSection ≠ defaultSection := by decide
  rw [loadVariables, read_writeSection (by decide) (by decide) (by decide) hplain hkeys,
    Option.bind_some, if_neg hname, if_pos (by simp), items_writeSection hname hkeys hpercent,
    Option.bind_some, mapM_literalEval h]

/-! ## The invariant of the store -/

/-- A map that the file can hold. -/
structure Writable (py : Python V) (m : List (Text × V)) : Prop where
  nodup : (m.map Prod.fst).Nodup
  storable : ∀ e ∈ m, Storable py e

theorem Writable.assign {m : List (Text × V)} (h : Writable py m) {e : Text × V}
    (he : Storable py e) : Writable py (assign m e.1 e.2) where
  nodup := nodup_assign h.nodup e.1 e.2
  storable f hf := by
    rcases mem_assign hf with rfl | hf
    · exact he
    · exact h.storable f hf

theorem Writable.sortVariables {m : List (Text × V)} (h : Writable py m) :
    Writable py (sortVariables m) where
  nodup := nodup_sortVariables h.nodup
  storable e he := h.storable e ((perm_sortVariables m).mem_iff.1 he)

theorem mapM_keys {β γ : Type} {d : List (Text × β)} {f : β → Option γ} {m : List (Text × γ)}
    (h : (d.mapM fun e => (f e.2).map (e.1, ·)) = some m) : m.map Prod.fst = d.map Prod.fst := by
  induction d generalizing m with
  | nil =>
    obtain rfl : m = [] := by simpa using h.symm
    rfl
  | cons e es ih =>
    simp only [List.mapM_cons, Option.bind_eq_bind, Option.bind_eq_some_iff] at h
    obtain ⟨p, hp, ps, hps, hm⟩ := h
    obtain rfl : p :: ps = m := by simpa using hm
    obtain ⟨v, -, rfl⟩ := Option.map_eq_some_iff.1 hp
    rw [List.map_cons, List.map_cons, ih hps]

theorem nodup_update {β : Type} {d : List (Text × β)} (h : (d.map Prod.fst).Nodup)
    (e : List (Text × β)) : ((update d e).map Prod.fst).Nodup := by
  induction e generalizing d with
  | nil => exact h
  | cons p ps ih => exact ih (nodup_assign h p.1 p.2)

/-- A loaded map has every name once. -/
theorem nodup_loadVariables {disk : Text} {m : List (Text × V)}
    (h : loadVariables py disk = some m) : (m.map Prod.fst).Nodup := by
  obtain ⟨c, hc, h⟩ := Option.bind_eq_some_iff.1 h
  split_ifs at h
  · obtain ⟨d, hd, hm⟩ := Option.bind_eq_some_iff.1 h
    rw [mapM_keys (f := fun t => (py.literalEval t).toOption) hm,
      mapM_keys (f := interpolate py.lower _ maxDepth) hd]
    exact nodup_update (by simp) _
  · obtain rfl : [] = m := by simpa using h
    simp

/-- Memory holds a map that the file can hold. -/
theorem writable_of_load {s : Store V} (hload : loadVariables py s.disk = some s.allVariables)
    (hinit : ∀ e ∈ s.allVariables, Storable py e) : Writable py s.allVariables :=
  ⟨nodup_loadVariables hload, hinit⟩

/-- The store after an assignment. -/
def written (py : Python V) (m : List (Text × V)) : Store V :=
  ⟨writeSection variablesSection (optionsOf py (sortVariables m)), sortVariables m⟩

theorem loadVariables_disk_written {m : List (Text × V)} (h : Writable py m) :
    loadVariables py (written py m).disk = some (written py m).allVariables :=
  loadVariables_written h.sortVariables.storable h.sortVariables.nodup

/-- What becomes of an assignment of a storable variable. -/
theorem cmdSaveVariable_eq (copy : Copy) (write : Write) {varname value : Text} {v : V}
    (hv : py.literalEval value = .ok v) {s : Store V} (hs : Writable py s.allVariables)
    (he : Storable py (varname, v)) :
    cmdSaveVariable py copy write varname value s = match write with
      | .whole => (written py (assign s.allVariables varname v), none)
      | .unopened => (s, some .command)
      | .cut n => ({ s with disk := (written py (assign s.allVariables varname v)).disk.take n }, some .command) := by
  have hm : Writable py (assign s.allVariables varname v) := hs.assign he
  have hload := loadVariables_disk_written hm
  have hname : ¬ (copy = .klipper12 ∧ py.lower varname ≠ varname) := by
    rintro ⟨-, hne⟩
    exact hne he.plain.stable
  rw [written] at hload
  unfold cmdSaveVariable
  rw [if_neg hname, hv]
  cases write with
  | whole =>
    simp only [writeVariables, render_eq hm.storable hm.nodup, hload]
    rfl
  | unopened => simp only [writeVariables, render_eq hm.storable hm.nodup]
  | cut n =>
    simp only [writeVariables, render_eq hm.storable hm.nodup]
    rfl

/-- An assignment of a storable variable is accepted, and writes the updated map. -/
theorem cmdSaveVariable_storable (copy : Copy) {varname value : Text} {v : V}
    (hv : py.literalEval value = .ok v) {s : Store V} (hs : Writable py s.allVariables)
    (he : Storable py (varname, v)) :
    cmdSaveVariable py copy .whole varname value s
      = (written py (assign s.allVariables varname v), none) :=
  cmdSaveVariable_eq copy .whole hv hs he

/-! ## The round trip -/

/-- Accepted assignments, one after the other: the variables and the values they
were given. -/
inductive Saved (py : Python V) (copy : Copy) : List (Text × V) → Store V → Store V → Prop where
  | nil (s : Store V) : Saved py copy [] s s
  | cons {write : Write} {varname value : Text} {v : V} {as : List (Text × V)} {s s' s'' : Store V}
      (hv : py.literalEval value = .ok v)
      (hsave : cmdSaveVariable py copy write varname value s = (s', none))
      (hrest : Saved py copy as s' s'') : Saved py copy ((varname, v) :: as) s s''

/-- Memory and file hold the map. -/
def Holds (py : Python V) (s : Store V) (m : List (Text × V)) : Prop :=
  Same s.allVariables m ∧ ∃ d, loadVariables py s.disk = some d ∧ Same d m

/-- A run of assignments of storable variables keeps the map writable, and leaves
memory and file with the updates. -/
theorem Saved.holds {copy : Copy} {as : List (Text × V)} {s s' : Store V}
    (hrun : Saved py copy as s s') (hs : Writable py s.allVariables)
    (hload : loadVariables py s.disk = some s.allVariables) (has : ∀ e ∈ as, Storable py e) :
    Holds py s' (update s.allVariables as) := by
  induction hrun with
  | nil s => exact ⟨fun _ => rfl, s.allVariables, hload, fun _ => rfl⟩
  | @cons write varname value v as s s' s'' hv hsave hrest ih =>
    have he : Storable py (varname, v) := has _ (by simp)
    have hm : Writable py (assign s.allVariables varname v) := hs.assign he
    rw [cmdSaveVariable_eq copy write hv hs he] at hsave
    -- what is accepted has been written
    obtain rfl : write = .whole := by
      cases write with
      | whole => rfl
      | unopened => simp at hsave
      | cut n => simp at hsave
    obtain rfl : written py (assign s.allVariables varname v) = s' := (Prod.mk.inj hsave).1
    obtain ⟨hmem, d, hd, hdisk⟩ := ih hm.sortVariables (loadVariables_disk_written hm)
      fun e he => has e (by simp [he])
    have hsame : Same (update (sortVariables (assign s.allVariables varname v)) as)
        (update (assign s.allVariables varname v) as) :=
      Same.update (same_of_perm hm.sortVariables.nodup (perm_sortVariables _)) as
    exact ⟨hmem.trans hsame, d, hd, hdisk.trans hsame⟩

/-- After any sequence of accepted assignments of storable variables to a store
of storable variables, memory and file both hold the initial map with the
assignments in their order. -/
theorem saved_round_trip (py : Python V) (copy : Copy) {as : List (Text × V)} {s s' : Store V}
    (hload : loadVariables py s.disk = some s.allVariables)
    (hinit : ∀ e ∈ s.allVariables, Storable py e) (has : ∀ e ∈ as, Storable py e)
    (hrun : Saved py copy as s s') : Holds py s' (update s.allVariables as) :=
  hrun.holds (writable_of_load hload hinit) hload has

end Commands

/-! ## Stores of digits -/

theorem repr_digit (d : Fin 10) : (Nat.repr d).toList = [Char.ofNat (48 + d)] := by
  revert d
  decide

/-- Python as far as single digits go. -/
def digitsOf (release : Release) : Python (Fin 10) where
  release := release
  lower t := t.map Char.toLower
  repr d := (Nat.repr d).toList
  literalEval
    | [c] => if h : 48 ≤ c.toNat ∧ c.toNat < 58 then .ok ⟨c.toNat - 48, by omega⟩ else .error .value
    | _ => .error .other
  plain_repr d := by
    rw [repr_digit d]
    refine ⟨by simp, ?_, ?_, ?_⟩
    · revert d
      decide
    all_goals
      rintro c hc
      obtain rfl : Char.ofNat (48 + d) = c := by simpa using hc
      revert d
      decide

/-- The Python of the stock copy. -/
abbrev digits : Python (Fin 10) := digitsOf .py37

/-- A letter with a digit can be stored. -/
theorem storable_letter (release : Release) {c : Char} (hc : c ∈ str "abc") (d : Fin 10) :
    Storable (digitsOf release) ([c], d) := by
  have hplain : c.toLower = c ∧ isDelimiter c = false ∧ c ≠ '\n' ∧ c ≠ '\r' ∧ isSpace c = false ∧
      isComment [c] = false ∧ c ≠ '[' := by
    obtain rfl | rfl | rfl : c = 'a' ∨ c = 'b' ∨ c = 'c' := by simpa [str] using hc
    all_goals decide
  have hpercent : '%' ∉ (Nat.repr d).toList := by
    rw [repr_digit d]
    revert d
    decide
  have hread : ∀ d : Fin 10, (digitsOf release).literalEval (Nat.repr d).toList = .ok d := by
    intro d
    fin_cases d <;> rfl
  obtain ⟨hlower, hdelimiter, hn, hr, hspace, hcomment, hbracket⟩ := hplain
  refine ⟨⟨?_, by simp, by simpa using hdelimiter, ?_, ⟨?_, ?_⟩, hcomment, ?_, (digitsOf release).plain_repr d⟩,
    hpercent, hread d⟩
  · exact congrArg (fun c => [c]) hlower
  · simp [Ne.symm hn, Ne.symm hr]
  · simpa using hspace
  · simpa using hspace
  · simp only [optionText, List.cons_append, List.nil_append]
    unfold sectionHeader
    split
    · next heq => exact absurd (List.cons.inj heq).1 hbracket
    · rfl

/-- `b = 2` is in the file, and three assignments follow. -/
theorem saved_round_trip_letters : ∃ s, Holds (digitsOf .py311) s
    (update [(str "b", 2)] [(str "c", 3), (str "a", 1), (str "c", 4)]) := by
  have hb : Writable (digitsOf .py311) [(str "b", (2 : Fin 10))] :=
    ⟨by simp, fun e he => List.mem_singleton.1 he ▸ storable_letter .py311 (c := 'b') (by decide) 2⟩
  have hload := loadVariables_disk_written hb
  have hsorted := hb.sortVariables
  have hstorable : ∀ e ∈ [(str "c", (3 : Fin 10)), (str "a", 1), (str "c", 4)], Storable (digitsOf .py311) e := by
    intro e he
    simp only [List.mem_cons, List.not_mem_nil, or_false] at he
    rcases he with rfl | rfl | rfl
    · exact storable_letter .py311 (c := 'c') (by decide) 3
    · exact storable_letter .py311 (c := 'a') (by decide) 1
    · exact storable_letter .py311 (c := 'c') (by decide) 4
  have hc := hstorable (str "c", 3) (by simp)
  have ha := hstorable (str "a", 1) (by simp)
  have hc' := hstorable (str "c", 4) (by simp)
  have hone := hsorted.assign hc
  have htwo := hone.sortVariables.assign ha
  have hread3 : (digitsOf .py311).literalEval (str "3") = .ok 3 := rfl
  have hread1 : (digitsOf .py311).literalEval (str "1") = .ok 1 := rfl
  have hread4 : (digitsOf .py311).literalEval (str "4") = .ok 4 := rfl
  have hrun : Saved (digitsOf .py311) .klipper12 [(str "c", 3), (str "a", 1), (str "c", 4)]
      (written (digitsOf .py311) [(str "b", 2)]) _ :=
    .cons hread3 (cmdSaveVariable_storable .klipper12 hread3 hsorted hc)
      (.cons hread1 (cmdSaveVariable_storable .klipper12 hread1 hone.sortVariables ha)
        (.cons hread4 (cmdSaveVariable_storable .klipper12 hread4 htwo.sortVariables hc') (.nil _)))
  exact ⟨_, saved_round_trip (digitsOf .py311) .klipper12 hload hsorted.storable hstorable hrun⟩

/-- A name with an upper-case letter is stored under another name. -/
theorem upper_case_lost : ∃ s, loadVariables digits [] = some [] ∧
    Saved digits .stock [(str "Foo", 1)] ⟨[], []⟩ s ∧
    ¬ Holds digits s (update [] [(str "Foo", 1)]) := by
  have haccepted : (cmdSaveVariable digits .stock .whole (str "Foo") (str "1") ⟨[], []⟩).2 = none := by
    decide +kernel
  have hlost : (cmdSaveVariable digits .stock .whole (str "Foo") (str "1") ⟨[], []⟩).1.allVariables.lookup
      (str "Foo") = none := by
    decide +kernel
  refine ⟨(cmdSaveVariable digits .stock .whole (str "Foo") (str "1") ⟨[], []⟩).1, by decide,
    .cons (by decide) (Prod.ext rfl haccepted) (.nil _), fun h => ?_⟩
  have hfoo := h.1 (str "Foo")
  rw [hlost] at hfoo
  exact absurd hfoo (by decide)

end SaveVariables

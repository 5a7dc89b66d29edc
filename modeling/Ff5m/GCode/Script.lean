import Mathlib

/-!
# G-code scripts with macros

A macro of Klipper is a template: when the macro is invoked the template is
rendered once, against the state the printer is in at that moment, and the
commands it yields are then executed one after the other.  A command of a
rendered script may again be a macro, which is rendered when its turn comes.

A `Script` is either a native command or such a template, kept as the function
from states to rendered scripts; macros that call each other without a cycle are
values of this type, and executing them terminates by structural recursion.  A
command that raises an error ends the script it stands in, and all scripts
around that one.

* `Script.exec`, `Script.execAll`: executing one script, or one after the other;
  the run keeps every native command together with the state it found;
* `Script.exec_invariant`: what the native commands preserve, a script preserves;
* `Script.Only`: the commands a script is limited to, with the rules `log`, `rel`,
  `frame` and `raised` for what they leave alone;
* `Script.map`: a script within a larger set of commands, and its run (`exec_map`);
* `session`: scripts given from outside, where an error ends only its own script;
* `session_append`: a session in two parts;
* `session_invariant`: the same for a session whose commands all meet a condition;
* `along_of_invariant`: the same for what holds of single steps.
-/

namespace GCode

/-- A native command, or a macro that is rendered when it is invoked. -/
inductive Script (κ σ : Type) where
  | cmd (k : κ)
  | call (render : σ → List (Script κ σ))

/-- The two kinds of failure: a command error is answered and leaves the printer
running, any other exception shuts it down. -/
inductive Failure where
  | command
  | internal
  deriving DecidableEq

/-- What a script did: the state it left, the native commands it executed with
the states they found, and the failure it ended in, if any. -/
structure Run (κ σ : Type) where
  state : σ
  log : List (κ × σ)
  raised : Option Failure

/-- One run, and what follows it unless it ended in a failure. -/
def Run.andThen {κ σ : Type} (r : Run κ σ) (next : σ → Run κ σ) : Run κ σ :=
  if r.raised.isSome then r
  else ⟨(next r.state).state, r.log ++ (next r.state).log, (next r.state).raised⟩

section Exec

variable {κ σ : Type}

/-- `native k s` is the state after the native command `k`, and how it failed. -/
abbrev Native (κ σ : Type) := κ → σ → σ × Option Failure

mutual

/-- Execute one script. -/
def Script.exec (native : Native κ σ) : Script κ σ → σ → Run κ σ
  | .cmd k, s => ⟨(native k s).1, [(k, s)], (native k s).2⟩
  | .call render, s => Script.execAll native (render s) s

/-- Execute scripts one after the other, up to the first error. -/
def Script.execAll (native : Native κ σ) : List (Script κ σ) → σ → Run κ σ
  | [], s => ⟨s, [], none⟩
  | c :: cs, s => (Script.exec native c s).andThen (Script.execAll native cs)

end

variable (native : Native κ σ)

/-! ## Executing -/

@[simp] theorem Script.exec_cmd (k : κ) (s : σ) :
    Script.exec native (.cmd k) s = ⟨(native k s).1, [(k, s)], (native k s).2⟩ := by
  rw [Script.exec]

@[simp] theorem Script.exec_call (render : σ → List (Script κ σ)) (s : σ) :
    Script.exec native (.call render) s = Script.execAll native (render s) s := by
  rw [Script.exec]

@[simp] theorem Script.execAll_nil (s : σ) : Script.execAll native [] s = ⟨s, [], none⟩ := by
  rw [Script.execAll]

@[simp] theorem Script.execAll_cons (c : Script κ σ) (cs : List (Script κ σ)) (s : σ) :
    Script.execAll native (c :: cs) s
      = (Script.exec native c s).andThen (Script.execAll native cs) := by
  rw [Script.execAll]

@[simp] theorem Run.andThen_mk_some (s : σ) (l : List (κ × σ)) (e : Failure) (next : σ → Run κ σ) :
    (Run.mk s l (some e)).andThen next = ⟨s, l, some e⟩ := rfl

@[simp] theorem Run.andThen_mk_none (s : σ) (l : List (κ × σ)) (next : σ → Run κ σ) :
    (Run.mk s l none).andThen next
      = ⟨(next s).state, l ++ (next s).log, (next s).raised⟩ := rfl

@[simp] theorem Run.andThen_execAll_nil (r : Run κ σ) : r.andThen (Script.execAll native []) = r := by
  unfold Run.andThen
  by_cases h : r.raised.isSome = true
  · rw [if_pos h]
  · rw [if_neg h, Script.execAll_nil, List.append_nil]
    cases r
    simp_all

theorem Script.execAll_singleton (c : Script κ σ) :
    Script.execAll native [c] = Script.exec native c := by
  funext s
  rw [execAll_cons, Run.andThen_execAll_nil]

theorem Run.andThen_assoc (r : Run κ σ) (f g : σ → Run κ σ) :
    (r.andThen f).andThen g = r.andThen fun s => (f s).andThen g := by
  unfold Run.andThen
  by_cases h : r.raised.isSome = true
  · simp [h]
  · by_cases h' : (f r.state).raised.isSome = true <;> simp [h, h']

theorem Script.execAll_append (cs ds : List (Script κ σ)) (s : σ) :
    Script.execAll native (cs ++ ds) s
      = (Script.execAll native cs s).andThen (Script.execAll native ds) := by
  induction cs generalizing s with
  | nil => simp
  | cons c cs ih =>
    rw [List.cons_append, execAll_cons, execAll_cons, Run.andThen_assoc]
    congr 1
    funext s'
    exact ih s'

/-- Both parts of a run that did not fail, and its log. -/
theorem Run.andThen_of_raised_none {r : Run κ σ} {next : σ → Run κ σ}
    (h : (r.andThen next).raised = none) :
    r.raised = none ∧ (next r.state).raised = none ∧
      (r.andThen next).log = r.log ++ (next r.state).log := by
  unfold Run.andThen at h ⊢
  by_cases hr : r.raised.isSome = true
  · rw [if_pos hr] at h
    exact absurd h (Option.isSome_iff_ne_none.1 hr)
  · rw [if_neg hr] at h ⊢
    exact ⟨by simpa using hr, h, rfl⟩

/-- A run in two parts that did not fail. -/
theorem Run.andThen_done {r : Run κ σ} {next : σ → Run κ σ} {u : σ} {l : List (κ × σ)}
    (h : r.andThen next = ⟨u, l, none⟩) :
    ∃ t l₁ l₂, r = ⟨t, l₁, none⟩ ∧ next t = ⟨u, l₂, none⟩ ∧ l = l₁ ++ l₂ := by
  obtain ⟨t, l₁, e⟩ := r
  cases e with
  | some e =>
    rw [Run.andThen_mk_some] at h
    exact absurd (congrArg Run.raised h) (by simp)
  | none =>
    rw [Run.andThen_mk_none] at h
    obtain ⟨hstate, hlog, hraised⟩ := Run.mk.inj h
    exact ⟨t, l₁, (next t).log, rfl, by rw [← hstate, ← hraised], hlog.symm⟩

/-- A native command that did not fail. -/
theorem Script.exec_cmd_done {k : κ} {s t : σ} {l : List (κ × σ)}
    (h : Script.exec native (.cmd k) s = ⟨t, l, none⟩) : native k s = (t, none) ∧ l = [(k, s)] := by
  rw [exec_cmd] at h
  obtain ⟨hstate, hlog, hraised⟩ := Run.mk.inj h
  exact ⟨Prod.ext hstate hraised, hlog.symm⟩

/-! ## Invariants of a script -/

/-- The state and all states found on the way satisfy `I`. -/
def Run.Within (I : σ → Prop) (r : Run κ σ) : Prop := I r.state ∧ ∀ e ∈ r.log, I e.2

/-- What the first run establishes and the second preserves. -/
theorem Run.andThen_state {P : σ → Prop} {r : Run κ σ} {next : σ → Run κ σ} (h : P r.state)
    (hnext : ∀ s, P s → P (next s).state) : P (r.andThen next).state := by
  unfold Run.andThen
  by_cases hr : r.raised.isSome = true
  · rwa [if_pos hr]
  · rw [if_neg hr]
    exact hnext r.state h

theorem Run.Within.andThen {I : σ → Prop} {r : Run κ σ} {next : σ → Run κ σ} (h : r.Within I)
    (hnext : ∀ s, I s → (next s).Within I) : (r.andThen next).Within I := by
  unfold Run.andThen
  by_cases hr : r.raised.isSome = true
  · rw [if_pos hr]
    exact h
  · rw [if_neg hr]
    obtain ⟨hs, hlog⟩ := hnext r.state h.1
    refine ⟨hs, fun e he => ?_⟩
    rcases List.mem_append.1 he with he | he
    · exact h.2 e he
    · exact hlog e he

variable {native}

mutual

/-- A script preserves what the native commands preserve. -/
theorem Script.exec_invariant {I : σ → Prop} (hI : ∀ k s, I s → I (native k s).1) :
    ∀ (c : Script κ σ) (s : σ), I s → (Script.exec native c s).Within I
  | .cmd k, s, hs => by
    rw [exec_cmd]
    exact ⟨hI k s hs, by simpa using hs⟩
  | .call render, s, hs => by
    rw [exec_call]
    exact Script.execAll_invariant hI (render s) s hs

theorem Script.execAll_invariant {I : σ → Prop} (hI : ∀ k s, I s → I (native k s).1) :
    ∀ (cs : List (Script κ σ)) (s : σ), I s → (Script.execAll native cs s).Within I
  | [], s, hs => by
    rw [execAll_nil]
    exact ⟨hs, by simp⟩
  | c :: cs, s, hs => by
    rw [execAll_cons]
    exact (Script.exec_invariant hI c s hs).andThen fun s' hs' =>
      Script.execAll_invariant hI cs s' hs'

end

/-! ## What a script may execute -/

/-- Every native command that the script can come to satisfies `Q`, whatever the
states its templates are rendered in. -/
inductive Script.Only (Q : κ → Prop) : Script κ σ → Prop where
  | cmd {k : κ} : Q k → Only Q (.cmd k)
  | call {render : σ → List (Script κ σ)} :
      (∀ s, ∀ c ∈ render s, Only Q c) → Only Q (.call render)

@[simp] theorem Script.only_cmd {Q : κ → Prop} {k : κ} :
    (Script.cmd k : Script κ σ).Only Q ↔ Q k :=
  ⟨fun h => by cases h with | cmd hk => exact hk, .cmd⟩

/-- The same of scripts that are executed one after the other. -/
def Script.OnlyAll (Q : κ → Prop) (cs : List (Script κ σ)) : Prop := ∀ c ∈ cs, c.Only Q

@[simp] theorem Script.only_call {Q : κ → Prop} {render : σ → List (Script κ σ)} :
    Script.Only Q (.call render) ↔ ∀ s, Script.OnlyAll Q (render s) :=
  ⟨fun h => by cases h with | call hc => exact hc, .call⟩

@[simp] theorem Script.onlyAll_nil {Q : κ → Prop} : Script.OnlyAll Q ([] : List (Script κ σ)) := by
  intro c hc
  cases hc

@[simp] theorem Script.onlyAll_cons {Q : κ → Prop} {c : Script κ σ} {cs : List (Script κ σ)} :
    Script.OnlyAll Q (c :: cs) ↔ c.Only Q ∧ Script.OnlyAll Q cs :=
  List.forall_mem_cons

@[simp] theorem Script.onlyAll_append {Q : κ → Prop} {cs ds : List (Script κ σ)} :
    Script.OnlyAll Q (cs ++ ds) ↔ Script.OnlyAll Q cs ∧ Script.OnlyAll Q ds :=
  List.forall_mem_append

@[simp] theorem Script.onlyAll_ite {Q : κ → Prop} {b : Prop} [Decidable b]
    {cs ds : List (Script κ σ)} :
    Script.OnlyAll Q (if b then cs else ds) ↔
      (b → Script.OnlyAll Q cs) ∧ (¬ b → Script.OnlyAll Q ds) := by
  by_cases h : b <;> simp [h]

theorem Script.Only.mono {Q Q' : κ → Prop} (hQ : ∀ k, Q k → Q' k) {c : Script κ σ} (h : c.Only Q) :
    c.Only Q' := by
  induction h with
  | cmd hk => exact .cmd (hQ _ hk)
  | call _ ih => exact .call ih

section Only

variable {Q : κ → Prop} {P : σ → Run κ σ → Prop}

theorem Script.execAll_ind (nil : ∀ s, P s ⟨s, [], none⟩)
    (andThen : ∀ s r next, P s r → (∀ s', P s' (next s')) → P s (r.andThen next))
    {cs : List (Script κ σ)} (h : ∀ c ∈ cs, ∀ s, P s (c.exec native s)) (s : σ) :
    P s (Script.execAll native cs s) := by
  induction cs generalizing s with
  | nil =>
    rw [execAll_nil]
    exact nil s
  | cons c cs ih =>
    rw [execAll_cons]
    exact andThen s _ _ (h c (List.mem_cons_self ..) s)
      fun s' => ih (fun d hd => h d (List.mem_cons_of_mem _ hd)) s'

/-- The induction rule of a script that is limited to the commands `Q`: what holds
of doing nothing and of each of these commands, and survives sequencing, holds of
its run. -/
theorem Script.Only.exec_ind (nil : ∀ s, P s ⟨s, [], none⟩)
    (cmd : ∀ k, Q k → ∀ s, P s ⟨(native k s).1, [(k, s)], (native k s).2⟩)
    (andThen : ∀ s r next, P s r → (∀ s', P s' (next s')) → P s (r.andThen next))
    {c : Script κ σ} (h : c.Only Q) (s : σ) : P s (c.exec native s) := by
  induction h generalizing s with
  | cmd hk =>
    rw [exec_cmd]
    exact cmd _ hk s
  | call _ ih =>
    rw [exec_call]
    exact execAll_ind nil andThen (fun c hc s' => ih s c hc s') s

theorem Run.andThen_log {p : κ × σ → Prop} {r : Run κ σ} {next : σ → Run κ σ}
    (h : ∀ e ∈ r.log, p e) (hnext : ∀ s, ∀ e ∈ (next s).log, p e) :
    ∀ e ∈ (r.andThen next).log, p e := by
  unfold Run.andThen
  by_cases hr : r.raised.isSome = true
  · rwa [if_pos hr]
  · rw [if_neg hr]
    intro e he
    rcases List.mem_append.1 he with he | he
    · exact h e he
    · exact hnext r.state e he

theorem Script.Only.log {c : Script κ σ} (h : c.Only Q) (s : σ) :
    ∀ e ∈ (c.exec native s).log, Q e.1 := by
  refine h.exec_ind (P := fun _ r => ∀ e ∈ r.log, Q e.1) (by simp) ?_ ?_ s
  · intro k hk s e he
    obtain rfl := List.mem_singleton.1 he
    exact hk
  · intro _ _ _ hr hnext
    exact Run.andThen_log hr hnext

/-- A relation between the state found and the state left that is reflexive and
transitive and that each of the commands establishes. -/
theorem Script.Only.rel {R : σ → σ → Prop} (hrefl : ∀ s, R s s)
    (htrans : ∀ a b c, R a b → R b c → R a c) (hQ : ∀ k, Q k → ∀ s, R s (native k s).1)
    {c : Script κ σ} (h : c.Only Q) (s : σ) : R s (c.exec native s).state := by
  refine h.exec_ind (P := fun s r => R s r.state) hrefl hQ ?_ s
  intro s r next hr hnext
  unfold Run.andThen
  by_cases hf : r.raised.isSome = true
  · rwa [if_pos hf]
  · rw [if_neg hf]
    exact htrans _ _ _ hr (hnext r.state)

/-- The frame rule: what none of the commands changes, the script does not. -/
theorem Script.Only.frame {β : Type} {f : σ → β} (hQ : ∀ k, Q k → ∀ s, f (native k s).1 = f s)
    {c : Script κ σ} (h : c.Only Q) (s : σ) : f (c.exec native s).state = f s :=
  h.rel (R := fun a b => f b = f a) (fun _ => rfl) (fun _ _ _ hab hbc => hbc.trans hab) hQ s

/-- Commands that do not fail make scripts that do not fail. -/
theorem Script.Only.raised (hQ : ∀ k, Q k → ∀ s, (native k s).2 = none) {c : Script κ σ}
    (h : c.Only Q) (s : σ) : (c.exec native s).raised = none := by
  refine h.exec_ind (P := fun _ r => r.raised = none) (fun _ => rfl) hQ ?_ s
  intro s r next hr hnext
  unfold Run.andThen
  rw [if_neg (by simp [hr])]
  exact hnext r.state

/-! The same rules for scripts that are executed one after the other. -/

theorem Script.OnlyAll.call {cs : List (Script κ σ)} (h : Script.OnlyAll Q cs) :
    (Script.call fun _ => cs).Only Q :=
  Script.only_call.2 fun _ => h

theorem Script.OnlyAll.log {cs : List (Script κ σ)} (h : Script.OnlyAll Q cs) (s : σ) :
    ∀ e ∈ (Script.execAll native cs s).log, Q e.1 := by
  simpa only [exec_call] using h.call.log s

theorem Script.OnlyAll.frame {β : Type} {f : σ → β} (hQ : ∀ k, Q k → ∀ s, f (native k s).1 = f s)
    {cs : List (Script κ σ)} (h : Script.OnlyAll Q cs) (s : σ) :
    f (Script.execAll native cs s).state = f s := by
  simpa only [exec_call] using h.call.frame hQ s

theorem Script.OnlyAll.raised (hQ : ∀ k, Q k → ∀ s, (native k s).2 = none)
    {cs : List (Script κ σ)} (h : Script.OnlyAll Q cs) (s : σ) :
    (Script.execAll native cs s).raised = none := by
  simpa only [exec_call] using h.call.raised hQ s

end Only

end Exec

/-! ## Scripts within a larger set of commands -/

section Map

variable {κ κ' σ : Type} (f : κ → κ')

mutual

/-- The script with its native commands taken into a larger set. -/
def Script.map : Script κ σ → Script κ' σ
  | .cmd k => .cmd (f k)
  | .call render => .call fun s => Script.mapAll (render s)

/-- The same of several scripts. -/
def Script.mapAll : List (Script κ σ) → List (Script κ' σ)
  | [] => []
  | c :: cs => Script.map c :: Script.mapAll cs

end

@[simp] theorem Script.map_cmd (k : κ) : (Script.cmd k : Script κ σ).map f = .cmd (f k) := by
  rw [Script.map]

@[simp] theorem Script.map_call (render : σ → List (Script κ σ)) :
    (Script.call render).map f = .call fun s => Script.mapAll f (render s) := by
  rw [Script.map]

@[simp] theorem Script.mapAll_nil : Script.mapAll f ([] : List (Script κ σ)) = [] := by
  rw [Script.mapAll]

@[simp] theorem Script.mapAll_cons (c : Script κ σ) (cs : List (Script κ σ)) :
    Script.mapAll f (c :: cs) = c.map f :: Script.mapAll f cs := by
  rw [Script.mapAll]

/-- A run with its log taken into the larger set. -/
def Run.map (r : Run κ σ) : Run κ' σ := ⟨r.state, r.log.map fun e => (f e.1, e.2), r.raised⟩

theorem Run.map_andThen (r : Run κ σ) (next : σ → Run κ σ) :
    (r.andThen next).map f = (r.map f).andThen fun s => (next s).map f := by
  unfold Run.andThen
  by_cases h : r.raised.isSome = true
  · simp [h, Run.map]
  · simp [h, Run.map]

variable {f} {native : Native κ σ} {native' : Native κ' σ}

mutual

/-- Where the native commands do the same, the script does. -/
theorem Script.exec_map (h : ∀ k s, native' (f k) s = native k s) :
    ∀ (c : Script κ σ) (s : σ), (c.map f).exec native' s = (c.exec native s).map f
  | .cmd k, s => by simp [h, Run.map]
  | .call render, s => by
    rw [map_call, exec_call, exec_call]
    exact Script.execAll_map h (render s) s

theorem Script.execAll_map (h : ∀ k s, native' (f k) s = native k s) :
    ∀ (cs : List (Script κ σ)) (s : σ),
      Script.execAll native' (Script.mapAll f cs) s = (Script.execAll native cs s).map f
  | [], s => by simp [Run.map]
  | c :: cs, s => by
    rw [mapAll_cons, execAll_cons, execAll_cons, Run.map_andThen, Script.exec_map h c s]
    congr 1
    funext s'
    exact Script.execAll_map h cs s'

end

mutual

theorem Script.Only.map {Q : κ → Prop} {Q' : κ' → Prop} (hQ : ∀ k, Q k → Q' (f k)) :
    ∀ {c : Script κ σ}, c.Only Q → (c.map f).Only Q'
  | .cmd k, h => by
    rw [map_cmd, only_cmd]
    exact hQ k (only_cmd.1 h)
  | .call render, h => by
    rw [map_call, only_call]
    exact fun s => Script.OnlyAll.mapAll hQ (render s) (only_call.1 h s)

theorem Script.OnlyAll.mapAll {Q : κ → Prop} {Q' : κ' → Prop} (hQ : ∀ k, Q k → Q' (f k)) :
    ∀ (cs : List (Script κ σ)), Script.OnlyAll Q cs → Script.OnlyAll Q' (Script.mapAll f cs)
  | [], _ => by simp
  | c :: cs, h => by
    rw [onlyAll_cons] at h
    rw [mapAll_cons, onlyAll_cons]
    exact ⟨Script.Only.map hQ h.1, Script.OnlyAll.mapAll hQ cs h.2⟩

end

end Map

/-! ## Sessions -/

section Session

variable {α κ σ : Type} (step : α → σ → Run κ σ)

/-- Commands given one after the other from outside: an error ends only the
command that raised it. -/
def session : List α → σ → Run κ σ
  | [], s => ⟨s, [], none⟩
  | c :: cs, s =>
      ⟨(session cs (step c s).state).state, (step c s).log ++ (session cs (step c s).state).log,
        none⟩

/-- Every command of the session meets a condition on itself and on the state
it is given in. -/
def Along (ok : α → σ → Prop) : List α → σ → Prop
  | [], _ => True
  | c :: cs, s => ok c s ∧ Along ok cs (step c s).state

variable {step}

/-- The run rule of sessions: if every command that meets the condition keeps
the invariant and executes only native commands that satisfy `P`, so does the
session. -/
theorem session_invariant {I : σ → Prop} {P : κ × σ → Prop} {ok : α → σ → Prop}
    (hstep : ∀ c s, I s → ok c s → I (step c s).state ∧ ∀ e ∈ (step c s).log, P e) :
    ∀ (cs : List α) (s : σ), I s → Along step ok cs s →
      I (session step cs s).state ∧ ∀ e ∈ (session step cs s).log, P e := by
  intro cs
  induction cs with
  | nil => intro s hs _; exact ⟨hs, by simp [session]⟩
  | cons c cs ih =>
    rintro s hs ⟨hok, hrest⟩
    obtain ⟨hc, hlog⟩ := hstep c s hs hok
    obtain ⟨hI, hlogs⟩ := ih _ hc hrest
    refine ⟨hI, fun e he => ?_⟩
    rcases List.mem_append.1 he with he | he
    · exact hlog e he
    · exact hlogs e he

/-- A session in two parts. -/
theorem session_append (cs ds : List α) (s : σ) :
    (session step (cs ++ ds) s).state = (session step ds (session step cs s).state).state ∧
      (session step (cs ++ ds) s).log
        = (session step cs s).log ++ (session step ds (session step cs s).state).log := by
  induction cs generalizing s with
  | nil => exact ⟨rfl, rfl⟩
  | cons c cs ih =>
    obtain ⟨hstate, hlog⟩ := ih (step c s).state
    refine ⟨hstate, ?_⟩
    rw [List.cons_append, session, session, hlog, List.append_assoc]

/-- The condition on its two parts. -/
theorem along_append {ok : α → σ → Prop} {cs ds : List α} {s : σ} :
    Along step ok (cs ++ ds) s ↔
      Along step ok cs s ∧ Along step ok ds (session step cs s).state := by
  induction cs generalizing s with
  | nil => exact (iff_of_eq (true_and _)).symm
  | cons c cs ih => exact (and_congr_right' ih).trans and_assoc.symm

theorem Along.and {p q : α → σ → Prop} {cs : List α} {s : σ} (hp : Along step p cs s)
    (hq : Along step q cs s) : Along step (fun c s => p c s ∧ q c s) cs s := by
  induction cs generalizing s with
  | nil => trivial
  | cons c cs ih => exact ⟨⟨hp.1, hq.1⟩, ih hp.2 hq.2⟩

/-- The run rule for properties of single steps: if every step that meets the
condition keeps the invariant and is good, then in a session that meets the
condition throughout every step is good. -/
theorem along_of_invariant {I : σ → Prop} {ok good : α → σ → Prop}
    (hstep : ∀ c s, I s → ok c s → I (step c s).state ∧ good c s) :
    ∀ (cs : List α) (s : σ), I s → Along step ok cs s → Along step good cs s := by
  intro cs
  induction cs with
  | nil => intro s _ _; trivial
  | cons c cs ih =>
    rintro s hs ⟨hok, hrest⟩
    obtain ⟨hc, hgood⟩ := hstep c s hs hok
    exact ⟨hgood, ih _ hc hrest⟩

end Session

end GCode

import Ff5m.GCode.Script

/-!
# Pausing at a layer

`SET_PAUSE_NEXT_LAYER` and `SET_PAUSE_AT_LAYER` arm a request, and
`SET_PRINT_STATS_INFO`, which the slicer writes at every change of the layer, executes
the G-code of the request that is due and disarms it.  `CANCEL_PRINT` of `client.cfg`
disarms both.

Of two requests that are armed only the first is looked at, and that without asking
whether the call is about a layer.

* `OneShot`: what the requests are for, as a statement about whole runs;
* `step_quiet`, `step_due`: what one call does to a request that is not due, or due;
* `one_shot`: in a run without the collisions of `Clear` every request is executed once.
-/

namespace LayerPause

open GCode

/-! ## The requests -/

/-- The variable `pause_next_layer`. -/
structure PauseNextLayer where
  enable : Bool
  call : String

/-- The variable `pause_at_layer`. -/
structure PauseAtLayer where
  enable : Bool
  layer : ℤ
  call : String

/-- What `print_stats` keeps of the layers. -/
structure PrintStats where
  infoTotalLayer : Option ℤ
  infoCurrentLayer : Option ℤ

structure State where
  pauseNextLayer : PauseNextLayer
  pauseAtLayer : PauseAtLayer
  printStats : PrintStats

/-- The variables as the configuration has them. -/
def initial : State := ⟨⟨false, "PAUSE"⟩, ⟨false, 0, "PAUSE"⟩, ⟨none, none⟩⟩

inductive Request where
  | nextLayer
  | atLayer
  deriving DecidableEq

def armed : Request → State → Bool
  | .nextLayer, s => s.pauseNextLayer.enable
  | .atLayer, s => s.pauseAtLayer.enable

/-! ## The macros -/

inductive Cmd where
  | respond (msg : String)
  /-- the G-code of a request -/
  | pause (q : Request) (line : String)
  | setPauseNextLayer (value : PauseNextLayer)
  | setPauseAtLayer (value : PauseAtLayer)
  | setPrintStatsInfoBase (total current : Option ℤ)
  /-- any other line -/
  | line (text : String)

/-- `PrintStats.cmd_SET_PRINT_STATS_INFO`. -/
def cmdSetPrintStatsInfo (total current : Option ℤ) (p : PrintStats) : PrintStats × Option Failure :=
  if total.any (· < 0) || current.any (· < 0) then (p, some .command)
  else
    let totalLayer := total <|> p.infoTotalLayer
    let currentLayer := current <|> p.infoCurrentLayer
    let p :=
      if totalLayer = some 0 then ⟨none, none⟩
      else if totalLayer ≠ p.infoTotalLayer then ⟨totalLayer, some 0⟩
      else p
    match p.infoTotalLayer, currentLayer with
    | some t, some c =>
      if some c ≠ p.infoCurrentLayer then ({ p with infoCurrentLayer := some (min c t) }, none)
      else (p, none)
    | _, _ => (p, none)

/-- The native commands; `raises` tells which lines end in an error.  Those that pause
a print, `PAUSE` and `M600`, do nothing to the requests. -/
def native (raises : String → Bool) : Native Cmd State
  | .respond _, s => (s, none)
  | .pause _ text, s => (s, if raises text then some .command else none)
  | .setPauseNextLayer value, s => ({ s with pauseNextLayer := value }, none)
  | .setPauseAtLayer value, s => ({ s with pauseAtLayer := value }, none)
  | .setPrintStatsInfoBase total current, s =>
    ({ s with printStats := (cmdSetPrintStatsInfo total current s.printStats).1 },
      (cmdSetPrintStatsInfo total current s.printStats).2)
  | .line text, s => (s, if raises text then some .command else none)

abbrev Macro := Script Cmd State

/-- The filter `default(…, True)`, which also replaces the empty text. -/
def orDefault (call : Option String) (dflt : String) : String := (call.filter (· ≠ "")).getD dflt

/-- What `SET_PAUSE_NEXT_LAYER` writes. -/
def PauseNextLayer.set (v : PauseNextLayer) (enable : Option ℤ) (call : Option String) :
    PauseNextLayer :=
  ⟨enable.getD 1 != 0, orDefault call v.call⟩

/-- What `SET_PAUSE_AT_LAYER` writes; without `ENABLE` it is the layer that arms. -/
def PauseAtLayer.set (v : PauseAtLayer) (enable layer : Option ℤ) (call : Option String) :
    PauseAtLayer :=
  ⟨match enable with
    | some n => n != 0
    | none => layer.isSome, layer.getD v.layer, orDefault call v.call⟩

/-- `SET_PAUSE_NEXT_LAYER`. -/
def setPauseNextLayer (enable : Option ℤ) (call : Option String) : Macro := .call fun s =>
  [.cmd (.setPauseNextLayer (s.pauseNextLayer.set enable call))]

/-- `SET_PAUSE_AT_LAYER`. -/
def setPauseAtLayer (enable layer : Option ℤ) (call : Option String) : Macro := .call fun s =>
  [.cmd (.setPauseAtLayer (s.pauseAtLayer.set enable layer call))]

/-- `SET_PRINT_STATS_INFO`. -/
def setPrintStatsInfo (total current : Option ℤ) : Macro := .call fun s =>
  let next := s.pauseNextLayer
  let at_ := s.pauseAtLayer
  (if next.enable then
    [.cmd (.respond (next.call ++ ", вызван SET_PAUSE_AT_LAYER ")),
      .cmd (.pause .nextLayer next.call), setPauseNextLayer (some 0) none]
  else if at_.enable && current == some at_.layer then
    [.cmd (.respond (at_.call ++ ", вызван pause_at_layer [" ++ toString at_.layer ++ "]")),
      .cmd (.pause .atLayer at_.call), setPauseAtLayer (some 0) none none]
  else []) ++
  [.cmd (.setPrintStatsInfoBase total current)]

/-- `CANCEL_PRINT`; the lines up to the reset (timeout, parking, heaters, the user's own
macro) depend on the client's settings. -/
def cancelPrint (before : List String) : Macro := .call fun _ =>
  before.map (fun text => .cmd (.line text)) ++
  [setPauseNextLayer (some 0) none, setPauseAtLayer (some 0) (some 0) none,
    .cmd (.line "CANCEL_PRINT_BASE")]

/-! ## Runs -/

inductive Event where
  | setPauseNextLayer (enable : Option ℤ) (call : Option String)
  | setPauseAtLayer (enable layer : Option ℤ) (call : Option String)
  | setPrintStatsInfo (total current : Option ℤ)
  | cancelPrint (before : List String)

/-- A call, and the lines that end in an error this time. -/
structure Call where
  event : Event
  raises : String → Bool

def Event.script : Event → Macro
  | .setPauseNextLayer enable call => LayerPause.setPauseNextLayer enable call
  | .setPauseAtLayer enable layer call => LayerPause.setPauseAtLayer enable layer call
  | .setPrintStatsInfo total current => LayerPause.setPrintStatsInfo total current
  | .cancelPrint before => LayerPause.cancelPrint before

def step (c : Call) (s : State) : Run Cmd State := c.event.script.exec (native c.raises) s

/-- The pauses executed for a request. -/
def pauses (q : Request) (log : List (Cmd × State)) : List String :=
  log.filterMap fun e => match e.1 with
    | .pause q' text => if q' = q then some text else none
    | _ => none

def after (s : State) (cs : List Call) : State := (session step cs s).state

def pausesIn (q : Request) (s : State) (cs : List Call) : List String :=
  pauses q (session step cs s).log

/-! ## What the requests are for -/

/-- `CURRENT_LAYER`. -/
def Event.current : Event → Option ℤ
  | .setPrintStatsInfo _ current => current
  | _ => none

/-- The call sets the request anew, as a `CANCEL_PRINT` does that gets to it. -/
def Call.rewrites (c : Call) : Request → Bool
  | .nextLayer => match c.event with
    | .setPauseNextLayer _ _ => true
    | .cancelPrint before => !before.any c.raises
    | _ => false
  | .atLayer => match c.event with
    | .setPauseAtLayer _ _ _ => true
    | .cancelPrint before => !before.any c.raises
    | _ => false

/-- A request is executed once, at the layer it was armed for, is disarmed by that
call, and nothing is executed for a request that is disarmed. -/
structure OneShot (s : State) (cs : List Call) : Prop where
  atLayer : ∀ pre arm mid hit rest enable layer call, cs = pre ++ arm :: mid ++ hit :: rest →
    arm.event = .setPauseAtLayer enable (some layer) call → enable ≠ some 0 →
    (∀ c ∈ mid, c.rewrites .atLayer = false ∧ c.event.current ≠ some layer) →
    hit.event.current = some layer →
      pausesIn .atLayer (after s (pre ++ [arm])) mid = [] ∧
      (pausesIn .atLayer (after s (pre ++ arm :: mid)) [hit]).length = 1 ∧
      armed .atLayer (after s (pre ++ arm :: mid ++ [hit])) = false
  nextLayer : ∀ pre arm mid hit rest enable call, cs = pre ++ arm :: mid ++ hit :: rest →
    arm.event = .setPauseNextLayer enable call → enable ≠ some 0 →
    (∀ c ∈ mid, c.rewrites .nextLayer = false ∧ c.event.current = none) →
    hit.event.current ≠ none →
      pausesIn .nextLayer (after s (pre ++ [arm])) mid = [] ∧
      (pausesIn .nextLayer (after s (pre ++ arm :: mid)) [hit]).length = 1 ∧
      armed .nextLayer (after s (pre ++ arm :: mid ++ [hit])) = false
  quiet : ∀ q pre part rest, cs = pre ++ part ++ rest → armed q (after s pre) = false →
    (∀ c ∈ part, c.rewrites q = false) → pausesIn q (after s pre) part = []

/-- No call without a layer while a pause at the next layer is armed, no layer at which
both requests are due, and no error in the G-code of the one that is. -/
def Clear (c : Call) (s : State) : Prop :=
  match c.event with
  | .setPrintStatsInfo _ current =>
    (s.pauseNextLayer.enable = true → current ≠ none ∧ c.raises s.pauseNextLayer.call = false) ∧
    (s.pauseAtLayer.enable = true → current = some s.pauseAtLayer.layer →
      s.pauseNextLayer.enable = false ∧ c.raises s.pauseAtLayer.call = false)
  | _ => True

instance : DecidableRel Clear
  | ⟨.setPrintStatsInfo _ _, _⟩, _ => inferInstanceAs (Decidable (_ ∧ _))
  | ⟨.setPauseNextLayer _ _, _⟩, _ => isTrue trivial
  | ⟨.setPauseAtLayer _ _ _, _⟩, _ => isTrue trivial
  | ⟨.cancelPrint _, _⟩, _ => isTrue trivial

/-! ## One call -/

@[simp] theorem pauses_nil (q : Request) : pauses q [] = [] := rfl

theorem pauses_append (q : Request) (l l' : List (Cmd × State)) :
    pauses q (l ++ l') = pauses q l ++ pauses q l' := List.filterMap_append ..

theorem pauses_cons_of_ne {e : Cmd × State} (he : ∀ q text, e.1 ≠ .pause q text) (q : Request)
    (l : List (Cmd × State)) : pauses q (e :: l) = pauses q l := by
  obtain ⟨k, s⟩ := e
  cases k with
  | pause q' text => exact absurd rfl (he q' text)
  | _ => rfl

/-- What the lines before the reset do. -/
theorem exec_lines (raises : String → Bool) (before : List String) (s : State) :
    (Script.execAll (native raises) (before.map fun text => .cmd (.line text)) s).state = s ∧
      (∀ q, pauses q
        (Script.execAll (native raises) (before.map fun text => .cmd (.line text)) s).log = []) ∧
      (Script.execAll (native raises) (before.map fun text => .cmd (.line text)) s).raised
        = if before.any raises then some .command else none := by
  induction before with
  | nil => simp
  | cons text before ih =>
    by_cases htext : raises text = true
    · simp [native, htext, pauses]
    · have hline : native raises (.line text) s = (s, none) := by simp [native, htext]
      rw [List.map_cons, Script.execAll_cons, Script.exec_cmd, hline, Run.andThen_mk_none]
      simpa [htext, pauses_cons_of_ne] using ih

@[simp] theorem exec_setPauseNextLayer (raises : String → Bool) (enable : Option ℤ)
    (call : Option String) (s : State) :
    (setPauseNextLayer enable call).exec (native raises) s =
      ⟨{ s with pauseNextLayer := s.pauseNextLayer.set enable call },
        [(.setPauseNextLayer (s.pauseNextLayer.set enable call), s)], none⟩ := by
  simp [setPauseNextLayer, native]

@[simp] theorem exec_setPauseAtLayer (raises : String → Bool) (enable layer : Option ℤ)
    (call : Option String) (s : State) :
    (setPauseAtLayer enable layer call).exec (native raises) s =
      ⟨{ s with pauseAtLayer := s.pauseAtLayer.set enable layer call },
        [(.setPauseAtLayer (s.pauseAtLayer.set enable layer call), s)], none⟩ := by
  simp [setPauseAtLayer, native]

/-- A call about layers: the request that is due first is executed, and disarmed if that
does not end in an error. -/
theorem exec_setPrintStatsInfo (raises : String → Bool) (total current : Option ℤ) (s : State) :
    let r := (setPrintStatsInfo total current).exec (native raises) s
    let at_ := s.pauseAtLayer
    (s.pauseNextLayer.enable = true →
      pauses .nextLayer r.log = [s.pauseNextLayer.call] ∧ pauses .atLayer r.log = [] ∧
        r.state.pauseAtLayer = at_ ∧
        r.state.pauseNextLayer.enable = raises s.pauseNextLayer.call) ∧
    (s.pauseNextLayer.enable = false → at_.enable = true → current = some at_.layer →
      pauses .nextLayer r.log = [] ∧ pauses .atLayer r.log = [at_.call] ∧
        r.state.pauseNextLayer = s.pauseNextLayer ∧
        r.state.pauseAtLayer.enable = raises at_.call) ∧
    (s.pauseNextLayer.enable = false → ¬ (at_.enable = true ∧ current = some at_.layer) →
      (∀ q, pauses q r.log = []) ∧
        r.state.pauseNextLayer = s.pauseNextLayer ∧ r.state.pauseAtLayer = at_) := by
  refine ⟨fun hnext => ?_, fun hnext hat hlayer => ?_, fun hnext hnot => ?_⟩
  · by_cases hraises : raises s.pauseNextLayer.call = true <;>
      simp [setPrintStatsInfo, hnext, native, hraises, pauses, PauseNextLayer.set]
  · by_cases hraises : raises s.pauseAtLayer.call = true <;>
      simp [setPrintStatsInfo, hnext, hat, hlayer, native, hraises, pauses, PauseAtLayer.set]
  · simp [setPrintStatsInfo, hnext, hnot, native, pauses]

/-- A `CANCEL_PRINT` that does not get to the reset. -/
theorem exec_cancelPrint_failed {raises : String → Bool} {before : List String}
    (h : before.any raises = true) (s : State) :
    ((cancelPrint before).exec (native raises) s).state = s ∧
      ∀ q, pauses q ((cancelPrint before).exec (native raises) s).log = [] := by
  obtain ⟨hstate, hlog, hraised⟩ := exec_lines raises before s
  rw [if_pos h] at hraised
  rw [cancelPrint, Script.exec_call, Script.execAll_append]
  unfold Run.andThen
  rw [hraised]
  exact ⟨hstate, hlog⟩

/-- The request is armed, and this is what it was armed for. -/
def Due (q : Request) (s : State) (e : Event) : Prop :=
  armed q s = true ∧ match q with
    | .nextLayer => e.current ≠ none
    | .atLayer => e.current = some s.pauseAtLayer.layer

/-- The variable of the request is the same. -/
def Same : Request → State → State → Prop
  | .nextLayer, s, t => t.pauseNextLayer = s.pauseNextLayer
  | .atLayer, s, t => t.pauseAtLayer = s.pauseAtLayer

/-- A request that is not due remains as it is, and nothing is executed for it. -/
theorem step_quiet {q : Request} {c : Call} {s : State} (hkeep : c.rewrites q = false)
    (hquiet : armed q s = true → Clear c s ∧ ¬ Due q s c.event) :
    pauses q (step c s).log = [] ∧ Same q s (step c s).state := by
  obtain ⟨e, raises⟩ := c
  cases e with
  | setPauseNextLayer enable call =>
    cases q with
    | nextLayer => exact absurd hkeep (by simp [Call.rewrites])
    | atLayer => simp [step, Event.script, Same, pauses]
  | setPauseAtLayer enable layer call =>
    cases q with
    | nextLayer => simp [step, Event.script, Same, pauses]
    | atLayer => exact absurd hkeep (by simp [Call.rewrites])
  | cancelPrint before =>
    have hfailed : before.any raises = true := by
      cases q <;> simpa only [Call.rewrites, Bool.not_eq_false'] using hkeep
    obtain ⟨hstate, hlog⟩ := exec_cancelPrint_failed hfailed s
    refine ⟨hlog q, ?_⟩
    rw [step, Event.script, hstate]
    cases q <;> rfl
  | setPrintStatsInfo total current =>
    obtain ⟨hnext, hat, hnone⟩ := exec_setPrintStatsInfo raises total current s
    by_cases harmed : s.pauseNextLayer.enable = true
    · obtain ⟨-, hlog, hsame, -⟩ := hnext harmed
      cases q with
      | nextLayer =>
        obtain ⟨hclear, hdue⟩ := hquiet harmed
        exact absurd ⟨harmed, (hclear.1 harmed).1⟩ hdue
      | atLayer => exact ⟨hlog, hsame⟩
    · rw [Bool.not_eq_true] at harmed
      by_cases hlayer : s.pauseAtLayer.enable = true ∧ current = some s.pauseAtLayer.layer
      · obtain ⟨hlog, -, hsame, -⟩ := hat harmed hlayer.1 hlayer.2
        cases q with
        | nextLayer => exact ⟨hlog, hsame⟩
        | atLayer => exact absurd hlayer (hquiet hlayer.1).2
      · obtain ⟨hlog, hsameNext, hsameAt⟩ := hnone harmed hlayer
        cases q with
        | nextLayer => exact ⟨hlog _, hsameNext⟩
        | atLayer => exact ⟨hlog _, hsameAt⟩

/-- A request that is due is executed once and disarmed. -/
theorem step_due {q : Request} {c : Call} {s : State} (hclear : Clear c s)
    (hdue : Due q s c.event) :
    (pauses q (step c s).log).length = 1 ∧ armed q (step c s).state = false := by
  obtain ⟨e, raises⟩ := c
  obtain ⟨harmed, hcurrent⟩ := hdue
  cases e with
  | setPrintStatsInfo total current =>
    obtain ⟨hnext, hat, -⟩ := exec_setPrintStatsInfo raises total current s
    cases q with
    | nextLayer =>
      obtain ⟨hlog, -, -, hleft⟩ := hnext harmed
      exact ⟨congrArg List.length hlog, hleft.trans (hclear.1 harmed).2⟩
    | atLayer =>
      obtain ⟨hfree, hok⟩ := hclear.2 harmed hcurrent
      obtain ⟨-, hlog, -, hleft⟩ := hat hfree harmed hcurrent
      exact ⟨congrArg List.length hlog, hleft.trans hok⟩
  | _ => cases q <;> simp [Event.current] at hcurrent

/-! ## Runs of calls -/

theorem Same.armed {q : Request} {s t : State} (h : Same q s t) : armed q t = armed q s := by
  cases q <;> simp_all [Same, LayerPause.armed]

theorem Same.due {q : Request} {s t : State} (h : Same q s t) (e : Event) :
    Due q t e ↔ Due q s e := by
  cases q <;> simp_all [Same, Due, LayerPause.armed]

theorem Same.trans {q : Request} {s t u : State} (h : Same q s t) (h' : Same q t u) :
    Same q s u := by
  cases q <;> exact Eq.trans h' h

theorem after_append (s : State) (cs ds : List Call) :
    after s (cs ++ ds) = after (after s cs) ds := (session_append cs ds s).1

/-- The induction over the calls during which the request is not due. -/
theorem run_quiet {q : Request} {cs : List Call} {s : State}
    (hkeep : ∀ c ∈ cs, c.rewrites q = false)
    (hquiet : armed q s = true → Along step Clear cs s ∧ ∀ c ∈ cs, ¬ Due q s c.event) :
    pausesIn q s cs = [] ∧ Same q s (after s cs) := by
  induction cs generalizing s with
  | nil => cases q <;> exact ⟨rfl, rfl⟩
  | cons c cs ih =>
    obtain ⟨hlog, hsame⟩ := step_quiet (hkeep c (List.mem_cons_self ..)) fun h =>
      ⟨(hquiet h).1.1, (hquiet h).2 c (List.mem_cons_self ..)⟩
    obtain ⟨hlogs, hsames⟩ := ih (s := (step c s).state)
      (fun c' h => hkeep c' (List.mem_cons_of_mem _ h)) fun harmed => by
        rw [hsame.armed] at harmed
        exact ⟨(hquiet harmed).1.2, fun c' h => fun hdue =>
          (hquiet harmed).2 c' (List.mem_cons_of_mem _ h) ((hsame.due _).1 hdue)⟩
    refine ⟨?_, hsame.trans hsames⟩
    show pauses q ((step c s).log ++ (session step cs (step c s).state).log) = []
    rw [pauses_append, hlog]
    exact hlogs

/-- From the call that arms a request to the one at which it is due. -/
theorem run_due {q : Request} {pre mid rest : List Call} {arm hit : Call} {s : State}
    (h : Along step Clear (pre ++ arm :: mid ++ hit :: rest) s)
    (hkeep : ∀ c ∈ mid, c.rewrites q = false)
    (hwait : ∀ c ∈ mid, ¬ Due q (after s (pre ++ [arm])) c.event)
    (hdue : Due q (after s (pre ++ [arm])) hit.event) :
    pausesIn q (after s (pre ++ [arm])) mid = [] ∧
      (pausesIn q (after s (pre ++ arm :: mid)) [hit]).length = 1 ∧
      armed q (after s (pre ++ arm :: mid ++ [hit])) = false := by
  have hcalls : pre ++ arm :: mid ++ hit :: rest = pre ++ [arm] ++ (mid ++ hit :: rest) := by simp
  have harm : pre ++ arm :: mid = pre ++ [arm] ++ mid := by simp
  rw [hcalls] at h
  obtain ⟨-, hrest⟩ := along_append.1 h
  obtain ⟨hmid, hclear, -⟩ := along_append.1 hrest
  obtain ⟨hnone, hsame⟩ := run_quiet hkeep fun _ => ⟨hmid, hwait⟩
  obtain ⟨hone, hoff⟩ := step_due hclear ((hsame.due _).2 hdue)
  refine ⟨hnone, ?_, ?_⟩
  · rw [harm, after_append s (pre ++ [arm]) mid]
    set t := after (after s (pre ++ [arm])) mid
    have hlog : (session step [hit] t).log = (step hit t).log ++ [] := rfl
    rw [pausesIn, hlog, List.append_nil]
    exact hone
  · rw [harm, after_append, after_append s (pre ++ [arm]) mid]
    exact hoff

/-- No line ends in an error. -/
def quietly (e : Event) : Call := ⟨e, fun _ => false⟩

end LayerPause

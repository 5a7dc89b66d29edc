import Ff5m.PrintFile.Gate

/-!
# The scripts of a request

The macros of a print request hand the name on in the text of their lines, and a line is
what it parses to: other quotes in a name, and the script runs on another name, or is
another script.  What a request starts can be told from these texts alone.

* `starts`: the started scripts of a run, with the states they were started in;
* `Went`: a run by what it has started and how it goes on, and the rules for sequences;
* `sumPlan`, `requestPlan`: what the check of the sum and a request start, for any name;
* `went_startPrint`: this is what the run starts.
-/

namespace HandOver

open TextTools (Text str)
open GCode PrintFile Gate

/-! ## Started scripts -/

/-- What is started, each in its state, and the state in which it goes on, if it does. -/
abbrev Plan (σ : Type) := List (Call × σ) × Option σ

/-- One plan, and what follows it unless it has stopped. -/
def Plan.andThen {σ : Type} (a : Plan σ) (next : σ → Plan σ) : Plan σ :=
  match a.2 with
  | none => a
  | some t => (a.1 ++ (next t).1, (next t).2)

section Went

variable {σ : Type} (h : Host σ)

/-- The scripts that a run has started, with the states they were started in. -/
def starts (log : List (Cmd × σ)) : List (Call × σ) :=
  log.filterMap fun e => (e.1.call? h).map fun c => (c, e.2)

theorem starts_append (l l' : List (Cmd × σ)) : starts h (l ++ l') = starts h l ++ starts h l' :=
  List.filterMap_append ..

theorem starts_silent {k : Cmd} (hk : k.call? h = none) {s : σ} : starts h [(k, s)] = [] := by
  simp [starts, hk]

theorem mem_starts {log : List (Cmd × σ)} {c : Call} {s : σ} :
    (c, s) ∈ starts h log ↔ ∃ k, (k, s) ∈ log ∧ k.call? h = some c := by
  simp only [starts, List.mem_filterMap, Option.map_eq_some_iff, Prod.mk.injEq]
  constructor
  · rintro ⟨⟨k, s'⟩, he, c', hc, rfl, rfl⟩
    exact ⟨k, he, hc⟩
  · rintro ⟨k, hk, hc⟩
    exact ⟨(k, s), hk, c, hc, rfl, rfl⟩

theorem calls_eq (log : List (Cmd × σ)) : calls h log = (starts h log).map Prod.fst := by
  unfold calls starts
  rw [List.map_filterMap]
  congr 1
  funext e
  cases e.1.call? h <;> rfl

/-- The run has started this, and goes on in that state, if at all. -/
structure Went (a : Plan σ) (r : Run Cmd σ) : Prop where
  starts : starts h r.log = a.1
  stops : a.2 = none → r.raised ≠ none
  goes : ∀ t, a.2 = some t → r.raised = none ∧ r.state = t

variable {h}

/-- A part, and what follows it. -/
theorem Went.andThen {a : Plan σ} {r : Run Cmd σ} {f : σ → Plan σ} {next : σ → Run Cmd σ}
    (hr : Went h a r) (hnext : ∀ t, a.2 = some t → Went h (f t) (next t)) :
    Went h (a.andThen f) (r.andThen next) := by
  obtain ⟨xs, t⟩ := a
  unfold Run.andThen Plan.andThen
  cases t with
  | none =>
    rw [if_pos (Option.isSome_iff_ne_none.2 (hr.stops rfl))]
    exact hr
  | some t =>
    obtain ⟨hraised, hstate⟩ := hr.goes t rfl
    have hn := hnext t rfl
    rw [if_neg (by simp [hraised]), hstate]
    exact ⟨by rw [starts_append, hr.starts, hn.starts], hn.stops, hn.goes⟩

/-- The scripts of a list, one by one. -/
theorem Went.cons {a : Plan σ} {f : σ → Plan σ} {c : Macro σ} {cs : List (Macro σ)} {s : σ}
    (hc : Went h a (Script.exec (native h) c s))
    (hcs : ∀ t, a.2 = some t → Went h (f t) (Script.execAll (native h) cs t)) :
    Went h (a.andThen f) (Script.execAll (native h) (c :: cs) s) := by
  rw [Script.execAll_cons]
  exact hc.andThen hcs

theorem Went.nil (s : σ) : Went h ([], some s) (Script.execAll (native h) [] s) := by
  rw [Script.execAll_nil]
  exact ⟨rfl, fun he => absurd he (by simp), fun t ht => ⟨rfl, Option.some.inj ht⟩⟩

theorem Went.singleton {a : Plan σ} {c : Macro σ} {s : σ} (hc : Went h a (Script.exec (native h) c s)) :
    Went h a (Script.execAll (native h) [c] s) := by
  rw [Script.execAll_singleton]
  exact hc

/-- A command that starts nothing, and what follows it. -/
theorem Went.silent {a : Plan σ} {k : Cmd} {cs : List (Macro σ)} {s t : σ} (hk : k.call? h = none)
    (hnative : native h k s = (t, none)) (hcs : Went h a (Script.execAll (native h) cs t)) :
    Went h a (Script.execAll (native h) (.cmd k :: cs) s) := by
  rw [Script.execAll_cons, Script.exec_cmd, hnative, Run.andThen_mk_none]
  have hstarts : HandOver.starts h ((k, s) :: (Script.execAll (native h) cs t).log) = a.1 := by
    rw [← List.singleton_append, starts_append, hcs.starts, starts_silent h hk, List.nil_append]
  exact ⟨hstarts, hcs.stops, hcs.goes⟩

/-- A command that starts nothing and fails. -/
theorem Went.fails {k : Cmd} (hk : k.call? h = none) {s t : σ} {e : Failure}
    (hnative : native h k s = (t, some e)) (cs : List (Macro σ)) :
    Went h ([], none) (Script.execAll (native h) (.cmd k :: cs) s) := by
  rw [Script.execAll_cons, Script.exec_cmd, hnative, Run.andThen_mk_some]
  exact ⟨starts_silent h hk, fun _ => by simp, fun t ht => absurd ht (by simp)⟩

variable (h)

/-! ## The lines of a request -/

/-- A line for `RUN_SHELL_COMMAND`. -/
def shellPlan (raw : Text) (s : σ) : Plan σ :=
  match shellCall h raw with
  | .error _ => ([], none)
  | .ok c => ([(c, s)], some (h.shell c s))

/-- Several lines. -/
def shellsPlan : List Text → σ → Plan σ
  | [], s => ([], some s)
  | raw :: raws, s => (shellPlan h raw s).andThen (shellsPlan raws)

/-- The lines with which `_PRINT_FILE` prepares the print. -/
def prepareLines (filename : Text) (s : σ) : List Text :=
  (if h.savedInt s (str "use_kamp") 0 = 1 then [zexcludeLine filename] else []) ++
  [zpreclearLine (if h.savedInt s (str "preclear") 0 = 1 then str "TEST" else str "NONE") filename]

/-- A macro whose line is malformed. -/
theorem went_malformed {raw : Text} (hps : extendedParams h.upper raw = none)
    (body : List (Text × Text) → σ → List (Macro σ)) (s : σ) :
    Went h ([], none) (Script.exec (native h) (invoke h raw body) s) := by
  rw [invoke, Script.exec_call, hps]
  exact .fails rfl rfl _

/-- A macro that asks for a name. -/
theorem went_unnamed {raw : Text} {body : List (Text × Text) → σ → List (Macro σ)} (hname : nameIn h raw = none)
    (hbody : ∀ ps s, getParam ps (str "FILENAME") = none → ∃ msg, body ps s = [.cmd (.raiseError msg)]) (s : σ) :
    Went h ([], none) (Script.exec (native h) (invoke h raw body) s) := by
  unfold nameIn at hname
  cases hps : extendedParams h.upper raw with
  | none => exact went_malformed h hps body s
  | some ps =>
    rw [hps, Option.bind_some] at hname
    obtain ⟨msg, hraise⟩ := hbody ps s hname
    rw [exec_invoke h hps, hraise]
    exact .fails rfl rfl _

theorem went_shell (raw : Text) (s : σ) :
    Went h (shellPlan h raw s) (Script.exec (native h) (.cmd (.runShellCommand raw)) s) := by
  rw [Script.exec_cmd]
  unfold shellPlan
  cases hc : shellCall h raw with
  | error e =>
    have hnative : native h (.runShellCommand raw) s = (s, some e) := by simp only [native, hc]
    rw [hnative]
    exact ⟨by simp [starts, Cmd.call?, hc, Except.toOption], fun _ => by simp, fun t ht => absurd ht (by simp)⟩
  | ok c =>
    have hnative : native h (.runShellCommand raw) s = (h.shell c s, none) := by simp only [native, hc]
    rw [hnative]
    exact ⟨by simp [starts, Cmd.call?, hc, Except.toOption], fun he => absurd he (by simp),
      fun t ht => ⟨rfl, Option.some.inj ht⟩⟩

theorem went_shellsPlan_one (raw : Text) (s : σ) :
    Went h (shellsPlan h [raw] s) (Script.execAll (native h) [.cmd (.runShellCommand raw)] s) :=
  .cons (went_shell h raw s) fun t _ => .nil t

/-- The messages of `_PRINT_FILE` do nothing, and its scripts are started. -/
theorem went_prepare (filename : Text) (s s' : σ) :
    Went h (shellsPlan h (prepareLines h filename s) s')
      (Script.execAll (native h) (prepare h filename s) s') := by
  have hrespond : ∀ {raw : Text}, respondOk h raw = true → ∀ s, native h (.respond raw) s = (s, none) :=
    fun hraw s => by simp [native, hraw]
  have hclear : ∀ s', Went h (shellsPlan h [zpreclearLine (if h.savedInt s (str "preclear") 0 = 1 then str "TEST"
        else str "NONE") filename] s')
      (Script.execAll (native h) ([.cmd .zcontrolOn] ++ if h.savedInt s (str "preclear") 0 = 1 then
          [.cmd (.respond (info (str "Сейчас будет нагрет стол и экструдер."))),
            .cmd (.respond (message (str "//")
              (str "Экран принтера замерзнет до окончания предочистки."))),
            .cmd (.runShellCommand (zpreclearLine (str "TEST") filename))]
        else [.cmd (.runShellCommand (zpreclearLine (str "NONE") filename))]) s') := by
    intro s'
    refine .silent rfl rfl ?_
    split_ifs
    · exact .silent rfl (hrespond (respondOk_preclear h) s') (.silent rfl (hrespond (respondOk_freeze h) s')
        (went_shellsPlan_one h _ s'))
    · exact went_shellsPlan_one h _ s'
  unfold prepare prepareLines
  rw [List.append_assoc]
  by_cases hk : h.savedInt s (str "use_kamp") 0 = 1
  · rw [if_pos hk, if_pos hk]
    exact .silent rfl (hrespond (respondOk_useKamp h) s') (.cons (went_shell h _ s') fun t _ => hclear t)
  · rw [if_neg hk, if_neg hk]
    exact hclear s'

end Went

/-! ## Whole requests -/

section Requests

variable {V ρ : Type} (env : Env V ρ)

/-- `RESPOND` accepts the command, if it is one. -/
def accepts : Macro (Printer V ρ) → Bool
  | .cmd (.respond raw) => respondOk (host env) raw
  | _ => true

/-- `_FINAL_CHECK_MD5` goes on: the verdict is no refusal, and the messages are accepted. -/
def finalPasses (v : ℤ) (name : Text) : Bool :=
  match extendedParams env.upper (finalCheckLine name) with
  | none => false
  | some ps =>
    decide (v ∉ refusals) && (finalCheckBody v ((getParam ps (str "FILENAME")).getD [])).all (accepts env)

/-- `CHECK_MD5` with these parameters. -/
def sumPlan (raw : Text) (p : Printer V ρ) : Plan (Printer V ρ) :=
  match extendedParams env.upper raw with
  | none => ([], none)
  | some ps =>
    if ((host env).saveVariable (str "check_md5") (str "0") p).2 = none then
      let name := checkedName (host env) ps p
      if name = [] then ([], some (saved env p))
      else
        (shellPlan (host env) (checkShell env ps p) (saved env p)).andThen fun q =>
          let ended := reloads env 31 q
          ([], if ended.2 && finalPasses env ((host env).savedInt ended.1 (str "check_md5") 0) name
            then some ended.1 else none)
    else ([], none)

/-- The check of the sum, if it is switched on. -/
def checkPlan (filename : Text) (p : Printer V ρ) : Plan (Printer V ρ) :=
  if (host env).savedInt p (str "force_md5") 1 = 1 then
    if respondOk (host env) (info (str "Запущена проверка MD5 " ++ filename)) = true then
      sumPlan env (checkMd5Line filename) p
    else ([], none)
  else ([], some p)

/-- `_PRINT_FILE` with these parameters. -/
def printPlan (raw : Text) (p : Printer V ρ) : Plan (Printer V ρ) :=
  match nameIn (host env) raw with
  | none => ([], none)
  | some filename =>
    (checkPlan env filename p).andThen (shellsPlan (host env) (prepareLines (host env) filename p))

/-- A print request for `f`. -/
def requestPlan (leveling : Bool) (f : Text) (p : Printer V ρ) : Plan (Printer V ρ) :=
  match nameIn (host env) (nameLine (escapeQuotes f)) with
  | none => ([], none)
  | some filename =>
    if respondOk (host env) (info (announceOf leveling filename)) = true then
      match (host env).m23 (str "/" ++ filename) p with
      | none => ([], none)
      | some p' =>
        (printPlan env (nameLine filename) p').andThen (shellPlan (host env) (handOverOf leveling filename))
    else ([], none)

variable {env}

theorem went_messages {P : Text → Prop} {cs : List (Macro (Printer V ρ))} (hcs : Messages P cs)
    (p : Printer V ρ) :
    Went (host env) ([], if cs.all (accepts env) then some p else none)
      (Script.execAll (native (host env)) cs p) := by
  induction hcs with
  | nil => exact .nil p
  | @cons raw cs _ _ ih =>
    cases hraw : respondOk (host env) raw with
    | true =>
      have hnative : native (host env) (.respond raw) p = (p, none) := by simp [native, hraw]
      have hall : (Script.cmd (.respond raw) :: cs).all (accepts env) = cs.all (accepts env) := by
        simp [accepts, hraw]
      rw [hall]
      exact .silent rfl hnative ih
    | false =>
      have hnative : native (host env) (.respond raw) p = (p, some .command) := by simp [native, hraw]
      have hall : (Script.cmd (.respond raw) :: cs).all (accepts env) = false := by simp [accepts, hraw]
      rw [hall]
      exact .fails rfl hnative cs

theorem went_refuse (quoted : Bool) (msg : Text) (p : Printer V ρ) :
    Went (host env) ([], none) (Script.execAll (native (host env)) (refuse quoted msg) p) := by
  unfold refuse
  cases hraw : respondOk (host env) (error quoted msg) with
  | false =>
    exact .fails rfl (t := p) (e := .command) (by simp [native, hraw]) _
  | true =>
    refine .silent rfl (t := p) (by simp [native, hraw]) ?_
    cases hcancel : ((host env).cancelPrint p).2 with
    | some e =>
      have hnative : native (host env) .cancelPrint p = (((host env).cancelPrint p).1, some e) :=
        Prod.ext rfl hcancel
      exact .fails rfl hnative _
    | none =>
      have hnative : native (host env) .cancelPrint p = (((host env).cancelPrint p).1, none) :=
        Prod.ext rfl hcancel
      refine .silent rfl hnative (.singleton ?_)
      unfold finalStopMd5
      rw [Script.exec_call]
      exact .fails rfl rfl _

theorem went_final (name : Text) (p : Printer V ρ) :
    Went (host env) ([], if finalPasses env ((host env).savedInt p (str "check_md5") 0) name then some p else none)
      (Script.exec (native (host env)) (finalCheckMd5 (host env) (finalCheckLine name)) p) := by
  unfold finalCheckMd5 finalPasses
  cases hps : extendedParams env.upper (finalCheckLine name) with
  | none =>
    exact went_malformed (host env) hps _ p
  | some ps =>
    rw [exec_invoke (host env) hps]
    by_cases hv : (host env).savedInt p (str "check_md5") 0 ∈ refusals
    · obtain ⟨quoted, u, w, -, -, hbody⟩ := finalCheckBody_refusal (σ := Printer V ρ) hv
        ((getParam ps (str "FILENAME")).getD [])
      simp only [hv, not_true, decide_false, Bool.false_and, Bool.false_eq_true, if_false]
      rw [hbody]
      exact went_refuse quoted _ p
    · simp only [hv, not_false_eq_true, decide_true, Bool.true_and]
      exact went_messages (finalCheckBody_messages (host env) hv _) p

theorem went_poll (p : Printer V ρ) :
    Went (host env) ([], if (reloads env 31 p).2 then some (reloads env 31 p).1 else none)
      (poll (host env) p) := by
  obtain ⟨log, hpoll, -⟩ := poll_reloads env p
  have hstarts : starts (host env) (poll (host env) p).log = [] := by
    have hcalls := calls_poll (host env) p
    rw [calls_eq] at hcalls
    exact List.map_eq_nil_iff.1 hcalls
  rw [hpoll] at hstarts ⊢
  refine ⟨hstarts, fun he => ?_, fun t ht => ?_⟩
  · cases hok : (reloads env 31 p).2 <;> simp [hok] at he ⊢
  · cases hok : (reloads env 31 p).2 with
    | false => simp [hok] at ht
    | true => simpa [hok] using ht

theorem went_checkMd5 (raw : Text) (p : Printer V ρ) :
    Went (host env) (sumPlan env raw p)
      (Script.exec (native (host env)) (PrintFile.checkMd5 (host env) raw) p) := by
  unfold sumPlan PrintFile.checkMd5
  cases hps : extendedParams env.upper raw with
  | none =>
    exact went_malformed (host env) hps _ p
  | some ps =>
    rw [exec_invoke (host env) hps, List.singleton_append]
    cases hsave : ((host env).saveVariable (str "check_md5") (str "0") p).2 with
    | some e =>
      have hnative : native (host env) (.saveVariable (str "check_md5") (str "0")) p = (saved env p, some e) :=
        Prod.ext rfl hsave
      simp only [reduceCtorEq, if_false]
      exact .fails rfl hnative _
    | none =>
      have hnative : native (host env) (.saveVariable (str "check_md5") (str "0")) p = (saved env p, none) :=
        Prod.ext rfl hsave
      simp only [if_true]
      refine .silent rfl hnative ?_
      by_cases hne : checkedName (host env) ps p = []
      · rw [if_pos hne, if_neg (by exact not_not.2 hne)]
        exact .nil _
      · have hsplit : pollMd5 (host env) ++
            [.cmd .zloadVariable, finalCheckMd5 (host env) (finalCheckLine (checkedName (host env) ps p))]
            = (pollMd5 (host env) ++ [.cmd .zloadVariable]) ++
              [finalCheckMd5 (host env) (finalCheckLine (checkedName (host env) ps p))] := by simp
        rw [if_neg hne, if_pos (by exact hne), List.append_assoc, List.singleton_append]
        refine .cons (went_shell (host env) _ _) fun q _ => ?_
        rw [checkedName] at hsplit
        rw [hsplit, Script.execAll_append, Script.execAll_singleton]
        have hplan : Plan.andThen ([], if (reloads env 31 q).2 then some (reloads env 31 q).1 else none)
            (fun t => ([], if finalPasses env ((host env).savedInt t (str "check_md5") 0)
              (checkedName (host env) ps p) then some t else none))
            = ([], if (reloads env 31 q).2 && finalPasses env
                ((host env).savedInt (reloads env 31 q).1 (str "check_md5") 0) (checkedName (host env) ps p)
              then some (reloads env 31 q).1 else none) := by
          cases hok : (reloads env 31 q).2 <;> simp [Plan.andThen]
        have hdone := (went_poll q : Went (host env) _ _).andThen fun t _ => went_final (checkedName (host env) ps p) t
        rw [hplan] at hdone
        exact hdone

/-- `_PRINT_FILE` starts what its plan says. -/
theorem went_printFile (raw : Text) (p : Printer V ρ) :
    Went (host env) (printPlan env raw p) (Script.exec (native (host env)) (printFile (host env) raw) p) := by
  unfold printPlan
  cases hname : nameIn (host env) raw with
  | none => exact went_unnamed (host env) hname (fun ps s hnone => ⟨"Ошибка! Имя файла не указано.", by simp only [hnone]⟩) p
  | some filename =>
    obtain ⟨ps, hps, hget⟩ := Option.bind_eq_some_iff.1 hname
    unfold printFile
    rw [exec_invoke (host env) hps]
    simp only [hget, List.singleton_append]
    rw [List.cons_append]
    refine .silent rfl rfl ?_
    rw [Script.execAll_append]
    refine Went.andThen ?_ fun t _ => went_prepare (host env) filename p t
    unfold checkPlan
    split_ifs with hforced hraw
    · exact .silent rfl (by simp [native, hraw]) (.singleton (went_checkMd5 _ p))
    · exact .fails rfl (t := p) (e := .command) (by simp [native, hraw]) _
    · exact .nil p

/-- Everything that a request starts can be told from the texts of its lines. -/
theorem went_startPrint (leveling : Bool) (f : Text) (p : Printer V ρ) :
    Went (host env) (requestPlan env leveling f p)
      (Script.exec (native (host env)) (startPrint (host env) leveling f) p) := by
  rw [startPrint_eq]
  unfold requestPlan
  cases hname : nameIn (host env) (nameLine (escapeQuotes f)) with
  | none => exact went_unnamed (host env) hname (fun ps s hnone => ⟨"Ошибка! Имя файла не указано.", by simp only [hnone]⟩) p
  | some filename =>
    obtain ⟨ps, hps, hget⟩ := Option.bind_eq_some_iff.1 hname
    unfold printFileWith
    rw [exec_invoke (host env) hps]
    simp only [hget]
    split_ifs with hraw
    · refine .silent rfl (t := p) (by simp [native, hraw]) ?_
      cases hm : (host env).m23 (str "/" ++ filename) p with
      | none => exact .fails rfl (t := p) (e := .command) (by simp [native, hm]) _
      | some p' =>
        refine .silent rfl (t := p') (by simp [native, hm]) ?_
        exact .cons (went_printFile _ p') fun t _ => .singleton (went_shell (host env) _ t)
    · exact .fails rfl (t := p) (e := .command) (by simp [native, hraw]) _

end Requests

end HandOver

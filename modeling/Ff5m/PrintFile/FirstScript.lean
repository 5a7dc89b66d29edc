import Ff5m.PrintFile.Macros

/-!
# The first script of a print request

Which shell command a print request starts first, and on which line, is settled
before any script runs: the lines up to it are parsed one after the other.
`firstLine` follows them, and `startPrint_begins` says that the macros do what it
computes: they are stopped where it is stopped, and otherwise hand its line to
`RUN_SHELL_COMMAND`.
-/

namespace PrintFile

open TextTools (Text str)
open GCode

section Host

variable {σ : Type} (h : Host σ)

/-! ## Calls -/

/-- The shell command that a native command starts. -/
def Cmd.call? : Cmd → Option Call
  | .runShellCommand raw => (shellCall h raw).toOption
  | _ => none

/-- The shell commands that a log started. -/
def calls (log : List (Cmd × σ)) : List Call := log.filterMap fun e => e.1.call? h

@[simp] theorem calls_nil : calls h ([] : List (Cmd × σ)) = [] := rfl

@[simp] theorem calls_append (l m : List (Cmd × σ)) : calls h (l ++ m) = calls h l ++ calls h m :=
  List.filterMap_append

@[simp] theorem calls_cons (k : Cmd) (s : σ) (l : List (Cmd × σ)) :
    calls h ((k, s) :: l) = (k.call? h).toList ++ calls h l := by
  unfold calls
  cases hk : k.call? h <;> simp [hk]

/-! ## How a run begins -/

/-- The run fails before it starts a shell command, or the first line it hands to
`RUN_SHELL_COMMAND` is the given one. -/
def Begins (r : Run Cmd σ) : Except Failure Text → Prop
  | .error e => calls h r.log = [] ∧ r.raised = some e
  | .ok raw =>
    match shellCall h raw with
    | .error e => calls h r.log = [] ∧ r.raised = some e
    | .ok c => ∃ rest, calls h r.log = c :: rest

variable {h}

theorem Begins.andThen {r : Run Cmd σ} {o : Except Failure Text} (hr : Begins h r o)
    (next : σ → Run Cmd σ) : Begins h (r.andThen next) o := by
  have hstop : ∀ e, calls h r.log = [] ∧ r.raised = some e →
      calls h (r.andThen next).log = [] ∧ (r.andThen next).raised = some e := by
    rintro e ⟨hlog, hraised⟩
    unfold Run.andThen
    rw [if_pos (by rw [hraised]; rfl)]
    exact ⟨hlog, hraised⟩
  cases o with
  | error e => exact hstop e hr
  | ok raw =>
    unfold Begins at hr ⊢
    cases hc : shellCall h raw with
    | error e =>
      simp only [hc] at hr ⊢
      exact hstop e hr
    | ok c =>
      simp only [hc] at hr ⊢
      obtain ⟨rest, hrest⟩ := hr
      unfold Run.andThen
      split_ifs
      · exact ⟨rest, hrest⟩
      · exact ⟨rest ++ calls h (next r.state).log, by rw [calls_append, hrest, List.cons_append]⟩

/-- A part that starts nothing and does not fail leaves the beginning to what
follows. -/
theorem Begins.of_silent {s' : σ} {log : List (Cmd × σ)} {next : σ → Run Cmd σ}
    {o : Except Failure Text} (hlog : calls h log = []) (hn : Begins h (next s') o) :
    Begins h ((Run.mk s' log none).andThen next) o := by
  rw [Run.andThen_mk_none]
  unfold Begins at hn ⊢
  cases o with
  | error e => simpa [hlog] using hn
  | ok raw =>
    cases hc : shellCall h raw with
    | error e =>
      simp only [hc] at hn ⊢
      simpa [hlog] using hn
    | ok c =>
      simp only [hc] at hn ⊢
      simpa [hlog] using hn

variable (h)

theorem begins_runShellCommand (raw : Text) (s : σ) :
    Begins h (Script.exec (native h) (.cmd (.runShellCommand raw)) s) (.ok raw) := by
  rw [Script.exec_cmd]
  unfold Begins
  cases hc : shellCall h raw with
  | error e => simp [native, hc, Cmd.call?, Except.toOption]
  | ok c =>
    simp only [hc]
    exact ⟨[], by simp [Cmd.call?, hc, Except.toOption]⟩

/-- A message that is accepted does nothing else. -/
theorem exec_respond {raw : Text} (hraw : respondOk h raw = true) (s : σ) :
    Script.exec (native h) (.cmd (.respond raw)) s = ⟨s, [(.respond raw, s)], none⟩ := by
  rw [Script.exec_cmd]
  simp [native, hraw]

theorem begins_respond_fails {raw : Text} (hraw : respondOk h raw = false) (s : σ) :
    Begins h (Script.exec (native h) (.cmd (.respond raw)) s) (.error .command) := by
  rw [Script.exec_cmd]
  simp [Begins, native, hraw, Cmd.call?]

theorem exec_invoke {raw : Text} {ps : List (Text × Text)}
    (hps : extendedParams h.upper raw = some ps)
    (body : List (Text × Text) → σ → List (Macro σ)) (s : σ) :
    Script.exec (native h) (invoke h raw body) s = Script.execAll (native h) (body ps s) s := by
  rw [invoke, Script.exec_call, hps]

theorem begins_invoke_malformed {raw : Text} (hps : extendedParams h.upper raw = none)
    (body : List (Text × Text) → σ → List (Macro σ)) (s : σ) :
    Begins h (Script.exec (native h) (invoke h raw body) s) (.error .command) := by
  rw [invoke, Script.exec_call, hps]
  simp [Begins, native, Cmd.call?]

/-! ## Messages without the name -/

theorem message_eq (sender msg : Text) :
    message sender msg = str "PREFIX" ++ '=' :: '"' :: (sender ++ '"' :: ' ' ::
      (str "MSG" ++ '=' :: '"' :: (msg ++ ['"']))) := by
  have h1 : str "PREFIX=\"" = str "PREFIX" ++ ['=', '"'] := rfl
  have h2 : str "\" MSG=\"" = '"' :: ' ' :: (str "MSG" ++ ['=', '"']) := rfl
  have h3 : str "\"" = ['"'] := rfl
  unfold message
  simp only [h1, h2, h3, List.append_assoc, List.cons_append, List.nil_append]

theorem extendedParams_message {sender msg v : Text} (hs : '"' ∉ sender)
    (hsender : Shlex.readDouble false sender = some sender) (hq : '"' ∉ msg)
    (hv : Shlex.readDouble false msg = some v) :
    extendedParams h.upper (message sender msg)
      = some [(str "PREFIX", sender), (str "MSG", v)] := by
  rw [message_eq, extendedParams_double_cons h.upper (by decide) hs hsender,
    extendedParams_double h.upper (by decide) hq hv, Option.map_some]

theorem respondOk_message {sender msg : Text} (hs : '"' ∉ sender)
    (hsender : Shlex.readDouble false sender = some sender) (hq : '"' ∉ msg)
    (hv : (Shlex.readDouble false msg).isSome) : respondOk h (message sender msg) = true := by
  obtain ⟨v, hv⟩ := Option.isSome_iff_exists.1 hv
  have htype : getParam [(str "PREFIX", sender), (str "MSG", v)] (str "TYPE") = none := by
    simp [getParam, List.lookup_cons, show (str "TYPE" == str "MSG") = false from by decide,
      show (str "TYPE" == str "PREFIX") = false from by decide]
  unfold respondOk
  rw [extendedParams_message h hs hsender hq hv]
  simp only [htype]

theorem respondOk_info {msg : Text} (hq : '"' ∉ msg)
    (hv : (Shlex.readDouble false msg).isSome) : respondOk h (info msg) = true :=
  respondOk_message h (by decide) (by decide) hq hv

theorem respondOk_useKamp : respondOk h (info (str "Получаю данные для KAMP.")) = true :=
  respondOk_info h (by simp [str]) (Shlex.readDouble_isSome (by simp) (by simp [str]))

theorem respondOk_preclear :
    respondOk h (info (str "Сейчас будет нагрет стол и экструдер.")) = true :=
  respondOk_info h (by simp [str]) (Shlex.readDouble_isSome (by simp) (by simp [str]))

theorem respondOk_freeze :
    respondOk h (message (str "//") (str "Экран принтера замерзнет до окончания предочистки."))
      = true :=
  respondOk_message h (by decide) (by decide) (by simp [str])
    (Shlex.readDouble_isSome (by simp) (by simp [str]))

/-! ## Following the lines -/

/-- The name a macro reads from its parameters. -/
def nameIn (raw : Text) : Option Text :=
  (extendedParams h.upper raw).bind (getParam · (str "FILENAME"))

/-- The first line that `prepare` hands to `RUN_SHELL_COMMAND`. -/
def prepareLine (filename : Text) (s : σ) : Text :=
  if h.savedInt s (str "use_kamp") 0 = 1 then zexcludeLine filename
  else if h.savedInt s (str "preclear") 0 = 1 then zpreclearLine (str "TEST") filename
  else zpreclearLine (str "NONE") filename

/-- The name that `CHECK_MD5` checks, and its `DELETE`. -/
def checkedName (ps : List (Text × Text)) (s : σ) : Text :=
  (getParam ps (str "FILENAME")).getD (h.filePath s)

/-- The first line that `_PRINT_FILE` hands to `RUN_SHELL_COMMAND`, or how it
fails before. -/
def printFileLine (raw : Text) (s : σ) : Except Failure Text :=
  match nameIn h raw with
  | none => .error .command
  | some filename =>
    if h.savedInt s (str "force_md5") 1 = 1 then
      if respondOk h (info (str "Запущена проверка MD5 " ++ filename)) = false then
        .error .command
      else
        match extendedParams h.upper (checkMd5Line filename) with
        | none => .error .command
        | some ps =>
          match (h.saveVariable (str "check_md5") (str "0") s).2 with
          | some e => .error e
          | none =>
            if checkedName h ps s ≠ [] then
              .ok (checkMd5Shell (checkedName h ps s) ((getParam ps (str "DELETE")).getD []))
            else .ok (prepareLine h filename s)
    else .ok (prepareLine h filename s)

/-- The same for the two macros that `start_print` calls. -/
def printFileWithLine (announce : Text → Text) (raw : Text) (s : σ) : Except Failure Text :=
  match nameIn h raw with
  | none => .error .command
  | some filename =>
    if respondOk h (info (announce filename)) = false then .error .command
    else
      match h.m23 (str "/" ++ filename) s with
      | none => .error .command
      | some s' => printFileLine h (nameLine filename) s'

theorem prepare_begins (filename : Text) (s s' : σ) :
    Begins h (Script.execAll (native h) (prepare h filename s) s')
      (.ok (prepareLine h filename s)) := by
  have hz : Script.exec (native h) (.cmd .zcontrolOn) s' = ⟨s', [(.zcontrolOn, s')], none⟩ := by
    simp [native]
  unfold prepareLine prepare
  by_cases hk : h.savedInt s (str "use_kamp") 0 = 1
  · rw [if_pos hk, if_pos hk, List.append_assoc, List.cons_append, Script.execAll_cons,
      exec_respond h (respondOk_useKamp h)]
    refine Begins.of_silent (by simp [Cmd.call?]) ?_
    rw [List.cons_append, Script.execAll_cons]
    exact (begins_runShellCommand h _ _).andThen _
  · rw [if_neg hk, if_neg hk, List.nil_append, List.singleton_append, Script.execAll_cons, hz]
    refine Begins.of_silent (by simp [Cmd.call?]) ?_
    by_cases hp : h.savedInt s (str "preclear") 0 = 1
    · rw [if_pos hp, if_pos hp, Script.execAll_cons, exec_respond h (respondOk_preclear h)]
      refine Begins.of_silent (by simp [Cmd.call?]) ?_
      rw [Script.execAll_cons, exec_respond h (respondOk_freeze h)]
      refine Begins.of_silent (by simp [Cmd.call?]) ?_
      rw [Script.execAll_cons]
      exact (begins_runShellCommand h _ _).andThen _
    · rw [if_neg hp, if_neg hp, Script.execAll_cons]
      exact (begins_runShellCommand h _ _).andThen _

/-- `CHECK_MD5` fails when the store does. -/
theorem checkMd5_begins_error {raw : Text} {ps : List (Text × Text)}
    (hps : extendedParams h.upper raw = some ps) {s : σ} {e : Failure}
    (hsave : (h.saveVariable (str "check_md5") (str "0") s).2 = some e) :
    Begins h (Script.exec (native h) (checkMd5 h raw) s) (.error e) := by
  unfold checkMd5
  rw [exec_invoke h hps, List.singleton_append, Script.execAll_cons, Script.exec_cmd]
  refine Begins.andThen ?_ _
  exact ⟨by simp [Cmd.call?], hsave⟩

/-- `CHECK_MD5` with a name begins with its script. -/
theorem checkMd5_begins_script {raw : Text} {ps : List (Text × Text)}
    (hps : extendedParams h.upper raw = some ps) {s : σ}
    (hsave : (h.saveVariable (str "check_md5") (str "0") s).2 = none)
    (hne : checkedName h ps s ≠ []) :
    Begins h (Script.exec (native h) (checkMd5 h raw) s)
      (.ok (checkMd5Shell (checkedName h ps s) ((getParam ps (str "DELETE")).getD []))) := by
  have hnative : (native h (.saveVariable (str "check_md5") (str "0")) s).2 = none := hsave
  unfold checkMd5
  rw [exec_invoke h hps, List.singleton_append, Script.execAll_cons, Script.exec_cmd, hnative]
  refine Begins.of_silent (by simp [Cmd.call?]) ?_
  rw [if_pos (by exact hne), List.append_assoc, List.singleton_append, Script.execAll_cons]
  exact (begins_runShellCommand h _ _).andThen _

/-- `CHECK_MD5` without a name does nothing more. -/
theorem exec_checkMd5_nameless {raw : Text} {ps : List (Text × Text)}
    (hps : extendedParams h.upper raw = some ps) {s : σ}
    (hsave : (h.saveVariable (str "check_md5") (str "0") s).2 = none)
    (hnil : checkedName h ps s = []) :
    ∃ s' log, Script.exec (native h) (checkMd5 h raw) s = ⟨s', log, none⟩ ∧ calls h log = [] := by
  have hnative : (native h (.saveVariable (str "check_md5") (str "0")) s).2 = none := hsave
  refine ⟨(h.saveVariable (str "check_md5") (str "0") s).1,
    [(.saveVariable (str "check_md5") (str "0"), s)], ?_, by simp [Cmd.call?]⟩
  unfold checkMd5
  rw [exec_invoke h hps, List.singleton_append, Script.execAll_cons, Script.exec_cmd, hnative,
    Run.andThen_mk_none, if_neg (by exact not_not.2 hnil), Script.execAll_nil]
  rfl

theorem printFile_begins (raw : Text) (s : σ) :
    Begins h (Script.exec (native h) (printFile h raw) s) (printFileLine h raw s) := by
  unfold printFile printFileLine nameIn
  cases hps : extendedParams h.upper raw with
  | none => exact begins_invoke_malformed h hps _ s
  | some ps =>
    rw [exec_invoke h hps, Option.bind_some]
    cases hf : getParam ps (str "FILENAME") with
    | none => simp [Begins, native, Cmd.call?]
    | some filename =>
      have hexclude : Script.exec (native h) (.cmd .excludeObjectDefineReset) s
          = ⟨s, [(.excludeObjectDefineReset, s)], none⟩ := by simp [native]
      simp only [List.singleton_append]
      rw [List.cons_append, Script.execAll_cons, hexclude]
      refine Begins.of_silent (by simp [Cmd.call?]) ?_
      by_cases hforce : h.savedInt s (str "force_md5") 1 = 1
      · rw [if_pos hforce, if_pos hforce, List.cons_append, Script.execAll_cons]
        cases hresp : respondOk h (info (str "Запущена проверка MD5 " ++ filename)) with
        | false => exact (begins_respond_fails h hresp s).andThen _
        | true =>
          rw [exec_respond h hresp, if_neg (by simp)]
          refine Begins.of_silent (by simp [Cmd.call?]) ?_
          rw [List.cons_append, List.nil_append, Script.execAll_cons]
          cases hcheck : extendedParams h.upper (checkMd5Line filename) with
          | none => exact (begins_invoke_malformed h hcheck _ s).andThen _
          | some qs =>
            cases hsave : (h.saveVariable (str "check_md5") (str "0") s).2 with
            | some e => exact (checkMd5_begins_error h hcheck hsave).andThen _
            | none =>
              by_cases hne : checkedName h qs s ≠ []
              · simp only [if_pos hne]
                exact (checkMd5_begins_script h hcheck hsave hne).andThen _
              · obtain ⟨s', log, hexec, hlog⟩ :=
                  exec_checkMd5_nameless h hcheck hsave (not_not.1 hne)
                simp only [if_neg hne]
                rw [hexec]
                exact Begins.of_silent hlog (prepare_begins h filename s s')
      · rw [if_neg hforce, if_neg hforce, List.nil_append]
        exact prepare_begins h filename s s

theorem printFileWith_begins (announce handOver : Text → Text) (raw : Text) (s : σ) :
    Begins h (Script.exec (native h) (printFileWith h announce handOver raw) s)
      (printFileWithLine h announce raw s) := by
  unfold printFileWith printFileWithLine nameIn
  cases hps : extendedParams h.upper raw with
  | none => exact begins_invoke_malformed h hps _ s
  | some ps =>
    rw [exec_invoke h hps, Option.bind_some]
    cases hf : getParam ps (str "FILENAME") with
    | none => simp [Begins, native, Cmd.call?]
    | some filename =>
      simp only
      rw [Script.execAll_cons]
      cases hresp : respondOk h (info (announce filename)) with
      | false => exact (begins_respond_fails h hresp s).andThen _
      | true =>
        rw [exec_respond h hresp, if_neg (by simp)]
        refine Begins.of_silent (by simp [Cmd.call?]) ?_
        rw [Script.execAll_cons, Script.exec_cmd]
        cases hm : h.m23 (str "/" ++ filename) s with
        | none => exact Begins.andThen (by simp [Begins, native, hm, Cmd.call?]) _
        | some s' =>
          have hnative : native h (.m23 (str "/" ++ filename)) s = (s', none) := by
            simp [native, hm]
          rw [hnative]
          refine Begins.of_silent (by simp [Cmd.call?]) ?_
          rw [Script.execAll_cons]
          exact (printFile_begins h _ s').andThen _

end Host

end PrintFile

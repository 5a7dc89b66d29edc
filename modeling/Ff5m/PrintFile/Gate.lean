import Ff5m.PrintFile.Quoting
import Ff5m.Store.SharedFile

/-!
# The gate of the sum check

`CHECK_MD5` stores a verdict of 0, starts the script, and reloads the variables
until the script has written its verdict into their file, or for thirty more
seconds.  The printer here is the one of the macros on top of the variable store:
verdicts may be written at any moment, by the script or by one of an earlier check
that is still running, or never.

* `Printer`, `host`: the store and the running check as a host of the macros;
* `reloads`, `poll_reloads`: what the reloads come to, with any store;
* `gate_iff`: whatever the script does and whenever, the commands behind the check
  run only after a good verdict of this very check, and the print is cancelled
  otherwise, exactly when `Accepted`;
* `Ready`, `poll_ready`: on a store that can be edited every reload succeeds and the
  variables have what the script wrote by then;
* `accepted_iff`: so there only the lines around the name can fail.
-/

namespace Gate

open TextTools (Text str)
open ConfigParser SaveVariables GCode PrintFile Shlex

/-! ## The printer -/

/-- What the script writes as a verdict. -/
abbrev Verdict := {d : Fin 10 // d ≠ 0 ∧ d ≠ 9}

/-- A verdict that is written, and whether the script of the running check does so. -/
structure Edit where
  verdict : Verdict
  own : Bool

/-- The store, what is written before each of the next reloads, the verdict that the
script of the running check has written, and the rest of the printer. -/
structure Printer (V ρ : Type) where
  store : Store V
  due : List (List Edit)
  wrote : Option Verdict
  rest : ρ

/-- What the printer rests on. -/
structure Env (V ρ : Type) where
  upper : Upper
  py : Python V
  dg : Digits py
  copy : Copy
  /-- the filter `int` -/
  toInt : V → ℤ
  toInt_digit : ∀ d, toInt (dg.ofDigit d) = (d : ℕ)
  /-- the path of the loaded file, if there is one -/
  filePath : ρ → Option Text
  isCommand : Text → Bool
  isCommand_shellCommands : ∀ c ∈ shellCommands, isCommand c = true
  m23 : Text → ρ → Option ρ
  /-- what becomes of writing the variables file -/
  write : Printer V ρ → Write
  /-- what is written once a script is started: by the end of `RUN_SHELL_COMMAND`, then
  before each reload -/
  timing : Call → Printer V ρ → List (List Edit)
  /-- what else a script does -/
  script : Call → ρ → ρ
  cancelPrint : Printer V ρ → Printer V ρ × Option Failure
  cancelPrint_wrote : ∀ p, (cancelPrint p).1.wrote = p.wrote
  cancelPrint_failure : ∀ p, (cancelPrint p).2 ≠ some .internal

section Printer

variable {V ρ : Type}

/-- A verdict is written. -/
def Printer.edit (p : Printer V ρ) (e : Edit) : Printer V ρ :=
  { p with
    store := { p.store with disk := Md5.sendKlipper e.verdict.1 p.store.disk }
    wrote := if e.own then some e.verdict else p.wrote }

/-- What is due is written. -/
def Printer.tick (p : Printer V ρ) : Printer V ρ :=
  match p.due with
  | [] => p
  | es :: due => { es.foldl Printer.edit p with due := due }

/-- The macros' host. -/
def host (env : Env V ρ) : Host (Printer V ρ) where
  upper := env.upper
  savedInt p name d :=
    match p.store.allVariables.lookup name with
    | none => d
    | some v => env.toInt v
  filePath p := (env.filePath p.rest).getD (str "None")
  isCommand := env.isCommand
  isCommand_shellCommands := env.isCommand_shellCommands
  m23 arg p := (env.m23 arg p.rest).map fun r => { p with rest := r }
  m23_savedInt := by
    intro arg s s' h
    obtain ⟨r, -, rfl⟩ := Option.map_eq_some_iff.1 h
    rfl
  saveVariable name value p :=
    ({ p with store := (cmdSaveVariable env.py env.copy (env.write p) name value p.store).1 },
      (cmdSaveVariable env.py env.copy (env.write p) name value p.store).2)
  zloadVariable p :=
    ({ p.tick with store := (cmdZloadVariable env.py p.tick.store).1 },
      (cmdZloadVariable env.py p.tick.store).2)
  shell c p :=
    if c.command = str "check_md5" then
      ({ p with due := env.timing c p, wrote := none, rest := env.script c p.rest } : Printer V ρ).tick
    else { p with rest := env.script c p.rest }
  dwell _ p := p
  cancelPrint := env.cancelPrint

/-! ## The gate -/

/-- The verdicts with which a print goes on. -/
def passing : List (Fin 10) := [3, 4, 5, 8]

/-- The check has written a verdict with which the print goes on. -/
def Good (p : Printer V ρ) : Prop := ∃ d, p.wrote = some d ∧ d.1 ∈ passing

/-- What follows the check runs only after a good verdict; otherwise the print is
cancelled and a command error raised. -/
structure Gated (r : Run Cmd (Printer V ρ)) : Prop where
  goes_on : r.raised = none → Good r.state
  refuses : ¬ Good r.state → (∃ p, (Cmd.cancelPrint, p) ∈ r.log) ∧ r.raised = some .command

/-- `CHECK_MD5` is called: its script has written nothing yet. -/
def Printer.called (p : Printer V ρ) : Printer V ρ := { p with wrote := none }

/-- An invocation of `CHECK_MD5`. -/
def check (env : Env V ρ) (raw : Text) (p : Printer V ρ) : Run Cmd (Printer V ρ) :=
  Script.exec (native (host env)) (PrintFile.checkMd5 (host env) raw) p.called

/-! ## Waiting for the verdict -/

/-- The reloads, up to the first one that fails, and whether there is none. -/
def reloads (env : Env V ρ) : ℕ → Printer V ρ → Printer V ρ × Bool
  | 0, p => (p, true)
  | n + 1, p =>
    match loadVariables env.py p.tick.store.disk with
    | none => (p.tick, false)
    | some m => reloads env n { p.tick with store := { p.tick.store with allVariables := m } }

theorem reloads_fails (env : Env V ρ) (n : ℕ) {p : Printer V ρ}
    (hload : loadVariables env.py p.tick.store.disk = none) : reloads env (n + 1) p = (p.tick, false) := by
  rw [reloads, hload]

theorem reloads_succ (env : Env V ρ) (n : ℕ) {p : Printer V ρ} {m : List (Text × V)}
    (hload : loadVariables env.py p.tick.store.disk = some m) :
    reloads env (n + 1) p = reloads env n { p.tick with store := { p.tick.store with allVariables := m } } := by
  rw [reloads, hload]

/-- Waiting does nothing to the printer. -/
theorem exec_checkMd5Wait (env : Env V ρ) (p : Printer V ρ) :
    ∃ log, Script.exec (native (host env)) (checkMd5Wait (host env)) p = ⟨p, log, none⟩ ∧
      ∀ q, (Cmd.cancelPrint, q) ∉ log := by
  unfold checkMd5Wait
  rw [Script.exec_call]
  split_ifs
  · rw [Script.execAll_singleton, Script.exec_cmd]
    exact ⟨_, rfl, by simp⟩
  · rw [Script.execAll_nil]
    exact ⟨_, rfl, by simp⟩

theorem exec_zload_fails (env : Env V ρ) {p : Printer V ρ}
    (hload : loadVariables env.py p.tick.store.disk = none) :
    Script.exec (native (host env)) (.cmd .zloadVariable) p
      = ⟨p.tick, [(.zloadVariable, p)], some .command⟩ := by
  rw [Script.exec_cmd]
  simp only [native, host, cmdZloadVariable, hload]

theorem exec_zload (env : Env V ρ) {p : Printer V ρ} {m : List (Text × V)}
    (hload : loadVariables env.py p.tick.store.disk = some m) :
    Script.exec (native (host env)) (.cmd .zloadVariable) p
      = ⟨{ p.tick with store := { p.tick.store with allVariables := m } }, [(.zloadVariable, p)], none⟩ := by
  rw [Script.exec_cmd]
  simp only [native, host, cmdZloadVariable, hload]

/-- From the end of the script on, nothing happens but the reloads. -/
theorem poll_reloads (env : Env V ρ) (p : Printer V ρ) :
    ∃ log, poll (host env) p
        = ⟨(reloads env 31 p).1, log, if (reloads env 31 p).2 then none else some .command⟩ ∧
      ∀ q, (Cmd.cancelPrint, q) ∉ log := by
  have hrounds : ∀ (n : ℕ) (p : Printer V ρ), ∃ log, Script.execAll (native (host env))
        ((List.replicate n [.cmd .zloadVariable, checkMd5Wait (host env)]).flatten ++
          [.cmd .zloadVariable]) p
        = ⟨(reloads env (n + 1) p).1, log, if (reloads env (n + 1) p).2 then none else some .command⟩ ∧
      ∀ q, (Cmd.cancelPrint, q) ∉ log := by
    intro n
    induction n with
    | zero =>
      intro p
      rw [List.replicate_zero, List.flatten_nil, List.nil_append, Script.execAll_singleton]
      cases hload : loadVariables env.py p.tick.store.disk with
      | none =>
        rw [exec_zload_fails env hload, reloads_fails env 0 hload]
        exact ⟨_, rfl, by simp⟩
      | some m =>
        rw [exec_zload env hload, reloads_succ env 0 hload]
        exact ⟨_, rfl, by simp⟩
    | succ n ih =>
      intro p
      simp only [List.replicate_succ, List.flatten_cons, List.cons_append, List.nil_append]
      rw [Script.execAll_cons]
      cases hload : loadVariables env.py p.tick.store.disk with
      | none =>
        rw [exec_zload_fails env hload, Run.andThen_mk_some, reloads_fails env (n + 1) hload]
        exact ⟨_, rfl, by simp⟩
      | some m =>
        obtain ⟨waits, hwait, hquiet⟩ := exec_checkMd5Wait env
          { p.tick with store := { p.tick.store with allVariables := m } }
        obtain ⟨log, hrest, hlog⟩ := ih { p.tick with store := { p.tick.store with allVariables := m } }
        rw [exec_zload env hload, Run.andThen_mk_none, Script.execAll_cons, hwait, Run.andThen_mk_none, hrest,
          reloads_succ env (n + 1) hload]
        exact ⟨_, rfl, by simp [hquiet, hlog]⟩
  exact hrounds 30 p

variable {env : Env V ρ}

/-! ## The final check -/

/-- The message of a refusal around the name is accepted. -/
def Announces (env : Env V ρ) (v : ℤ) (filename : Text) : Prop :=
  ∃ ps quoted msg, extendedParams env.upper (finalCheckLine filename) = some ps ∧
    finalCheckBody (σ := Printer V ρ) v ((getParam ps (str "FILENAME")).getD []) = refuse quoted msg ∧
    respondOk (host env) (error quoted msg) = true

theorem messages_no_cancel {P : Text → Prop} {cs : List (Macro (Printer V ρ))}
    (hcs : Messages P cs) (p : Printer V ρ) :
    ∀ q, (Cmd.cancelPrint, q) ∉ (Script.execAll (native (host env)) cs p).log := by
  have honly : Script.OnlyAll (fun k => k ≠ Cmd.cancelPrint) cs := by
    induction hcs with
    | nil => exact Script.onlyAll_nil
    | cons _ _ ih => exact Script.onlyAll_cons.2 ⟨Script.only_cmd.2 (by simp), ih⟩
  intro q hq
  exact honly.log p _ hq rfl

/-- The commands of the final check. -/
def Final : Cmd → Prop
  | .respond _ | .cancelPrint | .raiseError _ | .malformed _ => True
  | _ => False

theorem only_finalCheckMd5 (raw : Text) :
    Script.Only Final (finalCheckMd5 (host env) raw) := by
  unfold finalCheckMd5 invoke
  rw [Script.only_call]
  intro s
  cases extendedParams (host env).upper raw with
  | none => simp [Final]
  | some ps =>
    simp [finalCheckBody, refuse, finalStopMd5, Final]

/-- The final check does not touch the verdict. -/
theorem final_wrote (raw : Text) (p : Printer V ρ) :
    (Script.exec (native (host env)) (finalCheckMd5 (host env) raw) p).state.wrote = p.wrote := by
  refine (only_finalCheckMd5 raw).frame (f := Printer.wrote) ?_ p
  intro k hk q
  cases k <;> first | rfl | exact env.cancelPrint_wrote q | exact absurd hk (by simp [Final])

/-- Without a refusal the final check cancels nothing. -/
theorem exec_final_passes {raw : Text} {p : Printer V ρ}
    (hv : (host env).savedInt p (str "check_md5") 0 ∉ refusals) :
    ∀ q, (Cmd.cancelPrint, q) ∉ (Script.exec (native (host env))
      (finalCheckMd5 (host env) raw) p).log := by
  unfold finalCheckMd5
  cases hps : extendedParams (host env).upper raw with
  | none => simp [invoke, hps]
  | some ps =>
    rw [exec_invoke (host env) hps]
    exact messages_no_cancel (finalCheckBody_messages (host env) hv _) p

/-- With a refusal it cancels the print if its message is accepted. -/
theorem exec_final_refuses (filename : Text) {p : Printer V ρ}
    (hv : (host env).savedInt p (str "check_md5") 0 ∈ refusals) :
    ((∃ q, (Cmd.cancelPrint, q) ∈ (Script.exec (native (host env))
        (finalCheckMd5 (host env) (finalCheckLine filename)) p).log) ∧
      (Script.exec (native (host env))
        (finalCheckMd5 (host env) (finalCheckLine filename)) p).raised = some .command)
    ↔ Announces env ((host env).savedInt p (str "check_md5") 0) filename := by
  unfold finalCheckMd5
  cases hps : extendedParams (host env).upper (finalCheckLine filename) with
  | none =>
    constructor
    · rintro ⟨⟨q, hq⟩, -⟩
      simp [invoke, hps] at hq
    · rintro ⟨ps, quoted, msg, hparams, -⟩
      exact absurd (hps.symm.trans hparams) (by simp)
  | some ps =>
    rw [exec_invoke (host env) hps]
    obtain ⟨quoted, u, w, -, -, hbody⟩ := finalCheckBody_refusal (σ := Printer V ρ) hv
      ((getParam ps (str "FILENAME")).getD [])
    rw [hbody]
    constructor
    · rintro ⟨⟨q, hq⟩, -⟩
      refine ⟨ps, quoted, _, hps, hbody, ?_⟩
      by_contra hmsg
      -- the message is the first command, and its failure the end
      have hfails : (native (host env) (.respond (error quoted
          (u ++ (getParam ps (str "FILENAME")).getD [] ++ w))) p).2 = some .command := if_neg hmsg
      rw [refuse, Script.execAll_cons, Script.exec_cmd, hfails, Run.andThen_mk_some] at hq
      simp at hq
    · rintro ⟨ps', quoted', msg, hps', hbody', hmsg⟩
      obtain rfl : ps = ps' := Option.some.inj (hps.symm.trans hps')
      rw [← hbody, hbody']
      have hrefused := Refused.of_refuse hmsg p
      refine ⟨⟨p, hrefused.cancelled⟩, ?_⟩
      rw [hrefused.raised]
      cases hcancel : ((host env).cancelPrint p).2 with
      | none => rfl
      | some e =>
        cases e with
        | command => rfl
        | internal => exact absurd hcancel (env.cancelPrint_failure p)

/-- Only a refusal is announced. -/
theorem Announces.mem_refusals {v : ℤ} {filename : Text} (h : Announces env v filename) : v ∈ refusals := by
  obtain ⟨ps, quoted, msg, -, hbody, -⟩ := h
  by_contra hv
  have hmessages := finalCheckBody_messages (host env) hv ((getParam ps (str "FILENAME")).getD [])
  rw [hbody, refuse] at hmessages
  cases hmessages with
  | cons _ hrest => cases hrest

/-! ## The whole check -/

/-- The printer once `CHECK_MD5` has stored a verdict of 0. -/
def saved (env : Env V ρ) (p : Printer V ρ) : Printer V ρ :=
  ((host env).saveVariable (str "check_md5") (str "0") p).1

/-- The file name of a check, and its parameters for the script. -/
def checkShell (env : Env V ρ) (ps : List (Text × Text)) (p : Printer V ρ) : Text :=
  checkMd5Shell (checkedName (host env) ps p) ((getParam ps (str "DELETE")).getD [])

/-- The line of the check is read and has a file name, the verdict of 0 is stored, the
parameters of the script are read, and either the script writes a good verdict before the
last reload, or the reloads succeed and the message about the verdict that they end with
is accepted. -/
def Accepted (env : Env V ρ) (raw : Text) (p : Printer V ρ) : Prop :=
  ∃ ps c, extendedParams env.upper raw = some ps ∧ checkedName (host env) ps p ≠ [] ∧
    ((host env).saveVariable (str "check_md5") (str "0") p).2 = none ∧
    shellCall (host env) (checkShell env ps p) = .ok c ∧
    let ended := reloads env 31 ((host env).shell c (saved env p))
    Good ended.1 ∨ (ended.2 = true ∧
      Announces env ((host env).savedInt ended.1 (str "check_md5") 0) (checkedName (host env) ps p))

/-- What the check comes to once its script is started. -/
theorem exec_started {raw : Text} {p : Printer V ρ} {ps : List (Text × Text)}
    (hps : extendedParams env.upper raw = some ps) (hne : checkedName (host env) ps p ≠ [])
    (hsave : ((host env).saveVariable (str "check_md5") (str "0") p).2 = none) {c : Call}
    (hc : shellCall (host env) (checkShell env ps p) = .ok c) :
    ∃ log, (∀ q, (Cmd.cancelPrint, q) ∉ log) ∧
      (Cmd.runShellCommand (checkShell env ps p), saved env p) ∈ log ∧
      Script.exec (native (host env)) (PrintFile.checkMd5 (host env) raw) p
        = (Run.mk ((host env).shell c (saved env p)) log none).andThen fun q =>
            (poll (host env) q).andThen (Script.exec (native (host env))
              (finalCheckMd5 (host env) (finalCheckLine (checkedName (host env) ps p)))) := by
  have hsaved : native (host env) (.saveVariable (str "check_md5") (str "0")) p = (saved env p, none) :=
    Prod.ext rfl hsave
  have hsplit : pollMd5 (host env) ++
      [.cmd .zloadVariable, finalCheckMd5 (host env) (finalCheckLine (checkedName (host env) ps p))]
      = (pollMd5 (host env) ++ [.cmd .zloadVariable]) ++
        [finalCheckMd5 (host env) (finalCheckLine (checkedName (host env) ps p))] := by simp
  refine ⟨[(.saveVariable (str "check_md5") (str "0"), p),
    (.runShellCommand (checkShell env ps p), saved env p)], by simp, by simp, ?_⟩
  unfold PrintFile.checkMd5
  rw [exec_invoke (host env) hps, List.singleton_append, Script.execAll_cons, Script.exec_cmd, hsaved,
    Run.andThen_mk_none, if_pos (by exact hne), List.append_assoc, List.singleton_append,
    Script.execAll_cons]
  have hstart := exec_runShellCommand (host env) hc (saved env p)
  rw [checkShell] at hstart
  rw [checkedName] at hstart hsplit
  rw [hstart, hsplit, Run.andThen_mk_none, Run.andThen_mk_none, Script.execAll_append,
    Script.execAll_singleton]
  rfl

/-- A check whose script is not started. -/
theorem exec_unstarted {raw : Text} {p : Printer V ρ} {ps : List (Text × Text)}
    (hps : extendedParams env.upper raw = some ps)
    (hno : checkedName (host env) ps p ≠ [] →
      ((host env).saveVariable (str "check_md5") (str "0") p).2 = none →
        ∃ e, shellCall (host env) (checkShell env ps p) = .error e) :
    ∃ log raised, (∀ q, (Cmd.cancelPrint, q) ∉ log) ∧
      Script.exec (native (host env)) (PrintFile.checkMd5 (host env) raw) p
        = ⟨saved env p, log, raised⟩ := by
  unfold PrintFile.checkMd5
  rw [exec_invoke (host env) hps, List.singleton_append, Script.execAll_cons, Script.exec_cmd]
  cases hsave : ((host env).saveVariable (str "check_md5") (str "0") p).2 with
  | some e =>
    have hfailed : native (host env) (.saveVariable (str "check_md5") (str "0")) p
        = (saved env p, some e) := Prod.ext rfl hsave
    rw [hfailed, Run.andThen_mk_some]
    exact ⟨_, _, by simp, rfl⟩
  | none =>
    have hsaved : native (host env) (.saveVariable (str "check_md5") (str "0")) p
        = (saved env p, none) := Prod.ext rfl hsave
    rw [hsaved, Run.andThen_mk_none]
    by_cases hne : checkedName (host env) ps p = []
    · rw [if_neg (by exact not_not.2 hne), Script.execAll_nil]
      exact ⟨_, _, by simp, rfl⟩
    · obtain ⟨e, he⟩ := hno hne hsave
      have hfails : native (host env) (.runShellCommand (checkShell env ps p)) (saved env p)
          = (saved env p, some e) := by
        simp only [native, he]
      rw [checkShell, checkedName] at hfails
      rw [if_pos (by exact hne), List.append_assoc, List.singleton_append, Script.execAll_cons,
        Script.exec_cmd, hfails, Run.andThen_mk_some]
      exact ⟨_, _, by simp, rfl⟩

theorem not_gated {r : Run Cmd (Printer V ρ)} (hwrote : r.state.wrote = none)
    (hlog : ∀ q, (Cmd.cancelPrint, q) ∉ r.log) : ¬ Gated r := by
  intro hgated
  have hbad : ¬ Good r.state := by
    rintro ⟨d, hd, -⟩
    rw [hwrote] at hd
    exact absurd hd (by simp)
  obtain ⟨⟨q, hq⟩, -⟩ := hgated.refuses hbad
  exact hlog q hq

/-- The check ends as the reloads and the final check say. -/
theorem gated_final_iff (name : Text) {p : Printer V ρ} {log : List (Cmd × Printer V ρ)}
    (hlog : ∀ q, (Cmd.cancelPrint, q) ∉ log) :
    Gated ((Run.mk p log none).andThen fun q => (poll (host env) q).andThen
        (Script.exec (native (host env)) (finalCheckMd5 (host env) (finalCheckLine name)))) ↔
      Good (reloads env 31 p).1 ∨ ((reloads env 31 p).2 = true ∧
        Announces env ((host env).savedInt (reloads env 31 p).1 (str "check_md5") 0) name) := by
  obtain ⟨waits, hpoll, hquiet⟩ := poll_reloads env p
  rw [Run.andThen_mk_none, hpoll]
  set q := (reloads env 31 p).1 with hq
  cases hok : (reloads env 31 p).2 with
  | false =>
    -- a reload fails, and nothing follows
    simp only [Bool.false_eq_true, if_false, Run.andThen_mk_some, false_and, or_false]
    constructor
    · intro hgated
      by_contra hbad
      obtain ⟨⟨s, hs⟩, -⟩ := hgated.refuses hbad
      exact (List.mem_append.1 hs).elim (hlog s) (hquiet s)
    · exact fun hgood => ⟨fun h => absurd h (by simp), fun hbad => absurd hgood hbad⟩
  | true =>
    set t := Script.exec (native (host env)) (finalCheckMd5 (host env) (finalCheckLine name)) q with ht
    have hcancel : (∃ s, (Cmd.cancelPrint, s) ∈ log ++ (waits ++ t.log)) ↔
        ∃ s, (Cmd.cancelPrint, s) ∈ t.log := by
      simp [hlog, hquiet]
    have hgood : Good t.state ↔ Good q := by
      unfold Good
      rw [ht, final_wrote]
    simp only [if_true, Run.andThen_mk_none, true_and]
    by_cases hpass : Good q
    · exact ⟨fun _ => Or.inl hpass, fun _ =>
        ⟨fun _ => hgood.2 hpass, fun hbad => absurd (hgood.2 hpass) hbad⟩⟩
    by_cases hv : (host env).savedInt q (str "check_md5") 0 ∈ refusals
    · have hfinal := exec_final_refuses name hv
      rw [← ht] at hfinal
      rw [← hfinal, ← hcancel]
      refine ⟨fun hgated => Or.inr (hgated.refuses (mt hgood.1 hpass)), ?_⟩
      rintro (h | hrefused)
      · exact absurd h hpass
      · exact ⟨fun hraised => absurd (hrefused.2.symm.trans hraised) (by simp), fun _ => hrefused⟩
    · constructor
      · intro hgated
        obtain ⟨s, hs⟩ := hcancel.1 (hgated.refuses (mt hgood.1 hpass)).1
        exact absurd hs (exec_final_passes hv s)
      · rintro (h | hannounced)
        · exact absurd h hpass
        · exact absurd hannounced.mem_refusals hv

/-- The verdict as it is in the variables: 0 until the script has written one. -/
def Printer.verdict (p : Printer V ρ) : Fin 10 := (p.wrote.map Subtype.val).getD 0

theorem good_iff (p : Printer V ρ) : Good p ↔ ((p.verdict : ℕ) : ℤ) ∉ refusals := by
  unfold Good Printer.verdict
  cases hw : p.wrote with
  | none => simp [refusals]
  | some d =>
    have hcases : ∀ d : Fin 10, d ≠ 0 → d ≠ 9 → (d ∈ passing ↔ ((d : ℕ) : ℤ) ∉ refusals) := by
      decide
    simpa using hcases d.1 d.2.1 d.2.2

/-! ## A store that can be edited -/

/-- The last verdict that the script of the check writes. -/
def lastOwn (es : List Edit) : Option Verdict := ((es.filter Edit.own).getLast?).map Edit.verdict

theorem lastOwn_append (es fs : List Edit) : lastOwn (es ++ fs) = (lastOwn fs).or (lastOwn es) := by
  unfold lastOwn
  rw [List.filter_append, List.getLast?_append]
  cases (fs.filter Edit.own).getLast? <;> rfl

/-- The verdict that a started script has written by the end of the reloads. -/
def heardBy (env : Env V ρ) (c : Call) (p : Printer V ρ) : Option Verdict :=
  if c.command = str "check_md5" then lastOwn ((env.timing c p).take 32).flatten else none

/-- The verdict that is there after so many more reloads. -/
def Printer.heard (n : ℕ) (p : Printer V ρ) : Option Verdict := (lastOwn (p.due.take n).flatten).or p.wrote

theorem heard_zero (p : Printer V ρ) : p.heard 0 = p.wrote := by
  simp [Printer.heard, lastOwn]

theorem wrote_foldl_edit (es : List Edit) (p : Printer V ρ) :
    (es.foldl Printer.edit p).wrote = (lastOwn es).or p.wrote := by
  induction es generalizing p with
  | nil => simp [lastOwn]
  | cons e es ih =>
    rw [List.foldl_cons, ih, ← List.singleton_append, lastOwn_append, Option.or_assoc]
    congr 1
    cases hown : e.own <;> simp [Printer.edit, lastOwn, hown]

theorem heard_tick (n : ℕ) (p : Printer V ρ) : p.tick.heard n = p.heard (n + 1) := by
  unfold Printer.heard Printer.tick
  cases hdue : p.due with
  | nil => simp [hdue]
  | cons es due =>
    rw [List.take_succ_cons, List.flatten_cons, lastOwn_append, Option.or_assoc, wrote_foldl_edit]

/-- The file can be edited, and has the verdict written so far. -/
def Holding (env : Env V ρ) (p : Printer V ρ) : Prop :=
  ∃ m, Editable env.py p.store.disk m ∧
    m.lookup SaveVariables.checkMd5 = some (env.dg.ofDigit p.verdict)

theorem keys_assign_of_mem {β : Type} {m : List (Text × β)} {k : Text} (hk : k ∈ m.map Prod.fst)
    (v : β) : (assign m k v).map Prod.fst = m.map Prod.fst := by
  induction m with
  | nil => simp at hk
  | cons e es ih =>
    rw [assign]
    by_cases he : e.1 = k
    · rw [if_pos he, List.map_cons, List.map_cons, he]
    · have hes : k ∈ es.map Prod.fst := by
        rw [List.map_cons, List.mem_cons] at hk
        exact hk.resolve_left (Ne.symm he)
      rw [if_neg he, List.map_cons, List.map_cons, ih hes]

theorem Holding.edit {p : Printer V ρ} (h : Holding env p) {e : Edit} (hown : e.own = true) :
    Holding env (p.edit e) := by
  obtain ⟨m, hm, -⟩ := h
  have hkeys := keys_assign_of_mem hm.present (env.dg.ofDigit e.verdict.1)
  have hverdict : (p.edit e).verdict = e.verdict.1 := by simp [Printer.edit, Printer.verdict, hown]
  refine ⟨assign m SaveVariables.checkMd5 (env.dg.ofDigit e.verdict.1),
    ⟨hm.writable.assign (storable_checkMd5 env.dg e.verdict.1), sendKlipper_eq env.dg hm e.verdict.1, ?_, ?_⟩, ?_⟩
  · rw [hkeys]
    exact hm.present
  · rw [hkeys]
    exact hm.alone
  · rw [lookup_assign, if_pos rfl, hverdict]

theorem Holding.edits {p : Printer V ρ} (h : Holding env p) {es : List Edit} (hown : ∀ e ∈ es, e.own = true) :
    Holding env (es.foldl Printer.edit p) := by
  induction es generalizing p with
  | nil => exact h
  | cons e es ih =>
    exact ih (h.edit (hown e (List.mem_cons_self ..))) fun f hf => hown f (List.mem_cons_of_mem _ hf)

/-- The same, and only the script of the check has still to write. -/
structure Ready (env : Env V ρ) (p : Printer V ρ) : Prop where
  own : ∀ es ∈ p.due, ∀ e ∈ es, e.own = true
  holding : Holding env p

theorem Ready.tick {p : Printer V ρ} (h : Ready env p) : Ready env p.tick := by
  have hown := h.own
  unfold Printer.tick
  cases hdue : p.due with
  | nil => exact h
  | cons es due =>
    rw [hdue] at hown
    exact ⟨fun fs hfs => hown fs (List.mem_cons_of_mem _ hfs),
      h.holding.edits (hown es (List.mem_cons_self ..))⟩

/-- On a ready file the reloads succeed, and the verdict that was written is in the
variables. -/
theorem reloads_ready {p : Printer V ρ} (h : Ready env p) (n : ℕ) :
    (reloads env n p).2 = true ∧ (reloads env n p).1.wrote = p.heard n ∧
      (n ≠ 0 → (host env).savedInt (reloads env n p).1 (str "check_md5") 0
        = (((reloads env n p).1.verdict : ℕ) : ℤ)) := by
  induction n generalizing p with
  | zero => exact ⟨rfl, (heard_zero p).symm, fun h => absurd rfl h⟩
  | succ n ih =>
    obtain ⟨m, hm, hverdict⟩ := h.tick.holding
    have hload : loadVariables env.py p.tick.store.disk = some m := by
      rw [hm.text, loadVariables_written hm.writable.storable hm.writable.nodup]
    have hready : Ready env { p.tick with store := { p.tick.store with allVariables := m } } :=
      ⟨h.tick.own, m, hm, hverdict⟩
    have hheard := heard_tick n p
    rw [reloads_succ env n hload]
    obtain ⟨hok, hwrote, hsaved⟩ := ih hready
    refine ⟨hok, hwrote.trans hheard, fun _ => ?_⟩
    cases n with
    | zero =>
      have hlookup : m.lookup (str "check_md5") = some (env.dg.ofDigit p.tick.verdict) := hverdict
      simp only [reloads, host, hlookup]
      exact env.toInt_digit _
    | succ n => exact hsaved (Nat.succ_ne_zero n)

/-- The end of the reloads, for a ready file. -/
theorem ended_ready {p : Printer V ρ} (h : Ready env p) :
    (reloads env 31 p).2 = true ∧ (reloads env 31 p).1.wrote = p.heard 31 ∧
      (host env).savedInt (reloads env 31 p).1 (str "check_md5") 0
        = ((((p.heard 31).map Subtype.val).getD 0 : Fin 10) : ℕ) := by
  obtain ⟨hok, hwrote, hsaved⟩ := reloads_ready h 31
  refine ⟨hok, hwrote, ?_⟩
  rw [hsaved (by decide), Printer.verdict, hwrote]

/-- A printer between two checks, whose store the script can edit: no earlier script is
running, the file can be written, and no other variable has a name that begins so. -/
structure Idle (env : Env V ρ) (p : Printer V ρ) : Prop where
  due : p.due = []
  own : ∀ c q, ∀ es ∈ env.timing c q, ∀ e ∈ es, e.own = true
  wrote : p.wrote = none
  whole : ∀ q, env.write q = .whole
  writable : Writable env.py p.store.allVariables
  alone : ∀ k ∈ p.store.allVariables.map Prod.fst,
    SaveVariables.checkMd5 <+: k → k = SaveVariables.checkMd5

/-- The verdict of 0 is stored. -/
theorem saved_editable {p : Printer V ρ} (h : Idle env p) :
    ((host env).saveVariable (str "check_md5") (str "0") p).2 = none ∧
      ∃ m, Editable env.py (saved env p).store.disk m ∧
        m.lookup SaveVariables.checkMd5 = some (env.dg.ofDigit 0) := by
  have hzero : env.py.literalEval (str "0") = .ok (env.dg.ofDigit 0) := env.dg.literalEval_digit 0
  have hstorable := storable_checkMd5 env.dg 0
  have hsave : cmdSaveVariable env.py env.copy (env.write p) SaveVariables.checkMd5 (str "0") p.store
      = (written env.py (assign p.store.allVariables SaveVariables.checkMd5 (env.dg.ofDigit 0)), none) := by
    rw [h.whole]
    exact cmdSaveVariable_storable env.copy hzero h.writable hstorable
  have hm : Writable env.py (assign p.store.allVariables SaveVariables.checkMd5 (env.dg.ofDigit 0)) :=
    h.writable.assign hstorable
  have hperm := (perm_sortVariables
    (assign p.store.allVariables SaveVariables.checkMd5 (env.dg.ofDigit 0))).map Prod.fst
  have hlookup : (sortVariables (assign p.store.allVariables SaveVariables.checkMd5
      (env.dg.ofDigit 0))).lookup SaveVariables.checkMd5 = some (env.dg.ofDigit 0) := by
    rw [same_of_perm hm.sortVariables.nodup (perm_sortVariables _), lookup_assign, if_pos rfl]
  refine ⟨congrArg Prod.snd hsave, sortVariables _, ⟨hm.sortVariables, ?_, ?_, ?_⟩, hlookup⟩
  · exact congrArg (fun r => r.1.disk) hsave
  · exact List.mem_map_of_mem ((lookup_eq_some_iff hm.sortVariables.nodup).1 hlookup)
  · intro k hk hprefix
    rcases mem_keys_assign (hperm.mem_iff.1 hk) with rfl | hk
    · rfl
    · exact h.alone k hk hprefix

/-- The script is started on a file with a verdict of 0. -/
theorem ready_shell {p : Printer V ρ} (h : Idle env p) (c : Call) :
    Ready env ((host env).shell c (saved env p)) ∧
      ((host env).shell c (saved env p)).heard 31 = heardBy env c (saved env p) := by
  obtain ⟨-, hzero⟩ := saved_editable h
  have hdue : (saved env p).due = [] := h.due
  have hwrote : (saved env p).wrote = none := h.wrote
  unfold heardBy
  by_cases hc : c.command = str "check_md5"
  · have hshell : (host env).shell c (saved env p) = ({ (saved env p) with
        due := env.timing c (saved env p), wrote := none, rest := env.script c (saved env p).rest }
          : Printer V ρ).tick := if_pos hc
    rw [hshell, if_pos hc]
    refine ⟨Ready.tick ⟨h.own c _, hzero⟩, ?_⟩
    rw [heard_tick, Printer.heard, Option.or_none]
  · have hshell : (host env).shell c (saved env p)
        = { (saved env p) with rest := env.script c (saved env p).rest } := if_neg hc
    rw [hshell, if_neg hc]
    refine ⟨⟨by simp [hdue], ?_⟩, ?_⟩
    · obtain ⟨m, hm, hlookup⟩ := hzero
      refine ⟨m, hm, ?_⟩
      rw [Printer.verdict, hwrote]
      exact hlookup
    · simp [Printer.heard, hdue, hwrote, lastOwn]

/-- There only the lines around the file name can fail: no verdict is lost, and none of an
earlier check is taken for one of this check. -/
theorem accepted_iff (raw : Text) {p : Printer V ρ} (h : Idle env p) :
    Accepted env raw p.called ↔
      ∃ ps c, extendedParams env.upper raw = some ps ∧ checkedName (host env) ps p ≠ [] ∧
        shellCall (host env) (checkShell env ps p) = .ok c ∧
        ((∃ d, heardBy env c (saved env p) = some d ∧ d.1 ∈ passing) ∨
          Announces env (((((heardBy env c (saved env p)).map Subtype.val).getD 0 : Fin 10) : ℕ) : ℤ)
            (checkedName (host env) ps p)) := by
  have hcalled : p.called = p := by rw [Printer.called, ← h.wrote]
  have hended : ∀ c, (reloads env 31 ((host env).shell c (saved env p))).2 = true ∧
      (reloads env 31 ((host env).shell c (saved env p))).1.wrote = heardBy env c (saved env p) ∧
      (host env).savedInt (reloads env 31 ((host env).shell c (saved env p))).1 (str "check_md5") 0
        = ((((heardBy env c (saved env p)).map Subtype.val).getD 0 : Fin 10) : ℕ) := by
    intro c
    obtain ⟨hready, hheard⟩ := ready_shell h c
    rw [← hheard]
    exact ended_ready hready
  rw [hcalled]
  unfold Accepted Good
  constructor
  · rintro ⟨ps, c, hps, hne, -, hc, hend⟩
    obtain ⟨hok, hwrote, hsaved⟩ := hended c
    simp only at hend
    rw [hwrote, hsaved] at hend
    exact ⟨ps, c, hps, hne, hc, hend.imp id And.right⟩
  · rintro ⟨ps, c, hps, hne, hc, hend⟩
    obtain ⟨hok, hwrote, hsaved⟩ := hended c
    refine ⟨ps, c, hps, hne, (saved_editable h).1, hc, ?_⟩
    simp only
    rw [hwrote, hsaved]
    exact hend.imp id fun hannounced => ⟨hok, hannounced⟩

end Printer

/-! ## Two names -/

theorem decide_mem_shellCommands : ∀ c ∈ shellCommands, decide (c ∈ shellCommands) = true :=
  fun _ hc => decide_eq_true hc

/-- A verdict that is written before this reload. -/
def writtenAt : Option (ℕ × Verdict) → List (List Edit)
  | none => []
  | some (n, d) => List.replicate n [] ++ [[⟨d, true⟩]]

/-- A printer with this file loaded, and a script that writes its verdict like this. -/
def loaded (path : Option Text) (verdict : Option (ℕ × Verdict)) : Env (Fin 10) Unit where
  upper := asciiUpper
  py := digits
  dg := digitsDigits
  copy := .stock
  toInt d := (d : ℕ)
  toInt_digit _ := rfl
  filePath _ := path
  isCommand c := c ∈ shellCommands
  isCommand_shellCommands := decide_mem_shellCommands
  m23 _ r := some r
  write _ := .whole
  timing _ _ := writtenAt verdict
  script _ r := r
  cancelPrint p := (p, none)
  cancelPrint_wrote _ := rfl
  cancelPrint_failure _ := by simp

/-- Nothing is stored and no check has run. -/
def blank : Printer (Fin 10) Unit := ⟨⟨[], []⟩, [], none, ()⟩

theorem idle_blank (path : Option Text) (verdict : Option (ℕ × Verdict)) : Idle (loaded path verdict) blank where
  due := rfl
  own := by
    intro c q es hes e he
    cases verdict with
    | none => exact absurd hes (List.not_mem_nil)
    | some w =>
      rcases List.mem_append.1 hes with hes | hes
      · rw [List.eq_of_mem_replicate hes] at he
        exact absurd he (List.not_mem_nil)
      · rw [List.mem_singleton.1 hes] at he
        rw [List.mem_singleton.1 he]
  wrote := rfl
  whole _ := rfl
  writable := ⟨by simp [blank], by simp [blank]⟩
  alone := by simp [blank]

-- no file is loaded: the script is started on `None`, and its verdict ends the print
example : checkShell (loaded none none) [] blank = str "CMD=check_md5 PARAMS=\"None \"" := by decide +kernel

end Gate

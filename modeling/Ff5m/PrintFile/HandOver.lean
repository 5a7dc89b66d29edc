import Ff5m.PrintFile.Calls

/-!
# Handing a print over

The scripts behind the print macros of screen mode: `zpreclear.sh` looks for the
heating commands of a file and refuses the print without them, `zprint.sh` and
`zsend.sh` ask the native screen to print.  `RUN_SHELL_COMMAND` does not look at
how a script ends.

* `Machine.run`: what a started script does, from the files and its arguments;
* `Machine.Accepts`, `Machine.posts`: `zpreclear.sh` is satisfied, a print is asked for;
* `Checked`: every print that is asked for was accepted, and its sum checked;
* `requestPlan_plain`: what a request starts for a name that comes through;
* `checked_iff`: when this is so, for any name.
-/

namespace HandOver

open TextTools (Text Line str lit lines unlines matchAt substFirst cmdSubst)
open GCode PrintFile Gate Shlex

/-! ## The scripts -/

/-- How a script ends: its exit code, what it wrote to the printer's input pipe,
and the file it asked the native screen to print. -/
structure Outcome where
  exit : ℕ
  pipe : List Text
  posted : Option Text

/-- `head -n` -/
def head (n : ℕ) (t : Text) : Text := unlines ((lines t).take n)

/-- `grep "^p"` -/
def grepStart (p : String) (t : Text) : Text := unlines ((lines t).filter (matchAt (lit p)))

/-- The heating line of the scripts: the first line in the head of the file with the
command that waits, else the first with the one that does not, made to wait. -/
def heatingLine (wait start : String) (t : Text) : Text :=
  let found := cmdSubst (head 1 (grepStart wait (head 1000 t)))
  if found = [] then
    cmdSubst (unlines ((lines (head 1 (grepStart start (head 1000 t)))).map
      (substFirst (lit start) wait.toList)))
  else found

/-- The heating line of the nozzle. -/
def m109 (t : Text) : Text := heatingLine "M109" "M104" t

/-- The heating line of the bed. -/
def m190 (t : Text) : Text := heatingLine "M190" "M140" t

/-- The message of the scripts. -/
def respondError (msg : Text) : Text := str "RESPOND TYPE=error MSG=\"" ++ msg ++ str "\""

/-- "Файл … не найден." -/
def notFound (f : Text) : Text := respondError (str "Файл " ++ f ++ str " не найден.")

/-- "В файле … не найдены команды нагрева …" -/
def notHeated (f : Text) : Text :=
  respondError (str "В файле " ++ f ++
    str " не найдены команды нагрева стола(M140/M190) или сопла(M104/M109).")

/-- The path of a file to print. -/
def dataPath (f : Text) : Text := str "/data/" ++ f

section Scripts

variable (file : Text → Option Text)

/-- `zpreclear.sh` -/
def zpreclear : List Text → Outcome
  | [f, mode] =>
    match file (dataPath f) with
    | none => ⟨1, [notFound f, str "CANCEL_PRINT"], none⟩
    | some t =>
      if m190 t = [] ∨ m109 t = [] then ⟨1, [notHeated f, str "CANCEL_PRINT"], none⟩
      else ⟨0, if mode = str "TEST" then [m190 t, m109 t, str "_START_PRECLEAR"] else [], none⟩
  | _ => ⟨1, [], none⟩

/-- `zprint.sh` -/
def zprint : List Text → Outcome
  | [action, f] =>
    if action = str "CLOSE" then ⟨0, [], none⟩
    else if action = str "PRINT" then
      match file (dataPath f) with
      | none => ⟨1, [notFound f, str "CANCEL_PRINT"], none⟩
      | some _ => ⟨0, [], some f⟩
    else ⟨1, [], none⟩
  | _ => ⟨1, [], none⟩

/-- `zsend.sh`; a file that cannot be read has no lines. -/
def zsend : List Text → Outcome
  | [_, f] =>
    if m190 ((file (dataPath f)).getD []) = [] ∨ m109 ((file (dataPath f)).getD []) = [] then
      ⟨1, [notHeated f], none⟩
    else ⟨0, [], some f⟩
  | _ => ⟨0, [], none⟩

end Scripts

/-- The files, and which scripts are killed at their timeout before they are
through with their checks. -/
structure Machine where
  file : Text → Option Text
  killed : Call → Bool

/-- What a started script comes to; the other scripts ask for no print. -/
def Machine.run (w : Machine) (c : Call) : Outcome :=
  if w.killed c then ⟨143, [], none⟩
  else if c.command = str "zpreclear" then zpreclear w.file c.args
  else if c.command = str "zprint" then zprint w.file c.args
  else if c.command = str "zsend" then zsend w.file c.args
  else ⟨0, [], none⟩

/-- `zpreclear.sh` accepts the file. -/
def Machine.Accepts (w : Machine) (c : Call) (f : Text) : Prop :=
  c.command = str "zpreclear" ∧ c.args.head? = some f ∧ (w.run c).exit = 0

/-- The print that a script asks for. -/
def Machine.posts (w : Machine) (c : Call) : Option Text := (w.run c).posted

/-- The bed and the nozzle are heated by the head of the text. -/
def Heated (t : Text) : Prop := m190 t ≠ [] ∧ m109 t ≠ []

theorem zpreclear_exit_iff {file : Text → Option Text} {f : Text} (mode : Text) :
    (zpreclear file [f, mode]).exit = 0 ↔ ∃ t, file (dataPath f) = some t ∧ Heated t := by
  cases hf : file (dataPath f) with
  | none =>
    simp only [zpreclear, hf]
    exact ⟨fun h => absurd h Nat.one_ne_zero, fun ⟨t, ht, _⟩ => absurd ht (by simp)⟩
  | some t =>
    simp only [zpreclear, hf, Option.some.injEq, exists_eq_left', Heated, ← not_or]
    by_cases hheat : m190 t = [] ∨ m109 t = []
    · rw [if_pos hheat]
      exact ⟨fun h => absurd h Nat.one_ne_zero, fun h => absurd hheat h⟩
    · rw [if_neg hheat]
      exact ⟨fun _ => hheat, fun _ => rfl⟩

/-- The file is there and heats the bed and the nozzle. -/
def Machine.Heats (w : Machine) (f : Text) : Prop := ∃ t, w.file (dataPath f) = some t ∧ Heated t

theorem zpreclear_exit {file : Text → Option Text} {as : List Text} (h : (zpreclear file as).exit = 0) :
    ∃ f mode, as = [f, mode] := by
  match as with
  | [f, mode] => exact ⟨f, mode, rfl⟩
  | [] | [_] | _ :: _ :: _ :: _ => exact absurd h Nat.one_ne_zero

/-- What `zpreclear.sh` accepts. -/
theorem accepts_iff {w : Machine} {c : Call} {g : Text} :
    w.Accepts c g ↔ ∃ mode, c = ⟨str "zpreclear", [g, mode]⟩ ∧ w.killed c = false ∧ w.Heats g := by
  obtain ⟨cmd, as⟩ := c
  unfold Machine.Accepts Machine.run Machine.Heats
  constructor
  · rintro ⟨hcmd, hhead, hexit⟩
    simp only at hcmd hhead
    subst hcmd
    cases hk : w.killed ⟨str "zpreclear", as⟩ with
    | true => simp [hk] at hexit
    | false =>
      simp only [hk, Bool.false_eq_true, if_false, if_true] at hexit
      obtain ⟨f, mode, rfl⟩ := zpreclear_exit hexit
      obtain rfl : f = g := Option.some.inj hhead
      exact ⟨mode, rfl, rfl, (zpreclear_exit_iff mode).1 hexit⟩
  · rintro ⟨mode, heq, hk, hheats⟩
    rw [hk]
    obtain ⟨rfl, rfl⟩ := Call.mk.inj heq
    exact ⟨rfl, rfl, by simpa using (zpreclear_exit_iff mode).2 hheats⟩

theorem zprint_posted {file : Text → Option Text} {as : List Text} {g : Text} :
    (zprint file as).posted = some g ↔ as = [str "PRINT", g] ∧ (file (dataPath g)).isSome = true := by
  have hclose : str "PRINT" ≠ str "CLOSE" := by decide
  match as with
  | [action, f] =>
    simp only [zprint, List.cons.injEq, and_true]
    by_cases hprint : action = str "PRINT"
    · subst hprint
      cases hf : file (dataPath f) with
      | none =>
        simp only [if_neg hclose, if_true]
        exact ⟨fun h => absurd h (by simp), fun ⟨⟨_, hfg⟩, hsome⟩ => absurd hsome (by rw [← hfg, hf]; simp)⟩
      | some t =>
        simp only [if_neg hclose, if_true, Option.some.injEq, true_and]
        exact ⟨fun h => ⟨h, by rw [← h, hf]; rfl⟩, fun h => h.1⟩
    · refine ⟨fun h => ?_, fun h => absurd h.1.1 hprint⟩
      split_ifs at h
  | [] | [_] | _ :: _ :: _ :: _ => simp [zprint]

theorem zsend_posted {file : Text → Option Text} {as : List Text} {g : Text} :
    (zsend file as).posted = some g ↔ ∃ a, as = [a, g] ∧ Heated ((file (dataPath g)).getD []) := by
  match as with
  | [a, f] =>
    simp only [zsend, Heated, ← not_or, List.cons.injEq, and_true]
    by_cases hheat : m190 ((file (dataPath f)).getD []) = [] ∨ m109 ((file (dataPath f)).getD []) = []
    · rw [if_pos hheat]
      exact ⟨fun h => absurd h (by simp), fun ⟨_, ⟨_, hfg⟩, h⟩ => absurd hheat (hfg ▸ h)⟩
    · rw [if_neg hheat, Option.some.injEq]
      exact ⟨fun h => ⟨a, ⟨rfl, h⟩, h ▸ hheat⟩, fun ⟨_, ⟨_, hfg⟩, _⟩ => hfg⟩
  | [] | [_] | _ :: _ :: _ :: _ => simp [zsend]

/-- The call asks for a print of the file, and gets through its checks: for `zprint.sh`
the file is there, for `zsend.sh` its head has the heating commands. -/
def Machine.Requests (w : Machine) (c : Call) (g : Text) : Prop :=
  w.killed c = false ∧
    ((c = ⟨str "zprint", [str "PRINT", g]⟩ ∧ (w.file (dataPath g)).isSome = true) ∨
      ∃ a, c = ⟨str "zsend", [a, g]⟩ ∧ Heated ((w.file (dataPath g)).getD []))

theorem zpreclear_posted (file : Text → Option Text) (as : List Text) : (zpreclear file as).posted = none := by
  unfold zpreclear
  split
  · split
    · rfl
    · split_ifs <;> rfl
  · rfl

/-- What a script asks for. -/
theorem posts_iff {w : Machine} {c : Call} {g : Text} : w.posts c = some g ↔ w.Requests c g := by
  obtain ⟨cmd, as⟩ := c
  have hothers : str "zpreclear" ≠ str "zprint" ∧ str "zpreclear" ≠ str "zsend" ∧ str "zprint" ≠ str "zsend" := by
    decide
  obtain ⟨hclear, hclear', hsend⟩ := hothers
  unfold Machine.posts Machine.run Machine.Requests
  cases hk : w.killed ⟨cmd, as⟩ with
  | true => simp
  | false =>
    simp only [Bool.false_eq_true, if_false, true_and, Call.mk.injEq]
    by_cases hpre : cmd = str "zpreclear"
    · subst hpre
      simp [zpreclear_posted, hclear, hclear']
    · by_cases hprint : cmd = str "zprint"
      · subst hprint
        simp [Ne.symm hclear, hsend, zprint_posted]
      · by_cases hzsend : cmd = str "zsend"
        · subst hzsend
          simp [Ne.symm hclear', Ne.symm hsend, zsend_posted]
        · simp [hpre, hprint, hzsend]

/-- The last script is through with its checks: for `zprint.sh` the file is there,
for `zsend.sh` its head has the heating commands. -/
def Asks (w : Machine) (leveling : Bool) (f : Text) : Prop :=
  w.killed (handOverCall leveling f) = false ∧
    if leveling then (w.file (dataPath f)).isSome = true else Heated ((w.file (dataPath f)).getD [])

/-- What the last script asks for. -/
theorem requests_handOver_iff {w : Machine} {leveling : Bool} {f g : Text} :
    w.Requests (handOverCall leveling f) g ↔ f = g ∧ Asks w leveling f := by
  have hother : str "zprint" ≠ str "zsend" := by decide
  unfold Machine.Requests Asks
  cases leveling with
  | true =>
    simp only [handOverCall, if_true, Call.mk.injEq, hother, false_and, exists_false, or_false, true_and,
      List.cons.injEq, and_true]
    exact ⟨fun ⟨hk, hfg, hfile⟩ => ⟨hfg, hk, hfg ▸ hfile⟩, fun ⟨hfg, hk, hfile⟩ => ⟨hk, hfg, hfg ▸ hfile⟩⟩
  | false =>
    simp only [handOverCall, Bool.false_eq_true, if_false, Call.mk.injEq, Ne.symm hother, false_and, false_or,
      true_and, List.cons.injEq, and_true]
    constructor
    · rintro ⟨hk, a, ⟨rfl, rfl⟩, hheat⟩
      exact ⟨rfl, hk, hheat⟩
    · rintro ⟨rfl, hk, hheat⟩
      exact ⟨hk, _, ⟨rfl, rfl⟩, hheat⟩

/-- Only the two last scripts ask for a print. -/
theorem not_requests {w : Machine} {cmd : Text} {as : List Text} {g : Text}
    (hcmd : cmd ≠ str "zprint" ∧ cmd ≠ str "zsend") : ¬ w.Requests ⟨cmd, as⟩ g := by
  rintro ⟨-, ⟨h, -⟩ | ⟨a, h, -⟩⟩
  · exact hcmd.1 (Call.mk.inj h).1
  · exact hcmd.2 (Call.mk.inj h).1

/-! ## The property -/

section Requests

variable {V ρ : Type} {env : Env V ρ}

/-- A sum check of the run wrote a good verdict on the file in time. -/
def SumChecked (env : Env V ρ) (r : Run Cmd (Printer V ρ)) (f : Text) : Prop :=
  ∃ e ∈ r.log, e.1.call? (host env) = some (checkCall f) ∧
    ∃ d, heardBy env (checkCall f) e.2 = some d ∧ d.1 ∈ passing

/-- Every print that a script of the run asks for is of a file that `zpreclear.sh`
accepted in the same run, and whose sum was checked if that is switched on. -/
def Checked (w : Machine) (env : Env V ρ) (p : Printer V ρ) (r : Run Cmd (Printer V ρ)) : Prop :=
  ∀ c ∈ calls (host env) r.log, ∀ f, w.posts c = some f →
    (∃ c' ∈ calls (host env) r.log, w.Accepts c' f) ∧
      (Forced (host env) p → SumChecked env r f)

/-! ## Sum checks -/

/-- The check of the file, started on a stored verdict of 0, writes a good verdict
in time. -/
def GoodCheck (env : Env V ρ) (f : Text) (p : Printer V ρ) : Prop :=
  ∃ d, heardBy env (checkCall f) (saved env p) = some d ∧ d.1 ∈ passing

/-- The macros go on: the reloads succeed, and end with a verdict that is no refusal. -/
def LetsPass (env : Env V ρ) (f : Text) (p : Printer V ρ) : Prop :=
  let ended := reloads env 31 (afterScript (host env) f p)
  ended.2 = true ∧ (host env).savedInt ended.1 (str "check_md5") 0 ∉ refusals

instance (env : Env V ρ) (f : Text) (p : Printer V ρ) : Decidable (LetsPass env f p) :=
  inferInstanceAs (Decidable (_ ∧ _))

/-- On a store that the script can edit this is the same. -/
theorem letsPass_iff {p : Printer V ρ} (h : Idle env p) (f : Text) :
    LetsPass env f p ↔ GoodCheck env f p := by
  obtain ⟨hready, hheard⟩ := ready_shell h (checkCall f)
  obtain ⟨hok, hwrote, hsaved⟩ := reloads_ready hready 31
  have hgood := good_iff (reloads env 31 ((host env).shell (checkCall f) (saved env p))).1
  have hafter : afterScript (host env) f p = (host env).shell (checkCall f) (saved env p) := rfl
  unfold LetsPass GoodCheck
  simp only [hafter]
  rw [hok, hsaved (by decide), ← hgood, Good, hwrote, hheard]
  simp

theorem sumChecked_iff {r : Run Cmd (Printer V ρ)} {f : Text} :
    SumChecked env r f ↔ ∃ q, (checkCall f, q) ∈ starts (host env) r.log ∧
      ∃ d, heardBy env (checkCall f) q = some d ∧ d.1 ∈ passing := by
  simp only [mem_starts]
  constructor
  · rintro ⟨⟨k, q⟩, he, hcall, hheard⟩
    exact ⟨q, ⟨k, he, hcall⟩, hheard⟩
  · rintro ⟨q, ⟨k, he, hcall⟩, hheard⟩
    exact ⟨(k, q), he, hcall, hheard⟩

/-! ## Names that come through -/

theorem shellPlan_ok {σ : Type} {h : Host σ} {raw : Text} {c : Call} (hc : shellCall h raw = .ok c) (s : σ) :
    shellPlan h raw s = ([(c, s)], some (h.shell c s)) := by
  rw [shellPlan, hc]

/-- The sum check of such a name. -/
theorem sumPlan_plain {f : Text} (hf : Simple f) {p : Printer V ρ}
    (hsave : ((host env).saveVariable (str "check_md5") (str "0") p).2 = none) :
    ∃ t, sumPlan env (checkMd5Line f) p
      = ([(checkCall f, saved env p)], if LetsPass env f p then some t else none) := by
  have hps : extendedParams env.upper (checkMd5Line f)
      = some [(str "DELETE", str "True"), (str "FILENAME", str "/data/" ++ f)] :=
    extendedParams_checkMd5Line (host env) (hf.not_mem (by decide) (by decide))
  have hname := checkedName_checkMd5Line (host env) f p
  have hne : str "/data/" ++ f ≠ [] := by simp [str]
  have hline : checkShell env [(str "DELETE", str "True"), (str "FILENAME", str "/data/" ++ f)] p
      = checkMd5Shell (str "/data/" ++ f) (str "True") := by
    rw [checkShell, hname, getParam_cons, getParam_cons, if_pos rfl, if_neg (by decide)]
    rfl
  have hcall := shellCall_checkMd5Shell (host env) hf
  have hfinal : ∀ v, finalPasses env v (str "/data/" ++ f) = decide (v ∉ refusals) := by
    intro v
    have hparams : extendedParams env.upper (finalCheckLine (str "/data/" ++ f))
        = some [(str "FILENAME", quotedName (str "/data/" ++ f))] :=
      extendedParams_finalCheckLine (host env) hf.data
    have hget : (getParam [(str "FILENAME", quotedName (str "/data/" ++ f))] (str "FILENAME")).getD []
        = quotedName (str "/data/" ++ f) := by simp [getParam]
    unfold finalPasses
    rw [hparams]
    simp only [hget]
    by_cases hv : v ∈ refusals
    · simp [hv]
    · have hquote := quoteFree_iff.2 hf.data.not_special_quotedName
      have hall : ∀ {cs : List (Macro (Printer V ρ))}, Messages (fun raw =>
          quoteFree (quotedName (str "/data/" ++ f)) = true → respondOk (host env) raw = true) cs →
          cs.all (accepts env) = true := by
        intro cs hcs
        induction hcs with
        | nil => rfl
        | cons hraw _ ih => rw [List.all_cons, ih, accepts, hraw hquote]; rfl
      simp [hv, hall (finalCheckBody_messages (host env) hv _)]
  refine ⟨(reloads env 31 (afterScript (host env) f p)).1, ?_⟩
  unfold sumPlan
  rw [hps]
  simp only [hsave, if_true, hname, hne, if_false, hline]
  rw [shellPlan_ok hcall]
  have hafter : afterScript (host env) f p = (host env).shell (checkCall f) (saved env p) := rfl
  simp only [Plan.andThen, hfinal, List.append_nil, LetsPass, hafter, Bool.and_eq_true, decide_eq_true_eq]
  rfl

/-- The lines that prepare the print start their scripts. -/
theorem shellsPlan_prepare {f : Text} (hf : Quotable f) (p q : Printer V ρ) :
    ∃ t, (shellsPlan (host env) (prepareLines (host env) f p) q).1.map Prod.fst = prepareCalls (host env) f p ∧
      (shellsPlan (host env) (prepareLines (host env) f p) q).2 = some t := by
  have hkamp := shellCall_zexcludeLine (host env) hf
  have hclear := @shellCall_zpreclearLine _ (host env) f (if (host env).savedInt p (str "preclear") 0 = 1 then
    str "TEST" else str "NONE") hf (by split_ifs <;> simp)
  unfold prepareLines prepareCalls
  by_cases hk : (host env).savedInt p (str "use_kamp") 0 = 1
  · rw [if_pos hk, if_pos hk, List.singleton_append]
    simp only [shellsPlan, shellPlan_ok hkamp, shellPlan_ok hclear, Plan.andThen]
    exact ⟨_, rfl, rfl⟩
  · rw [if_neg hk, if_neg hk, List.nil_append]
    simp only [shellsPlan, shellPlan_ok hclear, Plan.andThen]
    exact ⟨_, rfl, rfl⟩

/-- What a request starts for such a name: the sum check, if it is switched on, and then,
unless that refuses, the scripts that prepare the print and hand it over. -/
theorem requestPlan_plain {leveling : Bool} {f : Text} (hf : Quotable f) (hlast : f.getLast? ≠ some '\\')
    {p p' : Printer V ρ} (hm : (host env).m23 (str "/" ++ f) p = some p')
    (hforce : Forced (host env) p' →
      Simple f ∧ ((host env).saveVariable (str "check_md5") (str "0") p').2 = none) :
    ∃ rest, (requestPlan env leveling f p).1
        = (if (host env).savedInt p' (str "force_md5") 1 = 1 then [(checkCall f, saved env p')] else []) ++ rest ∧
      rest.map Prod.fst = if (host env).savedInt p' (str "force_md5") 1 = 1 ∧ ¬ LetsPass env f p' then []
        else printCalls (host env) leveling f p' := by
  have hread : readDouble false f = some f := readDouble_of_noPair hf.no_pair hlast
  have hname : nameIn (host env) (nameLine f) = some f := by rw [nameIn_nameLine (host env) hf.no_double, hread]
  have hmsg : respondOk (host env) (info (announceOf leveling f)) = true := respondOk_announceOf (host env) leveling hf
  have hhand := shellCall_handOverOf (host env) leveling hf
  have hrest : ∀ q, ((shellsPlan (host env) (prepareLines (host env) f p') q).andThen
      (shellPlan (host env) (handOverOf leveling f))).1.map Prod.fst = printCalls (host env) leveling f p' := by
    intro q
    obtain ⟨t, hcalls, hgoes⟩ := shellsPlan_prepare hf p' q
    rw [Plan.andThen, hgoes, List.map_append, hcalls, shellPlan_ok hhand]
    rfl
  have hcheck : ∃ check ended, checkPlan env f p' = (check, ended) ∧
      check = (if (host env).savedInt p' (str "force_md5") 1 = 1 then [(checkCall f, saved env p')] else []) ∧
      (ended = none ↔ (host env).savedInt p' (str "force_md5") 1 = 1 ∧ ¬ LetsPass env f p') := by
    unfold checkPlan
    by_cases hon : (host env).savedInt p' (str "force_md5") 1 = 1
    · obtain ⟨hsimple, hsave⟩ := hforce hon
      obtain ⟨t, hsum⟩ := sumPlan_plain hsimple hsave
      have hstarted := respondOk_checking (host env) hf hlast
      rw [if_pos hon, if_pos hstarted, hsum, if_pos hon]
      refine ⟨_, _, rfl, rfl, ?_⟩
      simp [hon]
    · rw [if_neg hon, if_neg hon]
      exact ⟨_, _, rfl, rfl, by simp [hon]⟩
  obtain ⟨check, ended, hplan, hfirst, hends⟩ := hcheck
  unfold requestPlan printPlan
  rw [escapeQuotes_eq_self hf.no_double, hname]
  simp only [hmsg, if_true, hm, hname, hplan]
  rw [← hfirst]
  cases ended with
  | none =>
    rw [if_pos (hends.1 rfl)]
    exact ⟨[], by simp [Plan.andThen], rfl⟩
  | some q =>
    have hgo : ¬ ((host env).savedInt p' (str "force_md5") 1 = 1 ∧ ¬ LetsPass env f p') := fun h =>
      absurd (hends.2 h) (by simp)
    rw [if_neg hgo]
    refine ⟨_, ?_, hrest q⟩
    unfold Plan.andThen
    cases hprep : (shellsPlan (host env) (prepareLines (host env) f p') q).2 with
    | none => simp
    | some t => simp

/-- The call of `zpreclear.sh`. -/
def preclearCall (env : Env V ρ) (f : Text) (p : Printer V ρ) : Call :=
  ⟨str "zpreclear", [f, if (host env).savedInt p (str "preclear") 0 = 1 then str "TEST" else str "NONE"]⟩

/-- The calls behind the sum check. -/
theorem mem_printCalls {leveling : Bool} {f : Text} {p : Printer V ρ} {c : Call} :
    c ∈ printCalls (host env) leveling f p ↔
      ((host env).savedInt p (str "use_kamp") 0 = 1 ∧ c = ⟨str "zexclude", [f]⟩) ∨
        c = preclearCall env f p ∨ c = handOverCall leveling f := by
  rw [printCalls, List.mem_append, List.mem_singleton, prepareCalls, List.mem_append,
    List.mem_singleton, ← preclearCall, or_assoc]
  split_ifs with hk
  · rw [List.mem_singleton]
    simp only [hk, true_and]
  · simp only [hk, List.not_mem_nil, false_and]

/-- `zpreclear.sh` comes to its end, and the file heats the bed and the nozzle. -/
def Cleared (w : Machine) (env : Env V ρ) (f : Text) (p : Printer V ρ) : Prop :=
  w.killed (preclearCall env f p) = false ∧ w.Heats f

/-! ## All names -/

/-- For a name that comes through: the request is refused before its first script, or by
the sum check, or its last script asks for no print, or `zpreclear.sh` accepts the file
and the sum check has written a good verdict. -/
def Covered (w : Machine) (env : Env V ρ) (leveling : Bool) (f : Text) (p : Printer V ρ) : Prop :=
  (∃ e, firstScript (host env) leveling f p = .error e) ∨
    ∃ p', (host env).m23 (str "/" ++ f) p = some p' ∧
      ((Forced (host env) p ∧ ¬ LetsPass env f p') ∨ ¬ Asks w leveling f ∨
        (Cleared w env f p ∧ (Forced (host env) p → GoodCheck env f p')))

/-- For any name: what its lines parse to asks for no print, or `zpreclear.sh` and the
sum check are among it, on the file that is asked for, and accept it. -/
def CoveredCalls (w : Machine) (env : Env V ρ) (leveling : Bool) (f : Text) (p : Printer V ρ) : Prop :=
  ∀ x ∈ (requestPlan env leveling f p).1, ∀ g, w.Requests x.1 g →
    (∃ mode q, (⟨str "zpreclear", [g, mode]⟩, q) ∈ (requestPlan env leveling f p).1 ∧
      w.killed ⟨str "zpreclear", [g, mode]⟩ = false ∧ w.Heats g) ∧
    (Forced (host env) p → ∃ q, (checkCall g, q) ∈ (requestPlan env leveling f p).1 ∧
      ∃ d, heardBy env (checkCall g) q = some d ∧ d.1 ∈ passing)

theorem checked_iff_calls {w : Machine} {leveling : Bool} {f : Text} {p : Printer V ρ} :
    Checked w env p (Script.exec (native (host env)) (startPrint (host env) leveling f) p) ↔
      CoveredCalls w env leveling f p := by
  have hstarts := (went_startPrint leveling f p : Went (host env) _ _).starts
  unfold Checked CoveredCalls
  simp only [calls_eq, hstarts, sumChecked_iff, posts_iff, accepts_iff, List.mem_map]
  constructor
  · intro h x hx g hreq
    obtain ⟨⟨c, ⟨y, hy, rfl⟩, mode, hc, hk, hheats⟩, hsum⟩ := h x.1 ⟨x, hx, rfl⟩ g hreq
    refine ⟨⟨mode, y.2, ?_, hc ▸ hk, hheats⟩, hsum⟩
    rwa [← hc]
  · rintro h c ⟨x, hx, rfl⟩ g hreq
    obtain ⟨⟨mode, q, hq, hk, hheats⟩, hsum⟩ := h x hx g hreq
    exact ⟨⟨_, ⟨_, hq, rfl⟩, mode, rfl, hk, hheats⟩, hsum⟩

theorem preclearCall_m23 {f : Text} {p p' : Printer V ρ} (hm : (host env).m23 (str "/" ++ f) p = some p') :
    preclearCall env f p' = preclearCall env f p := by
  rw [preclearCall, (host env).m23_savedInt hm, preclearCall]

theorem forced_m23 {f : Text} {p p' : Printer V ρ} (hm : (host env).m23 (str "/" ++ f) p = some p') :
    Forced (host env) p' ↔ Forced (host env) p := by
  unfold Forced
  rw [(host env).m23_savedInt hm]

/-- What the scripts behind the sum check are not. -/
theorem checkCall_not_mem {leveling : Bool} {f g : Text} {p : Printer V ρ} :
    checkCall g ∉ printCalls (host env) leveling f p := by
  rw [mem_printCalls]
  rintro (⟨-, hcall⟩ | hcall | hcall)
  · exact absurd (congrArg Call.command hcall) (by decide : str "check_md5" ≠ str "zexclude")
  · exact absurd (congrArg Call.command hcall) (by decide : str "check_md5" ≠ str "zpreclear")
  · cases leveling
    · exact absurd (congrArg Call.command hcall) (by decide : str "check_md5" ≠ str "zsend")
    · exact absurd (congrArg Call.command hcall) (by decide : str "check_md5" ≠ str "zprint")

/-- `zpreclear.sh` is started on the name, if at all. -/
theorem eq_preclearCall {leveling : Bool} {f g mode : Text} {p : Printer V ρ}
    (h : ⟨str "zpreclear", [g, mode]⟩ ∈ printCalls (host env) leveling f p) :
    ⟨str "zpreclear", [g, mode]⟩ = preclearCall env f p := by
  rw [mem_printCalls] at h
  rcases h with ⟨-, hcall⟩ | hcall | hcall
  · exact absurd (congrArg Call.command hcall) (by decide : str "zpreclear" ≠ str "zexclude")
  · exact hcall
  · cases leveling
    · exact absurd (congrArg Call.command hcall) (by decide : str "zpreclear" ≠ str "zsend")
    · exact absurd (congrArg Call.command hcall) (by decide : str "zpreclear" ≠ str "zprint")

/-- The print that is asked for behind the sum check. -/
theorem requests_printCalls {w : Machine} {leveling : Bool} {f g : Text} {p : Printer V ρ} {c : Call}
    (hc : c ∈ printCalls (host env) leveling f p) (hreq : w.Requests c g) : f = g ∧ Asks w leveling f := by
  rw [mem_printCalls] at hc
  rcases hc with ⟨-, rfl⟩ | rfl | rfl
  · exact absurd hreq (not_requests (by decide : str "zexclude" ≠ str "zprint" ∧ str "zexclude" ≠ str "zsend"))
  · exact absurd hreq (not_requests (by decide : str "zpreclear" ≠ str "zprint" ∧ str "zpreclear" ≠ str "zsend"))
  · exact requests_handOver_iff.1 hreq

/-- For a name that comes through this comes to the few scripts of its request. -/
theorem coveredCalls_plain {w : Machine} {leveling : Bool} {f : Text} (hf : Quotable f)
    (hlast : f.getLast? ≠ some '\\') {p p' : Printer V ρ} (hm : (host env).m23 (str "/" ++ f) p = some p')
    (hforce : Forced (host env) p' →
      Simple f ∧ ((host env).saveVariable (str "check_md5") (str "0") p').2 = none) :
    CoveredCalls w env leveling f p ↔
      (Forced (host env) p ∧ ¬ LetsPass env f p') ∨ ¬ Asks w leveling f ∨
        (Cleared w env f p ∧ (Forced (host env) p → GoodCheck env f p')) := by
  obtain ⟨rest, hplan, hrest⟩ := @requestPlan_plain _ _ env leveling f hf hlast p p' hm hforce
  have hforced := forced_m23 hm
  have hnocheck : ∀ {g : Text}, ¬ w.Requests (checkCall f) g := fun {_} =>
    not_requests (by decide : str "check_md5" ≠ str "zprint" ∧ str "check_md5" ≠ str "zsend")
  unfold CoveredCalls
  rw [hplan]
  by_cases hstop : (host env).savedInt p' (str "force_md5") 1 = 1 ∧ ¬ LetsPass env f p'
  · -- the sum check is all that is started
    rw [if_pos hstop, List.map_eq_nil_iff] at hrest
    refine ⟨fun _ => Or.inl ⟨hforced.1 hstop.1, hstop.2⟩, fun _ x hx g hreq => ?_⟩
    rw [hrest, List.append_nil, if_pos hstop.1, List.mem_singleton] at hx
    rw [hx] at hreq
    exact absurd hreq hnocheck
  rw [if_neg hstop] at hrest
  have hstarted : ∀ c ∈ printCalls (host env) leveling f p', ∃ q, (c, q) ∈ rest := by
    intro c hc
    rw [← hrest] at hc
    obtain ⟨x, hx, rfl⟩ := List.mem_map.1 hc
    exact ⟨x.2, hx⟩
  have hbehind : ∀ {c : Call} {q : Printer V ρ}, c ≠ checkCall f → (c, q) ∈
      (if (host env).savedInt p' (str "force_md5") 1 = 1 then [(checkCall f, saved env p')] else []) ++ rest →
      c ∈ printCalls (host env) leveling f p' := by
    intro c q hc hx
    rcases List.mem_append.1 hx with hx | hx
    · split_ifs at hx
      · exact absurd (Prod.mk.inj (List.mem_singleton.1 hx)).1 hc
      · exact absurd hx (List.not_mem_nil)
    · rw [← hrest]
      exact List.mem_map_of_mem hx
  constructor
  · intro h
    by_cases hasks : Asks w leveling f
    · obtain ⟨q, hq⟩ := hstarted (handOverCall leveling f) (mem_printCalls.2 (Or.inr (Or.inr rfl)))
      obtain ⟨⟨mode, q', hq', hk, hheats⟩, hsum⟩ := h _ (List.mem_append_right _ hq) f
        (requests_handOver_iff.2 ⟨rfl, hasks⟩)
      have hcall := eq_preclearCall (hbehind (by simp [checkCall, str]) hq')
      refine Or.inr (Or.inr ⟨⟨?_, hheats⟩, fun hon => ?_⟩)
      · rw [← preclearCall_m23 hm, ← hcall]
        exact hk
      · obtain ⟨q, hq, hheard⟩ := hsum hon
        rcases List.mem_append.1 hq with hq | hq
        · rw [if_pos (by exact hforced.2 hon), List.mem_singleton, Prod.mk.injEq] at hq
          rw [hq.2] at hheard
          exact hheard
        · exact absurd (hrest ▸ List.mem_map_of_mem hq) checkCall_not_mem
    · exact Or.inr (Or.inl hasks)
  · rintro hcond x hx g hreq
    have hx' := hbehind (fun hc => hnocheck (hc ▸ hreq)) hx
    obtain ⟨rfl, hasks⟩ := requests_printCalls hx' hreq
    have hcond' := (hcond.resolve_left fun hon => hstop ⟨hforced.2 hon.1, hon.2⟩).resolve_left (not_not.2 hasks)
    obtain ⟨⟨hk, hheats⟩, hsum⟩ := hcond'
    obtain ⟨q, hq⟩ := hstarted (preclearCall env f p') (mem_printCalls.2 (Or.inr (Or.inl rfl)))
    refine ⟨⟨_, q, List.mem_append_right _ hq, ?_, hheats⟩, fun hon => ⟨saved env p', ?_, hsum hon⟩⟩
    · rw [← preclearCall_m23 hm] at hk
      exact hk
    · rw [if_pos (by exact hforced.2 hon)]
      exact List.mem_append_left _ (List.mem_singleton.2 rfl)

/-- A refused request starts nothing. -/
theorem coveredCalls_refused {w : Machine} {leveling : Bool} {f : Text} {p : Printer V ρ} {e : Failure}
    (hfirst : firstScript (host env) leveling f p = .error e) : CoveredCalls w env leveling f p := by
  obtain ⟨hnil, -⟩ := calls_of_firstScript_error hfirst
  rw [calls_eq, (went_startPrint leveling f p : Went (host env) _ _).starts, List.map_eq_nil_iff] at hnil
  intro x hx
  rw [hnil] at hx
  exact absurd hx (List.not_mem_nil)

/-- Every print that a request asks for was accepted by `zpreclear.sh`, and its sum
checked, exactly when it is covered: as the few scripts of the request show for a name
that comes through, and as all that the lines parse to shows for another one. -/
theorem checked_iff (w : Machine) (env : Env V ρ) (leveling : Bool) (f : Text) (p : Printer V ρ) :
    Checked w env p (Script.exec (native (host env)) (startPrint (host env) leveling f) p) ↔
      (Harmless (host env) leveling f p ∧ Covered w env leveling f p) ∨
        (¬ Harmless (host env) leveling f p ∧ CoveredCalls w env leveling f p) := by
  rw [checked_iff_calls]
  by_cases hname : Harmless (host env) leveling f p
  · simp only [hname, true_and, not_true, false_and, or_false]
    unfold Covered
    cases hfirst : firstScript (host env) leveling f p with
    | error e => exact ⟨fun _ => Or.inl ⟨e, rfl⟩, fun _ => coveredCalls_refused hfirst⟩
    | ok c =>
      obtain ⟨hf, hlast, p', hm, hforce⟩ := plain_of_harmless hname hfirst
      rw [coveredCalls_plain hf hlast hm hforce]
      simp only [reduceCtorEq, exists_false, false_or, hm, Option.some.injEq, exists_eq_left']
  · simp only [hname, false_and, not_false_eq_true, true_and, false_or]

end Requests

/-! ## Two files -/

/-- One file, and no script is killed. -/
def oneFile (f t : Text) : Machine where
  file path := if path = dataPath f then some t else none
  killed _ := false

/-- A printer whose sum check accepts the file at once. -/
def accepting : Env (Fin 10) Unit := loaded none (some (0, ⟨5, by decide⟩))

theorem simple_gcode : Simple (str "a.gcode") := by
  have hall : (str "a.gcode").all (fun c => !isSpecial c) = true := by decide
  intro c hc hs
  have hplain := List.all_eq_true.1 hall c hc
  rw [hs] at hplain
  exact absurd hplain (by decide)

/-- A file without heating commands is refused by `zpreclear.sh` and handed over by
`zprint.sh` all the same. -/
theorem unheated_not_checked : ¬ Checked (oneFile (str "a.gcode") (str "G28\n")) accepting blank
    (Script.exec (native (host accepting)) (startPrint (host accepting) true (str "a.gcode")) blank) := by
  have hidle : Idle accepting blank := idle_blank _ _
  have hm : (host accepting).m23 (str "/" ++ str "a.gcode") blank = some blank := rfl
  have hlast : (str "a.gcode").getLast? ≠ some '\\' := by decide
  have hgood : GoodCheck accepting (str "a.gcode") blank := ⟨⟨5, by decide⟩, by rfl, by decide⟩
  rw [checked_iff_calls, coveredCalls_plain simple_gcode.quotable hlast hm
    fun _ => ⟨simple_gcode, (saved_editable hidle).1⟩]
  rintro (⟨-, hpass⟩ | hasks | ⟨⟨-, t, ht, hheated⟩, -⟩)
  · exact hpass ((letsPass_iff hidle _).2 hgood)
  · exact hasks ⟨rfl, rfl⟩
  · obtain rfl : str "G28\n" = t := Option.some.inj ht
    exact absurd hheated.1 (by decide)

end HandOver

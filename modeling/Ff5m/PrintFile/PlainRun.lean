import Ff5m.PrintFile.PlainName

/-!
# Print requests for plain names

What a print request does when its file name comes through unchanged: the sum
check, if it is switched on, runs on the file, and unless it refuses the print,
the scripts that prepare the print and hand it over run on the same name
(`exec_startPrint_plain`).
-/

namespace PrintFile

open TextTools (Text str)
open GCode Shlex

section Host

variable {σ : Type} (h : Host σ)

/-! ## What is meant to run -/

/-- `checkMD5.sh /data/f True` -/
def checkCall (f : Text) : Call := ⟨str "check_md5", [str "/data/" ++ f, str "True"]⟩

/-- The scripts that prepare the print. -/
def prepareCalls (f : Text) (s : σ) : List Call :=
  (if h.savedInt s (str "use_kamp") 0 = 1 then [⟨str "zexclude", [f]⟩] else []) ++
  [⟨str "zpreclear", [f, if h.savedInt s (str "preclear") 0 = 1 then str "TEST" else str "NONE"]⟩]

/-- The script that hands the print over to the native screen. -/
def handOverCall (leveling : Bool) (f : Text) : Call :=
  if leveling then ⟨str "zprint", [str "PRINT", f]⟩ else ⟨str "zsend", [str "M23", f]⟩

/-- The verdicts with which `_FINAL_CHECK_MD5` ends the print. -/
def refusals : List ℤ := [0, 1, 2, 6, 7]

/-- Waiting for the verdict, from the end of the script on. -/
def poll (s : σ) : Run Cmd σ :=
  Script.execAll (native h) (pollMd5 h ++ [.cmd .zloadVariable]) s

/-- The verdict arrives and does not end the print. -/
def Passes (s : σ) : Prop :=
  (poll h s).raised = none ∧ h.savedInt (poll h s).state (str "check_md5") 0 ∉ refusals

/-! ## Parts that start nothing -/

theorem calls_andThen_eq_nil {r : Run Cmd σ} {next : σ → Run Cmd σ} (hr : calls h r.log = [])
    (hn : ∀ s, calls h (next s).log = []) : calls h (r.andThen next).log = [] := by
  unfold Run.andThen
  split_ifs
  · exact hr
  · rw [calls_append, hr, hn, List.append_nil]

theorem calls_checkMd5Wait (s : σ) :
    calls h (Script.exec (native h) (checkMd5Wait h) s).log = [] := by
  unfold checkMd5Wait
  rw [Script.exec_call]
  split_ifs <;> simp [native, Cmd.call?]

theorem calls_poll (s : σ) : calls h (poll h s).log = [] := by
  have hround : ∀ (n : ℕ) (s : σ), calls h (Script.execAll (native h)
      ((List.replicate n [.cmd .zloadVariable, checkMd5Wait h]).flatten ++ [.cmd .zloadVariable]) s).log
        = [] := by
    intro n
    induction n with
    | zero =>
      intro s
      rw [List.replicate_zero, List.flatten_nil, List.nil_append, Script.execAll_cons,
        Run.andThen_execAll_nil, Script.exec_cmd]
      simp [Cmd.call?]
    | succ n ih =>
      intro s
      simp only [List.replicate_succ, List.flatten_cons, List.cons_append, List.nil_append]
      rw [Script.execAll_cons]
      refine calls_andThen_eq_nil h (by rw [Script.exec_cmd]; simp [Cmd.call?]) fun s' => ?_
      rw [Script.execAll_cons]
      exact calls_andThen_eq_nil h (calls_checkMd5Wait h s') fun s'' => ih s''
  exact hround 30 s

/-! ## The final check -/

/-- The name as `_FINAL_CHECK_MD5` receives it. -/
def quotedName (f : Text) : Text := '\'' :: (f ++ ['\''])

theorem Simple.not_special_quotedName {f : Text} (hf : Simple f) :
    '"' ∉ quotedName f ∧ '\\' ∉ quotedName f := by
  have h1 : '"' ∉ f := hf.not_mem (by decide) (by decide)
  have h2 : '\\' ∉ f := hf.not_mem (by decide) (by decide)
  simp [quotedName, h1, h2]

theorem respondOk_error {msg : Text} (quoted : Bool) (hq : '"' ∉ msg)
    (hv : (readDouble false msg).isSome) : respondOk h (error quoted msg) = true := by
  obtain ⟨v, hv⟩ := Option.isSome_iff_exists.1 hv
  have hps : extendedParams h.upper (error quoted msg)
      = some [(str "TYPE", str "error"), (str "MSG", v)] := by
    have hmsg : str "\"" = ['"'] := rfl
    cases quoted with
    | true =>
      have hpre : str "TYPE=\"error\" MSG=\"" = str "TYPE" ++ '=' :: '"' :: (str "error" ++ '"' ::
          ' ' :: (str "MSG" ++ ['=', '"'])) := rfl
      have hline : error true msg = str "TYPE" ++ '=' :: '"' :: (str "error" ++ '"' :: ' ' ::
          (str "MSG" ++ '=' :: '"' :: (msg ++ ['"']))) := by
        unfold error
        rw [if_pos rfl, hpre, hmsg]
        simp only [List.append_assoc, List.cons_append, List.nil_append]
      rw [hline, extendedParams_double_cons h.upper (by decide) (by decide) (v := str "error")
        (by decide), extendedParams_double h.upper (by decide) hq hv, Option.map_some]
    | false =>
      have hpre : str "TYPE=error MSG=\"" = str "TYPE" ++ '=' :: str "error" ++ ' ' ::
          (str "MSG" ++ ['=', '"']) := rfl
      have hline : error false msg = str "TYPE" ++ '=' :: str "error" ++ ' ' ::
          (str "MSG" ++ '=' :: '"' :: (msg ++ ['"'])) := by
        unfold error
        rw [if_neg (by simp), hpre, hmsg]
        simp only [List.append_assoc, List.cons_append, List.nil_append]
      rw [hline, extendedParams_plain h.upper (by decide) (by decide),
        extendedParams_double h.upper (by decide) hq hv, Option.map_some]
  have htype : getParam [(str "TYPE", str "error"), (str "MSG", v)] (str "TYPE")
      = some (str "error") := by
    rw [getParam_cons, getParam_cons, if_pos rfl, if_neg (by decide)]
    rfl
  unfold respondOk
  simp only [hps, htype]
  decide

/-- A text without double quotes and backslashes. -/
def quoteFree (t : Text) : Bool := t.all fun c => c != '"' && c != '\\'

theorem quoteFree_iff {t : Text} : quoteFree t = true ↔ '"' ∉ t ∧ '\\' ∉ t := by
  rw [quoteFree, List.all_eq_true]
  constructor
  · intro h
    exact ⟨fun hm => absurd (h _ hm) (by decide), fun hm => absurd (h _ hm) (by decide)⟩
  · rintro ⟨h1, h2⟩ c hc
    have hd : c ≠ '"' := fun he => h1 (he ▸ hc)
    have hb : c ≠ '\\' := fun he => h2 (he ▸ hc)
    simp [hd, hb]

/-- Such a text can be put between double quotes. -/
theorem readDouble_quoteFree {t : Text} (h : quoteFree t = true) :
    '"' ∉ t ∧ (readDouble false t).isSome := by
  obtain ⟨hd, hb⟩ := quoteFree_iff.1 h
  exact ⟨hd, readDouble_isSome (by simp) fun hl => hb (List.mem_of_getLast? hl)⟩

theorem quoteFree_append {t u : Text} :
    quoteFree (t ++ u) = true ↔ quoteFree t = true ∧ quoteFree u = true := by
  rw [quoteFree, List.all_append, Bool.and_eq_true]
  rfl

/-- A verdict that ends the print has one message, around the name. -/
theorem finalCheckBody_refusal {v : ℤ} (hv : v ∈ refusals) (name : Text) :
    ∃ quoted u w, quoteFree u = true ∧ quoteFree w = true ∧
      finalCheckBody (σ := σ) v name = refuse quoted (u ++ name ++ w) := by
  simp only [refusals, List.mem_cons, List.not_mem_nil, or_false] at hv
  unfold finalCheckBody
  rcases hv with rfl | rfl | rfl | rfl | rfl <;>
    simp only [Int.reduceEq, if_true, if_false, List.nil_append, List.append_nil] <;>
    exact ⟨_, _, _, by decide, by decide, rfl⟩

/-- Commands that are all messages. -/
inductive Messages (P : Text → Prop) : List (Macro σ) → Prop where
  | nil : Messages P []
  | cons {raw : Text} {cs : List (Macro σ)} (hraw : P raw) (hcs : Messages P cs) :
      Messages P (.cmd (.respond raw) :: cs)

set_option maxRecDepth 1024 in
/-- Any other verdict has messages only, and they are accepted around a name
that is free of quotes. -/
theorem finalCheckBody_messages {v : ℤ} (hv : v ∉ refusals) (name : Text) :
    Messages (fun raw => quoteFree name = true → respondOk h raw = true)
      (finalCheckBody (σ := σ) v name) := by
  have herror : ∀ {u w : Text}, quoteFree u = true → quoteFree w = true → quoteFree name = true →
      respondOk h (error true (u ++ name ++ w)) = true := fun hu hw hn => by
    obtain ⟨hq, hread⟩ := readDouble_quoteFree
      (quoteFree_append.2 ⟨quoteFree_append.2 ⟨hu, hn⟩, hw⟩)
    exact respondOk_error h true hq hread
  have hinfo : ∀ {u w : Text}, quoteFree u = true → quoteFree w = true → quoteFree name = true →
      respondOk h (info (u ++ name ++ w)) = true := fun hu hw hn => by
    obtain ⟨hq, hread⟩ := readDouble_quoteFree
      (quoteFree_append.2 ⟨quoteFree_append.2 ⟨hu, hn⟩, hw⟩)
    exact respondOk_info h hq hread
  have hfixed : respondOk h (info (str
      "В Orca: Профиль принтера -> Экструдер 1 -> Тип подъема оси Z. Установите Обычный или Наклонный."))
        = true :=
    respondOk_info h (by simp [str]) (readDouble_isSome (by simp) (by simp [str]))
  simp only [refusals, List.mem_cons, List.not_mem_nil, or_false, not_or] at hv
  obtain ⟨h0, h1, h2, h6, h7⟩ := hv
  unfold finalCheckBody
  simp only [h0, h1, h2, h6, h7, if_false, List.nil_append, List.append_nil]
  by_cases h3 : v = 3
  · simp only [h3, Int.reduceEq, if_true, if_false, List.append_nil]
    exact .cons (herror (by decide) (by decide)) .nil
  by_cases h4 : v = 4
  · simp only [h4, Int.reduceEq, if_true, if_false, List.nil_append, List.append_nil]
    exact .cons (herror (by decide) (by decide)) (.cons (hinfo (by decide) (by decide)) .nil)
  by_cases h8 : v = 8
  · simp only [h8, Int.reduceEq, if_true, if_false, List.nil_append, List.append_nil]
    exact .cons (herror (by decide) (by decide)) (.cons (fun _ => hfixed)
      (.cons (hinfo (by decide) (by decide)) .nil))
  by_cases h5 : v = 5
  · simp only [h5, Int.reduceEq, if_true, if_false, List.nil_append]
    exact .cons (hinfo (by decide) (by decide)) .nil
  simp only [h3, h4, h5, h8, if_false, List.nil_append]
  exact .nil

/-- The run ended with the print cancelled. -/
structure Refused (s : σ) (r : Run Cmd σ) : Prop where
  calls : calls h r.log = []
  cancelled : (.cancelPrint, s) ∈ r.log
  raised : r.raised = some ((h.cancelPrint s).2.getD .command)

/-- The run did nothing. -/
structure Passed (s : σ) (r : Run Cmd σ) : Prop where
  calls : calls h r.log = []
  state : r.state = s
  raised : r.raised = none

variable {h}

theorem Passed.nil (s : σ) : Passed h s (Script.execAll (native h) [] s) := by
  rw [Script.execAll_nil]
  exact ⟨rfl, rfl, rfl⟩

theorem Passed.respond {raw : Text} (hraw : respondOk h raw = true) {cs : List (Macro σ)} {s : σ}
    (hcs : Passed h s (Script.execAll (native h) cs s)) :
    Passed h s (Script.execAll (native h) (.cmd (.respond raw) :: cs) s) := by
  rw [Script.execAll_cons, exec_respond h hraw, Run.andThen_mk_none]
  exact ⟨by simpa [Cmd.call?] using hcs.calls, hcs.state, hcs.raised⟩

theorem Refused.of_refuse {quoted : Bool} {msg : Text}
    (hmsg : respondOk h (error quoted msg) = true) (s : σ) :
    Refused h s (Script.execAll (native h) (refuse quoted msg) s) := by
  unfold refuse
  rw [Script.execAll_cons, exec_respond h hmsg, Run.andThen_mk_none, Script.execAll_cons,
    Script.exec_cmd]
  have hnative : native h .cancelPrint s = h.cancelPrint s := rfl
  rw [hnative]
  cases hcancel : (h.cancelPrint s).2 with
  | none =>
    refine ⟨?_, ?_, ?_⟩ <;> simp [finalStopMd5, native, Cmd.call?, hcancel]
  | some e =>
    refine ⟨?_, ?_, ?_⟩ <;> simp [Cmd.call?, hcancel]

variable (h)

theorem exec_messages {P : Text → Prop} (hP : ∀ raw, P raw → respondOk h raw = true)
    {cs : List (Macro σ)} (hcs : Messages P cs) (s : σ) :
    Passed h s (Script.execAll (native h) cs s) := by
  induction hcs with
  | nil => exact .nil s
  | cons hraw _ ih => exact .respond (hP _ hraw) ih

/-- The messages of `_FINAL_CHECK_MD5` are accepted, and that of a refusal is
followed by the commands that end the print. -/
theorem exec_finalCheckBody {name : Text} (hn : quoteFree name = true) (v : ℤ) (s : σ) :
    (v ∈ refusals → Refused h s (Script.execAll (native h) (finalCheckBody v name) s)) ∧
    (v ∉ refusals → Passed h s (Script.execAll (native h) (finalCheckBody v name) s)) := by
  constructor
  · intro hv
    obtain ⟨quoted, u, w, hu, hw, hbody⟩ := finalCheckBody_refusal (σ := σ) hv name
    obtain ⟨hq, hread⟩ := readDouble_quoteFree (quoteFree_append.2 ⟨quoteFree_append.2 ⟨hu, hn⟩, hw⟩)
    rw [hbody]
    exact .of_refuse (respondOk_error h quoted hq hread) s
  · intro hv
    exact exec_messages h (fun _ hraw => hraw hn) (finalCheckBody_messages h hv name) s

/-- The name of the checked file is as plain as the name. -/
theorem Simple.data {f : Text} (hf : Simple f) : Simple (str "/data/" ++ f) := by
  have hall : (str "/data/").all (fun c => !isSpecial c) = true := by decide
  intro c hc hs
  rcases List.mem_append.1 hc with hc | hc
  · have hplain := List.all_eq_true.1 hall c hc
    rw [hs] at hplain
    exact absurd hplain (by decide)
  · exact hf c hc hs

theorem extendedParams_finalCheckLine {f : Text} (hf : Simple f) :
    extendedParams h.upper (finalCheckLine f) = some [(str "FILENAME", quotedName f)] := by
  obtain ⟨hq, hb⟩ := hf.not_special_quotedName
  have hlast : (quotedName f).getLast? ≠ some '\\' := fun hl => hb (List.mem_of_getLast? hl)
  rw [finalCheckLine_eq]
  exact extendedParams_double h.upper (by decide) hq
    (readDouble_of_noPair (noPair_of_not_mem hb) hlast)

theorem exec_finalCheckMd5 {f : Text} (hf : Simple f) (s : σ) :
    (h.savedInt s (str "check_md5") 0 ∈ refusals →
      Refused h s (Script.exec (native h) (finalCheckMd5 h (finalCheckLine f)) s)) ∧
    (h.savedInt s (str "check_md5") 0 ∉ refusals →
      Passed h s (Script.exec (native h) (finalCheckMd5 h (finalCheckLine f)) s)) := by
  have hname : (getParam [(str "FILENAME", quotedName f)] (str "FILENAME")).getD [] = quotedName f := by
    simp [getParam]
  unfold finalCheckMd5
  rw [exec_invoke h (extendedParams_finalCheckLine h hf), hname]
  exact exec_finalCheckBody h (quoteFree_iff.2 hf.not_special_quotedName) _ s

/-! ## The sum check as a whole -/

/-- What the script of the sum check leaves, started on a stored verdict of 0. -/
def afterScript (f : Text) (s : σ) : σ :=
  h.shell (checkCall f) (h.saveVariable (str "check_md5") (str "0") s).1

theorem checkedName_checkMd5Line (f : Text) (s : σ) :
    checkedName h [(str "DELETE", str "True"), (str "FILENAME", str "/data/" ++ f)] s
      = str "/data/" ++ f := by
  rw [checkedName, getParam_cons, getParam_cons, if_pos rfl]
  rfl

/-- From the end of the script on. -/
theorem exec_poll_finalCheck {f : Text} (hf : Simple f) (s : σ) :
    calls h (Script.execAll (native h) (pollMd5 h ++
      [.cmd .zloadVariable, finalCheckMd5 h (finalCheckLine (str "/data/" ++ f))]) s).log = [] ∧
    ((Script.execAll (native h) (pollMd5 h ++
      [.cmd .zloadVariable, finalCheckMd5 h (finalCheckLine (str "/data/" ++ f))]) s).raised = none ↔
      Passes h s) := by
  have hsplit : pollMd5 h ++
      [.cmd .zloadVariable, finalCheckMd5 h (finalCheckLine (str "/data/" ++ f))]
      = (pollMd5 h ++ [.cmd .zloadVariable]) ++
        [finalCheckMd5 h (finalCheckLine (str "/data/" ++ f))] := by simp
  have hpoll := calls_poll h s
  have hfinal := exec_finalCheckMd5 h hf.data (poll h s).state
  rw [hsplit, Script.execAll_append, Script.execAll_singleton, Passes, ← poll]
  unfold Run.andThen
  cases hr : (poll h s).raised with
  | some e => simp [hr, hpoll]
  | none =>
    by_cases hv : h.savedInt (poll h s).state (str "check_md5") 0 ∈ refusals
    · obtain ⟨hlog, _, hraised⟩ := hfinal.1 hv
      simp [hlog, hpoll, hraised, hv]
    · obtain ⟨hlog, _, hraised⟩ := hfinal.2 hv
      simp [hlog, hpoll, hraised, hv]

/-- The script runs on the file, and the check ends as the verdict says. -/
theorem exec_checkMd5 {f : Text} (hf : Simple f) {s : σ}
    (hsave : (h.saveVariable (str "check_md5") (str "0") s).2 = none) :
    calls h (Script.exec (native h) (checkMd5 h (checkMd5Line f)) s).log = [checkCall f] ∧
      ((Script.exec (native h) (checkMd5 h (checkMd5Line f)) s).raised = none ↔
        Passes h (afterScript h f s)) := by
  have hps := extendedParams_checkMd5Line h (f := f) (hf.not_mem (by decide) (by decide))
  have hname := checkedName_checkMd5Line h f s
  have hdelete : (getParam [(str "DELETE", str "True"), (str "FILENAME", str "/data/" ++ f)]
      (str "DELETE")).getD [] = str "True" := by
    rw [getParam_cons, getParam_cons, if_pos rfl, if_neg (by decide)]
    rfl
  have hsaved : native h (.saveVariable (str "check_md5") (str "0")) s
      = ((h.saveVariable (str "check_md5") (str "0") s).1, none) := Prod.ext rfl hsave
  have hcall := shellCall_checkMd5Shell h hf
  have hshell : native h (.runShellCommand (checkMd5Shell (str "/data/" ++ f) (str "True")))
      (h.saveVariable (str "check_md5") (str "0") s).1 = (afterScript h f s, none) := by
    simp only [native, hcall]
    rfl
  have hstarted : (Cmd.runShellCommand (checkMd5Shell (str "/data/" ++ f) (str "True"))).call? h
      = some (checkCall f) := by
    simp only [Cmd.call?, hcall]
    rfl
  rw [checkedName] at hname
  unfold checkMd5
  rw [exec_invoke h hps]
  simp only [hname, hdelete]
  rw [if_pos (by simp [str]), List.singleton_append, Script.execAll_cons, Script.exec_cmd, hsaved,
    Run.andThen_mk_none, List.append_assoc, List.singleton_append, Script.execAll_cons,
    Script.exec_cmd, hshell, Run.andThen_mk_none]
  simp only [List.append_nil, calls_append, calls_cons, calls_nil, hstarted, Option.toList_some]
  obtain ⟨hlog, hraised⟩ := exec_poll_finalCheck h hf (afterScript h f s)
  rw [hlog, ← hraised]
  exact ⟨by simp [Cmd.call?], Iff.rfl⟩

/-! ## The rest of the request -/

/-- A shell command whose line is read back starts its script. -/
theorem exec_runShellCommand {raw : Text} {c : Call} (hc : shellCall h raw = .ok c) (s : σ) :
    Script.exec (native h) (.cmd (.runShellCommand raw)) s
      = ⟨h.shell c s, [(.runShellCommand raw, s)], none⟩ := by
  rw [Script.exec_cmd]
  simp only [native, hc]

theorem call?_runShellCommand {raw : Text} {c : Call} (hc : shellCall h raw = .ok c) :
    (Cmd.runShellCommand raw).call? h = some c := by
  simp only [Cmd.call?, hc]
  rfl

/-- A run without a failure, by the calls it made. -/
structure Done (cs : List Call) (r : Run Cmd σ) : Prop where
  calls : calls h r.log = cs
  raised : r.raised = none

variable {h}

theorem Done.andThen {r : Run Cmd σ} {next : σ → Run Cmd σ} {cs ds : List Call} (hr : Done h cs r)
    (hn : ∀ s, Done h ds (next s)) : Done h (cs ++ ds) (r.andThen next) := by
  unfold Run.andThen
  rw [hr.raised, if_neg (by simp)]
  exact ⟨by rw [calls_append, hr.calls, (hn _).calls], (hn _).raised⟩

theorem Done.respond {raw : Text} (hraw : respondOk h raw = true) (s : σ) :
    Done h [] (Script.exec (native h) (.cmd (.respond raw)) s) := by
  rw [exec_respond h hraw]
  exact ⟨by simp [Cmd.call?], rfl⟩

theorem Done.shell {raw : Text} {c : Call} (hc : shellCall h raw = .ok c) (s : σ) :
    Done h [c] (Script.exec (native h) (.cmd (.runShellCommand raw)) s) := by
  rw [exec_runShellCommand h hc]
  exact ⟨by simp [call?_runShellCommand h hc], rfl⟩

theorem Done.cons {c : Macro σ} {cs : List (Macro σ)} {ks ls : List Call}
    (hc : ∀ s, Done h ks (Script.exec (native h) c s))
    (hcs : ∀ s, Done h ls (Script.execAll (native h) cs s)) (s : σ) :
    Done h (ks ++ ls) (Script.execAll (native h) (c :: cs) s) := by
  rw [Script.execAll_cons]
  exact (hc s).andThen hcs

theorem Done.nil (s : σ) : Done h [] (Script.execAll (native h) [] s) := by
  rw [Script.execAll_nil]
  exact ⟨rfl, rfl⟩

variable (h)

/-- `zexclude` and `zpreclear` run on the name. -/
theorem exec_prepare {f : Text} (hf : Quotable f) (s s' : σ) :
    Done h (prepareCalls h f s) (Script.execAll (native h) (prepare h f s) s') := by
  have hz : ∀ s, Done h [] (Script.exec (native h) (.cmd .zcontrolOn) s) := fun s => by
    rw [Script.exec_cmd]
    exact ⟨by simp [Cmd.call?], by simp [native]⟩
  have hkamp := shellCall_zexcludeLine h hf
  have htest := @shellCall_zpreclearLine _ h f (str "TEST") hf (Or.inl rfl)
  have hnone := @shellCall_zpreclearLine _ h f (str "NONE") hf (Or.inr rfl)
  unfold prepare prepareCalls
  by_cases hk : h.savedInt s (str "use_kamp") 0 = 1 <;>
    by_cases hp : h.savedInt s (str "preclear") 0 = 1 <;>
    simp only [hk, hp, if_true, if_false, List.cons_append, List.nil_append]
  · exact .cons (.respond (respondOk_useKamp h)) (.cons (.shell hkamp) (.cons hz
      (.cons (.respond (respondOk_preclear h)) (.cons (.respond (respondOk_freeze h))
        (.cons (.shell htest) .nil))))) s'
  · exact .cons (.respond (respondOk_useKamp h)) (.cons (.shell hkamp) (.cons hz
      (.cons (.shell hnone) .nil))) s'
  · exact .cons hz (.cons (.respond (respondOk_preclear h)) (.cons (.respond (respondOk_freeze h))
      (.cons (.shell htest) .nil))) s'
  · exact .cons hz (.cons (.shell hnone) .nil) s'

/-- The sum check is switched on. -/
def Forced (s : σ) : Prop := h.savedInt s (str "force_md5") 1 = 1

/-- What a print request for `f` comes to, with the calls `cs` after the sum
check: all of it, or the sum check alone, which then refused the print. -/
inductive Followed (f : Text) (s : σ) (cs : List Call) (r : Run Cmd σ) : Prop where
  | passed (hdone : Done h ((if h.savedInt s (str "force_md5") 1 = 1 then [checkCall f] else []) ++ cs) r)
      (hpasses : Forced h s → Passes h (afterScript h f s))
  | refused (hforced : Forced h s) (hpasses : ¬ Passes h (afterScript h f s))
      (hcalls : calls h r.log = [checkCall f]) (hraised : r.raised ≠ none)

variable {h}

theorem Followed.andThen {f : Text} {s : σ} {cs ds : List Call} {r : Run Cmd σ}
    {next : σ → Run Cmd σ} (hr : Followed h f s cs r) (hn : ∀ s', Done h ds (next s')) :
    Followed h f s (cs ++ ds) (r.andThen next) := by
  cases hr with
  | passed hdone hpasses =>
    refine .passed ?_ hpasses
    rw [← List.append_assoc]
    exact hdone.andThen hn
  | refused hforced hpasses hcalls hraised =>
    have hstop : r.andThen next = r := by
      unfold Run.andThen
      rw [if_pos (Option.isSome_iff_ne_none.2 hraised)]
    rw [hstop]
    exact .refused hforced hpasses hcalls hraised

/-- Something silent in front changes nothing. -/
theorem Followed.of_silent {f : Text} {s s' : σ} {cs : List Call} {log : List (Cmd × σ)}
    {next : σ → Run Cmd σ} (hlog : calls h log = []) (hn : Followed h f s cs (next s')) :
    Followed h f s cs ((Run.mk s' log none).andThen next) := by
  rw [Run.andThen_mk_none]
  cases hn with
  | passed hdone hpasses =>
    exact .passed ⟨by rw [calls_append, hlog, hdone.calls, List.nil_append], hdone.raised⟩ hpasses
  | refused hforced hpasses hcalls hraised =>
    exact .refused hforced hpasses (by rw [calls_append, hlog, hcalls, List.nil_append]) hraised

variable (h)

theorem respondOk_around {f u w : Text} (hf : '"' ∉ f) (hlast : (u ++ f ++ w).getLast? ≠ some '\\')
    (hu : '"' ∉ u) (hw : '"' ∉ w) : respondOk h (info (u ++ f ++ w)) = true := by
  refine respondOk_info h ?_ (readDouble_isSome (by simp) hlast)
  simp [hf, hu, hw]

theorem respondOk_checking {f : Text} (hf : Quotable f) (hlast : f.getLast? ≠ some '\\') :
    respondOk h (info (str "Запущена проверка MD5 " ++ f)) = true := by
  have hmsg := respondOk_around h (f := f) (u := str "Запущена проверка MD5 ") (w := [])
    hf.no_double (by
      rw [List.append_nil]
      cases f with
      | nil => decide
      | cons c cs => rwa [List.getLast?_append_of_ne_nil _ (by simp)]) (by decide) (by simp)
  rwa [List.append_nil] at hmsg

/-- `_PRINT_FILE` with a plain name. -/
theorem exec_printFile {f : Text} (hf : Quotable f) (hlast : f.getLast? ≠ some '\\') {s : σ}
    (hforce : Forced h s → Simple f ∧ (h.saveVariable (str "check_md5") (str "0") s).2 = none) :
    Followed h f s (prepareCalls h f s) (Script.exec (native h) (printFile h (nameLine f)) s) := by
  have hps : (extendedParams h.upper (nameLine f)) = some [(str "FILENAME", f)] := by
    rw [nameLine_eq]
    exact extendedParams_double h.upper (by decide) hf.no_double (readDouble_of_noPair hf.no_pair hlast)
  have hname : getParam [(str "FILENAME", f)] (str "FILENAME") = some f := by simp [getParam]
  have hexclude : Script.exec (native h) (.cmd .excludeObjectDefineReset) s
      = ⟨s, [(.excludeObjectDefineReset, s)], none⟩ := by simp [native]
  have hprepare := exec_prepare h hf s
  unfold printFile
  rw [exec_invoke h hps]
  simp only [hname, List.singleton_append]
  rw [List.cons_append, Script.execAll_cons, hexclude]
  refine .of_silent (by simp [Cmd.call?]) ?_
  by_cases hon : h.savedInt s (str "force_md5") 1 = 1
  · obtain ⟨hsimple, hsave⟩ := hforce hon
    have hmsg := respondOk_checking h hf hlast
    obtain ⟨hcalls, hpasses⟩ := exec_checkMd5 h hsimple hsave
    rw [if_pos hon, List.cons_append, Script.execAll_cons, exec_respond h hmsg]
    refine .of_silent (by simp [Cmd.call?]) ?_
    rw [List.singleton_append, Script.execAll_cons]
    have hcheck : Followed h f s [] (Script.exec (native h) (checkMd5 h (checkMd5Line f)) s) := by
      by_cases hp : Passes h (afterScript h f s)
      · exact .passed ⟨by rw [if_pos hon, hcalls, List.append_nil], hpasses.2 hp⟩ fun _ => hp
      · exact .refused hon hp hcalls fun hr => hp (hpasses.1 hr)
    exact hcheck.andThen hprepare
  · rw [if_neg hon, List.nil_append]
    exact .passed (by rw [if_neg hon]; exact hprepare s) fun hforced => absurd hforced hon

/-- The lines of the two macros. -/
def announceOf (leveling : Bool) (f : Text) : Text :=
  if leveling then str "Печать файла " ++ f ++ str " с построением карты стола с родного экрана"
  else str "Печать файла " ++ f ++ str " с родного экрана"

/-- The line with which a macro hands the print over. -/
def handOverOf (leveling : Bool) (f : Text) : Text :=
  if leveling then zprintLine f else zsendLine f

theorem startPrint_eq (leveling : Bool) (f : Text) :
    startPrint h leveling f
      = printFileWith h (announceOf leveling) (handOverOf leveling) (nameLine (escapeQuotes f)) := by
  cases leveling <;> rfl

/-- Everything a print request for `f` starts after the sum check. -/
def printCalls (leveling : Bool) (f : Text) (s : σ) : List Call :=
  prepareCalls h f s ++ [handOverCall leveling f]

theorem respondOk_announceOf (leveling : Bool) {f : Text} (hf : Quotable f) :
    respondOk h (info (announceOf leveling f)) = true := by
  cases leveling
  all_goals
    refine respondOk_around h hf.no_double ?_ (by decide) (by simp [str])
    rw [List.getLast?_append_of_ne_nil _ (by simp [str])]
    simp [str]

theorem shellCall_handOverOf (leveling : Bool) {f : Text} (hf : Quotable f) :
    shellCall h (handOverOf leveling f) = .ok (handOverCall leveling f) := by
  cases leveling
  · rw [handOverOf, if_neg (by simp), zsendLine_eq]
    exact shellCall_handOver h hf (by simp [shellCommands]) (Or.inr rfl)
  · rw [handOverOf, if_pos rfl, zprintLine_eq]
    exact shellCall_handOver h hf (by simp [shellCommands]) (Or.inl rfl)

/-- A print request for a plain name runs on that name. -/
theorem exec_startPrint_plain {leveling : Bool} {f : Text} (hf : Quotable f)
    (hlast : f.getLast? ≠ some '\\') {s s' : σ} (hm23 : h.m23 (str "/" ++ f) s = some s')
    (hforce : Forced h s' →
      Simple f ∧ (h.saveVariable (str "check_md5") (str "0") s').2 = none) :
    Followed h f s' (printCalls h leveling f s')
      (Script.exec (native h) (startPrint h leveling f) s) := by
  have hps : (extendedParams h.upper (nameLine f)) = some [(str "FILENAME", f)] := by
    rw [nameLine_eq]
    exact extendedParams_double h.upper (by decide) hf.no_double (readDouble_of_noPair hf.no_pair hlast)
  have hname : getParam [(str "FILENAME", f)] (str "FILENAME") = some f := by simp [getParam]
  have hmsg := respondOk_announceOf h leveling hf
  have hhand := shellCall_handOverOf h leveling hf
  have hm : Script.exec (native h) (.cmd (.m23 (str "/" ++ f))) s
      = ⟨s', [(.m23 (str "/" ++ f), s)], none⟩ := by
    rw [Script.exec_cmd]
    simp only [native, hm23]
  rw [startPrint_eq, escapeQuotes_eq_self hf.no_double]
  unfold printFileWith
  rw [exec_invoke h hps]
  simp only [hname]
  rw [Script.execAll_cons, exec_respond h hmsg]
  refine .of_silent (by simp [Cmd.call?]) ?_
  rw [Script.execAll_cons, hm]
  refine .of_silent (by simp [Cmd.call?]) ?_
  rw [Script.execAll_cons, Script.execAll_singleton]
  exact (exec_printFile h hf hlast hforce).andThen (.shell hhand)

end Host

end PrintFile

import Ff5m.PrintFile.FirstScript

/-!
# Names that come through unchanged

A file name without quotes and without two backslashes in a row passes through
every double-quoted and single-quoted value of the print macros unchanged
(`Quotable`), and one whose only special characters are spaces passes through the
backslash quoting of the sum check as well (`Simple`).  For such names the lines
are read back as they were meant, so that every script gets the name itself.
-/

namespace PrintFile

open TextTools (Text str)
open GCode Shlex

/-- Names for which quoting is the inverse of unquoting. -/
structure Quotable (f : Text) : Prop where
  no_double : '"' ∉ f
  no_single : '\'' ∉ f
  no_pair : NoPair f

/-- Names in which nothing but spaces is special to `shlex`. -/
def Simple (f : Text) : Prop := ∀ c ∈ f, isSpecial c = true → c = ' '

theorem Simple.not_mem {f : Text} (hf : Simple f) {c : Char} (hc : isSpecial c = true)
    (hne : c ≠ ' ') : c ∉ f :=
  fun hm => hne (hf c hm hc)

theorem Simple.quotable {f : Text} (hf : Simple f) : Quotable f where
  no_double := hf.not_mem (by decide) (by decide)
  no_single := hf.not_mem (by decide) (by decide)
  no_pair := noPair_of_not_mem (hf.not_mem (by decide) (by decide))

/-! ## The lines, cut at their quotes -/

theorem escapeQuotes_eq_self {f : Text} (hf : '"' ∉ f) : escapeQuotes f = f := by
  induction f with
  | nil => rfl
  | cons c cs ih =>
    simp only [List.mem_cons, not_or] at hf
    have hcs : escapeQuotes cs = cs := ih hf.2
    unfold escapeQuotes at hcs ⊢
    rw [List.flatMap_cons, hcs, if_neg (Ne.symm hf.1), List.singleton_append]

/-- A `RUN_SHELL_COMMAND` line. -/
def shellLine (cmd u : Text) : Text :=
  str "CMD" ++ '=' :: cmd ++ ' ' :: (str "PARAMS" ++ '=' :: '"' :: (u ++ ['"']))

theorem nameLine_eq (f : Text) : nameLine f = str "FILENAME" ++ '=' :: '"' :: (f ++ ['"']) := by
  have h1 : str "FILENAME=\"" = str "FILENAME" ++ ['=', '"'] := rfl
  have h2 : str "\"" = ['"'] := rfl
  unfold nameLine
  simp only [h1, h2, List.append_assoc, List.cons_append, List.nil_append]

theorem finalCheckLine_eq (f : Text) :
    finalCheckLine f = str "FILENAME" ++ '=' :: '"' :: ('\'' :: (f ++ ['\'']) ++ ['"']) := by
  have h1 : str "FILENAME=\"'" = str "FILENAME" ++ ['=', '"', '\''] := rfl
  have h2 : str "'\"" = ['\'', '"'] := rfl
  unfold finalCheckLine
  simp only [h1, h2, List.append_assoc, List.cons_append, List.nil_append]

theorem checkMd5Line_eq (f : Text) :
    checkMd5Line f = str "DELETE" ++ '=' :: str "True" ++
      ' ' :: (str "FILENAME" ++ '=' :: '\'' :: (str "/data/" ++ f ++ ['\''])) := by
  have h1 : str "DELETE=True FILENAME='/data/" = str "DELETE" ++ '=' :: str "True" ++
    ' ' :: (str "FILENAME" ++ '=' :: '\'' :: str "/data/") := rfl
  have h2 : str "'" = ['\''] := rfl
  unfold checkMd5Line
  simp only [h1, h2, List.append_assoc, List.cons_append]

theorem zexcludeLine_eq (f : Text) :
    zexcludeLine f = shellLine (str "zexclude") ('\'' :: (f ++ ['\''])) := by
  have h1 : str "CMD=zexclude PARAMS=\"'" = str "CMD" ++ '=' :: str "zexclude" ++
    ' ' :: (str "PARAMS" ++ '=' :: '"' :: ['\'']) := rfl
  have h2 : str "'\"" = ['\'', '"'] := rfl
  unfold zexcludeLine shellLine
  simp only [h1, h2, List.append_assoc, List.cons_append, List.nil_append]

theorem zpreclearLine_eq (mode f : Text) :
    zpreclearLine mode f = shellLine (str "zpreclear") ('\'' :: (f ++ '\'' :: ' ' :: mode)) := by
  have h1 : str "CMD=zpreclear PARAMS=\"'" = str "CMD" ++ '=' :: str "zpreclear" ++
    ' ' :: (str "PARAMS" ++ '=' :: '"' :: ['\'']) := rfl
  have h2 : str "' " = ['\'', ' '] := rfl
  have h3 : str "\"" = ['"'] := rfl
  unfold zpreclearLine shellLine
  simp only [h1, h2, h3, List.append_assoc, List.cons_append, List.nil_append]

theorem zprintLine_eq (f : Text) :
    zprintLine f = shellLine (str "zprint") (str "PRINT" ++ ' ' :: '\'' :: (f ++ ['\''])) := by
  have h1 : str "CMD=zprint PARAMS=\"PRINT '" = str "CMD" ++ '=' :: str "zprint" ++
    ' ' :: (str "PARAMS" ++ '=' :: '"' :: (str "PRINT" ++ [' ', '\''])) := rfl
  have h2 : str "'\"" = ['\'', '"'] := rfl
  unfold zprintLine shellLine
  simp only [h1, h2, List.append_assoc, List.cons_append, List.nil_append]

theorem zsendLine_eq (f : Text) :
    zsendLine f = shellLine (str "zsend") (str "M23" ++ ' ' :: '\'' :: (f ++ ['\''])) := by
  have h1 : str "CMD=zsend PARAMS=\"M23 '" = str "CMD" ++ '=' :: str "zsend" ++
    ' ' :: (str "PARAMS" ++ '=' :: '"' :: (str "M23" ++ [' ', '\''])) := rfl
  have h2 : str "'\"" = ['\'', '"'] := rfl
  unfold zsendLine shellLine
  simp only [h1, h2, List.append_assoc, List.cons_append, List.nil_append]

theorem checkMd5Shell_eq (f delete : Text) :
    checkMd5Shell f delete = shellLine (str "check_md5") (escapeSpaces f ++ ' ' :: delete) := by
  have h1 : str "CMD=check_md5 PARAMS=\"" = str "CMD" ++ '=' :: str "check_md5" ++
    ' ' :: (str "PARAMS" ++ '=' :: ['"']) := rfl
  have h2 : str " " = [' '] := rfl
  have h3 : str "\"" = ['"'] := rfl
  unfold checkMd5Shell shellLine
  simp only [h1, h2, h3, List.append_assoc, List.cons_append, List.nil_append]

/-! ## What the lines are read as -/

section Host

variable {σ : Type} (h : Host σ)

theorem nameIn_nameLine {f : Text} (hf : '"' ∉ f) : nameIn h (nameLine f) = readDouble false f := by
  rw [nameIn, nameLine_eq]
  cases hv : readDouble false f with
  | none =>
    have hstep : step isComment '"' .word (str "FILENAME" ++ ['=']) =
        ([], .quote '"', str "FILENAME" ++ ['=']) := by
      simp [step, isSpace, isComment, isQuote]
    have hscan := @scan_double_none isComment f hf false hv (str "FILENAME" ++ ['='])
    have hsplit : str "FILENAME" ++ '=' :: '"' :: (f ++ ['"'])
        = (str "FILENAME" ++ ['=']) ++ '"' :: (f ++ ['"']) := by simp
    have hline : scan isComment .gap [] (str "FILENAME" ++ '=' :: '"' :: (f ++ ['"'])) = none := by
      rw [hsplit, scan_gap_append (by simp) (mem_of_plain (plain_key (by decide))),
        scan_cons_of_step hstep]
      exact hscan
    simp [extendedParams, hline]
  | some v =>
    rw [extendedParams_double h.upper (by decide) hf hv]
    simp [getParam]

theorem shellCall_shellLine {cmd u v : Text} {args : List Text} (hcmd : cmd ∈ shellCommands)
    (hu : '"' ∉ u) (hv : readDouble false u = some v) (hargs : split v = some args) :
    shellCall h (shellLine cmd u) = .ok ⟨cmd, args⟩ := by
  have hplain : plain cmd = true := by
    simp only [shellCommands, List.mem_cons, List.not_mem_nil, or_false] at hcmd
    rcases hcmd with rfl | rfl | rfl | rfl | rfl <;> decide
  have hps : extendedParams h.upper (shellLine cmd u)
      = some [(str "CMD", cmd), (str "PARAMS", v)] := by
    rw [shellLine, extendedParams_plain h.upper (by decide) hplain,
      extendedParams_double h.upper (by decide) hu hv, Option.map_some]
  have hcmdp : getParam [(str "CMD", cmd), (str "PARAMS", v)] (str "CMD") = some cmd := by
    rw [getParam_cons, getParam_cons, if_pos rfl, if_neg (by decide)]
    rfl
  have hparams : getParam [(str "CMD", cmd), (str "PARAMS", v)] (str "PARAMS") = some v := by
    rw [getParam_cons, getParam_cons, if_pos rfl]
    rfl
  have hknown := h.isCommand_shellCommands cmd hcmd
  unfold shellCall
  simp only [hps, hcmdp, hparams, Option.getD_some, hknown, hargs, if_true]

/-- The characters around a quotable name in a double-quoted value. -/
theorem readDouble_around {f u w : Text} (hf : Quotable f) (hu : '\\' ∉ u) (hw : '\\' ∉ w)
    (hne : w ≠ []) : readDouble false (u ++ f ++ w) = some (u ++ f ++ w) := by
  have hlast : (u ++ f ++ w).getLast? ≠ some '\\' := by
    rw [List.getLast?_append_of_ne_nil _ hne]
    intro hl
    exact hw (List.mem_of_getLast? hl)
  refine readDouble_of_noPair ?_ hlast
  unfold NoPair
  rw [List.isChain_append, List.isChain_append]
  refine ⟨⟨noPair_of_not_mem hu, hf.no_pair, ?_⟩, noPair_of_not_mem hw, ?_⟩
  · rintro a ha b - rfl
    exact absurd (List.mem_of_getLast? ha) hu
  · rintro a - b hb - rfl
    exact absurd (List.mem_of_mem_head? hb) hw

theorem shellCall_zexcludeLine {f : Text} (hf : Quotable f) :
    shellCall h (zexcludeLine f) = .ok ⟨str "zexclude", [f]⟩ := by
  rw [zexcludeLine_eq]
  have hv := readDouble_around (u := ['\'']) (w := ['\'']) hf (by decide) (by decide) (by simp)
  refine shellCall_shellLine h (by simp [shellCommands]) ?_ hv (split_single hf.no_single)
  simpa using hf.no_double

theorem shellCall_zpreclearLine {f mode : Text} (hf : Quotable f)
    (hmode : mode = str "TEST" ∨ mode = str "NONE") :
    shellCall h (zpreclearLine mode f) = .ok ⟨str "zpreclear", [f, mode]⟩ := by
  have hb : '\\' ∉ mode ∧ '"' ∉ mode ∧ mode ≠ [] ∧ bare mode = true := by
    rcases hmode with rfl | rfl <;> decide
  obtain ⟨hback, hquote, hne, hbare⟩ := hb
  rw [zpreclearLine_eq]
  have hv := readDouble_around (u := ['\'']) (w := '\'' :: ' ' :: mode) hf (by decide)
    (by simpa using hback) (by simp)
  refine shellCall_shellLine h (by simp [shellCommands]) ?_ hv
    (split_single_bare hf.no_single hne hbare)
  simpa [hquote] using hf.no_double

theorem shellCall_handOver {f w cmd : Text} (hf : Quotable f) (hcmd : cmd ∈ shellCommands)
    (hw : w = str "PRINT" ∨ w = str "M23") :
    shellCall h (shellLine cmd (w ++ ' ' :: '\'' :: (f ++ ['\'']))) = .ok ⟨cmd, [w, f]⟩ := by
  have hb : '\\' ∉ w ∧ '"' ∉ w ∧ w ≠ [] ∧ bare w = true := by
    rcases hw with rfl | rfl <;> decide
  obtain ⟨hback, hquote, hne, hbare⟩ := hb
  have hv := readDouble_around (u := w ++ [' ', '\'']) (w := ['\'']) hf (by simpa using hback)
    (by decide) (by simp)
  have happ : w ++ [' ', '\''] ++ f ++ ['\''] = w ++ ' ' :: '\'' :: (f ++ ['\'']) := by simp
  rw [happ] at hv
  refine shellCall_shellLine h hcmd ?_ hv (split_bare_single hf.no_single hne hbare)
  simpa [hquote] using hf.no_double

/-! ## The sum check -/

theorem escapeSpaces_cons (c : Char) (u : Text) :
    escapeSpaces (c :: u) = (if c = ' ' then ['\\', ' '] else [c]) ++ escapeSpaces u := by
  simp [escapeSpaces]

/-- Escaping spaces is undone by `shlex` outside of quotes. -/
theorem scan_escapeSpaces {u : Text} (hu : Simple u) (tok t : Text) :
    scan (fun _ => false) .word tok (escapeSpaces u ++ t)
      = scan (fun _ => false) .word (tok ++ u) t := by
  induction u generalizing tok with
  | nil => simp [escapeSpaces]
  | cons c cs ih =>
    have hcs : Simple cs := fun d hd => hu d (by simp [hd])
    rw [escapeSpaces_cons, List.append_assoc]
    by_cases hc : c = ' '
    · subst hc
      have h1 : step (fun _ => false) '\\' .word tok = ([], .escWord, tok) := by
        simp [step, isSpace, isQuote]
      have h2 : step (fun _ => false) ' ' .escWord tok = ([], .word, tok ++ [' ']) := by simp [step]
      rw [if_pos rfl, List.cons_append, List.cons_append, List.nil_append, scan_cons_of_step h1,
        scan_cons_of_step h2, ih hcs, List.append_assoc, List.singleton_append]
    · have hplain : isSpecial c = false := by
        rw [Bool.eq_false_iff]
        exact fun hs => hc (hu c (by simp) hs)
      rw [if_neg hc, scan_word_append (u := [c]) (by simpa using hplain), ih hcs, List.append_assoc,
        List.singleton_append]

/-- Every backslash is in front of a space. -/
theorem noPair_escapeSpaces {u w : Text} (hu : '\\' ∉ u) (hw : '\\' ∉ w) :
    NoPair (escapeSpaces u ++ w) := by
  induction u with
  | nil => simpa [escapeSpaces] using noPair_of_not_mem hw
  | cons c cs ih =>
    simp only [List.mem_cons, not_or] at hu
    have hcs := ih hu.2
    rw [escapeSpaces_cons, List.append_assoc]
    split_ifs with hc
    · exact List.IsChain.cons (List.IsChain.cons hcs fun _ _ hsp => absurd hsp (by decide))
        fun d hd _ => by
          obtain rfl : ' ' = d := by simpa using hd
          decide
    · exact List.IsChain.cons hcs fun _ _ hback => absurd hback.symm hu.1

theorem mem_escapeSpaces {c : Char} (hc : c ≠ '\\') {u : Text} (hm : c ∈ escapeSpaces u) : c ∈ u := by
  obtain ⟨d, hd, hm⟩ := List.mem_flatMap.1 hm
  split_ifs at hm with hsp
  · simp only [List.mem_cons, List.not_mem_nil, or_false, hc, false_or] at hm
    rw [hm, ← hsp]
    exact hd
  · rwa [List.mem_singleton.1 hm]

theorem split_escapeSpaces {u w : Text} (hu : Simple u) {c : Char} {cs : Text} (hcons : u = c :: cs)
    (hc : isSpecial c = false) (hne : w ≠ []) (hw : bare w = true) :
    split (escapeSpaces u ++ ' ' :: w) = some [u, w] := by
  have hsp : c ≠ ' ' := by
    rintro rfl
    exact absurd hc (by decide)
  have hcs : Simple cs := fun d hd => hu d (by simp [hcons, hd])
  rw [split, hcons, escapeSpaces_cons, if_neg hsp, List.append_assoc,
    scan_gap_append (by simp) (by simpa using hc), scan_escapeSpaces hcs, scan_word_space,
    scan_gap_bare hne hw]
  rfl

theorem shellCall_checkMd5Shell {f : Text} (hf : Simple f) :
    shellCall h (checkMd5Shell (str "/data/" ++ f) (str "True"))
      = .ok ⟨str "check_md5", [str "/data/" ++ f, str "True"]⟩ := by
  have hdata : Simple (str "/data/" ++ f) := by
    intro c hc hs
    rcases List.mem_append.1 hc with hc | hc
    · exact absurd hs (by
        have hall : (str "/data/").all (fun c => !isSpecial c) = true := by decide
        simpa using List.all_eq_true.1 hall c hc)
    · exact hf c hc hs
  have hnd : '"' ∉ str "/data/" ++ f := hdata.not_mem (by decide) (by decide)
  have hnb : '\\' ∉ str "/data/" ++ f := hdata.not_mem (by decide) (by decide)
  have hread : readDouble false (escapeSpaces (str "/data/" ++ f) ++ ' ' :: str "True")
      = some (escapeSpaces (str "/data/" ++ f) ++ ' ' :: str "True") := by
    refine readDouble_of_noPair (noPair_escapeSpaces hnb (by decide)) ?_
    rw [List.getLast?_append_of_ne_nil _ (by simp)]
    decide
  rw [checkMd5Shell_eq]
  refine shellCall_shellLine h (by simp [shellCommands]) ?_ hread
    (split_escapeSpaces hdata (show _ = '/' :: (str "data/" ++ f) from rfl) (by decide) (by decide)
      (by decide))
  rw [List.mem_append, not_or]
  exact ⟨fun hm => hnd (mem_escapeSpaces (by decide) hm), by decide⟩

theorem extendedParams_checkMd5Line {f : Text} (hf : '\'' ∉ f) :
    extendedParams h.upper (checkMd5Line f)
      = some [(str "DELETE", str "True"), (str "FILENAME", str "/data/" ++ f)] := by
  rw [checkMd5Line_eq, extendedParams_plain h.upper (by decide) (by decide),
    extendedParams_single h.upper (by decide) (by
      rw [List.mem_append, not_or]
      exact ⟨by decide, hf⟩), Option.map_some]

end Host

end PrintFile

import Ff5m.Store.ConfigParser

/-!
# Reading back what was written

A section that was written with plain options is read back as it was: the lines
of the options are neither comments nor section headers nor continuations, and
each is cut at the delimiter that was put there.

* `Lined`: an option with a line of its own; `readOption`: what that line is read as;
* `Plain`: an option that is read back as it was;
* `readLine_lined`, `readLine_lines`: what the lines of options do to a reader;
* `read_lined`: what a section is read as, and when it is refused;
* `read_writeSection`: the round trip of a section;
* `items_writeSection`: its interpolated values are the values.
-/

namespace ConfigParser

open TextTools (Text Line lines unlines)

/-! ## Texts -/

/-- Neither end is a blank. -/
def Trimmed (t : Text) : Prop :=
  (∀ c, t.head? = some c → isSpace c = false) ∧ ∀ c, t.getLast? = some c → isSpace c = false

theorem rstrip_eq_self {t : Text} (h : ∀ c, t.getLast? = some c → isSpace c = false) :
    rstrip t = t := by
  rw [rstrip, List.rdropWhile_eq_self_iff]
  intro hne hlast
  rw [h _ (List.getLast?_eq_some_getLast hne)] at hlast
  exact absurd hlast (by simp)

theorem strip_eq_self {t : Text} (h : Trimmed t) : strip t = t := by
  have hhead : t.dropWhile isSpace = t := by
    cases t with
    | nil => rfl
    | cons c cs => rw [List.dropWhile_cons_of_neg (by simpa using h.1 c rfl)]
  rw [strip, hhead, rstrip_eq_self h.2]

theorem rstrip_append_space {t : Text} {c : Char} (hc : isSpace c = true) :
    rstrip (t ++ [c]) = rstrip t := by
  rw [rstrip, List.rdropWhile_concat_pos _ _ _ hc, rstrip]

theorem strip_cons_space {t : Text} {c : Char} (hc : isSpace c = true) :
    strip (c :: t) = strip t := by
  rw [strip, List.dropWhile_cons_of_pos hc, strip]

theorem strip_sublist (t : Text) : (strip t).Sublist t :=
  (List.rdropWhile_prefix isSpace _).sublist.trans (List.dropWhile_sublist isSpace)

theorem trimmed_strip (t : Text) : Trimmed (strip t) := by
  constructor
  · intro c hc
    obtain ⟨cs, hcs⟩ := List.head?_eq_some_iff.1 hc
    obtain ⟨u, hu⟩ : strip t <+: t.dropWhile isSpace := List.rdropWhile_prefix isSpace _
    have hnot := List.head?_dropWhile_not isSpace t
    rw [← hu, hcs] at hnot
    exact hnot
  · intro c hc
    have hne : strip t ≠ [] := by
      rintro hnil
      rw [hnil] at hc
      cases hc
    rw [List.getLast?_eq_some_getLast hne] at hc
    rw [← Option.some.inj hc, ← Bool.not_eq_true]
    exact List.rdropWhile_last_not isSpace _ hne

theorem strip_ne_nil {t : Text} {c : Char} (hmem : c ∈ t) (hc : isSpace c = false) : strip t ≠ [] := by
  intro hnil
  have hall := List.rdropWhile_eq_nil_iff.1 hnil
  rw [← List.takeWhile_append_dropWhile (p := isSpace) (l := t), List.mem_append] at hmem
  rcases hmem with hmem | hmem
  · rw [List.mem_takeWhile_imp hmem] at hc
    cases hc
  · rw [hall c hmem] at hc
    cases hc

theorem universal_eq_self {t : Text} (h : '\r' ∉ t) : universal t = t := by
  induction t with
  | nil => rfl
  | cons c cs ih =>
    simp only [List.mem_cons, not_or] at h
    rw [universal, ih h.2]
    · exact fun t hc _ => absurd hc.symm h.1
    · exact fun hc => absurd hc.symm h.1

/-! ## Dictionaries -/

section Dict

variable {β : Type}

theorem assign_of_not_mem {d : List (Text × β)} {k : Text} (h : k ∉ d.map Prod.fst) (v : β) :
    assign d k v = d ++ [(k, v)] := by
  induction d with
  | nil => rfl
  | cons e es ih =>
    simp only [List.map_cons, List.mem_cons, not_or] at h
    rw [assign, if_neg (Ne.symm h.1), ih h.2, List.cons_append]

theorem update_append_of_nodup {d e : List (Text × β)} (h : ((d ++ e).map Prod.fst).Nodup) :
    update d e = d ++ e := by
  induction e generalizing d with
  | nil => simp [update]
  | cons p ps ih =>
    have hsplit : d ++ p :: ps = d ++ [p] ++ ps := by simp
    have hnew : p.1 ∉ d.map Prod.fst := by
      rw [List.map_append, List.nodup_append] at h
      intro hm
      exact h.2.2 _ hm _ (by simp) rfl
    have hrest := ih (d := d ++ [p]) (by rwa [← hsplit])
    rw [update, List.foldl_cons, assign_of_not_mem hnew, hsplit, ← hrest]
    rfl

theorem lookup_assign (d : List (Text × β)) (k : Text) (v : β) (l : Text) :
    (assign d k v).lookup l = if l = k then some v else d.lookup l := by
  induction d with
  | nil =>
    by_cases h : l = k
    · simp [assign, h]
    · simp [assign, List.lookup_cons, h, beq_eq_false_iff_ne.2 h]
  | cons e es ih =>
    rw [assign]
    by_cases he : e.1 = k
    · rw [if_pos he, List.lookup_cons, List.lookup_cons, he]
      by_cases h : l = k
      · simp [h]
      · simp [h, beq_eq_false_iff_ne.2 h]
    · rw [if_neg he, List.lookup_cons, List.lookup_cons, ih]
      by_cases h : l = e.1
      · have hk : ¬ l = k := fun hk => he (h.symm.trans hk)
        rw [if_neg hk, h, if_neg he]
      · simp [beq_eq_false_iff_ne.2 h]

theorem mem_assign {d : List (Text × β)} {k : Text} {v : β} {e : Text × β} (h : e ∈ assign d k v) :
    e = (k, v) ∨ e ∈ d := by
  induction d with
  | nil => exact Or.inl (by simpa [assign] using h)
  | cons p ps ih =>
    rw [assign] at h
    split_ifs at h
    · rcases List.mem_cons.1 h with rfl | h
      · exact Or.inl rfl
      · exact Or.inr (by simp [h])
    · rcases List.mem_cons.1 h with rfl | h
      · exact Or.inr (by simp)
      · exact (ih h).imp id fun hm => by simp [hm]

theorem mem_keys_assign {d : List (Text × β)} {k l : Text} {v : β}
    (h : l ∈ (assign d k v).map Prod.fst) : l = k ∨ l ∈ d.map Prod.fst := by
  obtain ⟨e, he, rfl⟩ := List.mem_map.1 h
  rcases mem_assign he with rfl | he
  · exact Or.inl rfl
  · exact Or.inr (List.mem_map_of_mem he)

/-- A dictionary has every key once. -/
theorem nodup_assign {d : List (Text × β)} (h : (d.map Prod.fst).Nodup) (k : Text) (v : β) :
    ((assign d k v).map Prod.fst).Nodup := by
  induction d with
  | nil => simp [assign]
  | cons e es ih =>
    rw [List.map_cons, List.nodup_cons] at h
    rw [assign]
    split_ifs with he
    · rw [List.map_cons, List.nodup_cons]
      exact ⟨he ▸ h.1, h.2⟩
    · rw [List.map_cons, List.nodup_cons]
      refine ⟨fun hm => ?_, ih h.2⟩
      rcases mem_keys_assign hm with hk | hk
      · exact he hk
      · exact h.1 hk

end Dict

/-! ## One line -/

/-- The line of an option. -/
def optionText (e : Text × Text) : Text := e.1 ++ [' ', '=', ' '] ++ e.2

/-- A value that stands on its line as it is. -/
structure PlainValue (v : Text) : Prop where
  ne_nil : v ≠ []
  one_line : '\n' ∉ v ∧ '\r' ∉ v
  trimmed : Trimmed v

/-- A value stands on its line behind other text. -/
theorem plainValue_strip {u v : Text} (hu : '\n' ∉ u ∧ '\r' ∉ u) (hv : PlainValue v) :
    PlainValue (strip (u ++ v)) where
  ne_nil := by
    have hlast := List.getLast?_eq_some_getLast hv.ne_nil
    exact strip_ne_nil (List.mem_append_right _ (List.getLast_mem hv.ne_nil)) (hv.trimmed.2 _ hlast)
  one_line := by
    have hsub := (strip_sublist (u ++ v)).subset
    constructor
    · intro h
      exact (List.mem_append.1 (hsub h)).elim hu.1 hv.one_line.1
    · intro h
      exact (List.mem_append.1 (hsub h)).elim hu.2 hv.one_line.2
  trimmed := trimmed_strip _

/-- An option whose line is neither a header nor a continuation. -/
structure Lined (release : Release) (e : Text × Text) : Prop where
  ne_nil : e.1 ≠ []
  one_line : '\n' ∉ e.1 ∧ '\r' ∉ e.1
  no_blank : ∀ c, e.1.head? = some c → isSpace c = false
  no_section : sectionHeader release (optionText e) = none
  value : PlainValue e.2

/-- There is nothing in front of the delimiter. -/
def nameless (name : Text) : Bool := name.head?.any isDelimiter

/-- What the line of an option is read as: it is cut at its first delimiter. -/
def readOption (optionxform : Text → Text) (e : Text × Text) : Text × Text :=
  (optionxform (rstrip (e.1.takeWhile (!isDelimiter ·))), strip ((optionText e).dropWhile (!isDelimiter ·)).tail)

/-- An option and a value that the file format can hold. -/
structure Plain (release : Release) (optionxform : Text → Text) (e : Text × Text) : Prop where
  stable : optionxform e.1 = e.1
  ne_nil : e.1 ≠ []
  no_delimiter : ∀ c ∈ e.1, isDelimiter c = false
  one_line : '\n' ∉ e.1 ∧ '\r' ∉ e.1
  trimmed : Trimmed e.1
  no_comment : isComment e.1 = false
  no_section : sectionHeader release (optionText e) = none
  value : PlainValue e.2

theorem Plain.lined {release : Release} {optionxform : Text → Text} {e : Text × Text}
    (h : Plain release optionxform e) : Lined release e where
  ne_nil := h.ne_nil
  one_line := h.one_line
  no_blank := h.trimmed.1
  no_section := h.no_section
  value := h.value

theorem head?_optionText {e : Text × Text} (h : e.1 ≠ []) : (optionText e).head? = e.1.head? := by
  cases he : e.1 with
  | nil => exact absurd he h
  | cons c cs => simp [optionText, he]

theorem trimmed_optionText {release : Release} {e : Text × Text} (h : Lined release e) :
    Trimmed (optionText e) := by
  have hv := h.value
  constructor
  · rw [head?_optionText h.ne_nil]
    exact h.no_blank
  · rw [optionText, List.getLast?_append_of_ne_nil _ hv.ne_nil]
    exact hv.trimmed.2

theorem rstrip_takeWhile_optionText (e : Text × Text) :
    rstrip ((optionText e).takeWhile (!isDelimiter ·)) = rstrip (e.1.takeWhile (!isDelimiter ·)) := by
  rw [optionText, List.append_assoc, List.takeWhile_append]
  split_ifs with h
  · have hself : e.1.takeWhile (!isDelimiter ·) = e.1 := (List.takeWhile_prefix _).eq_of_length h
    have hspace : ([' ', '=', ' '] ++ e.2).takeWhile (!isDelimiter ·) = [' '] := by
      simp [isDelimiter]
    rw [hself, hspace, rstrip_append_space (by decide)]
  · rfl

theorem optionLine_optionText (optionxform : Text → Text) (e : Text × Text) :
    optionLine (optionText e)
      = some (rstrip (e.1.takeWhile (!isDelimiter ·)), (readOption optionxform e).2) := by
  have hany : (optionText e).any isDelimiter = true := by
    rw [List.any_eq_true]
    exact ⟨'=', by simp [optionText], by decide⟩
  rw [optionLine, if_pos hany, rstrip_takeWhile_optionText, readOption]

/-- The value that is read ends with the one that was written. -/
theorem plainValue_readOption {release : Release} (optionxform : Text → Text) {e : Text × Text} (h : Lined release e) :
    PlainValue (readOption optionxform e).2 := by
  rw [readOption, optionText, List.append_assoc, List.dropWhile_append]
  have hrest : ([' ', '=', ' '] ++ e.2).dropWhile (!isDelimiter ·) = '=' :: ' ' :: e.2 := by
    simp [isDelimiter]
  have hsub := (List.dropWhile_suffix (!isDelimiter ·) (l := e.1)).subset
  cases hd : e.1.dropWhile (!isDelimiter ·) with
  | nil =>
    rw [List.isEmpty_nil, if_pos rfl, hrest, List.tail_cons]
    exact plainValue_strip (u := [' ']) (by decide) h.value
  | cons c cs =>
    rw [List.isEmpty_cons, if_neg Bool.false_ne_true, List.cons_append, List.tail_cons, ← List.append_assoc]
    refine plainValue_strip ?_ h.value
    rw [hd] at hsub
    have hcs : ∀ x, x ∉ e.1 → x ∉ cs := fun x hx hm => hx (hsub (List.mem_cons_of_mem _ hm))
    simp [hcs _ h.one_line.1, hcs _ h.one_line.2]

theorem Plain.readOption {release : Release} {optionxform : Text → Text} {e : Text × Text}
    (h : Plain release optionxform e) : readOption optionxform e = e := by
  have hpos : ∀ c ∈ e.1, (!isDelimiter c) = true := fun c hc => by rw [h.no_delimiter c hc]; rfl
  have hdrop : (optionText e).dropWhile (!isDelimiter ·) = '=' :: ' ' :: e.2 := by
    rw [optionText, List.append_assoc, List.dropWhile_append_of_pos hpos]
    simp [isDelimiter]
  rw [ConfigParser.readOption, List.takeWhile_eq_self_iff.2 hpos, hdrop, List.tail_cons,
    strip_cons_space (by decide), strip_eq_self h.value.trimmed, rstrip_eq_self h.trimmed.2, h.stable]

theorem Plain.nameless {release : Release} {optionxform : Text → Text} {e : Text × Text}
    (h : Plain release optionxform e) : nameless e.1 = false := by
  obtain ⟨c, cs, he⟩ := List.exists_cons_of_ne_nil h.ne_nil
  rw [ConfigParser.nameless, he]
  exact h.no_delimiter c (by simp [he])

section Read

variable {release : Release} {optionxform : Text → Text}

/-- The line of an option is left out as a comment, or adds an entry, unless it has no name or
there is one already. -/
theorem readLine_lined {r : Reader} {sect : Text} {e : Text × Text} (h : Lined release e)
    (hcur : r.cur = some sect) :
    readLine release optionxform r (optionText e)
      = if isComment e.1 then some r
        else if nameless e.1 then none
        else if ∃ f ∈ r.entries, f.sect = sect ∧ f.option = (readOption optionxform e).1 then none
        else some { r with
          entries := ⟨sect, (readOption optionxform e).1, [(readOption optionxform e).2]⟩ :: r.entries
          inOption := true
          indent := 0 } := by
  have hstrip := strip_eq_self (trimmed_optionText h)
  have hcomment : isComment (optionText e) = isComment e.1 := by
    rw [isComment, head?_optionText h.ne_nil, isComment]
  have hne : optionText e ≠ [] := by simp [optionText]
  obtain ⟨c, cs, he⟩ := List.exists_cons_of_ne_nil h.ne_nil
  have hspace : isSpace c = false := h.no_blank c (by rw [he]; rfl)
  have hdepth : (optionText e).takeWhile isSpace = [] := by
    rw [optionText, he, List.cons_append, List.cons_append, List.takeWhile_cons_of_neg (by simp [hspace])]
  have hnil : rstrip (e.1.takeWhile (!isDelimiter ·)) = [] ↔ nameless e.1 = true := by
    have hname : nameless e.1 = isDelimiter c := by rw [nameless, he]; rfl
    rw [hname, he]
    cases hc : isDelimiter c with
    | true => simp [hc, rstrip]
    | false =>
      rw [List.takeWhile_cons_of_pos (by simp [hc])]
      refine iff_of_false (fun hnil => ?_) Bool.false_ne_true
      have hall := List.rdropWhile_eq_nil_iff.1 hnil c (by simp)
      rw [hspace] at hall
      cases hall
  have hread : optionxform (rstrip (rstrip (e.1.takeWhile (!isDelimiter ·)))) = (readOption optionxform e).1 := by
    rw [readOption, rstrip, rstrip, List.rdropWhile_idempotent]
  unfold readLine
  simp only [hstrip, hcomment, hdepth, hne, h.no_section, hcur, optionLine_optionText optionxform, hnil,
    hread, List.length_nil, Nat.not_lt_zero, and_false, if_false, List.any_eq_true, decide_eq_true_eq]

/-- The releases agree on a name without a bracket that closes. -/
theorem sectionHeader_bracket (release : Release) {name : Text} (hne : name ≠ []) (hclose : ']' ∉ name) :
    sectionHeader release ('[' :: name ++ [']']) = some name := by
  cases release with
  | py37 =>
    have htake : (name ++ [']']).takeWhile (· ≠ ']') = name := by
      rw [List.takeWhile_append_of_pos, List.takeWhile_cons_of_neg (by simp), List.append_nil]
      intro c hc
      rw [decide_eq_true_eq]
      rintro rfl
      exact hclose hc
    rw [List.cons_append, sectionHeader]
    simp only [htake, List.mem_append, List.mem_singleton, or_true, if_true, hne, if_false]
  | py311 =>
    have hlast : ((name ++ [']']).rdropWhile (· ≠ ']')).dropLast = name := by
      rw [List.rdropWhile_concat_neg _ _ _ (by simp), List.dropLast_concat]
    rw [List.cons_append, sectionHeader]
    simp only [hlast, hne, if_false]

/-- The header of a new section opens it. -/
theorem readLine_header {r : Reader} {name : Text} (hne : name ≠ []) (hclose : ']' ∉ name)
    (hnew : name ∉ r.sections) (hin : r.inOption = false) :
    readLine release optionxform r ('[' :: name ++ [']'])
      = some { r with
          sections := if name = defaultSection then r.sections else r.sections ++ [name]
          cur := some name
          inOption := false
          indent := 0 } := by
  have htrim : Trimmed ('[' :: name ++ [']']) := by
    constructor
    · intro c hc
      obtain rfl : '[' = c := by simpa using hc
      decide
    · intro c hc
      rw [List.getLast?_append_of_ne_nil _ (by simp)] at hc
      obtain rfl : ']' = c := by simpa using hc
      decide
  have hheader := sectionHeader_bracket release hne hclose
  have hdepth : ('[' :: name ++ [']']).takeWhile isSpace = [] := by
    rw [List.cons_append, List.takeWhile_cons_of_neg (by decide)]
  have hcomment : isComment ('[' :: name ++ [']']) = false := by
    simp [isComment]
  have hnil : ¬ ('[' :: name ++ [']'] = []) := by simp
  unfold readLine
  simp only [strip_eq_self htrim, hcomment, hdepth, hnil, hheader, hin, hnew, List.length_nil,
    Bool.false_eq_true, false_and, if_false]

theorem readLine_blank (r : Reader) :
    readLine release optionxform r [] = some (if r.inOption then r.continueWith [] else r) := by
  have hstrip : strip [] = [] := rfl
  have hcomment : isComment [] = false := rfl
  unfold readLine
  simp only [hstrip, hcomment, Bool.false_eq_true, if_false, if_true]

/-- What the options of a section that are no comments are read as. -/
def readOptions (optionxform : Text → Text) (d : List (Text × Text)) : List (Text × Text) :=
  (d.filter fun e => !isComment e.1).map (readOption optionxform)

theorem readOptions_cons (e : Text × Text) (d : List (Text × Text)) :
    readOptions optionxform (e :: d) = if isComment e.1 then readOptions optionxform d
      else readOption optionxform e :: readOptions optionxform d := by
  unfold readOptions
  by_cases hc : isComment e.1 = true
  · rw [if_pos hc, List.filter_cons_of_neg (by simp [hc])]
  · rw [if_neg hc, List.filter_cons_of_pos (by simpa using hc), List.map_cons]

theorem readOptions_plain {d : List (Text × Text)} (h : ∀ e ∈ d, Plain release optionxform e) :
    readOptions optionxform d = d := by
  have hall : d.filter (fun e => !isComment e.1) = d := by
    rw [List.filter_eq_self]
    intro e he
    rw [(h e he).no_comment]
    rfl
  rw [readOptions, hall]
  conv_rhs => rw [← List.map_id d]
  exact List.map_congr_left fun e he => by rw [(h e he).readOption, id]

theorem not_nameless_of_isComment {name : Text} (h : isComment name = true) : nameless name = false := by
  cases name with
  | nil => rfl
  | cons c cs =>
    obtain rfl | rfl : c = '#' ∨ c = ';' := by simpa [isComment] using h
    all_goals rfl

/-- The lines of options add their entries, unless one has no name or two are read under the
same. -/
theorem readLine_lines {sect : Text} {d : List (Text × Text)} (h : ∀ e ∈ d, Lined release e) {r : Reader}
    (hcur : r.cur = some sect) (hindent : r.indent = 0) :
    (d.map optionText).foldlM (readLine release optionxform) r
      = if (∀ e ∈ d, nameless e.1 = false) ∧ ((readOptions optionxform d).map Prod.fst).Nodup ∧
          ∀ f ∈ r.entries, f.sect = sect → f.option ∉ (readOptions optionxform d).map Prod.fst then
        some { r with
          entries := ((readOptions optionxform d).map fun e => ⟨sect, e.1, [e.2]⟩).reverse ++ r.entries
          inOption := r.inOption || !(readOptions optionxform d).isEmpty }
        else none := by
  induction d generalizing r with
  | nil => simp [readOptions]
  | cons e es ih =>
    have hes : ∀ f ∈ es, Lined release f := fun f hf => h f (by simp [hf])
    rw [List.map_cons, List.foldlM_cons, readLine_lined (h e (by simp)) hcur, readOptions_cons]
    by_cases hc : isComment e.1 = true
    · rw [if_pos hc, if_pos hc, Option.bind_eq_bind, Option.bind_some, ih hes hcur hindent]
      exact if_congr (by simp [not_nameless_of_isComment hc]) rfl rfl
    rw [if_neg hc, if_neg hc]
    by_cases hnameless : nameless e.1 = true
    · have hnot : ¬ ∀ f ∈ e :: es, nameless f.1 = false := fun hall => by
        rw [hall e (by simp)] at hnameless
        cases hnameless
      rw [if_pos hnameless, if_neg fun hall => hnot hall.1]
      rfl
    rw [if_neg hnameless]
    by_cases hdup : ∃ f ∈ r.entries, f.sect = sect ∧ f.option = (readOption optionxform e).1
    · obtain ⟨f, hf, hsect, hname⟩ := hdup
      rw [if_pos ⟨f, hf, hsect, hname⟩, if_neg]
      · rfl
      · rintro ⟨-, -, hnew⟩
        exact hnew f hf hsect (by simp [hname])
    rw [if_neg hdup, Option.bind_eq_bind, Option.bind_some, ih hes (by exact hcur) rfl]
    have hiff : ((∀ f ∈ es, nameless f.1 = false) ∧ ((readOptions optionxform es).map Prod.fst).Nodup ∧
        ∀ f ∈ (⟨sect, (readOption optionxform e).1, [(readOption optionxform e).2]⟩ : Entry) :: r.entries,
          f.sect = sect → f.option ∉ (readOptions optionxform es).map Prod.fst) ↔
        (∀ f ∈ e :: es, nameless f.1 = false) ∧
        ((readOption optionxform e :: readOptions optionxform es).map Prod.fst).Nodup ∧
        ∀ f ∈ r.entries, f.sect = sect →
          f.option ∉ (readOption optionxform e :: readOptions optionxform es).map Prod.fst := by
      rw [List.map_cons, List.nodup_cons, List.forall_mem_cons, List.forall_mem_cons]
      constructor
      · rintro ⟨hnamed, hnodup, hhead, hrest⟩
        refine ⟨⟨by simpa using hnameless, hnamed⟩, ⟨hhead rfl, hnodup⟩, fun f hf hsect => ?_⟩
        rw [List.mem_cons, not_or]
        exact ⟨fun hname => hdup ⟨f, hf, hsect, hname⟩, hrest f hf hsect⟩
      · rintro ⟨⟨-, hnamed⟩, ⟨hhead, hnodup⟩, hrest⟩
        refine ⟨hnamed, hnodup, fun _ => hhead, fun f hf hsect => ?_⟩
        have hnot := hrest f hf hsect
        rw [List.mem_cons, not_or] at hnot
        exact hnot.2
    rw [if_congr hiff rfl rfl]
    simp [hindent]

/-! ## The whole file -/

theorem joinBody_single {v : Text} (h : PlainValue v) : joinBody [v] = v := by
  rw [joinBody, List.intercalate_singleton, rstrip_eq_self h.trimmed.2]

theorem joinBody_blank {v : Text} (h : PlainValue v) : joinBody [v, []] = v := by
  have hjoin : ['\n'].intercalate [v, []] = v ++ ['\n'] := by simp [List.intercalate]
  rw [joinBody, hjoin, rstrip_append_space (by decide), rstrip_eq_self h.trimmed.2]

/-- A blank line at the end changes no value. -/
theorem finish_blank {r : Reader} (h : ∀ f ∈ r.entries, ∃ v, f.body = [v] ∧ PlainValue v) :
    (r.continueWith []).finish = r.finish := by
  unfold Reader.continueWith
  cases hr : r.entries with
  | nil => rfl
  | cons f fs =>
    obtain ⟨v, hbody, hv⟩ := h f (by simp [hr])
    have hlast : joinBody (f.body ++ [[]]) = joinBody f.body := by
      rw [hbody, List.singleton_append, joinBody_blank hv, joinBody_single hv]
    simp only [Reader.finish, hr, List.reverse_cons, List.map_append, List.map_cons, List.map_nil,
      hlast]

theorem writeOption_eq {e : Text × Text} (h : '\n' ∉ e.2) : writeOption e = optionText e ++ ['\n'] := by
  have hflat : (e.2.flatMap fun c => if c = '\n' then ['\n', '\t'] else [c]) = e.2 := by
    have hkeep : ∀ c ∈ e.2, (if c = '\n' then ['\n', '\t'] else [c]) = [c] := fun c hc =>
      if_neg fun hnl : c = '\n' => h (by rwa [← hnl])
    rw [List.flatMap_congr hkeep, List.flatMap_singleton']
  rw [writeOption, hflat, optionText]

/-- A section with plain options, line by line. -/
theorem writeSection_eq {name : Text} {d : List (Text × Text)} (h : ∀ e ∈ d, '\n' ∉ e.2) :
    writeSection name d = unlines (('[' :: name ++ [']']) :: (d.map optionText ++ [[]])) := by
  have hbody : d.flatMap writeOption = unlines (d.map optionText) := by
    induction d with
    | nil => rfl
    | cons e es ih =>
      rw [List.flatMap_cons, writeOption_eq (h e (by simp)), ih fun f hf => h f (by simp [hf])]
      simp
  rw [writeSection, hbody]
  simp

/-- A section with a line for each option is read as these options, and refused if one has no
name or two are read under the same. -/
theorem read_lined {name : Text} (hname : name ≠ []) (hclose : ']' ∉ name)
    (hline : '\n' ∉ name ∧ '\r' ∉ name) {d : List (Text × Text)} (h : ∀ e ∈ d, Lined release e) :
    read release optionxform (writeSection name d)
      = if (∀ e ∈ d, nameless e.1 = false) ∧ ((readOptions optionxform d).map Prod.fst).Nodup then
          some ⟨if name = defaultSection then [] else [name],
            (readOptions optionxform d).map fun e => (name, e.1, e.2)⟩
        else none := by
  have hlines : ∀ l ∈ ('[' :: name ++ [']']) :: (d.map optionText ++ [[]]), '\n' ∉ l ∧ '\r' ∉ l := by
    intro l hl
    rcases List.mem_cons.1 hl with rfl | hl
    · simp [hline]
    · rcases List.mem_append.1 hl with hl | hl
      · obtain ⟨e, he, rfl⟩ := List.mem_map.1 hl
        simp [optionText, (h e he).one_line, (h e he).value.one_line]
      · rw [List.mem_singleton.1 hl]
        simp
  have hwrite := @writeSection_eq name d fun e he => (h e he).value.one_line.1
  have hcr : '\r' ∉ writeSection name d := by
    rw [hwrite, TextTools.unlines]
    intro hm
    obtain ⟨l, hl, hm⟩ := List.mem_flatMap.1 hm
    simp [(hlines l hl).2] at hm
  have hcut : lines (universal (writeSection name d))
      = ('[' :: name ++ [']']) :: (d.map optionText ++ [[]]) := by
    rw [universal_eq_self hcr, hwrite, TextTools.lines_unlines fun l hl => (hlines l hl).1]
  have hheader := @readLine_header release optionxform Reader.start name hname hclose
    (by simp [Reader.start]) rfl
  have hvalues : ∀ e ∈ readOptions optionxform d, PlainValue e.2 := by
    intro e he
    obtain ⟨f, hf, rfl⟩ := List.mem_map.1 he
    exact plainValue_readOption optionxform (h f (List.mem_filter.1 hf).1)
  have hoptions := @readLine_lines release optionxform name d h { Reader.start with
    sections := if name = defaultSection then [] else [name]
    cur := some name } rfl rfl
  simp only [Reader.start, List.append_nil, Bool.false_or, List.not_mem_nil, false_imp_iff,
    implies_true, and_true, List.nil_append] at hheader hoptions
  set o := readOptions optionxform d
  rw [read, hcut, List.foldlM_cons]
  simp only [Reader.start]
  rw [hheader, Option.bind_eq_bind, Option.bind_some, List.foldlM_append, hoptions]
  by_cases hread : (∀ e ∈ d, nameless e.1 = false) ∧ (o.map Prod.fst).Nodup
  swap
  · rw [if_neg hread, if_neg hread]
    rfl
  rw [if_pos hread, if_pos hread, Option.bind_eq_bind, Option.bind_some, List.foldlM_cons, readLine_blank]
  simp only [Option.bind_eq_bind, Option.bind_some, List.foldlM_nil, Option.pure_def, Option.map_some]
  -- the blank line at the end changes no value
  set r : Reader := ⟨if name = defaultSection then [] else [name],
    (o.map fun e => ⟨name, e.1, [e.2]⟩).reverse, some name, !o.isEmpty, 0⟩ with hr
  have hfinish : (if !o.isEmpty then r.continueWith [] else r).finish = r.finish := by
    split_ifs
    · refine finish_blank fun f hf => ?_
      obtain ⟨e, he, rfl⟩ := List.mem_map.1 (List.mem_reverse.1 hf)
      exact ⟨e.2, rfl, hvalues e he⟩
    · rfl
  rw [hfinish, Reader.finish, hr]
  simp only [List.reverse_reverse, List.map_map, Option.some.injEq, Config.mk.injEq, true_and]
  exact List.map_congr_left fun e he => by simp [joinBody_single (hvalues e he)]

/-- A section is read back as it was written. -/
theorem read_writeSection {name : Text} (hname : name ≠ []) (hclose : ']' ∉ name)
    (hline : '\n' ∉ name ∧ '\r' ∉ name) {d : List (Text × Text)} (h : ∀ e ∈ d, Plain release optionxform e)
    (hnodup : (d.map Prod.fst).Nodup) :
    read release optionxform (writeSection name d)
      = some ⟨if name = defaultSection then [] else [name], d.map fun e => (name, e.1, e.2)⟩ := by
  rw [read_lined hname hclose hline fun e he => (h e he).lined, readOptions_plain h,
    if_pos ⟨fun e he => (h e he).nameless, hnodup⟩]

/-! ## The values -/

theorem pieces_of_no_percent {t : Text} (h : '%' ∉ t) :
    pieces .text t = some (t.map .char) := by
  induction t with
  | nil => rfl
  | cons c cs ih =>
    simp only [List.mem_cons, not_or] at h
    rw [pieces, if_neg (Ne.symm h.1), ih h.2]
    rfl

/-- The part of a value in front of its first reference is kept. -/
theorem pieces_append_of_no_percent {q : Text} (h : '%' ∉ q) (t : Text) :
    pieces .text (q ++ t) = (pieces .text t).map (q.map .char ++ ·) := by
  induction q with
  | nil => simp
  | cons c cs ih =>
    simp only [List.mem_cons, not_or] at h
    rw [List.cons_append, pieces, if_neg (Ne.symm h.1), ih h.2, Option.map_map]
    rfl

/-- Characters stand for themselves. -/
theorem mapM_pieceText_char (d : List (Text × Text)) (inner : Text → Option Text) (t : Text) :
    (t.map Piece.char).mapM (pieceText optionxform d inner) = some (t.map fun c => [c]) := by
  induction t with
  | nil => rfl
  | cons c cs ih =>
    rw [List.map_cons, List.mapM_cons, ih]
    rfl

theorem flatten_map_singleton (t : Text) : (t.map fun c => [c]).flatten = t := by
  rw [← List.flatMap_def, List.flatMap_singleton']

/-- A value without `%` is its own interpolation. -/
theorem interpolate_of_no_percent {t : Text} (h : '%' ∉ t) (d : List (Text × Text)) (n : ℕ) :
    interpolate optionxform d (n + 1) t = some t := by
  rw [interpolate, pieces_of_no_percent h, Option.bind_some, mapM_pieceText_char, Option.map_some,
    flatten_map_singleton]

/-- An interpolation begins as its value does. -/
theorem prefix_of_interpolate {q t u : Text} (h : '%' ∉ q) {d : List (Text × Text)} {n : ℕ}
    (hu : interpolate optionxform d (n + 1) (q ++ t) = some u) : q <+: u := by
  rw [interpolate, pieces_append_of_no_percent h] at hu
  obtain ⟨ps, hps, hu⟩ := Option.bind_eq_some_iff.1 hu
  obtain ⟨rest, -, rfl⟩ := Option.map_eq_some_iff.1 hps
  obtain ⟨us, hus, rfl⟩ := Option.map_eq_some_iff.1 hu
  rw [List.mapM_append, mapM_pieceText_char, Option.bind_eq_bind, Option.bind_some] at hus
  obtain ⟨vs, -, hvs⟩ := Option.bind_eq_some_iff.1 hus
  obtain rfl : (q.map fun c => [c]) ++ vs = us := Option.some.inj hvs
  rw [List.flatten_append, flatten_map_singleton]
  exact List.prefix_append q _

theorem mapM_values {d : List (Text × Text)} {f : Text → Option Text} (h : ∀ e ∈ d, f e.2 = some e.2) :
    (d.mapM fun e => (f e.2).map (e.1, ·)) = some d := by
  induction d with
  | nil => rfl
  | cons e es ih =>
    rw [List.mapM_cons, h e (by simp), ih fun f hf => h f (by simp [hf])]
    rfl

/-- The items of a section that was read back are the interpolations of what was
written. -/
theorem items_eq {name : Text} (hname : name ≠ defaultSection) {d : List (Text × Text)}
    (hnodup : (d.map Prod.fst).Nodup) (sections : List Text) :
    items optionxform ⟨sections, d.map fun e => (name, e.1, e.2)⟩ name
      = d.mapM fun e => (interpolate optionxform d maxDepth e.2).map (e.1, ·) := by
  have hsect : (Config.mk sections (d.map fun e => (name, e.1, e.2))).options name = d := by
    have hall : (d.map fun e => (name, e.1, e.2)).filter (fun e => e.1 = name)
        = d.map fun e => (name, e.1, e.2) := by
      rw [List.filter_eq_self]
      intro e he
      obtain ⟨f, -, rfl⟩ := List.mem_map.1 he
      simp
    rw [Config.options, hall, List.map_map]
    exact List.map_id' d
  have hdefault : (Config.mk sections (d.map fun e => (name, e.1, e.2))).options defaultSection = [] := by
    rw [Config.options, List.map_eq_nil_iff, List.filter_eq_nil_iff]
    intro e he
    obtain ⟨f, -, rfl⟩ := List.mem_map.1 he
    simpa using hname
  rw [items, hsect, hdefault, List.nil_append, update_append_of_nodup (by simpa using hnodup),
    List.nil_append]

/-- The items of a section without `%` are what was written. -/
theorem items_writeSection {name : Text} (hname : name ≠ defaultSection) {d : List (Text × Text)}
    (hnodup : (d.map Prod.fst).Nodup) (hv : ∀ e ∈ d, '%' ∉ e.2) (sections : List Text) :
    items optionxform ⟨sections, d.map fun e => (name, e.1, e.2)⟩ name = some d := by
  rw [items_eq hname hnodup]
  exact mapM_values fun e he => interpolate_of_no_percent (hv e he) _ _

/-! ## Setting -/

theorem removePairs_of_no_percent {t : Text} (h : '%' ∉ t) : removePairs t = t := by
  induction t with
  | nil => rfl
  | cons c cs ih =>
    simp only [List.mem_cons, not_or] at h
    rw [removePairs, ih h.2]
    exact fun t hc _ => absurd hc.symm h.1

theorem removeKeys_subset {n : ℕ} {t : Text} {c : Char} (h : c ∈ removeKeys n t) : c ∈ t := by
  induction t generalizing n with
  | nil => simp [removeKeys] at h
  | cons d ds ih =>
    cases n with
    | succ n => exact List.mem_cons_of_mem _ (ih (by simpa [removeKeys] using h))
    | zero =>
      rw [removeKeys] at h
      cases hk : keyMatch (d :: ds) with
      | some len =>
        simp only [hk] at h
        exact List.mem_cons_of_mem _ (ih h)
      | none =>
        simp only [hk] at h
        rcases List.mem_cons.1 h with rfl | h
        · simp
        · exact List.mem_cons_of_mem _ (ih h)

/-- Every `%` is part of a `%%` or of a reference `%(…)s`. -/
def Settable (value : Text) : Prop := '%' ∉ removeKeys 0 (removePairs value)

instance (value : Text) : Decidable (Settable value) := inferInstanceAs (Decidable (¬ _))

theorem settable_of_no_percent {value : Text} (h : '%' ∉ value) : Settable value := by
  unfold Settable
  rw [removePairs_of_no_percent h]
  exact fun hm => h (removeKeys_subset hm)

theorem set_eq_ite (d : List (Text × Text)) (k value : Text) :
    set optionxform d k value
      = if Settable value then some (assign d (optionxform k) value) else none := by
  by_cases h : Settable value
  · rw [if_pos h]
    exact if_neg h
  · rw [if_neg h]
    exact if_pos (not_not.1 h)

end Read

end ConfigParser

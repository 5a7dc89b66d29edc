import Ff5m.Store.SharedFile

/-!
# Settings read as text

The scripts and Moonraker do not parse the variables file.  They look for the
words `name = digit` anywhere in it, while Klipper reads the same file with
`ConfigParser`.

* `settingTests`: the words that are looked for;
* `grepQ_words_iff`: where they occur in a written file;
* `agrees_iff`: a test agrees with the parsed variable exactly when the variable
  has that value, or no line of the file quotes the words.
-/

namespace SaveVariables

open TextTools (Text str lit grepQ occurs unlines suffix_of_suffix_append)
open ConfigParser

/-! ## The tests -/

/-- A test on the text of the file: a variable and the digit it is compared to. -/
structure SettingTest where
  name : String
  digit : Fin 10
  deriving DecidableEq

/-- What `grep -q` and `re.search` look for. -/
def SettingTest.words (t : SettingTest) : String := t.name ++ " = " ++ Nat.repr t.digit

/-- The tests of `fix_config.sh`, `start.sh`, `stop.sh`, `prepare.sh`, `zdisplay.sh`, the
shaper scripts and `klippy_apis.py`. -/
def settingTests : List SettingTest :=
  [⟨"display_off", 0⟩, ⟨"display_off", 1⟩, ⟨"motion_sensor", 1⟩, ⟨"use_swap", 0⟩, ⟨"use_swap", 2⟩,
    ⟨"klipper12", 1⟩, ⟨"print_leveling", 1⟩, ⟨"save_restore", 0⟩, ⟨"china_cloud", 1⟩,
    ⟨"fix_scv", 1⟩, ⟨"guppy", 1⟩]

/-- The test succeeds on the text. -/
def SettingTest.passes (t : SettingTest) (disk : Text) : Prop := grepQ (lit t.words) disk = true

/-! ## Texts -/

/-- The words occur in the line of an option at its `=`, or inside its value. -/
theorem infix_optionText_iff {n d k r : Text} (hn : n ≠ []) (hspace : ' ' ∉ n) (heq : '=' ∉ n)
    (hk : '=' ∉ k) :
    n ++ [' ', '=', ' '] ++ d <:+: optionText (k, r)
      ↔ (n <:+ k ∧ d <+: r) ∨ n ++ [' ', '=', ' '] ++ d <:+: r := by
  constructor
  · rintro ⟨u, v, h⟩
    have hword : '=' ∉ n ++ [' '] := by simp [heq]
    have hname : '=' ∉ k ++ [' '] := by simp [hk]
    have hline : (u ++ (n ++ [' '])) ++ '=' :: (' ' :: d ++ v) = (k ++ [' ']) ++ '=' :: (' ' :: r) := by
      simpa [optionText] using h
    have haligned : u ++ (n ++ [' ']) = k ++ [' '] → ' ' :: d ++ v = ' ' :: r →
        n <:+ k ∧ d <+: r := by
      intro hleft hright
      rw [← List.append_assoc] at hleft
      exact ⟨⟨u, List.append_cancel_right hleft⟩, ⟨v, (List.cons.inj hright).2⟩⟩
    rcases List.append_eq_append_iff.1 hline with ⟨a, ha, hb⟩ | ⟨a, ha, hb⟩
    · -- the name reaches beyond the `=` of the words
      cases a with
      | nil =>
        rw [List.append_nil] at ha
        exact Or.inl (haligned ha.symm (List.cons.inj hb).2)
      | cons c cs =>
        have hc : '=' = c := (List.cons.inj hb).1
        refine absurd ?_ hname
        rw [ha, ← hc]
        simp
    · cases a with
      | nil =>
        rw [List.append_nil] at ha
        exact Or.inl (haligned ha (List.cons.inj hb).2.symm)
      | cons c cs =>
        -- the words stand behind the `=` of the line, hence in the value
        obtain ⟨hc, hcs⟩ := List.cons.inj hb
        have hsuffix : n ++ [' '] <:+ cs := by
          refine suffix_of_suffix_append (k := k ++ [' ']) hword ⟨u, ?_⟩
          rw [ha, hc]
        obtain ⟨w, rfl⟩ := hsuffix
        cases w with
        | nil =>
          obtain ⟨x, xs, rfl⟩ := List.exists_cons_of_ne_nil hn
          have hx : ' ' = x := by simpa using (List.cons.inj hcs).1
          exact absurd (List.mem_cons.2 (Or.inl hx)) hspace
        | cons b bs =>
          refine Or.inr ⟨bs, v, ?_⟩
          rw [(List.cons.inj hcs).2]
          simp
  · rintro (⟨⟨u, rfl⟩, ⟨v, rfl⟩⟩ | h)
    · exact ⟨u, v, by simp [optionText]⟩
    · have hvalue : r <:+ optionText (k, r) := ⟨k ++ [' ', '=', ' '], by simp [optionText]⟩
      exact h.trans hvalue.isInfix

/-! ## Written files -/

section Written

variable {V : Type} {py : Python V} (dg : Digits py)

/-- A variable with a line of its own, whose text Python reads back. -/
structure Written (py : Python V) (e : Text × V) : Prop where
  plain : Plain py.release py.lower (e.1, py.repr e.2)
  reads_back : py.literalEval (py.repr e.2) = .ok e.2

/-- A map that takes a line for each variable. -/
structure Legible (py : Python V) (m : List (Text × V)) : Prop where
  nodup : (m.map Prod.fst).Nodup
  written : ∀ e ∈ m, Written py e

theorem Writable.legible {m : List (Text × V)} (h : Writable py m) : Legible py m where
  nodup := h.nodup
  written e he := ⟨(h.storable e he).plain, (h.storable e he).reads_back⟩

/-- A value with a percent sign in its text has a string around it, and nothing
that begins like this text up to there is a number. -/
def StringsQuoted : Prop :=
  ∀ v, '%' ∈ py.repr v → ∃ q, q <+: py.repr v ∧ '%' ∉ q ∧
    ∀ t, q <+: t → ∀ d, py.literalEval t ≠ .ok (dg.ofDigit d)

/-- The entry writes the words of the test: as a variable whose name ends with the
setting's and whose value begins with the digit, or inside its value. -/
def Quotes (py : Python V) (t : SettingTest) (e : Text × V) : Prop :=
  (str t.name <:+ e.1 ∧ digitText t.digit <+: py.repr e.2) ∨ str t.words <:+: py.repr e.2

/-- Every tested name is a word. -/
theorem name_of_mem_settingTests {t : SettingTest} (ht : t ∈ settingTests) :
    str t.name ≠ [] ∧ ' ' ∉ str t.name ∧ '=' ∉ str t.name := by
  revert t
  decide

theorem str_words (t : SettingTest) :
    str t.words = str t.name ++ [' ', '=', ' '] ++ digitText t.digit := by
  simp only [SettingTest.words, str, String.toList_append, digitText]
  rfl

/-- The text of a map, whether or not it can be loaded. -/
theorem text_of_render {m : List (Text × V)} (h : Legible py m) {text : Text} (hrender : render py m = some text) :
    text = writeSection variablesSection (optionsOf py (sortVariables m)) := by
  rw [render_eq_ite] at hrender
  split_ifs at hrender
  rw [← Option.some.inj hrender, lowered_eq (fun e he => (h.written e he).plain.stable) h.nodup]

/-- Where a test succeeds on a written file. -/
theorem passes_iff {t : SettingTest} (ht : t ∈ settingTests) {m : List (Text × V)}
    (h : Legible py m) {text : Text}
    (hrender : render py m = some text) : t.passes text ↔ ∃ e ∈ m, Quotes py t e := by
  have hone : ∀ e ∈ optionsOf py (sortVariables m), '\n' ∉ e.1 ∧ '\n' ∉ e.2 ∧ '=' ∉ e.1 := by
    intro e he
    obtain ⟨f, hf, rfl⟩ := List.mem_map.1 he
    have hplain := (h.written f ((perm_sortVariables m).mem_iff.1 hf)).plain
    refine ⟨hplain.one_line.1, hplain.value.one_line.1, fun hdelim => ?_⟩
    exact absurd (hplain.no_delimiter _ hdelim) (by decide)
  have hlines : ∀ l ∈ ('[' :: variablesSection ++ [']']) ::
      ((optionsOf py (sortVariables m)).map optionText ++ [[]]), '\n' ∉ l := by
    intro l hl
    rcases List.mem_cons.1 hl with rfl | hl
    · decide
    · rcases List.mem_append.1 hl with hl | hl
      · obtain ⟨e, he, rfl⟩ := List.mem_map.1 hl
        simp [optionText, hone e he]
      · rw [List.mem_singleton.1 hl]
        simp
  obtain ⟨hne, hspace, heq⟩ := name_of_mem_settingTests ht
  -- the header and the blank line have no `=`
  have hdelim : ∀ l : Text, '=' ∉ l → ¬ str t.words <:+: l := fun l hl hw =>
    hl (hw.subset (by rw [str_words]; simp))
  rw [SettingTest.passes, text_of_render h hrender, writeSection_eq fun e he => (hone e he).2.1,
    grepQ, TextTools.lines_unlines hlines, List.any_eq_true]
  constructor
  · rintro ⟨l, hl, hw⟩
    have hw : str t.words <:+: l := TextTools.occurs_lit_iff.1 hw
    rcases List.mem_cons.1 hl with rfl | hl
    · exact absurd hw (hdelim _ (by decide))
    · rcases List.mem_append.1 hl with hl | hl
      · obtain ⟨e, he, rfl⟩ := List.mem_map.1 hl
        obtain ⟨f, hf, rfl⟩ := List.mem_map.1 he
        rw [str_words, infix_optionText_iff hne hspace heq (hone _ he).2.2, ← str_words] at hw
        exact ⟨f, (perm_sortVariables m).mem_iff.1 hf, hw⟩
      · rw [List.mem_singleton.1 hl] at hw
        exact absurd hw (hdelim _ (by simp))
  · rintro ⟨e, he, hq⟩
    have hmem : (e.1, py.repr e.2) ∈ optionsOf py (sortVariables m) :=
      List.mem_map.2 ⟨e, (perm_sortVariables m).mem_iff.2 he, rfl⟩
    refine ⟨optionText (e.1, py.repr e.2), ?_, TextTools.occurs_lit_iff.2 ?_⟩
    · exact List.mem_cons_of_mem _ (List.mem_append_left _ (List.mem_map_of_mem hmem))
    · show str t.words <:+: _
      rw [str_words, infix_optionText_iff hne hspace heq (hone _ hmem).2.2, ← str_words]
      exact hq

/-! ## Loaded files -/

theorem mem_of_mapM {β γ : Type} {d : List (Text × β)} {f : β → Option γ} {m : List (Text × γ)}
    (h : (d.mapM fun e => (f e.2).map (e.1, ·)) = some m) (k : Text) (w : γ) :
    (k, w) ∈ m ↔ ∃ v, (k, v) ∈ d ∧ f v = some w := by
  induction d generalizing m with
  | nil =>
    obtain rfl : m = [] := by simpa using h.symm
    simp
  | cons e es ih =>
    simp only [List.mapM_cons, Option.bind_eq_bind, Option.bind_eq_some_iff] at h
    obtain ⟨p, hp, ps, hps, hm⟩ := h
    obtain rfl : p :: ps = m := by simpa using hm
    obtain ⟨v, hv, rfl⟩ := Option.map_eq_some_iff.1 hp
    rw [List.mem_cons, ih hps]
    constructor
    · rintro (heq | ⟨u, hu, hw⟩)
      · obtain ⟨rfl, rfl⟩ := Prod.mk.inj heq
        exact ⟨e.2, by simp, hv⟩
      · exact ⟨u, List.mem_cons_of_mem _ hu, hw⟩
    · rintro ⟨u, hu, hw⟩
      rcases List.mem_cons.1 hu with rfl | hu
      · left
        rw [Option.some.inj (hv.symm.trans hw)]
      · exact Or.inr ⟨u, hu, hw⟩

/-- What a loaded file has of a name. -/
theorem lookup_loaded_iff {m : List (Text × V)} (h : Legible py m) {text : Text} (hrender : render py m = some text)
    {d : List (Text × V)} (hload : loadVariables py text = some d) (k : Text) (w : V) :
    d.lookup k = some w ↔ ∃ v t, (k, v) ∈ m ∧
      interpolate py.lower (optionsOf py (sortVariables m)) maxDepth (py.repr v) = some t ∧
      py.literalEval t = .ok w := by
  have hplain : ∀ e ∈ optionsOf py (sortVariables m), Plain py.release py.lower e := by
    intro e he
    obtain ⟨f, hf, rfl⟩ := List.mem_map.1 he
    exact (h.written f ((perm_sortVariables m).mem_iff.1 hf)).plain
  have hkeys : ((optionsOf py (sortVariables m)).map Prod.fst).Nodup := by
    rw [keys_optionsOf]
    exact nodup_sortVariables h.nodup
  have hname : variablesSection ≠ defaultSection := by decide
  rw [lookup_eq_some_iff (nodup_loadVariables hload)]
  rw [text_of_render h hrender, loadVariables, read_writeSection (by decide) (by decide)
    (by decide) hplain hkeys, Option.bind_some, if_neg hname, if_pos (by simp),
    items_eq hname hkeys] at hload
  obtain ⟨texts, htexts, hload⟩ := Option.bind_eq_some_iff.1 hload
  rw [mem_of_mapM (f := fun t => (py.literalEval t).toOption) hload]
  simp only [mem_of_mapM (f := interpolate py.lower _ maxDepth) htexts]
  constructor
  · rintro ⟨t, ⟨r, hr, ht⟩, hw⟩
    obtain ⟨e, he, heq⟩ := List.mem_map.1 hr
    obtain ⟨rfl, rfl⟩ := Prod.mk.inj heq
    refine ⟨e.2, t, (perm_sortVariables m).mem_iff.1 he, ht, ?_⟩
    cases ht' : py.literalEval t with
    | error e => simp [ht', Except.toOption] at hw
    | ok v =>
      have hvw : v = w := by simpa [ht', Except.toOption] using hw
      rw [hvw]
  · rintro ⟨v, t, hv, ht, hw⟩
    exact ⟨t, ⟨py.repr v, List.mem_map.2 ⟨(k, v), (perm_sortVariables m).mem_iff.2 hv, rfl⟩, ht⟩,
      by rw [hw]; rfl⟩

/-- A number is loaded exactly when it was written. -/
theorem lookup_loaded_digit_iff (hstrings : StringsQuoted dg) {m : List (Text × V)}
    (h : Legible py m) {text : Text}
    (hrender : render py m = some text) {d : List (Text × V)}
    (hload : loadVariables py text = some d) (k : Text) (n : Fin 10) :
    d.lookup k = some (dg.ofDigit n) ↔ m.lookup k = some (dg.ofDigit n) := by
  rw [lookup_loaded_iff h hrender hload, lookup_eq_some_iff h.nodup]
  have hself : ∀ v, '%' ∉ py.repr v → interpolate py.lower (optionsOf py (sortVariables m)) maxDepth
      (py.repr v) = some (py.repr v) := fun v hv => interpolate_of_no_percent hv _ _
  constructor
  · rintro ⟨v, t, hv, ht, hw⟩
    by_cases hpercent : '%' ∈ py.repr v
    · -- the text in front of the percent sign is still there
      obtain ⟨q, ⟨r, hr⟩, hq, hstring⟩ := hstrings v hpercent
      rw [← hr] at ht
      exact absurd hw (hstring t (prefix_of_interpolate hq ht) n)
    · obtain rfl : py.repr v = t := Option.some.inj ((hself v hpercent).symm.trans ht)
      have hback : py.literalEval (py.repr v) = .ok v := (h.written _ hv).reads_back
      obtain rfl : v = dg.ofDigit n := Except.ok.inj (hback.symm.trans hw)
      exact hv
  · intro hv
    have hpercent : '%' ∉ py.repr (dg.ofDigit n) := (storable_checkMd5 dg n).no_percent
    exact ⟨_, _, hv, hself _ hpercent, (h.written _ hv).reads_back⟩

/-- The scripts and Klipper agree on a setting. -/
def Agrees (t : SettingTest) (text : Text) (d : List (Text × V)) : Prop :=
  t.passes text ↔ d.lookup (str t.name) = some (dg.ofDigit t.digit)

/-- On a file that was written and can be loaded, a test agrees with the parsed
variable exactly when the variable has the digit or no entry quotes the words. -/
theorem agrees_iff (hstrings : StringsQuoted dg) {t : SettingTest} (ht : t ∈ settingTests)
    {m : List (Text × V)} (h : Legible py m) {text : Text} (hrender : render py m = some text)
    {d : List (Text × V)} (hload : loadVariables py text = some d) :
    Agrees dg t text d
      ↔ m.lookup (str t.name) = some (dg.ofDigit t.digit) ∨ ∀ e ∈ m, ¬ Quotes py t e := by
  rw [Agrees, passes_iff ht h hrender, lookup_loaded_digit_iff dg hstrings h hrender hload]
  -- the line of the variable itself quotes the words
  have hown : m.lookup (str t.name) = some (dg.ofDigit t.digit) → ∃ e ∈ m, Quotes py t e := by
    intro hv
    refine ⟨_, (lookup_eq_some_iff h.nodup).1 hv, Or.inl ⟨List.suffix_refl _, ?_⟩⟩
    rw [dg.repr_ofDigit]
  constructor
  · intro hagrees
    by_cases hv : m.lookup (str t.name) = some (dg.ofDigit t.digit)
    · exact Or.inl hv
    · exact Or.inr fun e he hq => hv (hagrees.1 ⟨e, he, hq⟩)
  · rintro (hv | hnone)
    · exact ⟨fun _ => hv, hown⟩
    · exact ⟨fun ⟨e, he, hq⟩ => absurd hq (hnone e he), hown⟩

end Written

/-- Digits have no percent sign. -/
theorem stringsQuoted_digits : StringsQuoted digitsDigits := by
  intro v hv
  exact absurd hv (storable_checkMd5 digitsDigits v).no_percent

/-- `guppy = 1` can be stored. -/
theorem storable_guppy : Storable digits (str "guppy", 1) := by
  have hall : (str "guppy").all (fun c => !isDelimiter c) = true := by decide
  refine ⟨⟨by decide, by decide, by simpa using hall, by decide, ⟨?_, ?_⟩, by decide, by decide,
    digits.plain_repr 1⟩, by decide, by decide⟩
  · intro c hc
    obtain rfl : 'g' = c := by simpa [str] using hc
    decide
  · intro c hc
    obtain rfl : 'y' = c := by simpa [str] using hc
    decide

/-- A file with the setting and two other variables. -/
def guppyVariables : List (Text × Fin 10) := [(str "c", 0), (str "guppy", 1), (str "a", 1)]

theorem agrees_iff_guppy : Agrees digitsDigits ⟨"guppy", 1⟩
    (written digits guppyVariables).disk (written digits guppyVariables).allVariables := by
  have hstorable : ∀ e ∈ guppyVariables, Storable digits e := by
    intro e he
    simp only [guppyVariables, List.mem_cons, List.not_mem_nil, or_false] at he
    rcases he with rfl | rfl | rfl
    · exact storable_letter .py37 (c := 'c') (by decide) 0
    · exact storable_guppy
    · exact storable_letter .py37 (c := 'a') (by decide) 1
  have hm : Writable digits guppyVariables := ⟨by decide, hstorable⟩
  have hrender := render_eq hm.storable hm.nodup
  have hload := loadVariables_disk_written hm
  exact (agrees_iff digitsDigits stringsQuoted_digits (by decide) hm.legible hrender hload).2
    (Or.inl (by decide))

/-- A variable whose name ends with the name of a setting. -/
theorem suffix_not_agrees : ∃ s,
    cmdSaveVariable digits .stock .whole (str "x_guppy") (str "1") ⟨[], []⟩ = (s, none) ∧
      loadVariables digits s.disk = some s.allVariables ∧
      (⟨"guppy", 1⟩ : SettingTest) ∈ settingTests ∧
      ¬ Agrees digitsDigits ⟨"guppy", 1⟩ s.disk s.allVariables := by
  refine ⟨⟨str "[Variables]\nx_guppy = 1\n\n", [(str "x_guppy", 1)]⟩, by rfl, by rfl, by decide, ?_⟩
  intro hagrees
  have hpasses : (⟨"guppy", 1⟩ : SettingTest).passes (str "[Variables]\nx_guppy = 1\n\n") := by
    show grepQ _ _ = true
    decide
  exact absurd (hagrees.1 hpasses) (by decide)

end SaveVariables

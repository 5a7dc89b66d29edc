import Ff5m.PrintFile.PlainRun

/-!
# Which file names reach the scripts

A print request is right when its scripts run on the file it names, or a command
error stops it before the first one.  Every reading of a line can only lose
quotes, backslashes and blanks, and what it keeps it pays for with backslashes;
so a script that gets the name of the request gets it only if there was nothing
to pay for.

* `firstScript`: the first script of a request, or the failure that comes before;
* `simple_of_checkCall`, `quotable_of_call`: what a name that comes through is like;
* `startPrint_right_iff`: when a print request is right.
-/

namespace PrintFile

open TextTools (Text str)
open GCode Shlex

/-- A file name as `start_print` gets it. -/
structure FileName where
  name : Text
  ne_nil : name ≠ []
  no_slash : '/' ∉ name
  no_newline : '\n' ∉ name
  no_nul : Char.ofNat 0 ∉ name

/-! ## Counting -/

/-- How often a character stands in a text. -/
def count (c : Char) (t : Text) : ℕ := t.countP (· == c)

@[simp] theorem count_nil (c : Char) : count c [] = 0 := rfl

@[simp] theorem count_cons (c d : Char) (t : Text) :
    count c (d :: t) = count c t + if d = c then 1 else 0 := by
  simp [count, List.countP_cons]

@[simp] theorem count_append (c : Char) (t u : Text) : count c (t ++ u) = count c t + count c u := by
  simp [count]

theorem countP_or_backslash {q : Char} (hq : q ≠ '\\') (t : Text) :
    t.countP (fun c => c == q || c == '\\') = count q t + count '\\' t := by
  induction t with
  | nil => rfl
  | cons c cs ih =>
    rw [List.countP_cons, count_cons, count_cons, ih]
    by_cases h1 : c = q
    · simp [h1, hq]
      omega
    · by_cases h2 : c = '\\'
      · simp [h2, Ne.symm hq]
        omega
      · simp [h1, h2]

theorem countP_isQuote (t : Text) : t.countP isQuote = count '\'' t + count '"' t := by
  induction t with
  | nil => rfl
  | cons c cs ih =>
    rw [List.countP_cons, count_cons, count_cons, ih]
    by_cases h1 : c = '\''
    · simp [isQuote, h1]
      omega
    · by_cases h2 : c = '"' <;> simp [isQuote, h1, h2]
      omega

/-- Escaping a character adds a backslash for each. -/
theorem count_escape (d e : Char) (t : Text) :
    count d (t.flatMap fun c => if c = e then ['\\', e] else [c])
      = count d t + if d = '\\' then count e t else 0 := by
  induction t with
  | nil => simp
  | cons c cs ih =>
    rw [List.flatMap_cons, count_append, ih, count_cons, count_cons]
    by_cases hc : c = e
    · by_cases hd : d = '\\'
      · simp [hc, hd]
        omega
      · simp [hc, hd, Ne.symm hd]
        omega
    · simp [hc]
      omega

theorem count_escapeQuotes (d : Char) (t : Text) :
    count d (escapeQuotes t) = count d t + if d = '\\' then count '"' t else 0 :=
  count_escape d '"' t

theorem count_escapeSpaces (d : Char) (t : Text) :
    count d (escapeSpaces t) = count d t + if d = '\\' then count ' ' t else 0 :=
  count_escape d ' ' t

theorem count_space_le (t : Text) : count ' ' t ≤ t.countP isSpecial :=
  List.countP_mono_left fun c _ hc => by
    rw [beq_iff_eq] at hc
    rw [hc]
    decide

theorem simple_of_countP_le {f : Text} (hf : f.countP isSpecial ≤ count ' ' f) : Simple f := by
  induction f with
  | nil => exact fun c hc => absurd hc (by simp)
  | cons c cs ih =>
    have hsub := count_space_le cs
    rw [List.countP_cons, count_cons] at hf
    have hc : isSpecial c = true → c = ' ' := by
      intro hs
      by_contra hsp
      rw [if_pos hs, if_neg hsp] at hf
      omega
    have hcs : Simple cs := ih (by
      by_cases hsp : c = ' '
      · rw [hsp, if_pos (by decide), if_pos rfl] at hf
        omega
      · rw [if_neg hsp] at hf
        omega)
    intro d hd hs
    rcases List.mem_cons.1 hd with rfl | hd
    · exact hc hs
    · exact hcs d hd hs

/-! ## One reading -/

/-- What a value `v` read from the double-quoted `u` can hold. -/
structure ReadFrom (u v : Text) : Prop where
  count_le : ∀ c, isKeyChar c = false → c ≠ '=' → count c v ≤ count c u
  paid : count '\'' u ≤ count '\'' v → count '"' v + count '\\' v ≤ count '\\' u

theorem offKey_eq {c : Char} (hc : isKeyChar c = false) (heq : c ≠ '=') : OffKey (· == c) := by
  intro d hd
  obtain rfl := beq_iff_eq.1 hd
  exact ⟨hc, heq⟩

theorem readFrom_double {up : Upper} {k u v : Text} (hk : k.all isKeyChar = true)
    {ps : List (Text × Text)} (hps : extendedParams up (k ++ '=' :: '"' :: (u ++ ['"'])) = some ps)
    (hv : getParam ps k = some v) : ReadFrom u v := by
  obtain ⟨hclose, hmore, hback⟩ := weight_quoted (q := '"') (r := '\'') (by decide) (by decide)
    (by simp [isQuote, or_comm]) hk hps
  have hsub : ∀ p, v.countP p ≤ weight p ps := fun p => countP_getParam_le p hv
  have hsingle := hsub (· == '\'')
  constructor
  · intro c hc heq
    have h1 : count c v ≤ weight (· == c) ps := hsub _
    by_cases hq : c = '"'
    · subst hq
      have h2 : weight (· == '"') ps + 1 ≤ count '"' (u ++ ['"']) := hclose
      simp only [count_append, count_cons, count_nil, if_true] at h2
      omega
    · have h2 : weight (· == c) ps ≤ count c (u ++ ['"']) := hmore _ (offKey_eq hc heq)
      simp only [count_append, count_cons, count_nil, if_neg (Ne.symm hq)] at h2
      omega
  · intro hkept
    have h1 : count '\'' (u ++ ['"']) ≤ weight (· == '\'') ps := by
      simp only [count_append, count_cons, count_nil, if_neg (show ¬ '"' = '\'' by decide)]
      exact le_trans hkept hsingle
    have h2 := hback h1
    have h3 := hsub fun c => c == '"' || c == '\\'
    rw [countP_or_backslash (by decide)] at h3
    have h4 : (u ++ ['"']).countP (· == '\\') = count '\\' u := by simp [count]
    omega

section Host

variable {σ : Type} {h : Host σ}

theorem readFrom_nameLine {u v : Text} (hv : nameIn h (nameLine u) = some v) : ReadFrom u v := by
  obtain ⟨ps, hps, hv⟩ := Option.bind_eq_some_iff.1 hv
  rw [nameLine_eq] at hps
  exact readFrom_double (by decide) hps hv

/-- What a started shell command was parsed from. -/
theorem shellCall_ok {raw : Text} {c : Call} (hc : shellCall h raw = .ok c) :
    ∃ ps, extendedParams h.upper raw = some ps ∧
      split ((getParam ps (str "PARAMS")).getD []) = some c.args := by
  unfold shellCall at hc
  cases hps : extendedParams h.upper raw with
  | none => simp [hps] at hc
  | some ps =>
    refine ⟨ps, rfl, ?_⟩
    simp only [hps] at hc
    cases hcmd : getParam ps (str "CMD") with
    | none => simp [hcmd] at hc
    | some d =>
      simp only [hcmd] at hc
      split_ifs at hc with hknown
      cases hargs : split ((getParam ps (str "PARAMS")).getD []) with
      | none => simp [hargs] at hc
      | some args =>
        simp only [hargs, Except.ok.injEq] at hc
        rw [← hc]

/-- What the parameters of a started shell command were read from. -/
theorem shellLine_ok {cmd u : Text} {c : Call} (hcmd : plain cmd = true)
    (hc : shellCall h (shellLine cmd u) = .ok c) (hne : c.args ≠ []) :
    ∃ qs v, extendedParams h.upper (str "PARAMS" ++ '=' :: '"' :: (u ++ ['"'])) = some qs ∧
      getParam qs (str "PARAMS") = some v ∧ split v = some c.args := by
  obtain ⟨ps, hps, hsplit⟩ := shellCall_ok hc
  rw [shellLine, extendedParams_plain h.upper (by decide) hcmd, Option.map_eq_some_iff] at hps
  obtain ⟨qs, hqs, rfl⟩ := hps
  have hoff : getParam ((str "CMD", cmd) :: qs) (str "PARAMS") = getParam qs (str "PARAMS") := by
    rw [getParam_cons, if_neg (by decide), Option.or_none]
  rw [hoff] at hsplit
  cases hv : getParam qs (str "PARAMS") with
  | none =>
    rw [hv] at hsplit
    exact absurd (Option.some.inj hsplit).symm hne
  | some v =>
    rw [hv] at hsplit
    exact ⟨qs, v, hqs, hv, hsplit⟩

/-- What the sum check reads from the single quotes: its name `n` and its `d`. -/
structure ReadChecked (u n d : Text) : Prop where
  count_le : ∀ c, c ∈ ['"', '\'', ' '] → count c n + count c d ≤ count c u
  paid : count '"' u ≤ count '"' n + count '"' d →
    count '\'' n + count '\\' n + (count '\'' d + count '\\' d) ≤ count '\\' u

theorem checkMd5Line_read {u : Text} {ps : List (Text × Text)}
    (hps : extendedParams h.upper (checkMd5Line u) = some ps) (s : σ) :
    ReadChecked u (checkedName h ps s) ((getParam ps (str "DELETE")).getD []) := by
  rw [checkMd5Line_eq, extendedParams_plain h.upper (by decide) (by decide),
    Option.map_eq_some_iff] at hps
  obtain ⟨qs, hqs, rfl⟩ := hps
  obtain ⟨hclose, hmore, hback⟩ := weight_quoted (q := '\'') (r := '"') (by decide) (by decide)
    (by simp [isQuote]) (by decide) hqs
  obtain ⟨n, hn⟩ := Option.isSome_iff_exists.1 (getParam_isSome (by decide) (by decide) hqs)
  have hname : checkedName h ((str "DELETE", str "True") :: qs) s = n := by
    rw [checkedName, getParam_cons, hn]
    rfl
  rw [hname]
  -- the two values stand in different words
  have hsum : ∀ p, (str "True").countP p = 0 →
      n.countP p + ((getParam ((str "DELETE", str "True") :: qs) (str "DELETE")).getD []).countP p
        ≤ weight p qs := by
    intro p hp
    rw [getParam_cons, if_pos rfl]
    cases hd : getParam qs (str "DELETE") with
    | none =>
      have := countP_getParam_le p hn
      simpa [hp] using this
    | some d => exact countP_getParam_add_le p (by decide) hn hd
  constructor
  · intro c hc
    have hkey : isKeyChar c = false ∧ c ≠ '=' ∧ count c (str "True") = 0 ∧ count c (str "/data/") = 0 := by
      simp only [List.mem_cons, List.not_mem_nil, or_false] at hc
      rcases hc with rfl | rfl | rfl <;> decide
    obtain ⟨hoff, heq, htrue, hdata⟩ := hkey
    have h1 := hsum (· == c) htrue
    have hx : count c (str "/data/" ++ u ++ ['\'']) = count c u + if '\'' = c then 1 else 0 := by
      simp [hdata]
    by_cases hq : '\'' = c
    · subst hq
      have h2 : weight (· == '\'') qs + 1 ≤ count '\'' (str "/data/" ++ u ++ ['\'']) := hclose
      rw [hx, if_pos rfl] at h2
      simp only [count]
      simp only [count] at h2
      omega
    · have h2 : weight (· == c) qs ≤ count c (str "/data/" ++ u ++ ['\'']) :=
        hmore _ (offKey_eq hoff heq)
      rw [hx, if_neg hq] at h2
      simp only [count]
      simp only [count] at h2
      omega
  · intro hkept
    have hx : ∀ c, c = '"' ∨ c = '\\' → count c (str "/data/" ++ u ++ ['\'']) = count c u := by
      have hdata : count '"' (str "/data/") = 0 ∧ count '\\' (str "/data/") = 0 := by decide
      rintro c (rfl | rfl) <;> simp [hdata]
    have h1 := hsum (· == '"') (by decide)
    have h2 := hback (by
      have h3 : count '"' u ≤ weight (· == '"') qs := le_trans hkept h1
      rw [← hx _ (Or.inl rfl)] at h3
      exact h3)
    have h4 := hsum (fun c => c == '\'' || c == '\\') (by decide)
    rw [countP_or_backslash (by decide), countP_or_backslash (by decide)] at h4
    have h5 : (str "/data/" ++ u ++ ['\'']).countP (· == '\\') = count '\\' u := hx _ (Or.inr rfl)
    omega

/-! ## Names that come through -/

/-- A name that reaches the sum check has nothing special but spaces: everything
else is paid for with backslashes, and there are not enough of them. -/
theorem simple_of_checkCall {f g u n d : Text} (hg : ReadFrom (escapeQuotes f) g)
    (hu : ReadFrom g u) (hn : ReadChecked u n d)
    (hc : shellCall h (checkMd5Shell n d) = .ok (checkCall f)) : Simple f := by
  rw [checkMd5Shell_eq] at hc
  obtain ⟨qs, v, hqs, hv, hsplit⟩ := shellLine_ok (by decide) hc (by simp [checkCall])
  have hread : ReadFrom (escapeSpaces n ++ ' ' :: d) v := readFrom_double (by decide) hqs hv
  have hwords : (checkCall f).args.flatten = str "/data/" ++ f ++ str "True" := by simp [checkCall]
  rw [split] at hsplit
  -- the words hold what the name does
  have hflat : ∀ p : Char → Bool, (str "/data/").countP p = 0 → (str "True").countP p = 0 →
      (checkCall f).args.flatten.countP p = f.countP p := by
    intro p h1 h2
    rw [hwords, List.countP_append, List.countP_append, h1, h2, Nat.zero_add, Nat.add_zero]
  have hvalue : ∀ c, c = '"' ∨ c = '\'' → count c f ≤ count c v := by
    rintro c hc
    have h1 := countP_flatten_le (· == c) hsplit (by simp)
    rw [hflat _ (by rcases hc with rfl | rfl <;> decide) (by rcases hc with rfl | rfl <;> decide)] at h1
    simpa [count] using h1
  -- no quote is lost on the way
  have hquotes : ∀ c, c = '"' ∨ c = '\'' → count c f = count c v ∧
      count c v = count c n + count c d ∧ count c n + count c d = count c u ∧
      count c u = count c g ∧ count c g = count c f := by
    rintro c hc
    have h1 := hvalue c hc
    have h2 := hread.count_le c (by rcases hc with rfl | rfl <;> decide)
      (by rcases hc with rfl | rfl <;> decide)
    have h3 := hn.count_le c (by rcases hc with rfl | rfl <;> simp)
    have h4 := hu.count_le c (by rcases hc with rfl | rfl <;> decide)
      (by rcases hc with rfl | rfl <;> decide)
    have h5 := hg.count_le c (by rcases hc with rfl | rfl <;> decide)
      (by rcases hc with rfl | rfl <;> decide)
    have hne : c ≠ '\\' ∧ ¬ ' ' = c := by rcases hc with rfl | rfl <;> decide
    rw [count_escapeQuotes, if_neg hne.1] at h5
    rw [count_append, count_escapeSpaces, if_neg hne.1, count_cons, if_neg hne.2] at h2
    omega
  obtain ⟨hd1, hd2, hd3, hd4, hd5⟩ := hquotes '"' (Or.inl rfl)
  obtain ⟨hs1, hs2, hs3, hs4, hs5⟩ := hquotes '\'' (Or.inr rfl)
  -- so every reading is paid for with backslashes
  have hpaid := specials_cost_backslash hsplit (by
    rw [hflat _ (by decide) (by decide), countP_isQuote, countP_isQuote]
    omega)
  rw [hflat _ (by decide) (by decide), hflat _ (by decide) (by decide)] at hpaid
  have hback : f.countP isSpecial + count '\\' f ≤ count '\\' v := hpaid
  have hv' := hread.paid (by simp [count_escapeSpaces]; omega)
  have hn' := hn.paid (by omega)
  have hu' := hu.paid (by omega)
  have hg' := hg.paid (by simp [count_escapeQuotes]; omega)
  have hspaces : count ' ' n + count ' ' d ≤ count ' ' f := by
    have h1 := hn.count_le ' ' (by simp)
    have h2 := hu.count_le ' ' (by decide) (by decide)
    have h3 := hg.count_le ' ' (by decide) (by decide)
    simp only [count_escapeQuotes, if_neg (show ¬ ' ' = '\\' by decide)] at h3
    omega
  simp only [count_append, count_escapeSpaces, count_cons, if_true,
    if_neg (show ¬ ' ' = '\\' by decide)] at hv'
  simp only [count_escapeQuotes, if_true] at hg'
  exact simple_of_countP_le (by omega)

theorem count_eq_zero {c : Char} {t : Text} : count c t = 0 ↔ c ∉ t := by
  rw [count, List.countP_eq_zero]
  exact ⟨fun h hm => h c hm (by simp), fun h d hd hdc => h (by rwa [← beq_iff_eq.1 hdc])⟩

/-- If the words of a double-quoted line keep its double quotes but the last, the
line is one word. -/
theorem params_of_kept {up : Upper} {k u : Text} {c e : Char} (hk : k.all isKeyChar = true)
    (hc : c ≠ '"' ∧ c ≠ '\\') (he : e ≠ '\\' ∧ e ≠ '"') {qs : List (Text × Text)} {v : Text}
    (hqs : extendedParams up (k ++ '=' :: '"' :: (c :: (u ++ [e]) ++ ['"'])) = some qs)
    (hv : getParam qs k = some v) (hkept : count '"' u ≤ count '"' v) :
    ∃ w, v = c :: w := by
  obtain ⟨ws, hws, hmap⟩ := scan_of_extendedParams (by decide) hk hqs
  have hstep : step isComment c (.quote '"') (k ++ ['=']) = ([], .quote '"', k ++ ['='] ++ [c]) := by
    simp [step, hc]
  have htext : u ++ [e] ++ ['"'] = u ++ [e, '"'] := by simp
  have hle : count '"' v ≤ ws.flatten.countP (· == '"') :=
    le_trans (countP_getParam_le (· == '"') hv) (weight_mapM_le _ hmap)
  have hkey : (k ++ ['=']).countP (· == '"') = 0 := countP_key (offKey_eq (by decide) (by decide)) hk
  rw [List.cons_append, scan_cons_of_step hstep, htext] at hws
  obtain ⟨w, hw⟩ := single_word_of_kept (by decide) he.1 he.2 (b := false) hws (by
    have hlast : [e, '"'].countP (· == '"') = 1 := by simp [he]
    have hkeyc : (k ++ ['='] ++ [c]).countP (· == '"') = 0 := by
      rw [List.countP_append, hkey]
      simp [hc]
    rw [hkeyc, List.countP_append, hlast]
    simp only [count] at hkept hle
    omega)
  have hword : k ++ ['='] ++ [c] ++ w = k ++ '=' :: c :: w := by simp
  subst hw
  rw [hword, List.mapM_cons, splitParam_key up hk] at hmap
  obtain rfl : [(k, c :: w)] = qs := by simpa using hmap
  refine ⟨w, ?_⟩
  simpa [getParam] using hv.symm

/-- A name that reaches a script between single quotes has no quotes and no two
backslashes in a row. -/
theorem quotable_of_call {f g u w cmd : Text} {c : Call} {as : List Text}
    (hg : nameIn h (nameLine (escapeQuotes f)) = some g) (hu : ReadFrom g u) (hcmd : plain cmd = true)
    (hw : ∀ c, c ∈ ['"', '\'', '\\'] → count c w = 0)
    (hc : shellCall h (shellLine cmd ('\'' :: (u ++ '\'' :: w))) = .ok c) (hargs : c.args = f :: as) :
    Quotable f := by
  obtain ⟨qs, v, hqs, hv, hsplit⟩ := shellLine_ok hcmd hc (by simp [hargs])
  have hread := readFrom_double (by decide) hqs hv
  have hname := readFrom_nameLine hg
  rw [hargs, split] at hsplit
  have hflat : ∀ c, count c f ≤ count c (f :: as).flatten := by
    intro c
    rw [List.flatten_cons, count_append]
    omega
  have hwd := hw '"' (by simp)
  have hws := hw '\'' (by simp)
  have hwb := hw '\\' (by simp)
  -- the double quotes are kept
  have hd1 : count '"' f ≤ count '"' v :=
    le_trans (hflat _) (by simpa [count] using countP_flatten_le (· == '"') hsplit (by simp))
  have hd2 := hread.count_le '"' (by decide) (by decide)
  have hd3 := hu.count_le '"' (by decide) (by decide)
  have hd4 := hname.count_le '"' (by decide) (by decide)
  rw [count_escapeQuotes, if_neg (by decide)] at hd4
  simp [hwd] at hd2
  -- so the value begins with the single quote
  obtain ⟨z, e, hz⟩ : ∃ z e, '\'' :: w = z ++ [e] :=
    ⟨('\'' :: w).dropLast, ('\'' :: w).getLast (by simp), (List.dropLast_append_getLast _).symm⟩
  have he : e ≠ '\\' ∧ e ≠ '"' := by
    have hmem : e ∈ '\'' :: w := by simp [hz]
    rw [count_eq_zero] at hwd hwb
    constructor
    · rintro rfl
      simp [hwb] at hmem
    · rintro rfl
      simp [hwd] at hmem
  obtain ⟨t, rfl⟩ : ∃ t, v = '\'' :: t := by
    rw [hz, ← List.append_assoc] at hqs
    refine params_of_kept (by decide) (by decide) he hqs hv ?_
    have hzd : count '"' z + count '"' [e] = 0 := by
      rw [← count_append, ← hz, count_cons, if_neg (by decide), hwd]
    rw [count_append]
    omega
  have hopen : step (fun _ => false) '\'' .gap [] = ([], .quote '\'', []) := by
    simp [step, isSpace, isQuote]
  have hclosed := hsplit
  rw [scan_cons_of_step hopen] at hclosed
  -- which is lost with its partner, and no other one
  have hs1 : count '\'' (f :: as).flatten + 1 ≤ count '\'' t := by
    simpa [count] using closing_lost (q := '\'') (by decide) hclosed
  have hs2 := hread.count_le '\'' (by decide) (by decide)
  have hs3 := hu.count_le '\'' (by decide) (by decide)
  have hs4 := hname.count_le '\'' (by decide) (by decide)
  have hs5 := hflat '\''
  rw [count_escapeQuotes, if_neg (by decide)] at hs4
  simp [hws] at hs2
  -- every reading is paid for with backslashes
  have hb0 := quotes_cost_backslash (q := '\'') (r := '"') (by decide) (by decide) (by simp [isQuote])
    hsplit (by simp [Mode.Only]) (by
      have h1 := hflat '"'
      simp only [count] at h1 hd1 hd2 hd3 hd4
      rw [List.countP_nil]
      omega)
  have hcredit : Mode.gap.credit = 0 := by simp [Mode.credit]
  rw [countP_or_backslash (by decide), hcredit, List.countP_nil] at hb0
  have hb1 : count '\'' (f :: as).flatten + count '\\' (f :: as).flatten ≤ count '\\' ('\'' :: t) := by
    simp only [count] at hb0 ⊢
    omega
  have hb2 := hflat '\\'
  have hb3 := hread.paid (by simp [hws]; omega)
  have hb4 := hu.paid (by omega)
  have hb5 := hname.paid (by
    rw [count_escapeQuotes, if_neg (by decide)]
    omega)
  simp [hwb] at hb3 hb1
  rw [count_escapeQuotes, if_pos rfl] at hb5
  have hdouble : '"' ∉ f := count_eq_zero.1 (by omega)
  have hsingle : '\'' ∉ f := count_eq_zero.1 (by omega)
  rw [escapeQuotes_eq_self hdouble, nameIn_nameLine h hdouble] at hg
  refine ⟨hdouble, hsingle, ?_⟩
  have hback : count '\\' f ≤ count '\\' g := by omega
  exact noPair_of_countP_readDouble (b := false) hg (by simpa [count] using hback)

/-- The lines that hand a name over between single quotes. -/
theorem prepareLine_eq (u : Text) (s : σ) :
    ∃ cmd w, prepareLine h u s = shellLine cmd ('\'' :: (u ++ '\'' :: w)) ∧ plain cmd = true ∧
      ∀ c, c ∈ ['"', '\'', '\\', '/'] → count c w = 0 := by
  have hmode : ∀ mode, mode = str "TEST" ∨ mode = str "NONE" →
      ∀ c, c ∈ ['"', '\'', '\\', '/'] → count c (' ' :: mode) = 0 := by
    rintro mode (rfl | rfl) <;> simp only [List.mem_cons, List.not_mem_nil, or_false] <;>
      rintro c (rfl | rfl | rfl | rfl) <;> decide
  unfold prepareLine
  split_ifs
  · exact ⟨str "zexclude", [], zexcludeLine_eq u, by decide, fun _ _ => rfl⟩
  · exact ⟨str "zpreclear", _, zpreclearLine_eq (str "TEST") u, by decide, hmode _ (Or.inl rfl)⟩
  · exact ⟨str "zpreclear", _, zpreclearLine_eq (str "NONE") u, by decide, hmode _ (Or.inr rfl)⟩

theorem quotable_of_prepareLine {f g u : Text} {s : σ} {c : Call} {as : List Text}
    (hg : nameIn h (nameLine (escapeQuotes f)) = some g) (hu : ReadFrom g u)
    (hc : shellCall h (prepareLine h u s) = .ok c) (hargs : c.args = f :: as) : Quotable f := by
  obtain ⟨cmd, w, hline, hcmd, hw⟩ := prepareLine_eq (h := h) u s
  rw [hline] at hc
  refine quotable_of_call hg hu hcmd (fun c hc => hw c ?_) hc hargs
  simp only [List.mem_cons, List.not_mem_nil, or_false] at hc ⊢
  tauto

/-- A script that is not the sum check cannot get its path. -/
theorem prepareLine_ne_checkCall {f g u : Text} {s : σ} (hg : ReadFrom (escapeQuotes f) g)
    (hu : ReadFrom g u) : shellCall h (prepareLine h u s) ≠ .ok (checkCall f) := by
  intro hc
  obtain ⟨cmd, w, hline, hcmd, hw⟩ := prepareLine_eq (h := h) u s
  rw [hline] at hc
  obtain ⟨qs, v, hqs, hv, hsplit⟩ := shellLine_ok hcmd hc (by simp [checkCall])
  have h1 := (readFrom_double (by decide) hqs hv).count_le '/' (by decide) (by decide)
  have h2 := hu.count_le '/' (by decide) (by decide)
  have h3 := hg.count_le '/' (by decide) (by decide)
  have h4 := countP_flatten_le (· == '/') hsplit (by simp)
  have h5 : count '/' (checkCall f).args.flatten = 2 + count '/' f := by
    have hpath : count '/' (str "/data/") = 2 ∧ count '/' (str "True") = 0 := by decide
    simp [checkCall, hpath]
  have h6 : count '/' (checkCall f).args.flatten ≤ count '/' v := by simpa [count] using h4
  have h7 := hw '/' (by simp)
  rw [count_escapeQuotes, if_neg (by decide)] at h3
  simp [h7] at h1
  omega

/-! ## The first script -/

variable (h)

/-- The first script of a print request, or the failure that comes before it. -/
def firstScript (leveling : Bool) (f : Text) (s : σ) : Except Failure Call :=
  (printFileWithLine h (announceOf leveling) (nameLine (escapeQuotes f)) s).bind (shellCall h)

variable {h}

theorem calls_of_firstScript_error {leveling : Bool} {f : Text} {s : σ} {e : Failure}
    (he : firstScript h leveling f s = .error e) :
    calls h (Script.exec (native h) (startPrint h leveling f) s).log = [] ∧
      (Script.exec (native h) (startPrint h leveling f) s).raised = some e := by
  have hbegins := printFileWith_begins h (announceOf leveling) (handOverOf leveling)
    (nameLine (escapeQuotes f)) s
  rw [← startPrint_eq] at hbegins
  unfold firstScript at he
  cases hline : printFileWithLine h (announceOf leveling) (nameLine (escapeQuotes f)) s with
  | error e' =>
    rw [hline] at he hbegins
    obtain rfl : e' = e := by simpa [Except.bind] using he
    exact hbegins
  | ok raw =>
    rw [hline] at he hbegins
    have hcall : shellCall h raw = .error e := by simpa [Except.bind] using he
    unfold Begins at hbegins
    simpa only [hcall] using hbegins

theorem calls_of_firstScript_ok {leveling : Bool} {f : Text} {s : σ} {c : Call}
    (hc : firstScript h leveling f s = .ok c) :
    ∃ rest, calls h (Script.exec (native h) (startPrint h leveling f) s).log = c :: rest := by
  have hbegins := printFileWith_begins h (announceOf leveling) (handOverOf leveling)
    (nameLine (escapeQuotes f)) s
  rw [← startPrint_eq] at hbegins
  unfold firstScript at hc
  cases hline : printFileWithLine h (announceOf leveling) (nameLine (escapeQuotes f)) s with
  | error e => simp [hline, Except.bind] at hc
  | ok raw =>
    rw [hline] at hc hbegins
    have hcall : shellCall h raw = .ok c := by simpa [Except.bind] using hc
    unfold Begins at hbegins
    simpa only [hcall] using hbegins

/-- The readings that lead to a first script. -/
structure Readings (h : Host σ) (f : Text) (s : σ) (c : Call) where
  g : Text
  u : Text
  after : σ
  read_first : nameIn h (nameLine (escapeQuotes f)) = some g
  opened : h.m23 (str "/" ++ g) s = some after
  read_second : nameIn h (nameLine g) = some u
  script : (Forced h after ∧ (h.saveVariable (str "check_md5") (str "0") after).2 = none ∧
      ∃ ps, extendedParams h.upper (checkMd5Line u) = some ps ∧
        (shellCall h (checkMd5Shell (checkedName h ps after) ((getParam ps (str "DELETE")).getD []))
            = .ok c ∨
          shellCall h (prepareLine h u after) = .ok c)) ∨
    (¬ Forced h after ∧ shellCall h (prepareLine h u after) = .ok c)

theorem readings_of_firstScript {leveling : Bool} {f : Text} {s : σ} {c : Call}
    (hc : firstScript h leveling f s = .ok c) : Nonempty (Readings h f s c) := by
  unfold firstScript printFileWithLine at hc
  cases hg : nameIn h (nameLine (escapeQuotes f)) with
  | none => simp [hg, Except.bind] at hc
  | some g =>
    simp only [hg] at hc
    split_ifs at hc with hresp
    · simp [Except.bind] at hc
    cases hm : h.m23 (str "/" ++ g) s with
    | none => simp [hm, Except.bind] at hc
    | some s' =>
      simp only [hm] at hc
      unfold printFileLine at hc
      cases hu : nameIn h (nameLine g) with
      | none => simp [hu, Except.bind] at hc
      | some u =>
        simp only [hu] at hc
        by_cases hf : h.savedInt s' (str "force_md5") 1 = 1
        · simp only [hf, if_true] at hc
          split_ifs at hc with hresp'
          · simp [Except.bind] at hc
          cases hps : extendedParams h.upper (checkMd5Line u) with
          | none => simp [hps, Except.bind] at hc
          | some ps =>
            simp only [hps] at hc
            cases hsave : (h.saveVariable (str "check_md5") (str "0") s').2 with
            | some e => simp [hsave, Except.bind] at hc
            | none =>
              simp only [hsave] at hc
              refine ⟨⟨g, u, s', hg, hm, hu, Or.inl ⟨hf, hsave, ps, hps, ?_⟩⟩⟩
              split_ifs at hc with hne
              · exact Or.inl (by simpa [Except.bind] using hc)
              · exact Or.inr (by simpa [Except.bind] using hc)
        · simp only [hf, if_false] at hc
          exact ⟨⟨g, u, s', hg, hm, hu, Or.inr ⟨hf, by simpa [Except.bind] using hc⟩⟩⟩

theorem Readings.forced_iff {f : Text} {s : σ} {c : Call} (r : Readings h f s c) :
    Forced h r.after ↔ Forced h s := by
  unfold Forced
  rw [h.m23_savedInt r.opened]

/-! ## Right requests -/

/-- The scripts of the request run on the file it names, or a command error stops
it before the first one. -/
def Right (h : Host σ) (leveling : Bool) (f : Text) (s : σ) (r : Run Cmd σ) : Prop :=
  (calls h r.log = [] ∧ r.raised = some .command) ∨
    ∃ s', h.m23 (str "/" ++ f) s = some s' ∧ Followed h f s' (printCalls h leveling f s') r

/-- The first call of a request that follows the name. -/
theorem Followed.first {f : Text} {s : σ} {leveling : Bool} {r : Run Cmd σ}
    (hr : Followed h f s (printCalls h leveling f s) r) {c : Call} {rest : List Call}
    (hc : calls h r.log = c :: rest) :
    (Forced h s → c = checkCall f) ∧ (¬ Forced h s → ∃ as, c.args = f :: as) := by
  cases hr with
  | refused hforced hpasses hcalls hraised =>
    rw [hcalls] at hc
    obtain ⟨rfl, -⟩ := List.cons.inj hc
    exact ⟨fun _ => rfl, fun hnot => absurd hforced hnot⟩
  | passed hdone hpasses =>
    rw [hdone.calls] at hc
    constructor
    · intro hforced
      rw [if_pos (by exact hforced)] at hc
      exact (List.cons.inj hc).1.symm
    · intro hnot
      rw [if_neg (by exact hnot), List.nil_append] at hc
      unfold printCalls prepareCalls at hc
      split_ifs at hc <;> obtain ⟨rfl, -⟩ := List.cons.inj hc <;> exact ⟨_, rfl⟩

theorem Followed.calls_ne_nil {f : Text} {s : σ} {leveling : Bool} {r : Run Cmd σ}
    (hr : Followed h f s (printCalls h leveling f s) r) : calls h r.log ≠ [] := by
  cases hr with
  | refused hforced hpasses hcalls hraised => simp [hcalls]
  | passed hdone hpasses => simp [hdone.calls, printCalls]

/-- A request with a first script is right only if that script has the name. -/
theorem Right.first {leveling : Bool} {f : Text} {s : σ} {r : Run Cmd σ}
    (hr : Right h leveling f s r) {c : Call} {rest : List Call} (hc : calls h r.log = c :: rest) :
    (Forced h s → c = checkCall f) ∧ (¬ Forced h s → ∃ as, c.args = f :: as) := by
  rcases hr with ⟨hnil, -⟩ | ⟨s', hm, hf⟩
  · rw [hnil] at hc
    exact absurd hc (by simp)
  · have hsame : Forced h s' ↔ Forced h s := by
      unfold Forced
      rw [h.m23_savedInt hm]
    rw [← hsame]
    exact hf.first hc

variable (h)

/-- A line up to the first script is refused with a command error, or the name
has no special characters but spaces (with the sum check), no quotes and no two
backslashes in a row (without). -/
def Harmless (leveling : Bool) (f : Text) (s : σ) : Prop :=
  match firstScript h leveling f s with
  | .error e => e = .command
  | .ok _ => if h.savedInt s (str "force_md5") 1 = 1 then Simple f else Quotable f

variable {h}

theorem harmless_of_right {leveling : Bool} {f : Text} {s : σ}
    (hr : Right h leveling f s (Script.exec (native h) (startPrint h leveling f) s)) :
    Harmless h leveling f s := by
  unfold Harmless
  cases hfirst : firstScript h leveling f s with
  | error e =>
    obtain ⟨hlog, hraised⟩ := calls_of_firstScript_error hfirst
    rcases hr with ⟨-, hcommand⟩ | ⟨s', -, hf⟩
    · exact Option.some.inj (hraised.symm.trans hcommand)
    · exact absurd hlog hf.calls_ne_nil
  | ok c =>
    obtain ⟨rest, hrest⟩ := calls_of_firstScript_ok hfirst
    obtain ⟨hforced, hfree⟩ := hr.first hrest
    obtain ⟨r⟩ := readings_of_firstScript hfirst
    have hg := readFrom_nameLine r.read_first
    have hu := readFrom_nameLine r.read_second
    show if h.savedInt s (str "force_md5") 1 = 1 then Simple f else Quotable f
    rcases r.script with ⟨hon, hsave, ps, hps, hcall | hcall⟩ | ⟨hoff, hcall⟩
    · have hf := r.forced_iff.1 hon
      rw [if_pos (by exact hf)]
      exact simple_of_checkCall hg hu (checkMd5Line_read hps _)
        (hcall.trans (congrArg Except.ok (hforced hf)))
    · have hf := r.forced_iff.1 hon
      exact absurd (hcall.trans (congrArg Except.ok (hforced hf))) (prepareLine_ne_checkCall hg hu)
    · have hf : ¬ Forced h s := fun hf => hoff (r.forced_iff.2 hf)
      obtain ⟨as, has⟩ := hfree hf
      rw [if_neg (by exact hf)]
      exact quotable_of_prepareLine r.read_first hu hcall has

/-- A harmless name that gets to a script comes through the lines of its request. -/
theorem plain_of_harmless {leveling : Bool} {f : Text} {s : σ} {c : Call} (hh : Harmless h leveling f s)
    (hfirst : firstScript h leveling f s = .ok c) :
    Quotable f ∧ f.getLast? ≠ some '\\' ∧ ∃ s', h.m23 (str "/" ++ f) s = some s' ∧
      (Forced h s' → Simple f ∧ (h.saveVariable (str "check_md5") (str "0") s').2 = none) := by
  unfold Harmless at hh
  simp only [hfirst] at hh
  obtain ⟨r⟩ := readings_of_firstScript hfirst
  have hquotable : Quotable f := by
    split_ifs at hh
    · exact hh.quotable
    · exact hh
  have hread : readDouble false f = some r.g := by
    rw [← nameIn_nameLine h hquotable.no_double, ← r.read_first,
      escapeQuotes_eq_self hquotable.no_double]
  have hsame : r.g = f := eq_of_readDouble (b := false) hquotable.no_pair hread
  have hlast : f.getLast? ≠ some '\\' := fun hl => by
    rw [readDouble_eq_none (b := false) hquotable.no_pair hl] at hread
    exact absurd hread (by simp)
  have hopened := r.opened
  rw [hsame] at hopened
  refine ⟨hquotable, hlast, r.after, hopened, fun hon => ?_⟩
  have hf := r.forced_iff.1 hon
  rw [if_pos (by exact hf)] at hh
  rcases r.script with ⟨-, hsave, -⟩ | ⟨hoff, -⟩
  · exact ⟨hh, hsave⟩
  · exact absurd hon hoff

theorem right_of_harmless {leveling : Bool} {f : Text} {s : σ} (hh : Harmless h leveling f s) :
    Right h leveling f s (Script.exec (native h) (startPrint h leveling f) s) := by
  cases hfirst : firstScript h leveling f s with
  | error e =>
    unfold Harmless at hh
    rw [hfirst] at hh
    obtain ⟨hlog, hraised⟩ := calls_of_firstScript_error hfirst
    exact Or.inl ⟨hlog, hraised.trans (congrArg some hh)⟩
  | ok c =>
    obtain ⟨hquotable, hlast, s', hopened, hforce⟩ := plain_of_harmless hh hfirst
    exact Or.inr ⟨s', hopened, exec_startPrint_plain h hquotable hlast hopened hforce⟩

/-- A print request is right exactly when a line up to its first script is
refused with a command error, or its name has nothing to quote. -/
theorem startPrint_right_iff (h : Host σ) (leveling : Bool) (f : FileName) (s : σ) :
    Right h leveling f.name s (Script.exec (native h) (startPrint h leveling f.name) s) ↔
      Harmless h leveling f.name s :=
  ⟨harmless_of_right, right_of_harmless⟩

end Host

/-! ## A request that is not right -/

/-- A printer whose settings are the defaults, and which has the one file. -/
def oneFile (path : Text) : Host Unit where
  upper := asciiUpper
  savedInt _ _ d := d
  filePath _ := str "None"
  isCommand c := c ∈ shellCommands
  isCommand_shellCommands c hc := by simpa using hc
  m23 arg s := if arg = path then some s else none
  m23_savedInt h := by rfl
  saveVariable _ _ s := (s, none)
  zloadVariable s := (s, none)
  shell _ s := s
  dwell _ s := s
  cancelPrint s := (s, none)

/-- `a\b` -/
def backslashName : FileName where
  name := str "a\\b"
  ne_nil := by decide
  no_slash := by decide
  no_newline := by decide
  no_nul := by decide

theorem firstScript_backslash :
    (firstScript (oneFile (str "/a\\b")) true backslashName.name ()).toOption
      = some (checkCall (str "ab")) := by
  decide +kernel

/-- The sum check of `a\b` runs on `ab`, and deletes it if its sum is wrong. -/
theorem backslash_not_right :
    ¬ Right (oneFile (str "/a\\b")) true backslashName.name ()
      (Script.exec (native (oneFile (str "/a\\b")))
        (startPrint (oneFile (str "/a\\b")) true backslashName.name) ()) := by
  intro hr
  have hfirst := firstScript_backslash
  cases hc : firstScript (oneFile (str "/a\\b")) true backslashName.name () with
  | error e => simp [hc, Except.toOption] at hfirst
  | ok c =>
    obtain rfl : c = checkCall (str "ab") := by simpa [hc, Except.toOption] using hfirst
    obtain ⟨rest, hrest⟩ := calls_of_firstScript_ok hc
    have hsame : checkCall (str "ab") = checkCall backslashName.name := (hr.first hrest).1 rfl
    exact absurd hsame (by decide)

end PrintFile

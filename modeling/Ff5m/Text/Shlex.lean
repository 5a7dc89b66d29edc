import Ff5m.Text.Lines

/-!
# Shell-like splitting

The lexer of Python's `shlex` in POSIX mode with `whitespace_split`: words are
separated by blanks, a single-quoted stretch is taken as it is, in a
double-quoted one a backslash escapes only `"` and itself, and outside of quotes
it escapes anything.  The characters that begin a comment are a parameter: `#`
and `;` for the parameters of a G-code command, none for `shlex.split`.

* `scan` is the lexer, one character at a time;
* `count_flatten_le`: the words contain no character that the text does not;
* `closing_lost`: a quoted stretch costs its closing quote;
* `quotes_cost_backslash`, `specials_cost_backslash`: a quote, a backslash or a
  blank that comes through is paid for with a backslash, as long as the quotes
  that could have protected it come through as well.
-/

namespace Shlex

open TextTools (Text)

/-- Where the lexer stands: between words, in a word, in a quoted stretch, after
a backslash outside or inside double quotes, or in a comment. -/
inductive Mode where
  | gap
  | word
  | quote (q : Char)
  | escWord
  | escQuote
  | comment
  deriving DecidableEq

/-- `shlex.whitespace`. -/
def isSpace (c : Char) : Bool := c == ' ' || c == '\t' || c == '\r' || c == '\n'

/-- `shlex.quotes`. -/
def isQuote (c : Char) : Bool := c == '\'' || c == '"'

/-- One character: the words it ends, the new mode, and the word read so far. -/
def step (com : Char → Bool) (c : Char) : Mode → Text → List Text × Mode × Text
  | .gap, _ =>
      if isSpace c then ([], .gap, [])
      else if com c then ([], .comment, [])
      else if c = '\\' then ([], .escWord, [])
      else if isQuote c then ([], .quote c, [])
      else ([], .word, [c])
  | .comment, _ => if c = '\n' then ([], .gap, []) else ([], .comment, [])
  | .word, tok =>
      if isSpace c then ([tok], .gap, [])
      else if com c then ([tok], .comment, [])
      else if isQuote c then ([], .quote c, tok)
      else if c = '\\' then ([], .escWord, tok)
      else ([], .word, tok ++ [c])
  | .quote q, tok =>
      if c = q then ([], .word, tok)
      else if c = '\\' ∧ q = '"' then ([], .escQuote, tok)
      else ([], .quote q, tok ++ [c])
  | .escWord, tok => ([], .word, tok ++ [c])
  | .escQuote, tok =>
      if c = '"' ∨ c = '\\' then ([], .quote '"', tok ++ [c])
      else ([], .quote '"', tok ++ ['\\', c])

/-- The end of the text; `none` is the `ValueError` for a missing closing quote
or escaped character. -/
def finish : Mode → Text → Option (List Text)
  | .gap, _ => some []
  | .comment, _ => some []
  | .word, tok => some [tok]
  | .quote _, _ => none
  | .escWord, _ => none
  | .escQuote, _ => none

/-- The lexer, from a mode and the word read so far. -/
def scan (com : Char → Bool) : Mode → Text → Text → Option (List Text)
  | m, tok, [] => finish m tok
  | m, tok, c :: cs =>
      (scan com (step com c m tok).2.1 (step com c m tok).2.2 cs).map ((step com c m tok).1 ++ ·)

/-- `shlex.split`: no comments. -/
def split (t : Text) : Option (List Text) := scan (fun _ => false) .gap [] t

theorem scan_cons_some {com : Char → Bool} {m : Mode} {tok : Text} {c : Char} {cs : Text}
    {ws : List Text} (h : scan com m tok (c :: cs) = some ws) :
    ∃ us, scan com (step com c m tok).2.1 (step com c m tok).2.2 cs = some us ∧
      ws = (step com c m tok).1 ++ us := by
  rw [scan, Option.map_eq_some_iff] at h
  obtain ⟨us, hus, rfl⟩ := h
  exact ⟨us, hus, rfl⟩

/-! ## The accounting rule -/

/-- What is in hand after one character, of the kind `p`. -/
def outgo (p : Char → Bool) (r : List Text × Mode × Text) : ℤ :=
  r.1.flatten.countP p + r.2.2.countP p

/-- If every character puts at most its price into the words and the balance
`κ` of the mode, the words hold at most the price of the text. -/
theorem scan_countP_le {com : Char → Bool} {p v : Char → Bool} {κ : Mode → ℤ}
    (hstep : ∀ c m tok, outgo p (step com c m tok) + κ (step com c m tok).2.1
      ≤ tok.countP p + κ m + [c].countP v)
    (hfin : ∀ m tok ws, finish m tok = some ws → 0 ≤ κ m) :
    ∀ (t : Text) (m : Mode) (tok : Text) (ws : List Text), scan com m tok t = some ws →
      (ws.flatten.countP p : ℤ) ≤ tok.countP p + κ m + t.countP v := by
  intro t
  induction t with
  | nil =>
    intro m tok ws h
    have hκ := hfin m tok ws h
    rw [scan] at h
    cases m <;> simp [finish] at h <;> subst h <;> simp <;> omega
  | cons c cs ih =>
    intro m tok ws h
    obtain ⟨us, hus, rfl⟩ := scan_cons_some h
    have h1 := ih _ _ us hus
    have h2 := hstep c m tok
    rw [outgo] at h2
    rw [List.flatten_append, List.countP_append, ← List.singleton_append, List.countP_append]
    push_cast
    omega

/-- The same for any additive measure `μ` of the words, and for a price that holds
in good modes only, as long as no character of the kind `u` is lost: leaving the
good modes loses one. -/
theorem scan_le_of_kept {com : Char → Bool} {μ : Text → ℤ} (hnil : μ [] = 0)
    (happ : ∀ a b, μ (a ++ b) = μ a + μ b) {v u : Char → Bool} {κ : Mode → ℤ} {good : Mode → Prop}
    (hu : ∀ c m tok, outgo u (step com c m tok) ≤ tok.countP u + [c].countP u)
    (hstep : ∀ c m tok, good m →
      outgo u (step com c m tok) < tok.countP u + [c].countP u ∨
      good (step com c m tok).2.1 ∧
        μ (step com c m tok).1.flatten + μ (step com c m tok).2.2 + κ (step com c m tok).2.1
          ≤ μ tok + κ m + [c].countP v)
    (hfin : ∀ m tok ws, finish m tok = some ws → 0 ≤ κ m) (htok : ∀ tok, 0 ≤ μ tok) :
    ∀ (t : Text) (m : Mode) (tok : Text) (ws : List Text), scan com m tok t = some ws → good m →
      (tok.countP u + t.countP u : ℤ) ≤ ws.flatten.countP u →
      μ ws.flatten ≤ μ tok + κ m + t.countP v := by
  intro t
  induction t with
  | nil =>
    intro m tok ws h _ _
    have hκ := hfin m tok ws h
    have hμ := htok tok
    rw [scan] at h
    cases m <;> simp [finish] at h <;> subst h <;> simp [hnil] <;> omega
  | cons c cs ih =>
    intro m tok ws h hm hkept
    obtain ⟨us, hus, rfl⟩ := scan_cons_some h
    have hrest := scan_countP_le (κ := fun _ => 0) (v := u) (by simpa using hu) (by simp) _ _ _ us hus
    have hloss := hu c m tok
    rw [← List.singleton_append, List.flatten_append, List.countP_append, List.countP_append] at hkept
    rw [← List.singleton_append, List.flatten_append, happ, List.countP_append]
    rw [outgo] at hloss
    push_cast at hkept ⊢
    rcases hstep c m tok hm with hlost | ⟨hgood, hpay⟩
    · rw [outgo] at hlost
      omega
    · have h1 := ih _ _ us hus hgood (by omega)
      omega

/-! ## What a word costs -/

@[simp] theorem outgo_nil (p : Char → Bool) (m : Mode) (tok : Text) :
    outgo p ([], m, tok) = tok.countP p := by
  simp [outgo]

@[simp] theorem outgo_one (p : Char → Bool) (w : Text) (m : Mode) (tok : Text) :
    outgo p ([w], m, tok) = w.countP p + tok.countP p := by
  simp [outgo]

theorem finish_some_cases {m : Mode} {tok : Text} {ws : List Text} (h : finish m tok = some ws) :
    m = .gap ∨ m = .word ∨ m = .comment := by
  cases m <;> simp [finish] at h ⊢

/-- The backslash that `escQuote` may still give back. -/
def Mode.pending (p : Char → Bool) (m : Mode) : ℤ := if m = .escQuote ∧ p '\\' = true then 1 else 0

theorem outgo_step_le (com p : Char → Bool) (c : Char) (m : Mode) (tok : Text) :
    outgo p (step com c m tok) + (step com c m tok).2.1.pending p
      ≤ tok.countP p + m.pending p + [c].countP p := by
  have hc : (0 : ℤ) ≤ [c].countP p := by positivity
  have htok : (0 : ℤ) ≤ tok.countP p := by positivity
  cases m with
  | gap =>
    simp only [step]
    split_ifs <;> simp [Mode.pending] <;> omega
  | word =>
    simp only [step]
    split_ifs <;> simp [Mode.pending] <;> omega
  | quote q =>
    simp only [step]
    split_ifs with h1 h2
    · simp [Mode.pending]
      split_ifs <;> omega
    · obtain ⟨rfl, rfl⟩ := h2
      simp [Mode.pending, List.countP_singleton]
    · simp [Mode.pending]
  | escWord => simp [step, Mode.pending]
  | escQuote =>
    simp only [step]
    split_ifs
    · simp [Mode.pending]
      split_ifs <;> omega
    · simp [Mode.pending, List.countP_cons]
      split_ifs <;> omega
  | comment =>
    simp only [step]
    split_ifs <;> simp [Mode.pending] <;> omega

/-- The words of a text contain no character more often than the text. -/
theorem countP_flatten_le {com : Char → Bool} (p : Char → Bool) {m : Mode} {tok t : Text}
    {ws : List Text} (h : scan com m tok t = some ws) (hm : m ≠ .escQuote) :
    ws.flatten.countP p ≤ tok.countP p + t.countP p := by
  have hle := scan_countP_le (outgo_step_le com p)
    (fun m tok ws hf => by rcases finish_some_cases hf with rfl | rfl | rfl <;> simp [Mode.pending])
    t m tok ws h
  have hpend : m.pending p = 0 := by simp [Mode.pending, hm]
  omega

/-- The closing quote that a quoted stretch still owes. -/
def Mode.owes (q : Char) (m : Mode) : ℤ := if m = .quote q ∨ m = .escQuote ∧ '"' = q then 1 else 0

theorem outgo_step_owes (com : Char → Bool) {q : Char} (hq : isQuote q = true) (c : Char) (m : Mode)
    (tok : Text) :
    outgo (· == q) (step com c m tok) + -(step com c m tok).2.1.owes q
      ≤ tok.countP (· == q) + -m.owes q + [c].countP (· == q) := by
  have hc : (0 : ℤ) ≤ [c].countP (· == q) := by positivity
  have htok : (0 : ℤ) ≤ tok.countP (· == q) := by positivity
  have hback : ('\\' : Char) ≠ q := by
    rintro rfl
    exact absurd hq (by decide)
  cases m with
  | gap =>
    simp only [step]
    split_ifs <;> simp [Mode.owes] <;> (try split_ifs) <;> omega
  | word =>
    simp only [step]
    split_ifs <;> simp [Mode.owes] <;> (try split_ifs) <;> omega
  | quote r =>
    simp only [step]
    split_ifs with h1 h2
    · subst h1
      simp [Mode.owes, List.countP_singleton]
    · obtain ⟨rfl, rfl⟩ := h2
      simp [Mode.owes, hback]
    · simp [Mode.owes]
      omega
  | escWord => simp [step, Mode.owes]
  | escQuote =>
    simp only [step]
    split_ifs
    · simp [Mode.owes]
      omega
    · simp [Mode.owes, List.countP_cons, hback]
      omega
  | comment =>
    simp only [step]
    split_ifs <;> simp [Mode.owes] <;> omega

/-- A quoted stretch costs its closing quote. -/
theorem closing_lost {com : Char → Bool} {q : Char} (hq : isQuote q = true) {tok t : Text}
    {ws : List Text} (h : scan com (.quote q) tok t = some ws) :
    ws.flatten.countP (· == q) + 1 ≤ tok.countP (· == q) + t.countP (· == q) := by
  have hle := scan_countP_le (κ := fun m => -m.owes q) (outgo_step_owes com hq)
    (fun m tok ws hf => by rcases finish_some_cases hf with rfl | rfl | rfl <;> simp [Mode.owes])
    t (.quote q) tok ws h
  have howes : (Mode.quote q).owes q = 1 := by simp [Mode.owes]
  rw [howes] at hle
  omega

/-- The backslashes taken and not yet spent. -/
def Mode.credit (m : Mode) : ℤ := if m = .escQuote ∨ m = .escWord then 1 else 0

theorem credit_finish {m : Mode} {tok : Text} {ws : List Text} (h : finish m tok = some ws) :
    0 ≤ m.credit := by
  rcases finish_some_cases h with rfl | rfl | rfl <;> simp [Mode.credit]

theorem outgo_step_le_of_isQuote (com : Char → Bool) {u : Char → Bool} (hu : u '\\' = false)
    (c : Char) (m : Mode) (tok : Text) :
    outgo u (step com c m tok) ≤ tok.countP u + [c].countP u := by
  have h := outgo_step_le com u c m tok
  simpa [Mode.pending, hu] using h

/-- The modes in which no quote but `q` is open. -/
def Mode.Only (q : Char) (m : Mode) : Prop :=
  (∀ x, m = .quote x → x = q) ∧ (m = .escQuote → q = '"')

theorem quotes_step (com : Char → Bool) {q r : Char} (hq : isQuote q = true)
    (hqr : ∀ c, isQuote c = true → c = q ∨ c = r) (c : Char) (m : Mode) (tok : Text)
    (hm : m.Only q) :
    outgo (· == r) (step com c m tok) < tok.countP (· == r) + [c].countP (· == r) ∨
    (step com c m tok).2.1.Only q ∧
      outgo (fun c => c == q || c == '\\') (step com c m tok) + (step com c m tok).2.1.credit
        ≤ tok.countP (fun c => c == q || c == '\\') + m.credit + [c].countP (· == '\\') := by
  have htok : (0 : ℤ) ≤ tok.countP (fun c => c == q || c == '\\') := by positivity
  have hc : (0 : ℤ) ≤ if c = '\\' then 1 else 0 := by positivity
  have hplain : ∀ {d}, ¬ isQuote d = true → d ≠ q := by
    rintro d hd rfl
    exact hd hq
  have hback : ¬ '\\' = q := hplain (by decide)
  cases m with
  | gap =>
    simp only [step]
    split_ifs with h1 h2 h3 h4
    · exact Or.inr ⟨by simp [Mode.Only], by simp [Mode.credit]; omega⟩
    · exact Or.inr ⟨by simp [Mode.Only], by simp [Mode.credit]; omega⟩
    · exact Or.inr ⟨by simp [Mode.Only], by simp [Mode.credit, h3]⟩
    · rcases hqr c h4 with rfl | rfl
      · exact Or.inr ⟨by simp [Mode.Only], by simp [Mode.credit, h3]⟩
      · exact Or.inl (by simp)
    · exact Or.inr ⟨by simp [Mode.Only], by simp [Mode.credit, h3, hplain h4]⟩
  | word =>
    simp only [step]
    split_ifs with h1 h2 h3 h4
    · exact Or.inr ⟨by simp [Mode.Only], by simpa [Mode.credit] using hc⟩
    · exact Or.inr ⟨by simp [Mode.Only], by simp [Mode.credit]; omega⟩
    · rcases hqr c h3 with rfl | rfl
      · exact Or.inr ⟨by simp [Mode.Only], by simpa [Mode.credit] using hc⟩
      · exact Or.inl (by simp)
    · exact Or.inr ⟨by simp [Mode.Only], by simp [Mode.credit, h4]⟩
    · exact Or.inr ⟨by simp [Mode.Only], by simp [Mode.credit, h4, hplain h3]⟩
  | quote x =>
    obtain rfl := hm.1 x rfl
    simp only [step]
    split_ifs with h1 h2
    · exact Or.inr ⟨by simp [Mode.Only], by simpa [Mode.credit] using hc⟩
    · obtain ⟨rfl, rfl⟩ := h2
      exact Or.inr ⟨by simp [Mode.Only], by simp [Mode.credit]⟩
    · refine Or.inr ⟨by simp [Mode.Only], ?_⟩
      by_cases h3 : c = '\\' <;> simp [Mode.credit, h1, h3]
  | escWord =>
    refine Or.inr ⟨by simp [step, Mode.Only], ?_⟩
    by_cases h1 : c = '\\'
    · simp [step, Mode.credit, h1]
    · by_cases h2 : c = q <;> simp [step, Mode.credit, h1, h2]
      omega
  | escQuote =>
    obtain rfl := hm.2 rfl
    simp only [step]
    split_ifs with h1
    · refine Or.inr ⟨by simp [Mode.Only], ?_⟩
      rcases h1 with rfl | rfl <;> simp [Mode.credit]
    · simp only [not_or] at h1
      exact Or.inr ⟨by simp [Mode.Only], by simp [Mode.credit, h1]⟩
  | comment =>
    simp only [step]
    split_ifs <;> exact Or.inr ⟨by simp [Mode.Only], by simp [Mode.credit]; omega⟩

/-- As long as no quote of the other kind is lost, every quote of one kind and
every backslash in the words is paid for with a backslash. -/
theorem quotes_cost_backslash {com : Char → Bool} {q r : Char} (hq : isQuote q = true)
    (hr : isQuote r = true) (hqr : ∀ c, isQuote c = true → c = q ∨ c = r) {m : Mode} {tok t : Text}
    {ws : List Text} (h : scan com m tok t = some ws) (hm : m.Only q)
    (hkept : tok.countP (· == r) + t.countP (· == r) ≤ ws.flatten.countP (· == r)) :
    (ws.flatten.countP (fun c => c == q || c == '\\') : ℤ)
      ≤ tok.countP (fun c => c == q || c == '\\') + m.credit + t.countP (· == '\\') := by
  have hback : (('\\' : Char) == r) = false := by
    rw [beq_eq_false_iff_ne]
    rintro rfl
    exact absurd hr (by decide)
  refine scan_le_of_kept (μ := fun t => t.countP fun c => c == q || c == '\\') rfl
    (fun a b => by push_cast [List.countP_append]; rfl) (outgo_step_le_of_isQuote com hback)
    (quotes_step com hq hqr) (fun m tok ws hf => credit_finish hf) (fun _ => by positivity)
    t m tok ws h hm ?_
  exact_mod_cast hkept

/-- What has to be paid for when nothing is quoted. -/
def isSpecial (c : Char) : Bool := isQuote c || c == '\\' || isSpace c

/-- The specials, with the backslashes counted twice. -/
def charge (t : Text) : ℤ := t.countP isSpecial + t.countP (· == '\\')

@[simp] theorem charge_nil : charge [] = 0 := rfl

theorem charge_append (a b : Text) : charge (a ++ b) = charge a + charge b := by
  simp only [charge, List.countP_append]
  push_cast
  omega

theorem charge_nonneg (t : Text) : 0 ≤ charge t := by
  unfold charge
  positivity

theorem charge_singleton (c : Char) :
    charge [c] = (if isSpecial c then 1 else 0) + if c = '\\' then 1 else 0 := by
  simp [charge, List.countP_singleton]

theorem specials_step (com : Char → Bool) (c : Char) (m : Mode) (tok : Text)
    (hm : (∀ x, m ≠ .quote x) ∧ m ≠ .escQuote) :
    outgo isQuote (step com c m tok) < tok.countP isQuote + [c].countP isQuote ∨
    ((∀ x, (step com c m tok).2.1 ≠ .quote x) ∧ (step com c m tok).2.1 ≠ .escQuote) ∧
      charge (step com c m tok).1.flatten + charge (step com c m tok).2.2
          + (step com c m tok).2.1.credit
        ≤ charge tok + m.credit + [c].countP (· == '\\') := by
  have htok := charge_nonneg tok
  have htokq : (0 : ℤ) ≤ tok.countP isQuote := by positivity
  have hc : (0 : ℤ) ≤ if c = '\\' then 1 else 0 := by positivity
  cases m with
  | gap =>
    simp only [step]
    split_ifs with h1 h2 h3 h4
    · exact Or.inr ⟨by simp, by simp [Mode.credit]; omega⟩
    · exact Or.inr ⟨by simp, by simp [Mode.credit]; omega⟩
    · exact Or.inr ⟨by simp, by simp [Mode.credit, h3]; omega⟩
    · exact Or.inl (by simp [h4])
    · exact Or.inr ⟨by simp, by simp [Mode.credit, charge_singleton, isSpecial, h1, h3, h4, htok]⟩
  | word =>
    simp only [step]
    split_ifs with h1 h2 h3 h4
    · exact Or.inr ⟨by simp, by simpa [Mode.credit] using hc⟩
    · exact Or.inr ⟨by simp, by simp [Mode.credit]; omega⟩
    · exact Or.inl (by simp [h3])
    · exact Or.inr ⟨by simp, by simp [Mode.credit, h4]⟩
    · exact Or.inr ⟨by simp, by
        simp [Mode.credit, charge_append, charge_singleton, isSpecial, h1, h3, h4]⟩
  | quote x => exact absurd rfl (hm.1 x)
  | escWord =>
    refine Or.inr ⟨by simp [step], ?_⟩
    by_cases h1 : c = '\\' <;> by_cases h2 : isSpecial c = true <;>
      simp [step, Mode.credit, charge_append, charge_singleton, h1, h2] <;> omega
  | escQuote => exact absurd rfl hm.2
  | comment =>
    simp only [step]
    split_ifs <;> exact Or.inr ⟨by simp, by simp [Mode.credit]; omega⟩

/-- As long as no quote is lost, nothing is quoted: every quote and blank in the
words is paid for with a backslash, and every backslash with two. -/
theorem specials_cost_backslash {com : Char → Bool} {t : Text} {ws : List Text}
    (h : scan com .gap [] t = some ws) (hkept : t.countP isQuote ≤ ws.flatten.countP isQuote) :
    ws.flatten.countP isSpecial + ws.flatten.countP (· == '\\') ≤ t.countP (· == '\\') := by
  have hle := scan_le_of_kept charge_nil charge_append
    (outgo_step_le_of_isQuote com (u := isQuote) (by decide)) (specials_step com)
    (fun m tok ws hf => credit_finish hf) charge_nonneg t .gap [] ws h (by simp)
    (by rw [List.countP_nil]; omega)
  have hcredit : Mode.gap.credit = 0 := by simp [Mode.credit]
  rw [hcredit, charge_nil, charge] at hle
  omega

/-- The first word begins with what was read before. -/
theorem scan_starts {com : Char → Bool} {t : Text} {m : Mode} {tok : Text} {ws : List Text}
    (h : scan com m tok t = some ws) (hm : m ≠ .gap ∧ m ≠ .comment) :
    ∃ w rest, ws = (tok ++ w) :: rest := by
  induction t generalizing m tok ws with
  | nil =>
    rw [scan] at h
    cases m <;> simp [finish] at h hm ⊢
    exact ⟨[], [], by simp [← h]⟩
  | cons c cs ih =>
    obtain ⟨us, hus, rfl⟩ := scan_cons_some h
    by_cases hend : (step com c m tok).1 = []
    · have hnext : ((step com c m tok).2.1 ≠ .gap ∧ (step com c m tok).2.1 ≠ .comment) ∧
          ∃ v, (step com c m tok).2.2 = tok ++ v := by
        revert hend
        cases m <;> simp only [step] <;> (try split_ifs) <;> simp_all
      obtain ⟨hmode, v, hv⟩ := hnext
      obtain ⟨w, rest, hw⟩ := ih hus hmode
      exact ⟨v ++ w, rest, by rw [hend, hw, hv, List.nil_append, List.append_assoc]⟩
    · have hone : (step com c m tok).1 = [tok] := by
        revert hend
        cases m <;> simp only [step] <;> (try split_ifs) <;> simp_all
      exact ⟨[], us, by rw [hone, List.append_nil, List.singleton_append]⟩

/-! ## Reading one stretch -/

theorem scan_cons (com : Char → Bool) (m : Mode) (tok : Text) (c : Char) (cs : Text) :
    scan com m tok (c :: cs)
      = (scan com (step com c m tok).2.1 (step com c m tok).2.2 cs).map
          ((step com c m tok).1 ++ ·) := by
  rw [scan]

theorem scan_cons_of_step {com : Char → Bool} {m m' : Mode} {tok tok' : Text} {c : Char}
    (h : step com c m tok = ([], m', tok')) (cs : Text) :
    scan com m tok (c :: cs) = scan com m' tok' cs := by
  rw [scan_cons, h]
  simp

/-- Characters that are nothing special are read as they are. -/
theorem scan_word_append {com : Char → Bool} {u : Text}
    (hu : ∀ c ∈ u, isSpecial c = false ∧ com c = false) (tok t : Text) :
    scan com .word tok (u ++ t) = scan com .word (tok ++ u) t := by
  induction u generalizing tok with
  | nil => simp
  | cons c cs ih =>
    obtain ⟨hs, hc⟩ := hu c (by simp)
    simp only [isSpecial, Bool.or_eq_false_iff, beq_eq_false_iff_ne] at hs
    have hstep : step com c .word tok = ([], .word, tok ++ [c]) := by simp [step, hs, hc]
    rw [List.cons_append, scan_cons_of_step hstep, ih fun d hd => hu d (by simp [hd]),
      List.append_assoc, List.singleton_append]

theorem scan_gap_append {com : Char → Bool} {u : Text} (hne : u ≠ [])
    (hu : ∀ c ∈ u, isSpecial c = false ∧ com c = false) (tok t : Text) :
    scan com .gap tok (u ++ t) = scan com .word u t := by
  cases u with
  | nil => exact absurd rfl hne
  | cons c cs =>
    obtain ⟨hs, hc⟩ := hu c (by simp)
    simp only [isSpecial, Bool.or_eq_false_iff, beq_eq_false_iff_ne] at hs
    have hstep : step com c .gap tok = ([], .word, [c]) := by simp [step, hs, hc]
    rw [List.cons_append, scan_cons_of_step hstep, scan_word_append fun d hd => hu d (by simp [hd]),
      List.singleton_append]

/-- A single-quoted stretch is read as it is. -/
theorem scan_single {com : Char → Bool} {u : Text} (hu : '\'' ∉ u) (tok t : Text) :
    scan com (.quote '\'') tok (u ++ '\'' :: t) = scan com .word (tok ++ u) t := by
  induction u generalizing tok with
  | nil =>
    have hstep : step com '\'' (.quote '\'') tok = ([], .word, tok) := by simp [step]
    rw [List.nil_append, scan_cons_of_step hstep, List.append_nil]
  | cons c cs ih =>
    simp only [List.mem_cons, not_or] at hu
    have hstep : step com c (.quote '\'') tok = ([], .quote '\'', tok ++ [c]) := by
      simp [step, Ne.symm hu.1]
    rw [List.cons_append, scan_cons_of_step hstep, ih hu.2, List.append_assoc, List.singleton_append]

/-- What a double-quoted stretch without a `"` in it reads as, before or after a
backslash; `none` when it ends in an open escape. -/
def readDouble : Bool → Text → Option Text
  | false, [] => some []
  | true, [] => none
  | false, c :: u => if c = '\\' then readDouble true u else (readDouble false u).map (c :: ·)
  | true, c :: u =>
      if c = '\\' then (readDouble false u).map ('\\' :: ·)
      else (readDouble false u).map ('\\' :: c :: ·)

/-- The mode of a double-quoted stretch, before or after a backslash. -/
def doubleMode (b : Bool) : Mode := if b then .escQuote else .quote '"'

theorem scan_double {com : Char → Bool} {u : Text} (hu : '"' ∉ u) (b : Bool) {v : Text}
    (hv : readDouble b u = some v) (tok t : Text) :
    scan com (doubleMode b) tok (u ++ '"' :: t) = scan com .word (tok ++ v) t := by
  induction u generalizing b v tok with
  | nil =>
    cases b with
    | true => simp [readDouble] at hv
    | false =>
      obtain rfl : v = [] := by simpa [readDouble] using hv.symm
      have hstep : step com '"' (.quote '"') tok = ([], .word, tok) := by simp [step]
      rw [List.nil_append, doubleMode, if_neg (by simp), scan_cons_of_step hstep, List.append_nil]
  | cons c cs ih =>
    simp only [List.mem_cons, not_or] at hu
    cases b with
    | false =>
      rw [readDouble] at hv
      rw [doubleMode, if_neg (by simp), List.cons_append]
      split_ifs at hv with hc
      · have hstep : step com c (.quote '"') tok = ([], .escQuote, tok) := by simp [step, hc]
        rw [scan_cons_of_step hstep]
        exact ih hu.2 true hv tok
      · obtain ⟨w, hw, rfl⟩ := Option.map_eq_some_iff.1 hv
        have hstep : step com c (.quote '"') tok = ([], .quote '"', tok ++ [c]) := by
          simp [step, hc, Ne.symm hu.1]
        rw [scan_cons_of_step hstep]
        simpa [doubleMode] using ih hu.2 false hw (tok ++ [c])
    | true =>
      rw [readDouble] at hv
      rw [doubleMode, if_pos rfl, List.cons_append]
      split_ifs at hv with hc
      · obtain ⟨w, hw, rfl⟩ := Option.map_eq_some_iff.1 hv
        have hstep : step com c .escQuote tok = ([], .quote '"', tok ++ [c]) := by simp [step, hc]
        rw [scan_cons_of_step hstep]
        simpa [doubleMode, hc] using ih hu.2 false hw (tok ++ [c])
      · obtain ⟨w, hw, rfl⟩ := Option.map_eq_some_iff.1 hv
        have hstep : step com c .escQuote tok = ([], .quote '"', tok ++ ['\\', c]) := by
          simp [step, hc, Ne.symm hu.1]
        rw [scan_cons_of_step hstep]
        simpa [doubleMode] using ih hu.2 false hw (tok ++ ['\\', c])

/-- A stretch that ends in an open escape swallows its closing quote. -/
theorem scan_double_none {com : Char → Bool} {u : Text} (hu : '"' ∉ u) (b : Bool)
    (hv : readDouble b u = none) (tok : Text) :
    scan com (doubleMode b) tok (u ++ ['"']) = none := by
  induction u generalizing b tok with
  | nil =>
    cases b with
    | true => simp [doubleMode, scan, step, finish]
    | false => simp [readDouble] at hv
  | cons c cs ih =>
    simp only [List.mem_cons, not_or] at hu
    cases b with
    | false =>
      rw [readDouble] at hv
      rw [doubleMode, if_neg (by simp), List.cons_append]
      split_ifs at hv with hc
      · have hstep : step com c (.quote '"') tok = ([], .escQuote, tok) := by simp [step, hc]
        rw [scan_cons_of_step hstep]
        exact ih hu.2 true hv tok
      · have hstep : step com c (.quote '"') tok = ([], .quote '"', tok ++ [c]) := by
          simp [step, hc, Ne.symm hu.1]
        rw [scan_cons_of_step hstep]
        exact ih hu.2 false (by simpa using hv) _
    | true =>
      rw [readDouble] at hv
      rw [doubleMode, if_pos rfl, List.cons_append]
      have hnone : readDouble false cs = none := by
        split_ifs at hv <;> simpa using hv
      by_cases hc : c = '\\'
      · have hstep : step com c .escQuote tok = ([], .quote '"', tok ++ [c]) := by simp [step, hc]
        rw [scan_cons_of_step hstep]
        exact ih hu.2 false hnone _
      · have hstep : step com c .escQuote tok = ([], .quote '"', tok ++ ['\\', c]) := by
          simp [step, hc, Ne.symm hu.1]
        rw [scan_cons_of_step hstep]
        exact ih hu.2 false hnone _

/-! ## Splitting what was quoted -/

/-- A word without special characters. -/
def bare (u : Text) : Bool := u.all fun c => !isSpecial c

theorem mem_of_bare {u : Text} (hu : bare u = true) :
    ∀ c ∈ u, isSpecial c = false ∧ (fun _ : Char => false) c = false := by
  simpa [bare] using hu

theorem scan_gap_bare {u : Text} (hne : u ≠ []) (hu : bare u = true) (tok : Text) :
    scan (fun _ => false) .gap tok u = some [u] := by
  have h := scan_gap_append hne (mem_of_bare hu) tok []
  rw [List.append_nil] at h
  rw [h, scan, finish]

theorem scan_word_space (tok t : Text) :
    scan (fun _ => false) .word tok (' ' :: t) = (scan (fun _ => false) .gap [] t).map (tok :: ·) := by
  have hstep : step (fun _ => false) ' ' .word tok = ([tok], .gap, []) := by simp [step, isSpace]
  rw [scan_cons, hstep]
  rfl

theorem scan_gap_single {u : Text} (hu : '\'' ∉ u) (t : Text) :
    scan (fun _ => false) .gap [] ('\'' :: (u ++ '\'' :: t)) = scan (fun _ => false) .word u t := by
  have hstep : step (fun _ => false) '\'' .gap [] = ([], .quote '\'', []) := by
    simp [step, isSpace, isQuote]
  rw [scan_cons_of_step hstep, scan_single hu, List.nil_append]

/-- `'u'` -/
theorem split_single {u : Text} (hu : '\'' ∉ u) : split ('\'' :: (u ++ ['\''])) = some [u] := by
  rw [split, scan_gap_single hu, scan, finish]

/-- `'u' w` -/
theorem split_single_bare {u w : Text} (hu : '\'' ∉ u) (hne : w ≠ []) (hw : bare w = true) :
    split ('\'' :: (u ++ '\'' :: ' ' :: w)) = some [u, w] := by
  rw [split, scan_gap_single hu, scan_word_space, scan_gap_bare hne hw, Option.map_some]

/-- `w 'u'` -/
theorem split_bare_single {u w : Text} (hu : '\'' ∉ u) (hne : w ≠ []) (hw : bare w = true) :
    split (w ++ ' ' :: '\'' :: (u ++ ['\''])) = some [w, u] := by
  have h := split_single hu
  rw [split] at h
  rw [split, scan_gap_append hne (mem_of_bare hw), scan_word_space, h, Option.map_some]

/-! ## Backslashes in a double-quoted stretch -/

/-- No backslash follows another one. -/
def NoPair (u : Text) : Prop := u.IsChain fun a b => a = '\\' → b ≠ '\\'

theorem countP_readDouble_le {b : Bool} {u v : Text} (h : readDouble b u = some v) :
    v.countP (· == '\\') ≤ u.countP (· == '\\') + (if b then 1 else 0) := by
  induction u generalizing b v with
  | nil => cases b <;> simp_all [readDouble]
  | cons c cs ih =>
    cases b with
    | false =>
      rw [readDouble] at h
      split_ifs at h with hc
      · simpa [hc] using ih h
      · obtain ⟨w, hw, rfl⟩ := Option.map_eq_some_iff.1 h
        simpa [hc] using ih hw
    | true =>
      rw [readDouble] at h
      split_ifs at h with hc <;> obtain ⟨w, hw, rfl⟩ := Option.map_eq_some_iff.1 h <;>
        have := ih hw <;> simp [hc] at this ⊢ <;> omega

/-- A stretch that loses no backslash has no pair of them. -/
theorem noPair_of_countP_readDouble {b : Bool} {u v : Text} (h : readDouble b u = some v)
    (hl : u.countP (· == '\\') + (if b then 1 else 0) ≤ v.countP (· == '\\')) :
    NoPair (if b then '\\' :: u else u) := by
  induction u generalizing b v with
  | nil => cases b <;> simp [NoPair]
  | cons c cs ih =>
    cases b with
    | false =>
      rw [readDouble] at h
      split_ifs at h with hc
      · subst hc
        exact ih h (by simpa using hl)
      · obtain ⟨w, hw, rfl⟩ := Option.map_eq_some_iff.1 h
        have hrest : NoPair cs := ih hw (by simpa [hc] using hl)
        exact List.IsChain.cons hrest fun _ _ hback => absurd hback hc
    | true =>
      rw [readDouble] at h
      split_ifs at h with hc
      · obtain ⟨w, hw, rfl⟩ := Option.map_eq_some_iff.1 h
        have hle := countP_readDouble_le hw
        simp [hc] at hl hle
        omega
      · obtain ⟨w, hw, rfl⟩ := Option.map_eq_some_iff.1 h
        have hrest : NoPair cs := ih hw (by simpa [hc] using hl)
        exact List.IsChain.cons (List.IsChain.cons hrest fun _ _ hback => absurd hback hc)
          fun d hd _ => by
            obtain rfl : c = d := by simpa using hd
            exact hc

/-- A stretch without such a pair is read as it is, if it can be read at all. -/
theorem eq_of_readDouble {b : Bool} {u v : Text} (h : NoPair (if b then '\\' :: u else u))
    (hv : readDouble b u = some v) : v = if b then '\\' :: u else u := by
  induction u generalizing b v with
  | nil => cases b <;> simp_all [readDouble]
  | cons c cs ih =>
    cases b with
    | false =>
      rw [readDouble] at hv
      by_cases hc : c = '\\'
      · subst hc
        rw [if_pos rfl] at hv
        exact ih (b := true) h hv
      · rw [if_neg hc] at hv
        obtain ⟨w, hw, rfl⟩ := Option.map_eq_some_iff.1 hv
        have hcs : NoPair cs := List.IsChain.tail h
        simp [ih (b := false) hcs hw]
    | true =>
      simp only [if_true] at h ⊢
      have hc : c ≠ '\\' := (List.isChain_cons_cons.1 h).1 rfl
      rw [readDouble, if_neg hc] at hv
      obtain ⟨w, hw, rfl⟩ := Option.map_eq_some_iff.1 hv
      have hcs : NoPair cs := List.IsChain.tail (List.IsChain.tail h)
      simp [ih (b := false) hcs hw]

/-- A stretch that does not end in a backslash can be read. -/
theorem readDouble_isSome {b : Bool} {u : Text} (hne : b = true → u ≠ [])
    (hlast : u.getLast? ≠ some '\\') : (readDouble b u).isSome := by
  induction u generalizing b with
  | nil =>
    cases b with
    | true => exact absurd rfl (hne rfl)
    | false => rfl
  | cons c cs ih =>
    have hl : cs.getLast? ≠ some '\\' := by
      cases cs with
      | nil => simp
      | cons d ds => simpa using hlast
    cases b with
    | false =>
      rw [readDouble]
      by_cases hc : c = '\\'
      · rw [if_pos hc]
        refine ih (fun _ hcs => ?_) hl
        exact hlast (by simp [hcs, hc])
      · rw [if_neg hc, Option.isSome_map]
        exact ih (by simp) hl
    | true =>
      have hrest := ih (b := false) (by simp) hl
      rw [readDouble]
      split_ifs <;> rwa [Option.isSome_map]

theorem noPair_of_not_mem {u : Text} (hu : '\\' ∉ u) : NoPair u := by
  induction u with
  | nil => exact List.isChain_nil
  | cons c cs ih =>
    simp only [List.mem_cons, not_or] at hu
    exact List.IsChain.cons (ih hu.2) fun _ _ hc => absurd hc.symm hu.1

theorem readDouble_of_noPair {u : Text} (h : NoPair u) (hlast : u.getLast? ≠ some '\\') :
    readDouble false u = some u := by
  obtain ⟨v, hv⟩ := Option.isSome_iff_exists.1 (readDouble_isSome (b := false) (by simp) hlast)
  rw [hv, eq_of_readDouble (b := false) h hv]
  rfl

/-- A stretch without such a pair that ends in a backslash ends in an open escape. -/
theorem readDouble_eq_none {b : Bool} {u : Text} (h : NoPair (if b then '\\' :: u else u))
    (hlast : (if b then '\\' :: u else u).getLast? = some '\\') : readDouble b u = none := by
  induction u generalizing b with
  | nil => cases b <;> simp_all [readDouble]
  | cons c cs ih =>
    cases b with
    | false =>
      rw [readDouble]
      by_cases hc : c = '\\'
      · subst hc
        rw [if_pos rfl]
        exact ih (b := true) h hlast
      · have hcs : cs.getLast? = some '\\' := by
          cases cs with
          | nil => simp [hc] at hlast
          | cons d ds => simpa using hlast
        have htail : NoPair cs := List.IsChain.tail h
        rw [if_neg hc, ih (b := false) htail hcs, Option.map_none]
    | true =>
      simp only [if_true] at h hlast
      have hc : c ≠ '\\' := (List.isChain_cons_cons.1 h).1 rfl
      have hcs : cs.getLast? = some '\\' := by
        cases cs with
        | nil => simp [hc] at hlast
        | cons d ds => simpa using hlast
      have htail : NoPair cs := List.IsChain.tail (List.IsChain.tail h)
      rw [readDouble, if_neg hc, ih (b := false) htail hcs, Option.map_none]

/-! ## A double-quoted stretch up to the end -/

theorem not_escape_step {com : Char → Bool} {e : Char} (he : e ≠ '\\') (m : Mode) (tok : Text) :
    (step com e m tok).2.1 ≠ .escWord ∧ (step com e m tok).2.1 ≠ .escQuote := by
  cases m <;> simp only [step] <;> (try split_ifs) <;> simp_all

/-- A text that ends in a `"`, with no backslash before it, loses a `"`. -/
theorem last_quote_lost {com : Char → Bool} (hcom : com '"' = false) {e : Char} (he : e ≠ '\\')
    {y : Text} {m : Mode} {tok : Text} {ws : List Text}
    (h : scan com m tok (y ++ [e, '"']) = some ws) :
    ws.flatten.countP (· == '"') + 1 ≤ tok.countP (· == '"') + (y ++ [e, '"']).countP (· == '"') := by
  have key : ∀ (y : Text) (m : Mode) (tok : Text) (ws : List Text),
      scan com m tok (y ++ [e, '"']) = some ws →
      (ws.flatten.countP (· == '"') : ℤ) + 1
        ≤ tok.countP (· == '"') + (y ++ [e, '"']).countP (· == '"') := by
    intro y
    induction y with
    | nil =>
      intro m tok ws h
      obtain ⟨us, hus, rfl⟩ := scan_cons_some h
      obtain ⟨hw, hq⟩ := @not_escape_step com e he m tok
      have hout := outgo_step_le_of_isQuote com (u := (· == '"')) (by decide) e m tok
      rw [outgo] at hout
      rw [List.flatten_append, List.countP_append, List.nil_append, ← List.singleton_append,
        @List.countP_append _ _ [e], List.countP_singleton (a := '"')]
      -- the last character closes the stretch, or stands in a comment
      have hlost : us.flatten.countP (· == '"') ≤ (step com e m tok).2.2.countP (· == '"') := by
        revert hus
        cases hm' : (step com e m tok).2.1 with
        | gap => simp [scan, step, isSpace, isQuote, hcom, finish]
        | word => simp [scan, step, isSpace, isQuote, hcom, finish]
        | quote x =>
          by_cases hx : '"' = x
          · subst hx
            intro hus
            obtain rfl : us = [(step com e m tok).2.2] := by
              simpa [scan, step, finish] using hus.symm
            simp
          · simp [scan, step, finish, hx]
        | escWord => exact absurd hm' hw
        | escQuote => exact absurd hm' hq
        | comment =>
          intro hus
          obtain rfl : us = [] := by simpa [scan, step, finish] using hus.symm
          simp
      rw [if_pos (by decide)]
      push_cast
      omega
    | cons c cs ih =>
      intro m tok ws h
      rw [List.cons_append] at h
      obtain ⟨us, hus, rfl⟩ := scan_cons_some h
      have h1 := ih _ _ us hus
      have hout := outgo_step_le_of_isQuote com (u := (· == '"')) (by decide) c m tok
      rw [outgo] at hout
      rw [List.flatten_append, List.countP_append, List.cons_append, ← List.singleton_append,
        @List.countP_append _ _ [c]]
      push_cast
      omega
  exact_mod_cast key y m tok ws h

/-- If nothing but the closing quote is lost, the stretch is one word. -/
theorem single_word_of_kept {com : Char → Bool} (hcom : com '"' = false) {e : Char} (he : e ≠ '\\')
    (he' : e ≠ '"') {y : Text} {b : Bool} {t : Text} {ws : List Text}
    (h : scan com (doubleMode b) t (y ++ [e, '"']) = some ws)
    (hkept : t.countP (· == '"') + (y ++ [e, '"']).countP (· == '"')
      ≤ ws.flatten.countP (· == '"') + 1) :
    ∃ w, ws = [t ++ w] := by
  induction y generalizing b t with
  | nil =>
    cases b with
    | false =>
      have hstep : step com e (.quote '"') t = ([], .quote '"', t ++ [e]) := by
        simp [step, he, he']
      rw [doubleMode, if_neg (by simp), List.nil_append, scan_cons_of_step hstep] at h
      exact ⟨[e], by simpa [scan, step, finish] using h.symm⟩
    | true =>
      have hstep : step com e .escQuote t = ([], .quote '"', t ++ ['\\', e]) := by
        simp [step, he, he']
      rw [doubleMode, if_pos rfl, List.nil_append, scan_cons_of_step hstep] at h
      exact ⟨['\\', e], by simpa [scan, step, finish] using h.symm⟩
  | cons c cs ih =>
    rw [List.cons_append] at h hkept
    cases b with
    | false =>
      rw [doubleMode, if_neg (by simp)] at h
      by_cases hc : c = '"'
      · subst hc
        have hstep : step com '"' (.quote '"') t = ([], .word, t) := by simp [step]
        rw [scan_cons_of_step hstep] at h
        have hlost := last_quote_lost hcom he h
        rw [List.countP_cons] at hkept
        simp at hkept hlost
        omega
      · by_cases hb : c = '\\'
        · have hstep : step com c (.quote '"') t = ([], .escQuote, t) := by simp [step, hb]
          rw [scan_cons_of_step hstep] at h
          exact ih (b := true) h (by simpa [List.countP_cons, hc] using hkept)
        · have hstep : step com c (.quote '"') t = ([], .quote '"', t ++ [c]) := by
            simp [step, hc, hb]
          rw [scan_cons_of_step hstep] at h
          obtain ⟨w, hw⟩ := ih (b := false) (t := t ++ [c]) h
            (by simpa [List.countP_cons, hc] using hkept)
          exact ⟨c :: w, by simpa using hw⟩
    | true =>
      rw [doubleMode, if_pos rfl] at h
      by_cases hc : c = '"' ∨ c = '\\'
      · have hstep : step com c .escQuote t = ([], .quote '"', t ++ [c]) := by simp [step, hc]
        rw [scan_cons_of_step hstep] at h
        obtain ⟨w, hw⟩ := ih (b := false) (t := t ++ [c]) h (by
          simp [List.countP_cons] at hkept ⊢
          omega)
        exact ⟨c :: w, by simpa using hw⟩
      · have hstep : step com c .escQuote t = ([], .quote '"', t ++ ['\\', c]) := by
          simp [step, hc]
        rw [scan_cons_of_step hstep] at h
        obtain ⟨w, hw⟩ := ih (b := false) (t := t ++ ['\\', c]) h (by
          simp [List.countP_cons] at hkept ⊢
          omega)
        exact ⟨'\\' :: c :: w, by simpa using hw⟩

end Shlex

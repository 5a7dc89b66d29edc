import Ff5m.Text.Shlex

/-!
# Parameters of a G-code command

The parameters of an extended command are split like a shell line, with `#` and
`;` as comment characters; every word has to be of the form `KEY=value`, keys
are upper-cased, and of two words with one key the later wins.

* `extendedParams` is the parser, `getParam` the look-up;
* `extendedParams_plain`, `extendedParams_double`, `extendedParams_single`: how a
  line that is put together from quoted values is read back;
* `weight_quoted`: what the values of a line can hold at most.
-/

namespace GCode

open TextTools (Text)
open Shlex

/-- The `commenters` of `_get_extended_params`. -/
def isComment (c : Char) : Bool := c == '#' || c == ';'

/-- A character of the names that the macros use for their parameters. -/
def isKeyChar (c : Char) : Bool := c.isUpper || c == '_'

/-- Python's `str.upper`, of which all that matters is that it leaves upper-case
ASCII names alone. -/
structure Upper where
  toUpper : Text → Text
  toUpper_key : ∀ k : Text, k.all isKeyChar = true → toUpper k = k

/-- Upper-casing of ASCII letters. -/
def asciiUpper : Upper where
  toUpper k := k.map Char.toUpper
  toUpper_key k hk := by
    have hc : ∀ c ∈ k, c.toUpper = c := by
      intro c hc
      have hkey := List.all_eq_true.1 hk c hc
      simp only [isKeyChar, Char.isUpper, Bool.or_eq_true, decide_eq_true_eq, beq_iff_eq] at hkey
      have hnot : ¬ ('a'.val ≤ c.val ∧ c.val ≤ 'z'.val) := by
        rintro ⟨hlow, -⟩
        rcases hkey with ⟨-, hhigh⟩ | rfl
        · have h1 : 97 ≤ c.val.toNat := UInt32.le_iff_toNat_le.1 hlow
          have h2 : c.val.toNat ≤ 90 := UInt32.le_iff_toNat_le.1 hhigh
          omega
        · exact absurd hlow (by decide)
      rw [Char.toUpper, dif_neg hnot]
    rw [List.map_congr_left hc, List.map_id']

/-- `earg.split('=', 1)` with the key upper-cased; `none` when there is no `=`. -/
def splitParam (up : Upper) (w : Text) : Option (Text × Text) :=
  if '=' ∈ w then
    some (up.toUpper (w.takeWhile (· ≠ '=')), (w.dropWhile (· ≠ '=')).tail)
  else none

/-- `_get_extended_params`; `none` is the error "Malformed command". -/
def extendedParams (up : Upper) (raw : Text) : Option (List (Text × Text)) :=
  (scan isComment .gap [] raw).bind fun ws => ws.mapM (splitParam up)

/-- The value of a key: later words replace earlier ones. -/
def getParam (ps : List (Text × Text)) (k : Text) : Option Text := ps.reverse.lookup k

/-! ## The values hold nothing new -/

/-- How many characters of the kind `p` the values hold. -/
def weight (p : Char → Bool) (ps : List (Text × Text)) : ℕ := (ps.map fun e => e.2.countP p).sum

theorem countP_splitParam_le {up : Upper} {w : Text} {e : Text × Text} (p : Char → Bool)
    (h : splitParam up w = some e) : e.2.countP p ≤ w.countP p := by
  unfold splitParam at h
  split_ifs at h
  obtain rfl := Option.some.inj h
  exact ((List.tail_sublist _).trans (List.dropWhile_sublist _)).countP_le

theorem weight_mapM_le {up : Upper} (p : Char → Bool) {ws : List Text} {ps : List (Text × Text)}
    (h : ws.mapM (splitParam up) = some ps) : weight p ps ≤ ws.flatten.countP p := by
  induction ws generalizing ps with
  | nil =>
    obtain rfl : ps = [] := by simpa using h.symm
    simp [weight]
  | cons w ws ih =>
    simp only [List.mapM_cons, Option.bind_eq_bind, Option.bind_eq_some_iff] at h
    obtain ⟨e, he, es, hes, hps⟩ := h
    obtain rfl : e :: es = ps := by simpa using hps
    have h1 := countP_splitParam_le p he
    have h2 := ih hes
    rw [List.flatten_cons, List.countP_append]
    simp only [weight, List.map_cons, List.sum_cons] at h2 ⊢
    omega

theorem countP_lookup_le (p : Char → Bool) {ps : List (Text × Text)} {k v : Text}
    (h : ps.lookup k = some v) : v.countP p ≤ weight p ps := by
  induction ps with
  | nil => simp at h
  | cons e es ih =>
    rw [List.lookup_cons] at h
    simp only [weight, List.map_cons, List.sum_cons]
    by_cases hk : k == e.1
    · rw [hk] at h
      obtain rfl := Option.some.inj h
      omega
    · rw [Bool.not_eq_true] at hk
      rw [hk] at h
      have := ih h
      simp only [weight] at this
      omega

/-- Values of two keys stand in different words. -/
theorem countP_lookup_add_le (p : Char → Bool) {ps : List (Text × Text)} {k l v w : Text}
    (hne : k ≠ l) (hv : ps.lookup k = some v) (hw : ps.lookup l = some w) :
    v.countP p + w.countP p ≤ weight p ps := by
  induction ps with
  | nil => simp at hv
  | cons e es ih =>
    rw [List.lookup_cons] at hv hw
    simp only [weight, List.map_cons, List.sum_cons]
    by_cases hk : k == e.1
    · rw [hk] at hv
      obtain rfl := Option.some.inj hv
      have hl : (l == e.1) = false := by
        rw [beq_eq_false_iff_ne]
        rintro rfl
        exact hne (by simpa using hk)
      rw [hl] at hw
      have := countP_lookup_le p hw
      simp only [weight] at this
      omega
    · rw [Bool.not_eq_true] at hk
      rw [hk] at hv
      by_cases hl : l == e.1
      · rw [hl] at hw
        obtain rfl := Option.some.inj hw
        have := countP_lookup_le p hv
        simp only [weight] at this
        omega
      · rw [Bool.not_eq_true] at hl
        rw [hl] at hw
        have := ih hv hw
        simp only [weight] at this
        omega

theorem weight_reverse (p : Char → Bool) (ps : List (Text × Text)) :
    weight p ps.reverse = weight p ps := by
  simp [weight, List.sum_reverse]

theorem countP_getParam_le (p : Char → Bool) {ps : List (Text × Text)} {k v : Text}
    (h : getParam ps k = some v) : v.countP p ≤ weight p ps := by
  rw [← weight_reverse]
  exact countP_lookup_le p h

theorem countP_getParam_add_le (p : Char → Bool) {ps : List (Text × Text)} {k l v w : Text}
    (hne : k ≠ l) (hv : getParam ps k = some v) (hw : getParam ps l = some w) :
    v.countP p + w.countP p ≤ weight p ps := by
  rw [← weight_reverse]
  exact countP_lookup_add_le p hne hv hw

/-! ## Reading a line back -/

theorem splitParam_key (up : Upper) {k : Text} (hk : k.all isKeyChar = true) (v : Text) :
    splitParam up (k ++ '=' :: v) = some (k, v) := by
  have hne : ∀ c ∈ k, (decide (c ≠ '=')) = true := by
    intro c hc
    rw [decide_eq_true_eq]
    rintro rfl
    exact absurd (List.all_eq_true.1 hk _ hc) (by decide)
  have htake : (k ++ '=' :: v).takeWhile (· ≠ '=') = k := by
    rw [List.takeWhile_append_of_pos hne, List.takeWhile_cons_of_neg (by simp), List.append_nil]
  have hdrop : (k ++ '=' :: v).dropWhile (· ≠ '=') = '=' :: v := by
    rw [List.dropWhile_append_of_pos hne, List.dropWhile_cons_of_neg (by simp)]
  rw [splitParam, if_pos (by simp), htake, hdrop, up.toUpper_key k hk, List.tail_cons]

/-- A word that the lexer leaves alone. -/
def plain (u : Text) : Bool := u.all fun c => !isSpecial c && !isComment c

theorem mem_of_plain {u : Text} (hu : plain u = true) :
    ∀ c ∈ u, isSpecial c = false ∧ isComment c = false := by
  simpa [plain] using hu

/-- A plain word and what follows it. -/
theorem scan_plain_space {u : Text} (hne : u ≠ []) (hu : plain u = true) (t : Text) :
    scan isComment .gap [] (u ++ ' ' :: t) = (scan isComment .gap [] t).map (u :: ·) := by
  have hstep : step isComment ' ' .word u = ([u], .gap, []) := by simp [step, isSpace]
  rw [scan_gap_append hne (mem_of_plain hu), scan_cons, hstep]
  rfl

theorem scan_assign_double {k u v : Text} (hne : k ≠ []) (hk : plain k = true) (hu : '"' ∉ u)
    (hv : readDouble false u = some v) (t : Text) :
    scan isComment .gap [] (k ++ '"' :: (u ++ '"' :: t)) = scan isComment .word (k ++ v) t := by
  have hstep : step isComment '"' .word k = ([], .quote '"', k) := by
    simp [step, isSpace, isComment, isQuote]
  rw [scan_gap_append hne (mem_of_plain hk), scan_cons_of_step hstep]
  exact scan_double hu false hv k t

/-- Characters of a key are nothing special to the lexer. -/
theorem plain_key {k : Text} (hk : k.all isKeyChar = true) : plain (k ++ ['=']) = true := by
  have hkey : ∀ c, isKeyChar c = true → (!isSpecial c && !isComment c) = true := by
    intro c hc
    by_contra hs
    simp only [isSpecial, isQuote, isSpace, isComment, Bool.not_eq_true, Bool.and_eq_false_iff,
      Bool.not_eq_false', Bool.or_eq_true, beq_iff_eq] at hs
    rcases hs with (((rfl | rfl) | rfl) | ((rfl | rfl) | rfl) | rfl) | rfl | rfl <;>
      exact absurd hc (by decide)
  rw [plain, List.all_append, Bool.and_eq_true]
  exact ⟨List.all_eq_true.2 fun c hc => hkey c (List.all_eq_true.1 hk c hc), by decide⟩

theorem bind_map_cons {up : Upper} {w : Text} {e : Text × Text} (h : splitParam up w = some e)
    (o : Option (List Text)) :
    ((o.map (w :: ·)).bind fun ws => ws.mapM (splitParam up))
      = (o.bind fun ws => ws.mapM (splitParam up)).map (e :: ·) := by
  cases o with
  | none => rfl
  | some ws =>
    simp only [Option.map_some, Option.bind_some, List.mapM_cons, h, Option.bind_eq_bind]
    cases ws.mapM (splitParam up) <;> rfl

/-- A plain assignment, and the parameters that follow it. -/
theorem extendedParams_plain (up : Upper) {k v : Text} (hk : k.all isKeyChar = true)
    (hv : plain v = true) (t : Text) :
    extendedParams up (k ++ '=' :: v ++ ' ' :: t) = (extendedParams up t).map ((k, v) :: ·) := by
  have hplain : plain (k ++ '=' :: v) = true := by
    rw [show k ++ '=' :: v = (k ++ ['=']) ++ v by simp, plain, List.all_append, Bool.and_eq_true]
    exact ⟨plain_key hk, hv⟩
  unfold extendedParams
  rw [scan_plain_space (by simp) hplain, bind_map_cons (splitParam_key up hk v)]

/-- A double-quoted assignment at the end of the line. -/
theorem extendedParams_double (up : Upper) {k u v : Text} (hk : k.all isKeyChar = true)
    (hu : '"' ∉ u) (hv : readDouble false u = some v) :
    extendedParams up (k ++ '=' :: '"' :: (u ++ ['"'])) = some [(k, v)] := by
  have hscan := scan_assign_double (by simp) (plain_key hk) hu hv []
  rw [List.append_assoc, List.append_assoc] at hscan
  unfold extendedParams
  rw [← List.singleton_append, hscan, scan, finish]
  simp [splitParam_key up hk v]

/-- A double-quoted assignment, and the parameters that follow it. -/
theorem extendedParams_double_cons (up : Upper) {k u v : Text}
    (hk : k.all isKeyChar = true) (hu : '"' ∉ u) (hv : readDouble false u = some v)
    (t : Text) :
    extendedParams up (k ++ '=' :: '"' :: (u ++ '"' :: ' ' :: t))
      = (extendedParams up t).map ((k, v) :: ·) := by
  have hscan := scan_assign_double (by simp) (plain_key hk) hu hv (' ' :: t)
  have hstep : step isComment ' ' .word (k ++ '=' :: v) = ([k ++ '=' :: v], .gap, []) := by
    simp [step, isSpace]
  rw [List.append_assoc, List.append_assoc] at hscan
  unfold extendedParams
  rw [← List.singleton_append, hscan, List.singleton_append, scan_cons, hstep]
  exact bind_map_cons (splitParam_key up hk v) _

/-- A single-quoted assignment at the end of the line. -/
theorem extendedParams_single (up : Upper) {k u : Text} (hk : k.all isKeyChar = true)
    (hu : '\'' ∉ u) :
    extendedParams up (k ++ '=' :: '\'' :: (u ++ ['\''])) = some [(k, u)] := by
  have hstep : step isComment '\'' .word (k ++ ['=']) = ([], .quote '\'', k ++ ['=']) := by
    simp [step, isSpace, isComment, isQuote]
  have hscan : scan isComment .gap [] ((k ++ ['=']) ++ '\'' :: (u ++ '\'' :: []))
      = some [(k ++ ['=']) ++ u] := by
    rw [scan_gap_append (by simp) (mem_of_plain (plain_key hk)), scan_cons_of_step hstep,
      scan_single hu, scan]
    rfl
  rw [List.append_assoc, List.append_assoc] at hscan
  unfold extendedParams
  rw [← List.singleton_append, hscan]
  simp [splitParam_key up hk u]

theorem getParam_cons (k v : Text) (ps : List (Text × Text)) (l : Text) :
    getParam ((k, v) :: ps) l = (getParam ps l).or (if l = k then some v else none) := by
  unfold getParam
  rw [List.reverse_cons, List.lookup_append, List.lookup_cons, List.lookup_nil]
  by_cases hl : l = k
  · simp [hl]
  · simp [hl, beq_eq_false_iff_ne.2 hl]

/-! ## A line that begins with a quoted value -/

/-- A kind of characters that no key holds. -/
def OffKey (p : Char → Bool) : Prop := ∀ c, p c = true → isKeyChar c = false ∧ c ≠ '='

theorem countP_key {p : Char → Bool} (hp : OffKey p) {k : Text} (hk : k.all isKeyChar = true) :
    (k ++ ['=']).countP p = 0 := by
  rw [List.countP_eq_zero]
  intro c hc hpc
  obtain ⟨hkey, heq⟩ := hp c hpc
  rcases List.mem_append.1 hc with hc | hc
  · rw [List.all_eq_true.1 hk c hc] at hkey
    exact absurd hkey (by decide)
  · exact heq (List.mem_singleton.1 hc)

/-- The words of such a line are read from inside the quotes on. -/
theorem scan_of_extendedParams {up : Upper} {q : Char} (hq : isQuote q = true) {k x : Text}
    (hk : k.all isKeyChar = true) {ps : List (Text × Text)}
    (hps : extendedParams up (k ++ '=' :: q :: x) = some ps) :
    ∃ ws, scan isComment (.quote q) (k ++ ['=']) x = some ws ∧ ws.mapM (splitParam up) = some ps := by
  obtain ⟨ws, hws, hmap⟩ := Option.bind_eq_some_iff.1 hps
  have hspace : isSpace q = false ∧ isComment q = false := by
    simp only [isQuote, Bool.or_eq_true, beq_iff_eq] at hq
    rcases hq with rfl | rfl <;> decide
  have hstep : step isComment q .word (k ++ ['=']) = ([], .quote q, k ++ ['=']) := by
    simp [step, hspace, hq]
  have hsplit : k ++ '=' :: q :: x = (k ++ ['=']) ++ q :: x := by simp
  rw [hsplit, scan_gap_append (by simp) (mem_of_plain (plain_key hk)), scan_cons_of_step hstep] at hws
  exact ⟨ws, hws, hmap⟩

/-- The key of such a line has a value. -/
theorem getParam_isSome {up : Upper} {q : Char} (hq : isQuote q = true) {k x : Text}
    (hk : k.all isKeyChar = true) {ps : List (Text × Text)}
    (hps : extendedParams up (k ++ '=' :: q :: x) = some ps) : (getParam ps k).isSome := by
  obtain ⟨ws, hws, hmap⟩ := scan_of_extendedParams hq hk hps
  obtain ⟨w, rest, rfl⟩ := scan_starts hws (by simp)
  have hword : k ++ ['='] ++ w = k ++ '=' :: w := by simp
  simp only [List.mapM_cons, Option.bind_eq_bind, Option.bind_eq_some_iff, hword,
    splitParam_key up hk] at hmap
  obtain ⟨e, he, es, _, hps⟩ := hmap
  obtain rfl : (k, w) = e := by simpa using he
  obtain rfl : (k, w) :: es = ps := by simpa using hps
  rw [getParam_cons, if_pos rfl]
  cases getParam es k <;> rfl

/-- What the values of such a line can hold: the closing quote is lost, nothing
is added, and as long as the other quotes are kept, a kept quote or backslash
costs a backslash. -/
theorem weight_quoted {up : Upper} {q r : Char} (hq : isQuote q = true) (hr : isQuote r = true)
    (hqr : ∀ c, isQuote c = true → c = q ∨ c = r) {k x : Text} (hk : k.all isKeyChar = true)
    {ps : List (Text × Text)} (hps : extendedParams up (k ++ '=' :: q :: x) = some ps) :
    weight (· == q) ps + 1 ≤ x.countP (· == q) ∧
      (∀ p, OffKey p → weight p ps ≤ x.countP p) ∧
      (x.countP (· == r) ≤ weight (· == r) ps →
        weight (fun c => c == q || c == '\\') ps ≤ x.countP (· == '\\')) := by
  obtain ⟨ws, hws, hmap⟩ := scan_of_extendedParams hq hk hps
  have hweight : ∀ p, weight p ps ≤ ws.flatten.countP p := fun p => weight_mapM_le p hmap
  have hquote : ∀ c, isQuote c = true → OffKey (· == c) := by
    intro c hc d hd
    obtain rfl := beq_iff_eq.1 hd
    simp only [isQuote, Bool.or_eq_true, beq_iff_eq] at hc
    rcases hc with rfl | rfl <;> decide
  refine ⟨?_, fun p hp => ?_, fun hkept => ?_⟩
  · have h1 := closing_lost hq hws
    have h2 := hweight (· == q)
    rw [countP_key (hquote q hq) hk] at h1
    omega
  · have h1 := countP_flatten_le p hws (by simp)
    have h2 := hweight p
    rw [countP_key hp hk] at h1
    omega
  · have hkeep : (k ++ ['=']).countP (· == r) + x.countP (· == r) ≤ ws.flatten.countP (· == r) := by
      have := hweight (· == r)
      rw [countP_key (hquote r hr) hk]
      omega
    have hback : OffKey fun c => c == q || c == '\\' := by
      intro c hc
      rcases Bool.or_eq_true_iff.1 hc with hc | hc
      · exact hquote q hq c hc
      · obtain rfl := beq_iff_eq.1 hc
        decide
    have h1 := quotes_cost_backslash hq hr hqr hws (by simp [Mode.Only]) hkeep
    have h2 := hweight fun c => c == q || c == '\\'
    have hcredit : (Mode.quote q).credit = 0 := by simp [Mode.credit]
    rw [countP_key hback hk, hcredit] at h1
    omega

end GCode

import Ff5m.Text.Lines

/-!
# JSON texts

The grammar of JSON as a relation between a text and the value it is the text of.

* `IsDocument`: a text that is one value, with white space around it;
* `document_object_ends`: the text of an object ends in a brace;
* `chars_of_plain`: a text without quotes, backslashes and control characters stands for
  itself.
-/

namespace Json

open TextTools (Text str)

/-- A value.  A number is kept as it is written. -/
inductive Value where
  | null
  | bool (b : Bool)
  | number (t : Text)
  | string (t : Text)
  | array (vs : List Value)
  | object (ms : List (Text × Value))

/-! ## White space, strings and numbers -/

/-- White space. -/
def Ws (t : Text) : Prop := ∀ c ∈ t, c = ' ' ∨ c = '\t' ∨ c = '\n' ∨ c = '\r'

/-- The character that an escape of two characters stands for. -/
def escaped : Char → Option Char
  | '"' => some '"'
  | '\\' => some '\\'
  | '/' => some '/'
  | 'b' => some '\x08'
  | 'f' => some '\x0c'
  | 'n' => some '\n'
  | 'r' => some '\r'
  | 't' => some '\t'
  | _ => none

/-- The value of a hexadecimal digit. -/
def hexDigit (c : Char) : Option ℕ :=
  if '0' ≤ c ∧ c ≤ '9' then some (c.toNat - '0'.toNat)
  else if 'a' ≤ c ∧ c ≤ 'f' then some (c.toNat - 'a'.toNat + 10)
  else if 'A' ≤ c ∧ c ≤ 'F' then some (c.toNat - 'A'.toNat + 10)
  else none

/-- The value of four hexadecimal digits. -/
def hex4 (a b c d : Char) : Option ℕ := do
  let a ← hexDigit a
  let b ← hexDigit b
  let c ← hexDigit c
  let d ← hexDigit d
  return ((a * 16 + b) * 16 + c) * 16 + d

/-- The text between the quotes of a string, and the string. -/
inductive Chars : Text → Text → Prop
  | nil : Chars [] []
  | plain {c : Char} {t s : Text} : c ≠ '"' → c ≠ '\\' → 32 ≤ c.toNat → Chars t s →
      Chars (c :: t) (c :: s)
  | escape {c d : Char} {t s : Text} : escaped c = some d → Chars t s →
      Chars ('\\' :: c :: t) (d :: s)
  | unicode {a b c d : Char} {n : ℕ} {t s : Text} : hex4 a b c d = some n →
      n < 0xD800 ∨ 0xDFFF < n → Chars t s →
      Chars ('\\' :: 'u' :: a :: b :: c :: d :: t) (Char.ofNat n :: s)
  | pair {a b c d a' b' c' d' : Char} {m n : ℕ} {t s : Text} : hex4 a b c d = some m →
      hex4 a' b' c' d' = some n → 0xD800 ≤ m → m ≤ 0xDBFF → 0xDC00 ≤ n → n ≤ 0xDFFF → Chars t s →
      Chars ('\\' :: 'u' :: a :: b :: c :: d :: '\\' :: 'u' :: a' :: b' :: c' :: d' :: t)
        (Char.ofNat (0x10000 + (m - 0xD800) * 0x400 + (n - 0xDC00)) :: s)

/-- One digit or more. -/
def Digits (t : Text) : Prop := t ≠ [] ∧ ∀ c ∈ t, c.isDigit

/-- A number: sign, integer without a leading zero, fraction, exponent. -/
def Number (t : Text) : Prop :=
  ∃ sign int frac exp, t = sign ++ int ++ frac ++ exp ∧ (sign = [] ∨ sign = ['-']) ∧
    (int = ['0'] ∨ Digits int ∧ int.head? ≠ some '0') ∧
    (frac = [] ∨ ∃ ds, frac = '.' :: ds ∧ Digits ds) ∧
    (exp = [] ∨ ∃ e s ds, exp = e :: s ++ ds ∧ (e = 'e' ∨ e = 'E') ∧
      (s = [] ∨ s = ['+'] ∨ s = ['-']) ∧ Digits ds)

/-! ## Values -/

mutual

/-- The text of a value. -/
inductive IsValue : Text → Value → Prop
  | null : IsValue (str "null") .null
  | true : IsValue (str "true") (.bool true)
  | false : IsValue (str "false") (.bool false)
  | number {t : Text} : Number t → IsValue t (.number t)
  | string {t s : Text} : Chars t s → IsValue ('"' :: t ++ ['"']) (.string s)
  | emptyArray {w : Text} : Ws w → IsValue ('[' :: w ++ [']']) (.array [])
  | array {t : Text} {vs : List Value} : Elements t vs → IsValue ('[' :: t ++ [']']) (.array vs)
  | emptyObject {w : Text} : Ws w → IsValue ('\x7b' :: w ++ ['\x7d']) (.object [])
  | object {t : Text} {ms : List (Text × Value)} : Members t ms →
      IsValue ('\x7b' :: t ++ ['\x7d']) (.object ms)

/-- The text of the elements of an array. -/
inductive Elements : Text → List Value → Prop
  | one {w t w' : Text} {v : Value} : Ws w → IsValue t v → Ws w' → Elements (w ++ t ++ w') [v]
  | cons {w t w' u : Text} {v : Value} {vs : List Value} : Ws w → IsValue t v → Ws w' →
      Elements u vs → Elements (w ++ t ++ w' ++ ',' :: u) (v :: vs)

/-- The text of the members of an object. -/
inductive Members : Text → List (Text × Value) → Prop
  | one {w k key w' w'' t w''' : Text} {v : Value} : Ws w → Chars k key → Ws w' → Ws w'' →
      IsValue t v → Ws w''' →
      Members (w ++ '"' :: k ++ '"' :: w' ++ ':' :: w'' ++ t ++ w''') [(key, v)]
  | cons {w k key w' w'' t w''' u : Text} {v : Value} {ms : List (Text × Value)} : Ws w →
      Chars k key → Ws w' → Ws w'' → IsValue t v → Ws w''' → Members u ms →
      Members (w ++ '"' :: k ++ '"' :: w' ++ ':' :: w'' ++ t ++ w''' ++ ',' :: u) ((key, v) :: ms)

end

/-- The text is that of one value, with white space around it. -/
def IsDocument (t : Text) (v : Value) : Prop :=
  ∃ w u w', t = w ++ u ++ w' ∧ Ws w ∧ IsValue u v ∧ Ws w'

/-! ## Ends of texts -/

theorem ws_nil : Ws [] := by
  intro c hc
  exact absurd hc (List.not_mem_nil)

/-- The text of an object ends in a brace. -/
theorem document_object_ends {t : Text} {ms : List (Text × Value)} (h : IsDocument t (.object ms)) :
    ∃ u w, t = u ++ '\x7d' :: w ∧ Ws w := by
  obtain ⟨w, u, w', rfl, -, hu, hw'⟩ := h
  cases hu with
  | @emptyObject x _ => exact ⟨w ++ '\x7b' :: x, w', by simp, hw'⟩
  | @object x _ _ => exact ⟨w ++ '\x7b' :: x, w', by simp, hw'⟩

/-- A text that ends in another character is not the text of an object. -/
theorem not_document_of_last {t : Text} {c : Char} (hc : c ≠ '\x7d') (hws : ¬ Ws [c])
    (ms : List (Text × Value)) : ¬ IsDocument (t ++ [c]) (.object ms) := by
  intro h
  obtain ⟨u, w, heq, hw⟩ := document_object_ends h
  rcases List.eq_nil_or_concat w with rfl | ⟨v, d, rfl⟩
  · have hlast := congrArg List.getLast? heq
    simp only [List.getLast?_append, List.getLast?_singleton, Option.some_or, Option.some.injEq] at hlast
    exact hc hlast
  · have hsplit : t ++ [c] = (u ++ '\x7d' :: v) ++ [d] := by simpa using heq
    have hd : c = d := List.singleton_inj.1 (List.append_inj' hsplit rfl).2
    apply hws
    intro x hx
    obtain rfl := List.mem_singleton.1 hx
    exact hw x (by simp [hd])

/-! ## Plain strings -/

/-- No quotes, backslashes and control characters. -/
def Plain (t : Text) : Prop := ∀ c ∈ t, c ≠ '"' ∧ c ≠ '\\' ∧ 32 ≤ c.toNat

instance (t : Text) : Decidable (Plain t) :=
  inferInstanceAs (Decidable (∀ c ∈ t, c ≠ '"' ∧ c ≠ '\\' ∧ 32 ≤ c.toNat))

/-- A plain text stands for itself. -/
theorem chars_of_plain {t : Text} (h : Plain t) : Chars t t := by
  induction t with
  | nil => exact .nil
  | cons c t ih =>
    obtain ⟨hquote, hslash, hcontrol⟩ := h c (by simp)
    exact .plain hquote hslash hcontrol (ih fun d hd => h d (by simp [hd]))

/-- A member, written without white space, in front of others. -/
theorem members_cons {k t u : Text} {v : Value} {ms : List (Text × Value)} (hk : Plain k)
    (ht : IsValue t v) (hu : Members u ms) :
    Members ('"' :: k ++ '"' :: ':' :: t ++ ',' :: u) ((k, v) :: ms) := by
  simpa using Members.cons ws_nil (chars_of_plain hk) ws_nil ws_nil ht ws_nil hu

/-- A single member. -/
theorem members_one {k t : Text} {v : Value} (hk : Plain k) (ht : IsValue t v) :
    Members ('"' :: k ++ '"' :: ':' :: t) [(k, v)] := by
  simpa using Members.one ws_nil (chars_of_plain hk) ws_nil ws_nil ht ws_nil

end Json

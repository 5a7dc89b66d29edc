import Mathlib.Data.Nat.Bitwise
import Mathlib.Data.Int.Bitwise
import Mathlib.Tactic.IntervalCases

/-!
# Integers on the wire

The variable length quantities of `msgproto.py`, which builds the commands of the host, and
of `msgblock.c`, which builds those of the step queues and reads the trigger messages.

* `parse_encode`: an integer that has been encoded is read back, wherever it stands;
* `parseInt_eq_parse`: the reader in C agrees with the one in Python on all bytes;
* `parse_encodeInt`: so the integers that C writes are read back as well.
-/

namespace Link

/-- What goes over the wire. -/
abbrev Bytes := List UInt8

/-! ## `msgproto.py` -/

/-- `v & 0x7f`. -/
def low7 (v : ℤ) : UInt8 := UInt8.ofNat (v % 128).toNat

/-- `v & 0x7f | 0x80`. -/
def more7 (v : ℤ) : UInt8 := low7 v ||| 0x80

/-- `PT_uint32.encode`. -/
def encode (v : ℤ) : Bytes :=
  (if v ≥ 0xc000000 ∨ v < -0x4000000 then [more7 (v >>> (28 : ℕ))] else []) ++
  (if v ≥ 0x180000 ∨ v < -0x80000 then [more7 (v >>> (21 : ℕ))] else []) ++
  (if v ≥ 0x3000 ∨ v < -0x1000 then [more7 (v >>> (14 : ℕ))] else []) ++
  (if v ≥ 0x60 ∨ v < -0x20 then [more7 (v >>> (7 : ℕ))] else []) ++ [low7 v]

/-- The first byte of `PT_uint32.parse`: `v |= -0x20` keeps the five lowest bits. -/
def first (c : UInt8) : ℤ :=
  let v : ℤ := (c &&& 0x7f).toNat
  if c &&& 0x60 = 0x60 then v % 32 - 32 else v

/-- The loop of `PT_uint32.parse`, on what follows `pos`. -/
def parseMore : Bytes → ℤ → ℕ → Option (ℤ × ℕ)
  | [], _, _ => none
  | c :: s, v, pos =>
    let v := v * 2 ^ 7 + (c &&& 0x7f).toNat
    if c &&& 0x80 ≠ 0 then parseMore s v (pos + 1) else some (v, pos + 1)

/-- `PT_uint32.parse`, before the sign is taken away; the result ends behind the integer. -/
def parse (s : Bytes) (pos : ℕ) : Option (ℤ × ℕ) :=
  match s.drop pos with
  | [] => none
  | c :: s => if c &&& 0x80 ≠ 0 then parseMore s (first c) (pos + 1) else some (first c, pos + 1)

/-! ## `msgblock.c` -/

/-- The value of an `int32_t`. -/
def signed (v : UInt32) : ℤ := if v.toNat < 2 ^ 31 then v.toNat else (v.toNat : ℤ) - 2 ^ 32

/-- `encode_int`: the labels `f1` to `f4` are the bytes that are left out. -/
def encodeInt (v : UInt32) : Bytes :=
  let sv := signed v
  let f4 := [(v &&& 0x7f).toUInt8]
  if sv < 3 * 2 ^ 5 ∧ sv ≥ -(2 ^ 5) then f4
  else
    let f3 := (((v >>> 7) &&& 0x7f) ||| 0x80).toUInt8 :: f4
    if sv < 3 * 2 ^ 12 ∧ sv ≥ -(2 ^ 12) then f3
    else
      let f2 := (((v >>> 14) &&& 0x7f) ||| 0x80).toUInt8 :: f3
      if sv < 3 * 2 ^ 19 ∧ sv ≥ -(2 ^ 19) then f2
      else
        let f1 := (((v >>> 21) &&& 0x7f) ||| 0x80).toUInt8 :: f2
        if sv < 3 * 2 ^ 26 ∧ sv ≥ -(2 ^ 26) then f1
        else ((v >>> 28) ||| 0x80).toUInt8 :: f1

/-- The loop of `parse_int`; the pointer stays in front of what is left. -/
def parseIntMore : Bytes → UInt32 → Option (UInt32 × Bytes)
  | [], _ => none
  | c :: s, v =>
    let v := (v <<< 7) ||| (c &&& 0x7f).toUInt32
    if c &&& 0x80 ≠ 0 then parseIntMore s v else some (v, s)

/-- `parse_int`. -/
def parseInt : Bytes → Option (UInt32 × Bytes)
  | [] => none
  | c :: s =>
    let v := (c &&& 0x7f).toUInt32
    let v := if c &&& 0x60 = 0x60 then v ||| 0xffffffe0 else v
    if c &&& 0x80 ≠ 0 then parseIntMore s v else some (v, s)

/-! ## One byte -/

theorem low7_and (v : ℤ) : ((low7 v &&& 0x7f).toNat : ℤ) = v % 128 ∧ low7 v &&& 0x80 = 0 := by
  have hbyte : ∀ n < 128, (UInt8.ofNat n &&& 0x7f).toNat = n ∧ UInt8.ofNat n &&& 0x80 = 0 := by decide
  obtain ⟨hlow, hlast⟩ := hbyte (v % 128).toNat (by omega)
  exact ⟨by unfold low7; omega, hlast⟩

theorem more7_and (v : ℤ) : ((more7 v &&& 0x7f).toNat : ℤ) = v % 128 ∧ more7 v &&& 0x80 ≠ 0 := by
  have hbyte : ∀ n < 128, ((UInt8.ofNat n ||| 0x80) &&& 0x7f).toNat = n ∧ (UInt8.ofNat n ||| 0x80) &&& 0x80 ≠ 0 := by
    decide
  obtain ⟨hlow, hmore⟩ := hbyte (v % 128).toNat (by omega)
  exact ⟨by unfold more7 low7; omega, hmore⟩

/-- The first byte tells the sign. -/
theorem first_spelt {v : ℤ} (hlow : -32 ≤ v) (hhigh : v < 96) : first (low7 v) = v ∧ first (more7 v) = v := by
  have hbyte : ∀ n < 128, first (UInt8.ofNat n) = (if n < 96 then (n : ℤ) else n - 128) ∧
      first (UInt8.ofNat n ||| 0x80) = (if n < 96 then (n : ℤ) else n - 128) := by
    decide
  obtain ⟨h₁, h₂⟩ := hbyte (v % 128).toNat (by omega)
  unfold more7 low7
  rw [h₁, h₂]
  constructor <;> split_ifs <;> omega

/-! ## An integer and its bytes -/

/-- `v` in `n + 1` bytes. -/
def spell (v : ℤ) : ℕ → Bytes
  | 0 => [low7 v]
  | n + 1 => more7 (v >>> (7 * (n + 1))) :: spell v n

theorem length_spell (v : ℤ) (n : ℕ) : (spell v n).length = n + 1 := by
  induction n with
  | zero => rfl
  | succ n ih => rw [spell, List.length_cons, ih]

/-- Seven more bits. -/
theorem shift_step (v : ℤ) (k : ℕ) : (v >>> (k + 7)) * 2 ^ 7 + v >>> k % 128 = v >>> k := by
  have hdiv : v >>> (k + 7) = v >>> k / 128 := by rw [Int.shiftRight_add, Int.shiftRight_eq_div_pow _ 7]; norm_num
  rw [hdiv]
  omega

theorem parseMore_spell (v : ℤ) (n : ℕ) (rest : Bytes) (pos : ℕ) :
    parseMore (spell v n ++ rest) (v >>> (7 * (n + 1))) pos = some (v, pos + n + 1) := by
  induction n generalizing pos with
  | zero =>
    obtain ⟨hlow, hlast⟩ := low7_and v
    have hstep := shift_step v 0
    simp only [spell, List.singleton_append, parseMore, hlow, hlast, ne_eq, not_true_eq_false, if_false]
    simpa using hstep
  | succ n ih =>
    obtain ⟨hlow, hmore⟩ := more7_and (v >>> (7 * (n + 1)))
    have hstep := shift_step v (7 * (n + 1))
    rw [spell, List.cons_append, parseMore, hlow, if_pos hmore, show 7 * (n + 1 + 1) = 7 * (n + 1) + 7 from rfl, hstep,
      ih]
    congr 2
    omega

/-- What has been spelt in enough bytes is read back. -/
theorem parse_spell {v : ℤ} {n : ℕ} (hlow : -32 ≤ v >>> (7 * n)) (hhigh : v >>> (7 * n) < 96) (front rest : Bytes) :
    parse (front ++ (spell v n ++ rest)) front.length = some (v, front.length + (n + 1)) := by
  obtain ⟨hfirst, hfirst'⟩ := first_spelt hlow hhigh
  unfold parse
  rw [List.drop_left]
  cases n with
  | zero =>
    simp only [Nat.mul_zero, Int.shiftRight_zero] at hfirst
    simp [spell, (low7_and v).2, hfirst]
  | succ n =>
    have hmore := (more7_and (v >>> (7 * (n + 1)))).2
    simp only [spell, List.cons_append, hfirst', if_pos hmore]
    rw [parseMore_spell]
    congr 2
    omega

/-- The number of bytes. -/
theorem encode_eq_spell {v : ℤ} (hlow : -2 ^ 31 ≤ v) (hhigh : v < 2 ^ 32) :
    ∃ n, encode v = spell v n ∧ -32 ≤ v >>> (7 * n) ∧ v >>> (7 * n) < 96 := by
  unfold encode
  by_cases h₁ : v ≥ 0x60 ∨ v < -0x20
  · by_cases h₂ : v ≥ 0x3000 ∨ v < -0x1000
    · by_cases h₃ : v ≥ 0x180000 ∨ v < -0x80000
      · by_cases h₄ : v ≥ 0xc000000 ∨ v < -0x4000000
        · refine ⟨4, ?_, ?_⟩
          · rw [if_pos h₁, if_pos h₂, if_pos h₃, if_pos h₄]
            rfl
          · rw [Int.shiftRight_eq_div_pow]
            norm_num
            omega
        · refine ⟨3, ?_, ?_⟩
          · rw [if_pos h₁, if_pos h₂, if_pos h₃, if_neg h₄]
            rfl
          · rw [Int.shiftRight_eq_div_pow]
            norm_num
            omega
      · refine ⟨2, ?_, ?_⟩
        · rw [if_pos h₁, if_pos h₂, if_neg h₃, if_neg (by omega)]
          rfl
        · rw [Int.shiftRight_eq_div_pow]
          norm_num
          omega
    · refine ⟨1, ?_, ?_⟩
      · rw [if_pos h₁, if_neg h₂, if_neg (by omega), if_neg (by omega)]
        rfl
      · rw [Int.shiftRight_eq_div_pow]
        norm_num
        omega
  · refine ⟨0, ?_, ?_⟩
    · rw [if_neg h₁, if_neg (by omega), if_neg (by omega), if_neg (by omega)]
      rfl
    · rw [Nat.mul_zero, Int.shiftRight_zero]
      omega

/-- An integer is read back, wherever it stands. -/
theorem parse_encode {v : ℤ} (hlow : -2 ^ 31 ≤ v) (hhigh : v < 2 ^ 32) (front rest : Bytes) :
    parse (front ++ (encode v ++ rest)) front.length = some (v, front.length + (encode v).length) := by
  obtain ⟨n, hencode, hrange⟩ := encode_eq_spell hlow hhigh
  rw [hencode, length_spell]
  exact parse_spell hrange.1 hrange.2 front rest

/-! ## The two readers -/

/-- A word takes in one more byte. -/
theorem ofInt_step (v : ℤ) (c : UInt8) :
    (UInt32.ofInt v <<< 7) ||| (c &&& 0x7f).toUInt32 = UInt32.ofInt (v * 2 ^ 7 + (c &&& 0x7f).toNat) := by
  have hlow : (c &&& 0x7f).toNat < 2 ^ 7 := by
    rw [UInt8.toNat_and]
    exact Nat.and_lt_two_pow _ (by decide)
  have hword : (UInt32.ofInt v <<< 7).toNat = 2 ^ 7 * ((v % 2 ^ 32).toNat % 2 ^ 25) := by
    rw [UInt32.toNat_shiftLeft, UInt32.ofInt, UInt32.toNat_ofNat', Nat.shiftLeft_eq]
    simp only [UInt32.reduceToNat, Nat.reduceMod, Nat.reducePow]
    omega
  apply UInt32.toNat_inj.1
  rw [UInt32.toNat_or, hword, UInt8.toNat_toUInt32, ← Nat.two_pow_add_eq_or_of_lt hlow, UInt32.ofInt,
    UInt32.toNat_ofNat']
  omega

theorem ofInt_first (c : UInt8) : UInt32.ofInt (first c) =
    if c &&& 0x60 = 0x60 then (c &&& 0x7f).toUInt32 ||| 0xffffffe0 else (c &&& 0x7f).toUInt32 := by
  have hbyte : ∀ n < 256, UInt32.ofInt (first (UInt8.ofNat n)) =
      if UInt8.ofNat n &&& 0x60 = 0x60 then (UInt8.ofNat n &&& 0x7f).toUInt32 ||| 0xffffffe0
      else (UInt8.ofNat n &&& 0x7f).toUInt32 := by
    decide +kernel
  simpa using hbyte c.toNat c.toNat_lt

theorem parseMore_lt {s : Bytes} {v : ℤ} {pos : ℕ} {r : ℤ × ℕ} (h : parseMore s v pos = some r) : pos < r.2 := by
  induction s generalizing v pos with
  | nil => cases h
  | cons c s ih =>
    rw [parseMore] at h
    split_ifs at h
    · exact (Nat.lt_succ_self pos).trans (ih h)
    · obtain rfl := Option.some.inj h
      exact Nat.lt_succ_self pos

theorem parseIntMore_eq (s : Bytes) (v : ℤ) (pos : ℕ) : parseIntMore s (UInt32.ofInt v) =
    (parseMore s v pos).map fun r => (UInt32.ofInt r.1, s.drop (r.2 - pos)) := by
  induction s generalizing v pos with
  | nil => rfl
  | cons c s ih =>
    rw [parseIntMore, parseMore, ofInt_step]
    split_ifs with hmore
    · rw [ih _ (pos + 1)]
      cases hr : parseMore s (v * 2 ^ 7 + (c &&& 0x7f).toNat) (pos + 1) with
      | none => rfl
      | some r =>
        have hlt := parseMore_lt hr
        have hdrop : r.2 - pos = r.2 - (pos + 1) + 1 := by omega
        simp only [Option.map_some, hdrop, List.drop_succ_cons]
    · simp

/-- The two readers agree. -/
theorem parseInt_eq_parse (s : Bytes) :
    parseInt s = (parse s 0).map fun r => (UInt32.ofInt r.1, s.drop r.2) := by
  cases s with
  | nil => rfl
  | cons c s =>
    simp only [parseInt, parse, List.drop_zero, ← ofInt_first]
    split_ifs with hmore
    · rw [parseIntMore_eq s _ 1]
      cases hr : parseMore s (first c) 1 with
      | none => rfl
      | some r =>
        have hlt := parseMore_lt hr
        have hdrop : r.2 = r.2 - 1 + 1 := by omega
        rw [Option.map_some, Option.map_some, hdrop, List.drop_succ_cons]
        rfl
    · rfl

/-! ## What C writes -/

/-- A byte of a word, but for the first of five. -/
theorem byte_spelt {v : UInt32} {w : ℤ} (hw : UInt32.ofInt w = v) (shift : UInt32) (n : ℕ) (hn : n ≤ 3)
    (hshift : shift.toNat = 7 * n) :
    ((v >>> shift) &&& 0x7f).toUInt8 = low7 (w >>> (7 * n)) := by
  have hv : v.toNat = (w % 2 ^ 32).toNat := by
    rw [← hw, UInt32.ofInt, UInt32.toNat_ofNat']
    omega
  have hmask : (0x7f : UInt32).toNat = 2 ^ 7 - 1 := rfl
  apply UInt8.toNat_inj.1
  rw [UInt32.toNat_toUInt8, UInt32.toNat_and, hmask, Nat.and_two_pow_sub_one_eq_mod, UInt32.toNat_shiftRight, hshift,
    hv, Nat.shiftRight_eq_div_pow, low7, UInt8.toNat_ofNat', Int.shiftRight_eq_div_pow]
  interval_cases n <;> norm_num <;> omega

theorem byte_spelt_more {v : UInt32} {w : ℤ} (hw : UInt32.ofInt w = v) (shift : UInt32) (n : ℕ) (hn : n ≤ 3)
    (hshift : shift.toNat = 7 * n) :
    (((v >>> shift) &&& 0x7f) ||| 0x80).toUInt8 = more7 (w >>> (7 * n)) := by
  rw [UInt32.toUInt8_or, byte_spelt hw shift n hn hshift]
  rfl

theorem ofInt_signed (v : UInt32) : UInt32.ofInt (signed v) = v := by
  have hlt := v.toNat_lt
  apply UInt32.toNat_inj.1
  rw [UInt32.ofInt, UInt32.toNat_ofNat', signed]
  split_ifs <;> omega

theorem ofInt_toNat (v : UInt32) : UInt32.ofInt v.toNat = v := by
  have hlt := v.toNat_lt
  apply UInt32.toNat_inj.1
  rw [UInt32.ofInt, UInt32.toNat_ofNat']
  omega

/-- The first of five bytes has no room for the sign. -/
theorem byte_spelt_first (v : UInt32) : ((v >>> 28) ||| 0x80).toUInt8 = more7 ((v.toNat : ℤ) >>> (28 : ℕ)) := by
  have hlt := v.toNat_lt
  have hshift : (v >>> 28).toUInt8 = low7 ((v.toNat : ℤ) >>> (28 : ℕ)) := by
    have h28 : UInt32.toNat 28 % 32 = 28 := rfl
    apply UInt8.toNat_inj.1
    rw [UInt32.toNat_toUInt8, UInt32.toNat_shiftRight, h28, low7, UInt8.toNat_ofNat', Int.shiftRight_eq_div_pow,
      Nat.shiftRight_eq_div_pow]
    norm_num
    omega
  rw [UInt32.toUInt8_or, hshift]
  rfl

/-- A word is written as one of the integers that stand for it. -/
theorem encodeInt_eq_spell (v : UInt32) : ∃ w n, UInt32.ofInt w = v ∧ encodeInt v = spell w n ∧
    -32 ≤ w >>> (7 * n) ∧ w >>> (7 * n) < 96 := by
  have hlow : (v &&& 0x7f).toUInt8 = low7 (signed v) := by
    have h := byte_spelt (ofInt_signed v) 0 0 (by decide) rfl
    simpa using h
  have h₁ := byte_spelt_more (ofInt_signed v) 7 1 (by decide) rfl
  have h₂ := byte_spelt_more (ofInt_signed v) 14 2 (by decide) rfl
  have h₃ := byte_spelt_more (ofInt_signed v) 21 3 (by decide) rfl
  unfold encodeInt
  simp only
  split_ifs with h4 h3 h2 h1
  · refine ⟨signed v, 0, ofInt_signed v, congrArg (fun b => [b]) hlow, ?_⟩
    rw [Nat.mul_zero, Int.shiftRight_zero]
    omega
  · refine ⟨signed v, 1, ofInt_signed v, ?_, ?_⟩
    · rw [hlow, h₁]
      rfl
    · rw [Int.shiftRight_eq_div_pow]
      norm_num at h3 ⊢
      omega
  · refine ⟨signed v, 2, ofInt_signed v, ?_, ?_⟩
    · rw [hlow, h₁, h₂]
      rfl
    · rw [Int.shiftRight_eq_div_pow]
      norm_num at h2 ⊢
      omega
  · refine ⟨signed v, 3, ofInt_signed v, ?_, ?_⟩
    · rw [hlow, h₁, h₂, h₃]
      rfl
    · rw [Int.shiftRight_eq_div_pow]
      norm_num at h1 ⊢
      omega
  · have hlt := v.toNat_lt
    have hlow' : (v &&& 0x7f).toUInt8 = low7 v.toNat := by
      have h := byte_spelt (ofInt_toNat v) 0 0 (by decide) rfl
      simpa using h
    refine ⟨v.toNat, 4, ofInt_toNat v, ?_, ?_⟩
    · rw [hlow', byte_spelt_more (ofInt_toNat v) 7 1 (by decide) rfl,
        byte_spelt_more (ofInt_toNat v) 14 2 (by decide) rfl,
        byte_spelt_more (ofInt_toNat v) 21 3 (by decide) rfl, byte_spelt_first]
      rfl
    · rw [Int.shiftRight_eq_div_pow]
      norm_num
      omega

/-- What C writes, Python reads. -/
theorem parse_encodeInt (v : UInt32) (front rest : Bytes) :
    ∃ w, UInt32.ofInt w = v ∧ parse (front ++ (encodeInt v ++ rest)) front.length
      = some (w, front.length + (encodeInt v).length) := by
  obtain ⟨w, n, hw, hspell, hlow, hhigh⟩ := encodeInt_eq_spell v
  refine ⟨w, hw, ?_⟩
  rw [hspell, length_spell]
  exact parse_spell hlow hhigh front rest

/-- What C writes, C reads. -/
theorem parseInt_encodeInt (v : UInt32) (rest : Bytes) : parseInt (encodeInt v ++ rest) = some (v, rest) := by
  obtain ⟨w, hw, hparse⟩ := parse_encodeInt v [] rest
  rw [List.nil_append, List.length_nil, Nat.zero_add] at hparse
  rw [parseInt_eq_parse, hparse, Option.map_some, hw, List.drop_left]

/-- What Python writes, C reads. -/
theorem parseInt_encode {v : ℤ} (hlow : -2 ^ 31 ≤ v) (hhigh : v < 2 ^ 32) (rest : Bytes) :
    parseInt (encode v ++ rest) = some (UInt32.ofInt v, rest) := by
  have hparse := parse_encode hlow hhigh [] rest
  rw [List.nil_append, List.length_nil, Nat.zero_add] at hparse
  rw [parseInt_eq_parse, hparse, Option.map_some, List.drop_left]

end Link

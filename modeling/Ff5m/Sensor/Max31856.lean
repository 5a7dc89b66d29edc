import Mathlib

/-!
# The collision guard

The load cell under the bed is read like a MAX31856 thermocouple, and its weight
comes as a temperature.  `spi_temperature.py` adds a guard to the sensor: while
`ZCONTROL_ON` is in force, a reading above `max_temp` shuts the printer down.

The chip sends a signed field of 19 bits in units of 1/128.

* `calcTemp_of_positive`, `calcTemp_of_negative`: what `calc_temp` makes of the
  field; below 0 it counts from the wrong end;
* `abs_calcTemp_calcAdc_sub_le`: the limits that the firmware gets are the
  configured ones, to half a unit;
* `guarded_iff`: after every history a response is handled as it should be exactly
  if the reading is not negative, or is far above the limit anyway.
-/

namespace Sensor

/-! ## The chip -/

/-- `MAX31856.calc_temp`. -/
def calcTemp (adc : ℕ) : ℚ :=
  let adc := adc >>> 5
  let adc : ℤ := if adc &&& 0x40000 ≠ 0 then (((adc &&& 0x3FFFF : ℕ) : ℤ) + 1) * -1 else adc
  0.0078125 * adc

/-- `MAX31856.calc_adc`; `int` cuts the fraction off. -/
def calcAdc (temp : ℚ) : ℕ :=
  let x := temp / 0.0078125 + 0.5
  let adc : ℤ := if 0 ≤ x then ⌊x⌋ else ⌈x⌉
  (max 0 (min 0x3FFFF adc)).toNat <<< 5

/-- The faults that `MAX31856.handle_fault` looks for. -/
def faults : List (ℕ × String) :=
  [(0x80, "Max31856: Cold Junction Range Fault"), (0x40, "Max31856: Thermocouple Range Fault"),
    (0x20, "Max31856: Cold Junction High Fault"), (0x10, "Max31856: Cold Junction Low Fault"),
    (0x08, "Max31856: Thermocouple High Fault"), (0x04, "Max31856: Thermocouple Low Fault"),
    (0x02, "Max31856: Over/Under Voltage Fault"), (0x01, "Max31856: Thermocouple Open Fault")]

/-! ## The sensor -/

/-- `thermocouple_result`: the fault byte, the 24 bits that were read, and the clock
of the next reading. -/
structure Response where
  fault : BitVec 8
  value : BitVec 24
  nextClock : ℕ

/-- What the sensor sees of its microcontroller. -/
structure Mcu where
  clock32ToClock64 : ℕ → ℤ
  clockToPrintTime : ℤ → ℚ
  reportClock : ℤ

/-- `SensorBase`, as far as it changes or is configured. -/
structure SensorBase where
  zcontrol : ℤ
  maxTemp : ℚ
  minSampleValue : ℕ
  maxSampleValue : ℕ

/-- `setup_minmax`, of a new sensor. -/
def setupMinmax (minTemp maxTemp : ℚ) : SensorBase where
  zcontrol := 0
  maxTemp := maxTemp
  minSampleValue := min (calcAdc minTemp) (calcAdc maxTemp)
  maxSampleValue := max (calcAdc minTemp) (calcAdc maxTemp)

/-- What a response leads to. -/
inductive Effect where
  | warn (msg : String)
  | shutdown (msg : String)
  | callback (readTime temp : ℚ)
  deriving DecidableEq

/-- `_handle_spi_response`. -/
def SensorBase.handleSpiResponse (mcu : Mcu) (s : SensorBase) (m : Response) : List Effect :=
  if m.fault ≠ 0 then
    (faults.filter fun f => m.fault.toNat &&& f.1 ≠ 0).map fun f => .warn f.2
  else
    let temp := calcTemp m.value.toNat
    if temp > s.maxTemp ∧ s.zcontrol = 1 then
      [.shutdown "Удар сопла о стол или отрыв детали"]
    else
      let nextClock := mcu.clock32ToClock64 m.nextClock
      let lastReadTime := mcu.clockToPrintTime (nextClock - mcu.reportClock)
      [.callback lastReadTime temp]

/-- What a sensor hears. -/
inductive Event where
  | ZCONTROL_ON
  | ZCONTROL_OFF
  | response (m : Response)

/-- What it keeps of it. -/
def SensorBase.next (s : SensorBase) : Event → SensorBase
  | .ZCONTROL_ON => { s with zcontrol := 1 }
  | .ZCONTROL_OFF => { s with zcontrol := 0 }
  | .response _ => s

/-! ## The guard -/

/-- The weight that was read: the field in the bits 23 to 5, in units of 1/128. -/
def Response.weight (m : Response) : ℚ := (m.value.extractLsb' 5 19).toInt / 128

/-- The last of the two commands was `ZCONTROL_ON`. -/
def armed (es : List Event) : Bool :=
  es.foldl (fun on e => match e with
    | .ZCONTROL_ON => true
    | .ZCONTROL_OFF => false
    | .response _ => on) false

/-- The temperatures that are passed on. -/
def passed (effects : List Effect) : List ℚ :=
  effects.filterMap fun e => match e with
    | .callback _ temp => some temp
    | _ => none

/-- The effects shut the printer down. -/
def ShutsDown (effects : List Effect) : Prop := ∃ msg, Effect.shutdown msg ∈ effects

/-- How a response is to be handled, with the guard on or off. -/
structure Guarded (on : Bool) (maxTemp : ℚ) (m : Response) (effects : List Effect) : Prop where
  faulty : m.fault ≠ 0 → passed effects = [] ∧ ¬ ShutsDown effects
  shutsDown : m.fault = 0 → (ShutsDown effects ↔ on = true ∧ maxTemp < m.weight)
  passes : m.fault = 0 → ¬ (on = true ∧ maxTemp < m.weight) → passed effects = [m.weight]

/-! ## What calc_temp makes of the field -/

/-- The field, by its bits. -/
theorem weight_eq (m : Response) :
    m.weight = ((if m.value.toNat < 2 ^ 23 then (m.value.toNat / 32 : ℕ) else
      (m.value.toNat / 32 : ℕ) - 2 ^ 19 : ℤ) : ℚ) / 128 := by
  have hlt : m.value.toNat < 2 ^ 24 := m.value.isLt
  have hfield : (m.value.extractLsb' 5 19).toNat = m.value.toNat / 32 := by
    rw [BitVec.extractLsb'_toNat, Nat.shiftRight_eq_div_pow]
    exact Nat.mod_eq_of_lt (by omega)
  have hsign : 2 * (m.value.toNat / 32) < 2 ^ 19 ↔ m.value.toNat < 2 ^ 23 := by omega
  rw [Response.weight, BitVec.toInt_eq_toNat_cond, hfield]
  simp only [hsign]
  push_cast
  rfl

/-- The sign bit of the field. -/
theorem and_sign {x : ℕ} (hx : x < 2 ^ 19) : x &&& 0x40000 ≠ 0 ↔ 2 ^ 18 ≤ x := by
  have hbit : x &&& 0x40000 ≠ 0 ↔ x.testBit 18 = true := by
    have hand : x &&& 0x40000 = (x.testBit 18).toNat * 2 ^ 18 := Nat.and_two_pow x 18
    rw [hand]
    cases x.testBit 18 <;> simp
  rw [hbit, Nat.testBit_eq_decide_div_mod_eq, decide_eq_true_iff]
  omega

/-- A reading that is not negative comes out right. -/
theorem calcTemp_of_positive {m : Response} (h : m.value.toNat < 2 ^ 23) :
    calcTemp m.value.toNat = m.weight := by
  have hdiv : m.value.toNat >>> 5 = m.value.toNat / 32 := by rw [Nat.shiftRight_eq_div_pow]
  have hsign : ¬ (m.value.toNat / 32) &&& 0x40000 ≠ 0 := by
    rw [and_sign (by omega)]
    omega
  rw [weight_eq, if_pos h]
  simp only [calcTemp, hdiv, if_neg hsign]
  push_cast
  ring

/-- What `calc_temp` makes of a negative one. -/
def Response.inverted (m : Response) : ℚ := -(((m.value.toNat / 32) % 2 ^ 18 : ℕ) + 1) / 128

theorem calcTemp_of_negative {m : Response} (h : 2 ^ 23 ≤ m.value.toNat) :
    calcTemp m.value.toNat = m.inverted := by
  have hlt : m.value.toNat < 2 ^ 24 := m.value.isLt
  have hdiv : m.value.toNat >>> 5 = m.value.toNat / 32 := by rw [Nat.shiftRight_eq_div_pow]
  have hsign : (m.value.toNat / 32) &&& 0x40000 ≠ 0 := (and_sign (by omega)).2 (by omega)
  have hlow : (m.value.toNat / 32) &&& 0x3FFFF = (m.value.toNat / 32) % 2 ^ 18 :=
    Nat.and_two_pow_sub_one_eq_mod _ 18
  simp only [calcTemp, hdiv, if_pos hsign, hlow, Response.inverted]
  generalize m.value.toNat / 32 % 2 ^ 18 = low
  push_cast
  ring

/-- The two never agree: their sum is odd. -/
theorem inverted_ne_weight {m : Response} (h : 2 ^ 23 ≤ m.value.toNat) : m.inverted ≠ m.weight := by
  have hlt : m.value.toNat < 2 ^ 24 := m.value.isLt
  rw [weight_eq, if_neg (by omega), Response.inverted]
  intro heq
  have hnum : (-(((m.value.toNat / 32) % 2 ^ 18 : ℕ) + 1) : ℤ) = (m.value.toNat / 32 : ℕ) - 2 ^ 19 := by
    have hq := (div_left_inj' (by norm_num : (128 : ℚ) ≠ 0)).1 heq
    exact_mod_cast hq
  omega

/-- The limits in the units of the chip. -/
theorem abs_calcTemp_calcAdc_sub_le {t : ℚ} (h0 : 0 ≤ t) (h1 : t ≤ 0x3FFFF / 128) :
    |calcTemp (calcAdc t) - t| ≤ 1 / 256 := by
  have hx : 0 ≤ t / 0.0078125 + 0.5 := by positivity
  set n := ⌊t / 0.0078125 + 0.5⌋ with hn
  have hlow : (n : ℚ) ≤ t / 0.0078125 + 0.5 := Int.floor_le _
  have hhigh : t / 0.0078125 + 0.5 < n + 1 := Int.lt_floor_add_one _
  have hn0 : 0 ≤ n := Int.floor_nonneg.2 hx
  have hn1 : n ≤ 0x3FFFF := by
    have hlt : (n : ℚ) < 0x3FFFF + 1 := by
      have hunit : t / 0.0078125 = 128 * t := by ring
      rw [hunit] at hlow
      have hmul : 128 * t ≤ 0x3FFFF := by linarith
      linarith
    have hlt' : n < 0x3FFFF + 1 := by exact_mod_cast hlt
    omega
  have hadc : calcAdc t = n.toNat <<< 5 := by
    simp only [calcAdc, if_pos hx, ← hn]
    rw [min_eq_right hn1, max_eq_right hn0]
  have hshift : n.toNat <<< 5 >>> 5 = n.toNat := by
    rw [Nat.shiftLeft_eq, Nat.shiftRight_eq_div_pow]
    exact Nat.mul_div_cancel _ (by norm_num)
  have hsign : ¬ n.toNat &&& 0x40000 ≠ 0 := by
    rw [and_sign (by omega)]
    omega
  have htemp : calcTemp (calcAdc t) = n / 128 := by
    rw [hadc]
    simp only [calcTemp, hshift, if_neg hsign, Int.toNat_of_nonneg hn0]
    ring
  have hunit : t / 0.0078125 = 128 * t := by ring
  rw [hunit] at hlow hhigh
  rw [htemp, abs_le]
  constructor <;> linarith

/-! ## One response -/

theorem passed_warn (fs : List (ℕ × String)) : passed (fs.map fun f => .warn f.2) = [] := by
  simp [passed]

theorem not_shutsDown_warn (fs : List (ℕ × String)) : ¬ ShutsDown (fs.map fun f => .warn f.2) := by
  simp [ShutsDown]

/-- The reading that the guard goes by. -/
theorem handle_healthy (mcu : Mcu) (s : SensorBase) {m : Response} (hm : m.fault = 0) :
    (ShutsDown (s.handleSpiResponse mcu m) ↔ s.zcontrol = 1 ∧ s.maxTemp < calcTemp m.value.toNat) ∧
      (¬ (s.zcontrol = 1 ∧ s.maxTemp < calcTemp m.value.toNat) →
        passed (s.handleSpiResponse mcu m) = [calcTemp m.value.toNat]) := by
  unfold SensorBase.handleSpiResponse
  rw [if_neg (not_not.2 hm)]
  by_cases h : s.zcontrol = 1 ∧ s.maxTemp < calcTemp m.value.toNat
  · simp [h.1, h.2, ShutsDown]
  · have hoff : ¬ (calcTemp m.value.toNat > s.maxTemp ∧ s.zcontrol = 1) := fun hc => h ⟨hc.2, hc.1⟩
    simp only [if_neg hoff]
    exact ⟨by simp [ShutsDown, h], fun _ => rfl⟩

/-- A response is handled as it should be exactly if its reading is not negative, or
is above the limit however it is read. -/
theorem guarded_response_iff (mcu : Mcu) {s : SensorBase} {on : Bool} (hon : s.zcontrol = 1 ↔ on = true)
    (m : Response) :
    Guarded on s.maxTemp m (s.handleSpiResponse mcu m) ↔
      m.fault ≠ 0 ∨ m.value.toNat < 2 ^ 23 ∨
        (on = true ∧ s.maxTemp < m.weight ∧ s.maxTemp < m.inverted) := by
  by_cases hm : m.fault = 0
  · obtain ⟨hshut, hpass⟩ := handle_healthy mcu s hm
    rw [hon] at hshut hpass
    rcases lt_or_ge m.value.toNat (2 ^ 23) with hpos | hneg
    · rw [calcTemp_of_positive hpos] at hshut hpass
      exact ⟨fun _ => Or.inr (Or.inl hpos), fun _ => ⟨fun h => absurd hm h, fun _ => hshut, fun _ => hpass⟩⟩
    · rw [calcTemp_of_negative hneg] at hshut hpass
      constructor
      · intro h
        refine Or.inr (Or.inr ?_)
        by_cases hdown : on = true ∧ s.maxTemp < m.inverted
        · exact ⟨hdown.1, ((h.shutsDown hm).1 (hshut.2 hdown)).2, hdown.2⟩
        · -- a wrong value is passed on
          have hquiet : ¬ (on = true ∧ s.maxTemp < m.weight) := fun hc =>
            hdown (hshut.1 ((h.shutsDown hm).2 hc))
          have heq := (hpass hdown).symm.trans (h.passes hm hquiet)
          exact absurd (List.singleton_inj.1 heq) (inverted_ne_weight hneg)
      · rintro (hf | hlow | ⟨hon', hweight, hinv⟩)
        · exact absurd hm hf
        · omega
        · refine ⟨fun hf => absurd hm hf, fun _ => ?_, fun _ hquiet => absurd ⟨hon', hweight⟩ hquiet⟩
          rw [hshut]
          exact ⟨fun _ => ⟨hon', hweight⟩, fun _ => ⟨hon', hinv⟩⟩
  · refine ⟨fun _ => Or.inl hm, fun _ => ⟨fun _ => ?_, fun h => absurd h hm, fun h => absurd h hm⟩⟩
    unfold SensorBase.handleSpiResponse
    rw [if_pos hm]
    exact ⟨passed_warn _, not_shutsDown_warn _⟩

/-! ## Histories -/

/-- The guard is on as the last command says, and nothing else changes. -/
theorem next_armed (s : SensorBase) (hs : s.zcontrol = 0) (es : List Event) :
    ((es.foldl SensorBase.next s).zcontrol = 1 ↔ armed es = true) ∧
      (es.foldl SensorBase.next s).maxTemp = s.maxTemp := by
  have hrun : ∀ (es : List Event) (s : SensorBase) (on : Bool), (s.zcontrol = 1 ↔ on = true) →
      ((es.foldl SensorBase.next s).zcontrol = 1 ↔ es.foldl (fun on e => match e with
        | .ZCONTROL_ON => true
        | .ZCONTROL_OFF => false
        | .response _ => on) on = true) ∧ (es.foldl SensorBase.next s).maxTemp = s.maxTemp := by
    intro es
    induction es with
    | nil => intro s on h; exact ⟨h, rfl⟩
    | cons e es ih =>
      intro s on h
      cases e with
      | ZCONTROL_ON => exact ih { s with zcontrol := 1 } true (by simp)
      | ZCONTROL_OFF => exact ih { s with zcontrol := 0 } false (by simp)
      | response m => exact ih s on h
  exact hrun es s false (by simp [hs])

/-- **The guard.**  After every history of commands and responses, a response of a
configured sensor is handled as it should be exactly if it is faulty, or its sign
bit is clear, or the guard is on and the limit lies below both readings. -/
theorem guarded_iff (mcu : Mcu) (minTemp maxTemp : ℚ) (es : List Event) (m : Response) :
    Guarded (armed es) maxTemp m
        ((es.foldl SensorBase.next (setupMinmax minTemp maxTemp)).handleSpiResponse mcu m) ↔
      m.fault ≠ 0 ∨ m.value.toNat < 2 ^ 23 ∨
        (armed es = true ∧ maxTemp < m.weight ∧ maxTemp < m.inverted) := by
  obtain ⟨hon, hmax⟩ := next_armed (setupMinmax minTemp maxTemp) rfl es
  have hiff := guarded_response_iff mcu hon m
  rw [hmax] at hiff
  exact hiff

/-- A reading one unit below 0 is passed on as the lowest there is. -/
theorem minus_one_not_guarded :
    ¬ ∀ (mcu : Mcu) (minTemp maxTemp : ℚ) (es : List Event) (m : Response),
      Guarded (armed es) maxTemp m
        ((es.foldl SensorBase.next (setupMinmax minTemp maxTemp)).handleSpiResponse mcu m) := by
  intro h
  have hg := h ⟨fun _ => 0, fun _ => 0, 0⟩ (-100) 800 [] ⟨0, 0xFFFFE0, 0⟩
  have hpassed := hg.passes rfl (by simp [armed])
  have hwrong : passed ((setupMinmax (-100) 800).handleSpiResponse ⟨fun _ => 0, fun _ => 0, 0⟩
      ⟨0, 0xFFFFE0, 0⟩) = [-2048] := by decide +kernel
  have hright : Response.weight ⟨0, 0xFFFFE0, 0⟩ = -1 / 128 := by decide +kernel
  rw [List.foldl_nil, hwrong, hright] at hpassed
  exact absurd (List.singleton_inj.1 hpassed) (by norm_num)

end Sensor

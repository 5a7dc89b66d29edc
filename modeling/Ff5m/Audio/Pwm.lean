import Ff5m.GCode.Script

/-!
# The sound of the printer

`PWMAudio` of `root/audio/audio.py` plays a tone on a PWM output: its frequency is
a `period` in nanoseconds, and the `duty_cycle` is half of it.  Both are files of
the kernel, written one after the other, and the kernel insists on
`duty_cycle ≤ period` after each single write.  `set` therefore chooses the order
of its two writes, comparing the new period, which need not be an integer, with
the duty cycle that is there.

A call is a `Script` of register writes, so that its run has the registers before
each write.

* `set_safe`: `set` keeps the inequality at every write;
* `set_tuned`: it leaves the integer parts of the period and of its half;
* `enable_safe`: so does `enable`, which sets a frequency if there is no period yet;
* `registers_safe`: every sequence of calls keeps it.
-/

namespace Audio

open GCode

/-! ## The registers -/

/-- The files `period`, `duty_cycle` and `enable`. -/
structure Registers where
  period : ℤ
  dutyCycle : ℤ
  enable : Bool

/-- A write of one of them. -/
inductive Write where
  | period (v : ℤ)
  | dutyCycle (v : ℤ)
  | enable (on : Bool)

/-- What a write does. -/
def native : Native Write Registers
  | .period v, r => ({ r with period := v }, none)
  | .dutyCycle v, r => ({ r with dutyCycle := v }, none)
  | .enable on, r => ({ r with enable := on }, none)

/-- What the kernel insists on. -/
def Registers.Ordered (r : Registers) : Prop := r.dutyCycle ≤ r.period

/-- Registers that a call can start from. -/
structure Registers.Valid (r : Registers) : Prop where
  nonneg : 0 ≤ r.dutyCycle
  ordered : r.Ordered

/-! ## The calls -/

section Calls

variable {K : Type} [Field K] [LinearOrder K] [FloorRing K]

/-- `int(x)`, and `b"%d" % x`: the fraction is cut off. -/
def truncate (x : K) : ℤ := if 0 ≤ x then ⌊x⌋ else ⌈x⌉

/-- `PWMAudio.set`. -/
def set (frequency : K) : Script Write Registers := .call fun r =>
  let period := 1000000000 / frequency
  -- the factor `DC` is fixed at 0.5
  let dc := truncate (period / 2)
  if period < (r.dutyCycle : K) then
    [.cmd (.dutyCycle dc), .cmd (.period (truncate period))]
  else
    [.cmd (.period (truncate period)), .cmd (.dutyCycle dc)]

/-- `PWMAudio.enable`, which `disable` calls with `False`; without a period it sets
one first. -/
def enable (on : Bool) : Script Write Registers := .call fun r =>
  (if r.period = 0 then [set (1000 : ℚ)] else []) ++ [.cmd (.enable on)]

/-- The calls of a player. -/
inductive Call (K : Type) where
  | enable
  | disable
  | set (frequency : K)

/-- What a call writes. -/
def Call.script : Call K → Script Write Registers
  | .enable => Audio.enable true
  | .disable => Audio.enable false
  | .set frequency => Audio.set frequency

/-- One call. -/
def step (c : Call K) (r : Registers) : Run Write Registers := c.script.exec native r

/-- The frequencies that have a period of at least two nanoseconds. -/
def Call.Audible : Call K → Prop
  | .set frequency => 0 < frequency ∧ frequency ≤ 500000000
  | _ => True

/-- After a `set` the registers have the integer parts of the period and of its
half. -/
def Tuned (c : Call K) (r : Registers) : Prop :=
  match c with
  | .set frequency =>
    (step c r).state.period = ⌊1000000000 / frequency⌋ ∧
      (step c r).state.dutyCycle = ⌊1000000000 / frequency / 2⌋
  | _ => True

/-! ## One call -/

theorem truncate_of_nonneg {x : K} (h : 0 ≤ x) : truncate x = ⌊x⌋ := if_pos h

variable [IsStrictOrderedRing K]

/-- Two writes, one after the other. -/
theorem within_two {k k' : Write} {r : Registers} (hr : r.Ordered)
    (hmid : (native k r).1.Ordered) (hend : (native k' (native k r).1).1.Ordered) :
    (Script.execAll native [.cmd k, .cmd k'] r).Within Registers.Ordered := by
  have hok : ∀ k r, (native k r).2 = none := by
    intro k r
    cases k <;> rfl
  simp only [Script.execAll_cons, Script.exec_cmd, hok, Run.andThen_mk_none, Script.execAll_nil]
  refine ⟨hend, fun e he => ?_⟩
  simp only [List.append_nil, List.cons_append, List.nil_append, List.mem_cons,
    List.not_mem_nil, or_false] at he
  rcases he with rfl | rfl
  · exact hr
  · exact hmid

/-- The half of a period fits into its integer part. -/
theorem floor_half_le {x : K} (hx : 0 ≤ x) : 0 ≤ ⌊x / 2⌋ ∧ ⌊x / 2⌋ ≤ ⌊x⌋ := by
  refine ⟨Int.floor_nonneg.2 (by positivity), Int.floor_le_floor ?_⟩
  linarith

/-- The writes of `set`, without the truncation. -/
theorem exec_set {f : K} (hf : 0 < f) (r : Registers) :
    (set f).exec native r = Script.execAll native
      (if 1000000000 / f < (r.dutyCycle : K) then
        [.cmd (.dutyCycle ⌊1000000000 / f / 2⌋), .cmd (.period ⌊1000000000 / f⌋)]
      else [.cmd (.period ⌊1000000000 / f⌋), .cmd (.dutyCycle ⌊1000000000 / f / 2⌋)]) r := by
  have hperiod : truncate (1000000000 / f) = ⌊1000000000 / f⌋ := truncate_of_nonneg (by positivity)
  have hhalf : truncate (1000000000 / f / 2) = ⌊1000000000 / f / 2⌋ := truncate_of_nonneg (by positivity)
  unfold set
  rw [Script.exec_call]
  simp only [hperiod, hhalf]

/-- `set` leaves what it was to leave. -/
theorem set_tuned {f : K} (hf : 0 < f) (r : Registers) : Tuned (.set f) r := by
  show ((set f).exec native r).state.period = _ ∧ ((set f).exec native r).state.dutyCycle = _
  rw [exec_set hf]
  by_cases h : 1000000000 / f < (r.dutyCycle : K) <;> simp [h, native]

/-- `set` keeps the inequality. -/
theorem set_safe {f : K} (hf : 0 < f) {r : Registers} (hr : r.Valid) :
    ((set f).exec native r).Within Registers.Ordered ∧ ((set f).exec native r).state.Valid := by
  obtain ⟨hnonneg, hle⟩ := floor_half_le (x := 1000000000 / f) (by positivity)
  have hwithin : ((set f).exec native r).Within Registers.Ordered := by
    rw [exec_set hf]
    by_cases h : 1000000000 / f < (r.dutyCycle : K)
    · -- the period shrinks below the duty cycle: the duty cycle goes first
      have hfits : ⌊1000000000 / f / 2⌋ ≤ r.period := by
        have hduty : ⌊1000000000 / f⌋ ≤ r.dutyCycle := Int.cast_le.1 ((Int.floor_le _).trans h.le)
        exact (hle.trans hduty).trans hr.ordered
      rw [if_pos h]
      exact within_two hr.ordered hfits hle
    · have hfits : r.dutyCycle ≤ ⌊1000000000 / f⌋ := Int.le_floor.2 (not_lt.1 h)
      rw [if_neg h]
      exact within_two hr.ordered hfits hle
  refine ⟨hwithin, ?_, hwithin.1⟩
  have hduty : ((set f).exec native r).state.dutyCycle = ⌊1000000000 / f / 2⌋ := (set_tuned hf r).2
  rw [hduty]
  exact hnonneg

end Calls

theorem set_raised (r : Registers) : ((set (1000 : ℚ)).exec native r).raised = none := by
  rw [exec_set (by norm_num)]
  split_ifs <;> simp [native]

/-- The write at the end of `enable`. -/
theorem exec_enable (on : Bool) (r : Registers) :
    (enable on).exec native r = if r.period = 0 then
      ((set (1000 : ℚ)).exec native r).andThen ((Script.cmd (.enable on)).exec native)
    else (Script.cmd (.enable on)).exec native r := by
  unfold enable
  rw [Script.exec_call]
  split_ifs with h
  · rw [List.singleton_append, Script.execAll_cons, Script.execAll_singleton]
  · rw [List.nil_append, Script.execAll_singleton]

/-- The output is switched as asked. -/
theorem enable_enable (on : Bool) (r : Registers) :
    ((enable on).exec native r).state.enable = on := by
  rw [exec_enable]
  split_ifs
  · unfold Run.andThen
    rw [set_raised, if_neg (by simp), Script.exec_cmd]
    rfl
  · rw [Script.exec_cmd]
    rfl

/-- `enable` keeps the inequality, whether it sets a frequency or not. -/
theorem enable_safe (on : Bool) {r : Registers} (hr : r.Valid) :
    ((enable on).exec native r).Within Registers.Ordered ∧ ((enable on).exec native r).state.Valid := by
  have hwrite : ∀ q : Registers, q.Valid → ((Script.cmd (.enable on)).exec native q).Within
      Registers.Ordered := by
    intro q hq
    rw [Script.exec_cmd]
    exact ⟨hq.ordered, by simpa using hq.ordered⟩
  rw [exec_enable]
  by_cases h : r.period = 0
  · obtain ⟨hwithin, hvalid⟩ := set_safe (f := (1000 : ℚ)) (by norm_num) hr
    obtain ⟨hend, hlog⟩ := hwrite _ hvalid
    rw [if_pos h]
    unfold Run.andThen
    rw [set_raised, if_neg (by simp)]
    refine ⟨⟨hend, fun e he => ?_⟩, hvalid.nonneg, hend⟩
    rcases List.mem_append.1 he with he | he
    · exact hwithin.2 e he
    · exact hlog e he
  · rw [if_neg h]
    exact ⟨hwrite r hr, hr.nonneg, (hwrite r hr).1⟩

/-! ## Sequences of calls -/

/-- The step lemma. -/
theorem step_safe {c : Call ℚ} {r : Registers} (hr : r.Valid) (hc : c.Audible) :
    (step c r).Within Registers.Ordered ∧ (step c r).state.Valid ∧ Tuned c r := by
  cases c with
  | enable => exact ⟨(enable_safe true hr).1, (enable_safe true hr).2, trivial⟩
  | disable => exact ⟨(enable_safe false hr).1, (enable_safe false hr).2, trivial⟩
  | set frequency => exact ⟨(set_safe hc.1 hr).1, (set_safe hc.1 hr).2, set_tuned hc.1 r⟩

/-- **The registers.**  Whatever the registers are at first and whatever is called,
the duty cycle never exceeds the period, and after each `set` both have the integer
parts they are meant to have. -/
theorem registers_safe {r : Registers} (hr : r.Valid) {cs : List (Call ℚ)}
    (hcs : ∀ c ∈ cs, c.Audible) :
    (session step cs r).Within Registers.Ordered ∧ Along step Tuned cs r := by
  have halong : ∀ (cs : List (Call ℚ)) (r : Registers), (∀ c ∈ cs, c.Audible) →
      Along step (fun c _ => c.Audible) cs r := by
    intro cs
    induction cs with
    | nil => intro r _; trivial
    | cons c cs ih =>
      intro r hcs
      exact ⟨hcs c (List.mem_cons_self ..), ih _ fun c' hc' => hcs c' (List.mem_cons_of_mem _ hc')⟩
  have hlog := session_invariant (I := Registers.Valid) (P := fun e => e.2.Ordered)
    (fun c r hr (hc : c.Audible) =>
      ⟨(step_safe hr hc).2.1, (step_safe hr hc).1.2⟩) cs r hr (halong cs r hcs)
  refine ⟨⟨hlog.1.ordered, hlog.2⟩, ?_⟩
  exact along_of_invariant (I := Registers.Valid)
    (fun c r hr (hc : c.Audible) => (step_safe hr hc).2) cs r hr (halong cs r hcs)

/-- A fresh output that is switched on, plays a high tone, then a low one. -/
theorem registers_safe_fresh :
    (session step [.enable, .set (3000 : ℚ), .set 7, .disable] ⟨0, 0, false⟩).Within
        Registers.Ordered ∧
      Along step Tuned [.enable, .set (3000 : ℚ), .set 7, .disable] ⟨0, 0, false⟩ := by
  refine registers_safe ⟨le_refl 0, le_refl 0⟩ fun c hc => ?_
  simp only [List.mem_cons, List.not_mem_nil, or_false] at hc
  rcases hc with rfl | rfl | rfl | rfl
  · trivial
  · exact ⟨by norm_num, by norm_num⟩
  · exact ⟨by norm_num, by norm_num⟩
  · trivial

end Audio

import Ff5m.Audio.Pwm

/-!
# Playing a MIDI file

The loop of `audio.py` that plays a track: a `note_on` sets the frequency of its
note, bent by the pitch wheel, and switches the output on, a `note_off` switches it
off, and a `pitchwheel` sets the bent frequency of the last note again.  The powers
`2 ** (n / 12)` are a function `g` of which only the octave is known.

* `follows`: the loop keeps the wheel, and while a note sounds the last frequency
  that it set is the one of this note and this wheel;
* `frequency_le_iff`: between two positions of the wheel the frequency rises as it
  should, unless the lower one lies too far below 0: the branch for a negative wheel
  bends upwards;
* `inTune_iff`: everything else is as it should be after every sequence of events.
-/

namespace Audio

open GCode

section Frequency

variable {K : Type} [Field K] [LinearOrder K]

/-! ## The frequency -/

/-- `midinumber_to_frequency`, with a reference of 440 and `g n` for `2 ** (n / 12)`. -/
def midinumberToFrequency (g : ℤ → K) (number pitch : ℤ) : K :=
  if pitch = 0 then 440 / 32 * g (number - 9)
  else if pitch < 0 then
    let freq := 440 / 32 * g (number - 9)
    let down := 440 / 32 * g (number - 9 - 12)
    freq - (freq - down) * (pitch / 8192)
  else
    let up := 440 / 32 * g (number - 9 + 12)
    let freq := 440 / 32 * g (number - 9)
    freq + (up - freq) * (pitch / 8192)

/-- What is known of `2 ** (n / 12)`. -/
structure Scale (g : ℤ → K) : Prop where
  pos : ∀ n, 0 < g n
  strictMono : StrictMono g
  octave : ∀ n, g (n + 12) = 2 * g n

variable {g : ℤ → K}

theorem frequency_of_nonneg (hg : Scale g) (n : ℤ) {p : ℤ} (hp : 0 ≤ p) :
    midinumberToFrequency g n p = midinumberToFrequency g n 0 * (1 + p / 8192) := by
  have hup := hg.octave (n - 9)
  by_cases h : p = 0
  · rw [h]
    simp
  · simp only [midinumberToFrequency, if_neg h, if_neg (not_lt.2 hp), if_true, hup]
    ring

variable [IsStrictOrderedRing K]

/-- A negative wheel raises the frequency, by half as much. -/
theorem frequency_of_neg (hg : Scale g) (n : ℤ) {p : ℤ} (hp : p < 0) :
    midinumberToFrequency g n p = midinumberToFrequency g n 0 * (1 - p / 16384) := by
  have hdown : g (n - 9) = 2 * g (n - 9 - 12) := by
    rw [← hg.octave]
    congr 1
    ring
  simp only [midinumberToFrequency, if_neg (ne_of_lt hp), if_pos hp, if_true, hdown]
  ring

theorem own_pos (hg : Scale g) (n : ℤ) : 0 < midinumberToFrequency g n 0 := by
  have hpos := hg.pos (n - 9)
  rw [midinumberToFrequency, if_pos rfl]
  positivity

theorem frequency_eq_own_iff (hg : Scale g) (n p : ℤ) :
    midinumberToFrequency g n p = midinumberToFrequency g n 0 ↔ p = 0 := by
  have hown := own_pos hg n
  have hcast : (p : K) = 0 ↔ p = 0 := Int.cast_eq_zero
  rcases lt_or_ge p 0 with hp | hp
  · rw [frequency_of_neg hg n hp, mul_eq_left₀ hown.ne', ← hcast]
    constructor <;> intro h <;> linarith
  · rw [frequency_of_nonneg hg n hp, mul_eq_left₀ hown.ne', ← hcast]
    constructor <;> intro h <;> linarith

theorem frequency_mem (hg : Scale g) (n : ℤ) {p : ℤ} (hp : -8192 ≤ p ∧ p ≤ 8191) :
    midinumberToFrequency g n 0 / 2 ≤ midinumberToFrequency g n p ∧
      midinumberToFrequency g n p ≤ 2 * midinumberToFrequency g n 0 := by
  have hown := own_pos hg n
  have hlow : (-8192 : K) ≤ p := by exact_mod_cast hp.1
  have hhigh : (p : K) ≤ 8191 := by exact_mod_cast hp.2
  have hbetween : ∀ t : K, 1 / 2 ≤ t → t ≤ 2 →
      midinumberToFrequency g n 0 / 2 ≤ midinumberToFrequency g n 0 * t ∧
        midinumberToFrequency g n 0 * t ≤ 2 * midinumberToFrequency g n 0 := by
    intro t ht ht'
    constructor <;> nlinarith
  rcases lt_or_ge p 0 with hneg | hneg
  · have hneg' : (p : K) < 0 := by exact_mod_cast hneg
    rw [frequency_of_neg hg n hneg]
    exact hbetween _ (by linarith) (by linarith)
  · have hneg' : (0 : K) ≤ p := by exact_mod_cast hneg
    rw [frequency_of_nonneg hg n hneg]
    exact hbetween _ (by linarith) (by linarith)

/-- Two positions of the wheel, and when the higher one sounds at least as high. -/
theorem frequency_le_iff (hg : Scale g) (n : ℤ) {p p' : ℤ} (hle : p ≤ p') :
    midinumberToFrequency g n p ≤ midinumberToFrequency g n p' ↔ p = p' ∨ -p ≤ 2 * p' := by
  have hown := own_pos hg n
  have hle' : (p : K) ≤ p' := by exact_mod_cast hle
  rcases lt_or_ge p 0 with hp | hp
  · rw [frequency_of_neg hg n hp]
    rcases lt_or_ge p' 0 with hp' | hp'
    · rw [frequency_of_neg hg n hp', mul_le_mul_iff_right₀ hown]
      have hcast : (p' : K) ≤ p ↔ p' ≤ p := Int.cast_le
      have hkey : (1 - p / 16384 : K) ≤ 1 - p' / 16384 ↔ (p' : K) ≤ p := by
        constructor <;> intro h <;> linarith
      rw [hkey, hcast]
      omega
    · rw [frequency_of_nonneg hg n hp', mul_le_mul_iff_right₀ hown]
      have hcast : (-p : K) ≤ 2 * p' ↔ -p ≤ 2 * p' := by exact_mod_cast Iff.rfl
      have hkey : (1 - p / 16384 : K) ≤ 1 + p' / 8192 ↔ (-p : K) ≤ 2 * p' := by
        constructor <;> intro h <;> linarith
      rw [hkey, hcast]
      omega
  · rw [frequency_of_nonneg hg n hp, frequency_of_nonneg hg n (hp.trans hle),
      mul_le_mul_iff_right₀ hown]
    refine ⟨fun _ => Or.inr (by omega), fun _ => by linarith⟩

end Frequency

/-! ## The loop -/

/-- The events of a track that make it sound. -/
inductive Event where
  | noteOn (note : ℤ)
  | noteOff (note : ℤ)
  | pitchwheel (pitch : ℤ)

section Play

variable {K : Type} [Field K] [LinearOrder K] [FloorRing K]

/-- The loop's variables and the output; `frequency` is what the loop set last. -/
structure Player (K : Type) where
  registers : Registers
  pitch : ℤ
  note : ℤ
  frequency : Option K

/-- The calls of one event to the output. -/
def Player.call (cs : List (Call K)) (p : Player K) : Player K :=
  { p with registers := (session step cs p.registers).state }

/-- The body of the loop. -/
def Player.handle (g : ℤ → K) (e : Event) (p : Player K) : Player K :=
  match e with
  | .noteOn note =>
    let f := midinumberToFrequency g note p.pitch
    { p.call [.set f, .enable] with note := note, frequency := some f }
  | .noteOff _ => p.call [.disable]
  | .pitchwheel pitch =>
    let f := midinumberToFrequency g p.note pitch
    { p.call [.set f] with pitch := pitch, frequency := some f }

/-- Before the loop: the output is opened, which disables it. -/
def Player.start (r : Registers) : Player K := ⟨(step (.disable : Call K) r).state, 0, 0, none⟩

/-- The loop, over the events so far. -/
def play (g : ℤ → K) (r : Registers) (es : List Event) : Player K :=
  es.foldl (fun p e => p.handle g e) (.start r)

/-! ## What the events say -/

/-- The note of the last note event, if that switched one on, and the last position
of the wheel. -/
structure Heard where
  sounding : Option ℤ
  wheel : ℤ

def Heard.next (e : Event) (h : Heard) : Heard :=
  match e with
  | .noteOn note => { h with sounding := some note }
  | .noteOff _ => { h with sounding := none }
  | .pitchwheel pitch => { h with wheel := pitch }

def heard (es : List Event) : Heard := es.foldl (fun h e => h.next e) ⟨none, 0⟩

/-- The ranges of a MIDI file. -/
def Event.Midi : Event → Prop
  | .noteOn note => 0 ≤ note ∧ note ≤ 127
  | .noteOff note => 0 ≤ note ∧ note ≤ 127
  | .pitchwheel pitch => -8192 ≤ pitch ∧ pitch ≤ 8191

/-- What is promised of the output after the events `es`, and next to it after `es'`. -/
structure InTune (g : ℤ → K) (r : Registers) (es es' : List Event) : Prop where
  own : ∀ n, (heard es).sounding = some n → ∃ x, (play g r es).frequency = some x ∧
    (x = midinumberToFrequency g n 0 ↔ (heard es).wheel = 0) ∧
    midinumberToFrequency g n 0 / 2 ≤ x ∧ x ≤ 2 * midinumberToFrequency g n 0
  enabled : (play g r es).registers.enable = (heard es).sounding.isSome
  monotone : ∀ n x x', (heard es).sounding = some n → (heard es').sounding = some n →
    (play g r es).frequency = some x → (play g r es').frequency = some x' →
    (heard es).wheel ≤ (heard es').wheel → x ≤ x'

/-! ## The loop and the events -/

theorem set_enable (f : K) (r : Registers) : (step (.set f) r).state.enable = r.enable := by
  have honly : (set f).Only fun w => ∀ on, w ≠ .enable on := by
    unfold set
    refine Script.only_call.2 fun r => ?_
    simp only
    split_ifs <;> simp
  refine honly.frame (f := Registers.enable) (fun k hk q => ?_) r
  cases k with
  | enable on => exact absurd rfl (hk on)
  | _ => rfl

/-- The loop has heard what the events say. -/
structure Follows (g : ℤ → K) (p : Player K) (h : Heard) : Prop where
  pitch : p.pitch = h.wheel
  enabled : p.registers.enable = h.sounding.isSome
  sounding : ∀ n, h.sounding = some n →
    p.note = n ∧ p.frequency = some (midinumberToFrequency g n h.wheel)

/-- The step lemma. -/
theorem Follows.next {g : ℤ → K} {p : Player K} {h : Heard} (hp : Follows g p h) (e : Event) :
    Follows g (p.handle g e) (h.next e) := by
  cases e with
  | noteOn note =>
    refine ⟨hp.pitch, enable_enable true _, fun n hn => ?_⟩
    obtain rfl : note = n := Option.some.inj hn
    exact ⟨rfl, congrArg (fun w => some (midinumberToFrequency g note w)) hp.pitch⟩
  | noteOff note => exact ⟨hp.pitch, enable_enable false _, fun n hn => absurd hn (by simp [Heard.next])⟩
  | pitchwheel pitch =>
    refine ⟨rfl, (set_enable _ p.registers).trans hp.enabled, fun n hn => ?_⟩
    obtain ⟨hnote, -⟩ := hp.sounding n hn
    exact ⟨hnote, congrArg (fun m => some (midinumberToFrequency g m pitch)) hnote⟩

/-- And from it, by induction on the events, the run lemma. -/
theorem follows (g : ℤ → K) (r : Registers) (es : List Event) : Follows g (play g r es) (heard es) := by
  have hrun : ∀ (es : List Event) (p : Player K) (h : Heard), Follows g p h →
      Follows g (es.foldl (fun p e => p.handle g e) p) (es.foldl (fun h e => h.next e) h) := by
    intro es
    induction es with
    | nil => intro p h hp; exact hp
    | cons e es ih => intro p h hp; exact ih _ _ (hp.next e)
  exact hrun es _ _ ⟨rfl, enable_enable false r, fun n hn => absurd hn (by simp)⟩

/-- The wheel stays in its range. -/
theorem wheel_mem {es : List Event} (hes : ∀ e ∈ es, e.Midi) :
    -8192 ≤ (heard es).wheel ∧ (heard es).wheel ≤ 8191 := by
  have hrun : ∀ (es : List Event) (h : Heard), (∀ e ∈ es, e.Midi) →
      -8192 ≤ h.wheel ∧ h.wheel ≤ 8191 →
      -8192 ≤ (es.foldl (fun h e => h.next e) h).wheel ∧
        (es.foldl (fun h e => h.next e) h).wheel ≤ 8191 := by
    intro es
    induction es with
    | nil => intro h _ hw; exact hw
    | cons e es ih =>
      intro h hes hw
      refine ih _ (fun e' he' => hes e' (List.mem_cons_of_mem _ he')) ?_
      have he := hes e (List.mem_cons_self ..)
      cases e with
      | noteOn note => exact hw
      | noteOff note => exact hw
      | pitchwheel pitch => exact he
  exact hrun es ⟨none, 0⟩ hes ⟨by norm_num, by norm_num⟩

/-! ## Main result -/

variable [IsStrictOrderedRing K]

/-- **The pitch.**  After every sequence of events the output is on exactly while a
note sounds, with a frequency within an octave of its own, which it has exactly at
wheel 0; and it rises with the wheel from one sequence to another exactly if the
lower position is not more than twice as far below 0 as the other is above. -/
theorem inTune_iff {g : ℤ → K} (hg : Scale g) (r : Registers) {es : List Event}
    (hes : ∀ e ∈ es, e.Midi) (es' : List Event) :
    InTune g r es es' ↔ ∀ n, (heard es).sounding = some n → (heard es').sounding = some n →
      (heard es).wheel ≤ (heard es').wheel →
        (heard es).wheel = (heard es').wheel ∨ -(heard es).wheel ≤ 2 * (heard es').wheel := by
  have hf := follows g r es
  have hf' := follows g r es'
  constructor
  · intro h n hn hn' hle
    exact (frequency_le_iff hg n hle).1
      (h.monotone n _ _ hn hn' (hf.sounding n hn).2 (hf'.sounding n hn').2 hle)
  · intro h
    refine ⟨fun n hn => ⟨_, (hf.sounding n hn).2, frequency_eq_own_iff hg n _,
      frequency_mem hg n (wheel_mem hes)⟩, hf.enabled, fun n x x' hn hn' hx hx' hle => ?_⟩
    obtain rfl := Option.some.inj ((hf.sounding n hn).2.symm.trans hx)
    obtain rfl := Option.some.inj ((hf'.sounding n hn').2.symm.trans hx')
    exact (frequency_le_iff hg n hle).2 (h n hn hn' hle)

end Play

/-! ## The tempered scale -/

/-- `2 ** (n / 12)` itself. -/
noncomputable def tempered (n : ℤ) : ℝ := (2 : ℕ) ^ ((n : ℝ) / (12 : ℕ))

theorem scale_tempered : Scale tempered where
  pos n := by
    unfold tempered
    positivity
  strictMono := by
    intro m n h
    have hlt : (m : ℝ) < n := by exact_mod_cast h
    exact Real.rpow_lt_rpow_of_exponent_lt (by norm_num) (div_lt_div_of_pos_right hlt (by norm_num))
  octave n := by
    have hsum : ((n + 12 : ℤ) : ℝ) / (12 : ℕ) = n / (12 : ℕ) + 1 := by
      push_cast
      ring
    rw [tempered, hsum, Real.rpow_add (by norm_num), Real.rpow_one, mul_comm]
    rfl

/-- A note that is bent upwards, next to the same note. -/
theorem inTune_bent :
    InTune tempered ⟨0, 0, false⟩ [.noteOn 69] [.noteOn 69, .pitchwheel 8191] := by
  refine (inTune_iff scale_tempered _ (fun e he => ?_) _).2 fun n _ _ _ => Or.inr (by decide)
  obtain rfl := List.mem_singleton.1 he
  exact ⟨by norm_num, by norm_num⟩

/-- With the wheel all the way down the note sounds higher than without. -/
theorem bent_down_not_inTune :
    ¬ ∀ g : ℤ → ℝ, Scale g → ∀ (r : Registers) (es es' : List Event), (∀ e ∈ es, e.Midi) →
      (∀ e ∈ es', e.Midi) → InTune g r es es' := by
  intro h
  have hmidi : ∀ e ∈ [Event.noteOn 69, .pitchwheel (-8192)], e.Midi := by
    intro e he
    simp only [List.mem_cons, List.not_mem_nil, or_false] at he
    rcases he with rfl | rfl
    · exact ⟨by norm_num, by norm_num⟩
    · exact ⟨by norm_num, by norm_num⟩
  have htune := h tempered scale_tempered ⟨0, 0, false⟩ [.noteOn 69, .pitchwheel (-8192)] [.noteOn 69]
    hmidi fun e he => hmidi e (List.mem_cons.2 (Or.inl (List.mem_singleton.1 he)))
  have hf := follows tempered ⟨0, 0, false⟩ [.noteOn 69, .pitchwheel (-8192)]
  have hf' := follows tempered ⟨0, 0, false⟩ [.noteOn 69]
  have hle := htune.monotone 69 _ _ rfl rfl (hf.sounding 69 rfl).2 (hf'.sounding 69 rfl).2 (by decide)
  have hrise := (frequency_le_iff scale_tempered 69 (by decide)).1 hle
  exact absurd hrise (by decide)

end Audio

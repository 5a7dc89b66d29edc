import Mathlib

/-!
# The button handlers

`buttons.py` replaces the button handler of an older Klipper, which is kept next to
it as `buttons.py.orig`.  A microcontroller reports samples of up to eight pins, one
byte each; the handler works out which samples of a message are new, acknowledges
them and calls, for every change, the callbacks of the pins that changed.

The two differ in how they widen the 8-bit number of a message, and in when they
compare a sample with the one before: the new handler does it on receipt, and queues
one call for each callback, the old one queues the sample and compares when its turn
comes.  A queued call is started in its turn by the reactor; a callback is named here
by its place in the list of those registered.

* `testBit_state`: what a callback gets are the levels of its own pins;
* `expand_new`, `expand_orig`: both widenings find the number of the first sample, as
  long as it is at most eight behind;
* `calls_append`: the calls of a stream of samples, cut anywhere;
* `new_sound`, `orig_sound`: both handlers take exactly the samples of a message that
  they have not had, and have called or queued what these samples are worth.
-/

namespace Buttons

/-! ## Registering callbacks -/

/-- `setup_buttons`' part of a handler: the pins so far, which of them are inverted,
and for each callback its mask and shift. -/
structure Setup where
  pinCount : ℕ
  invert : ℕ
  callbacks : List (ℕ × ℕ)

/-- The loop over the pins of one callback; of a pin only `invert` matters. -/
def addPins : List Bool → ℕ × Setup → ℕ × Setup
  | [], x => x
  | inverted :: pins, (mask, s) =>
    addPins pins (mask ||| 1 <<< s.pinCount,
      { s with
        invert := if inverted then s.invert ||| 1 <<< s.pinCount else s.invert
        pinCount := s.pinCount + 1 })

/-- `setup_buttons`. -/
def setupButtons (pins : List Bool) (s : Setup) : Setup :=
  let r := addPins pins (0, s)
  { r.2 with callbacks := r.2.callbacks ++ [(r.1, s.pinCount)] }

/-! ## The handlers -/

/-- A message: the low 8 bits of the number of its first sample, and the samples. -/
structure Params where
  ackCount : ℕ
  state : List ℕ

/-- `buttons[-new_count:]`. -/
def newButtons (buttons : List ℕ) (newCount : ℤ) : List ℕ := buttons.drop (buttons.length - newCount.toNat)

/-- A call of a callback: its place, and the state it is given. -/
structure Press where
  callback : ℕ
  state : ℕ
  deriving DecidableEq

/-- One callback, for a sample that changed these bits. -/
def pressOf (changed button : ℕ) : (ℕ × ℕ) × ℕ → Option Press
  | ((mask, shift), callback) =>
    if changed &&& mask ≠ 0 then some ⟨callback, (button &&& mask) >>> shift⟩ else none

/-- The calls for one sample. -/
def press (callbacks : List (ℕ × ℕ)) (lastButton button : ℕ) : List Press :=
  let changed := button ^^^ lastButton
  callbacks.zipIdx.filterMap (pressOf changed button)

/-- The handler of `buttons.py`, with the calls that wait in the reactor, each with
its `btime`, and those that were started. -/
structure New where
  setup : Setup
  lastButton : ℕ
  ackCount : ℤ
  queue : List (ℚ × Press)
  started : List (ℚ × Press)

/-- The loop of `handle_buttons_state` over the new samples. -/
def New.take (btime : ℚ) : List ℕ → New → New
  | [], h => h
  | b :: bs, h =>
    let button := b ^^^ h.setup.invert
    New.take btime bs
      { h with
        lastButton := button
        queue := h.queue ++ (press h.setup.callbacks h.lastButton button).map fun p => (btime, p) }

/-- `handle_buttons_state` of `buttons.py`, with the acknowledgement it sends. -/
def New.handleButtonsState (btime : ℚ) (m : Params) (h : New) : New × Option ℤ :=
  let ackDiff : ℕ := ((m.ackCount - h.ackCount) % 0x100).toNat
  let ackDiff : ℤ := ackDiff - ((ackDiff &&& 0x80) <<< 1 : ℕ)
  let msgAckCount := h.ackCount + ackDiff
  let newCount := msgAckCount + m.state.length - h.ackCount
  if newCount ≤ 0 then (h, none)
  else
    (New.take btime (newButtons m.state newCount) { h with ackCount := h.ackCount + newCount },
      some newCount)

/-- The reactor starts the call that has waited longest. -/
def New.start (h : New) : New :=
  match h.queue with
  | [] => h
  | p :: ps => { h with queue := ps, started := h.started ++ [p] }

/-- The handler of `buttons.py.orig`: what waits are samples. -/
structure Orig where
  setup : Setup
  lastButton : ℕ
  ackCount : ℤ
  queue : List ℕ
  started : List (ℚ × Press)

/-- `handle_buttons_state` of `buttons.py.orig`. -/
def Orig.handleButtonsState (m : Params) (h : Orig) : Orig × Option ℤ :=
  let ackDiff : ℕ := ((h.ackCount - m.ackCount) % 0x100).toNat
  let ackDiff : ℤ := if ackDiff &&& 0x80 ≠ 0 then ackDiff - 0x100 else ackDiff
  let msgAckCount := h.ackCount - ackDiff
  let newCount := msgAckCount + m.state.length - h.ackCount
  if newCount ≤ 0 then (h, none)
  else
    ({ h with
        ackCount := h.ackCount + newCount
        queue := h.queue ++ newButtons m.state newCount },
      some newCount)

/-- The reactor starts `handle_button` with the sample that has waited longest; its
callbacks do not block. -/
def Orig.start (eventtime : ℚ) (h : Orig) : Orig :=
  match h.queue with
  | [] => h
  | b :: bs =>
    let button := b ^^^ h.setup.invert
    { h with
      queue := bs
      started := h.started ++
        (press h.setup.callbacks h.lastButton button).map fun p => (eventtime, p)
      lastButton := button }

/-! ## What samples are worth -/

/-- The calls for a stream of samples, after `lastButton`. -/
def calls (s : Setup) (lastButton : ℕ) : List ℕ → List Press
  | [] => []
  | b :: bs => press s.callbacks lastButton (b ^^^ s.invert) ++ calls s (b ^^^ s.invert) bs

/-- What the last sample leaves. -/
def lastOf (s : Setup) (lastButton : ℕ) (bs : List ℕ) : ℕ :=
  (bs.getLast?.map (· ^^^ s.invert)).getD lastButton

/-- The states at the changes of the masked bits, over a stream of levels. -/
def changes (mask shift : ℕ) (last : ℕ) : List ℕ → List ℕ
  | [] => []
  | b :: bs =>
    if (b ^^^ last) &&& mask ≠ 0 then (b &&& mask) >>> shift :: changes mask shift b bs
    else changes mask shift b bs

/-- The calls of one callback. -/
def ofCallback (i : ℕ) (ps : List Press) : List ℕ :=
  (ps.filter fun p => p.callback = i).map Press.state

theorem pressOf_mk (changed button mask shift i : ℕ) :
    pressOf changed button ((mask, shift), i)
      = if changed &&& mask ≠ 0 then some ⟨i, (button &&& mask) >>> shift⟩ else none := rfl

theorem lastOf_cons (s : Setup) (l b : ℕ) (bs : List ℕ) :
    lastOf s l (b :: bs) = lastOf s (b ^^^ s.invert) bs := by
  unfold lastOf
  cases bs with
  | nil => simp
  | cons c cs =>
    rw [List.getLast?_cons_cons]
    cases h : (c :: cs).getLast? with
    | none => simp at h
    | some x => rfl

theorem calls_append (s : Setup) (l : ℕ) (bs cs : List ℕ) :
    calls s l (bs ++ cs) = calls s l bs ++ calls s (lastOf s l bs) cs := by
  induction bs generalizing l with
  | nil => rfl
  | cons b bs ih => rw [List.cons_append, calls, calls, ih, lastOf_cons, List.append_assoc]

theorem lastOf_append (s : Setup) (l : ℕ) (bs cs : List ℕ) :
    lastOf s l (bs ++ cs) = lastOf s (lastOf s l bs) cs := by
  induction bs generalizing l with
  | nil => rfl
  | cons b bs ih => rw [List.cons_append, lastOf_cons, ih, lastOf_cons]

theorem ofCallback_append (i : ℕ) (ps qs : List Press) :
    ofCallback i (ps ++ qs) = ofCallback i ps ++ ofCallback i qs := by
  simp [ofCallback]

/-- Callbacks from place `n` on have no call of one before. -/
theorem ofCallback_lt {i n : ℕ} (h : i < n) (changed button : ℕ) (cs : List (ℕ × ℕ)) :
    ofCallback i ((cs.zipIdx n).filterMap (pressOf changed button)) = [] := by
  have hnone : ∀ p ∈ (cs.zipIdx n).filterMap (pressOf changed button), ¬ p.callback = i := by
    intro p hp
    obtain ⟨⟨⟨mask, shift⟩, j⟩, hmem, hpress⟩ := List.mem_filterMap.1 hp
    have hj : n ≤ j := List.le_snd_of_mem_zipIdx hmem
    rw [pressOf_mk] at hpress
    split_ifs at hpress with hc
    obtain rfl := Option.some.inj hpress
    intro hji
    change j = i at hji
    omega
  unfold ofCallback
  rw [List.filter_eq_nil_iff.2 (by simpa using hnone), List.map_nil]

/-- One sample is worth at most one call of a callback. -/
theorem ofCallback_press {callbacks : List (ℕ × ℕ)} {i mask shift : ℕ}
    (hi : callbacks[i]? = some (mask, shift)) (last button : ℕ) :
    ofCallback i (press callbacks last button)
      = if (button ^^^ last) &&& mask ≠ 0 then [(button &&& mask) >>> shift] else [] := by
  have hfrom : ∀ (cs : List (ℕ × ℕ)) (n i : ℕ), cs[i]? = some (mask, shift) →
      ofCallback (n + i) ((cs.zipIdx n).filterMap (pressOf (button ^^^ last) button))
        = if (button ^^^ last) &&& mask ≠ 0 then [(button &&& mask) >>> shift] else [] := by
    intro cs
    induction cs with
    | nil => intro n i hi; simp at hi
    | cons c cs ih =>
      intro n i hi
      have hcons : ((c :: cs).zipIdx n).filterMap (pressOf (button ^^^ last) button)
          = (pressOf (button ^^^ last) button (c, n)).toList ++
            (cs.zipIdx (n + 1)).filterMap (pressOf (button ^^^ last) button) := by
        rw [List.zipIdx_cons, List.filterMap_cons]
        cases pressOf (button ^^^ last) button (c, n) <;> rfl
      rw [hcons, ofCallback_append]
      cases i with
      | zero =>
        obtain rfl : c = (mask, shift) := by simpa using hi
        rw [Nat.add_zero, ofCallback_lt (Nat.lt_succ_self n), List.append_nil]
        rw [pressOf_mk]
        split_ifs <;> simp [ofCallback]
      | succ k =>
        have hhead : ofCallback (n + (k + 1)) (pressOf (button ^^^ last) button (c, n)).toList = [] := by
          rw [← Prod.mk.eta (p := c), pressOf_mk]
          split_ifs
          all_goals simp [ofCallback]
        rw [hhead, List.nil_append, show n + (k + 1) = n + 1 + k by omega]
        exact ih (n + 1) k (by simpa using hi)
  have hzero := hfrom callbacks 0 i hi
  rwa [Nat.zero_add] at hzero

/-- The calls of a callback are the changes of its bits. -/
theorem ofCallback_calls {s : Setup} {i mask shift : ℕ}
    (hi : s.callbacks[i]? = some (mask, shift)) (l : ℕ) (bs : List ℕ) :
    ofCallback i (calls s l bs) = changes mask shift l (bs.map (· ^^^ s.invert)) := by
  induction bs generalizing l with
  | nil => rfl
  | cons b bs ih =>
    rw [calls, ofCallback_append, ofCallback_press hi, ih, List.map_cons, changes]
    split_ifs <;> rfl

/-! ## What a callback gets -/

/-- The mask of a callback holds the bits of its pins. -/
theorem testBit_addPins (pins : List Bool) (mask : ℕ) (s : Setup) (j : ℕ) :
    ((addPins pins (mask, s)).1).testBit j
      = (mask.testBit j || decide (s.pinCount ≤ j ∧ j < s.pinCount + pins.length)) := by
  induction pins generalizing mask s with
  | nil => simp [addPins]
  | cons inverted pins ih =>
    rw [addPins, ih, Nat.testBit_or, Nat.one_shiftLeft, Nat.testBit_two_pow, List.length_cons]
    by_cases hj : s.pinCount = j
    · simp [hj]
    · have hiff : (s.pinCount + 1 ≤ j ∧ j < s.pinCount + 1 + pins.length) ↔
          s.pinCount ≤ j ∧ j < s.pinCount + (pins.length + 1) := by omega
      rw [decide_eq_false hj, Bool.or_false, decide_eq_decide.2 hiff]

/-- Bit `j` of the state that a callback gets is the level of its pin `j`. -/
theorem testBit_state (pins : List Bool) (s : Setup) (button j : ℕ) :
    (((button &&& (addPins pins (0, s)).1) >>> s.pinCount)).testBit j
      = (decide (j < pins.length) && button.testBit (s.pinCount + j)) := by
  have hpin : (s.pinCount ≤ s.pinCount + j ∧ s.pinCount + j < s.pinCount + pins.length) ↔
      j < pins.length := by omega
  rw [Nat.testBit_shiftRight, Nat.testBit_and, testBit_addPins]
  simp only [Nat.zero_testBit, Bool.false_or, hpin]
  exact Bool.and_comm ..

/-! ## The numbers of the samples -/

/-- A difference of at most eight, in 8 bits. -/
theorem toNat_sub_emod {first k : ℕ} (hk : k ≤ 8) :
    ((((first % 256 : ℕ) : ℤ) - (first + k : ℕ)) % 0x100).toNat = (256 - k) % 256 ∧
      (((first + k : ℕ) - ((first % 256 : ℕ) : ℤ)) % 0x100).toNat = k := by
  constructor <;> omega

/-- The new widening. -/
theorem expand_new {taken first : ℕ} (h0 : first ≤ taken) (h1 : taken ≤ first + 8) :
    let ackDiff : ℕ := ((((first % 256 : ℕ) : ℤ) - taken) % 0x100).toNat
    (taken : ℤ) + (ackDiff - ((ackDiff &&& 0x80) <<< 1 : ℕ)) = first := by
  obtain ⟨k, rfl⟩ := Nat.exists_eq_add_of_le h0
  have hk : k ≤ 8 := by omega
  have hdiff : ∀ k ≤ 8, ((k : ℕ) : ℤ) + ((((256 - k) % 256 : ℕ) : ℤ) -
      ((((256 - k) % 256) &&& 0x80) <<< 1 : ℕ)) = 0 := by decide
  rw [(toNat_sub_emod hk).1]
  have hzero := hdiff k hk
  push_cast at hzero ⊢
  linarith

/-- The old one. -/
theorem expand_orig {taken first : ℕ} (h0 : first ≤ taken) (h1 : taken ≤ first + 8) :
    let ackDiff : ℕ := (((taken : ℤ) - ((first % 256 : ℕ) : ℤ)) % 0x100).toNat
    (taken : ℤ) - (if ackDiff &&& 0x80 ≠ 0 then (ackDiff : ℤ) - 0x100 else ackDiff) = first := by
  obtain ⟨k, rfl⟩ := Nat.exists_eq_add_of_le h0
  have hk : k ≤ 8 := by omega
  have hsmall : ∀ k ≤ 8, ¬ k &&& 0x80 ≠ 0 := by decide
  rw [(toNat_sub_emod hk).2]
  simp only [if_neg (hsmall k hk)]
  push_cast
  ring

/-! ## Taking a message -/

/-- What is sent for so many new samples. -/
def acknowledgement (n : ℕ) : Option ℤ := if n = 0 then none else some n

/-- The new handler has had the samples `bs`: what it has started and what waits are
the calls that they are worth. -/
structure New.Has (s : Setup) (bs : List ℕ) (h : New) : Prop where
  setup : h.setup = s
  ackCount : h.ackCount = bs.length
  lastButton : h.lastButton = lastOf s 0 bs
  called : (h.started ++ h.queue).map Prod.snd = calls s 0 bs

/-- The old one has handled some of them, and the others wait. -/
structure Orig.Has (s : Setup) (bs : List ℕ) (h : Orig) : Prop where
  setup : h.setup = s
  ackCount : h.ackCount = bs.length
  handled : ∃ done, done ++ h.queue = bs ∧ h.lastButton = lastOf s 0 done ∧
    h.started.map Prod.snd = calls s 0 done

theorem New.take_spec (t : ℚ) (bs : List ℕ) (h : New) :
    (New.take t bs h).setup = h.setup ∧ (New.take t bs h).ackCount = h.ackCount ∧
      (New.take t bs h).started = h.started ∧
      (New.take t bs h).lastButton = lastOf h.setup h.lastButton bs ∧
      (New.take t bs h).queue.map Prod.snd
        = h.queue.map Prod.snd ++ calls h.setup h.lastButton bs := by
  induction bs generalizing h with
  | nil => simp [New.take, lastOf, calls]
  | cons b bs ih =>
    rw [New.take]
    obtain ⟨h1, h2, h3, h4, h5⟩ := ih { h with
      lastButton := b ^^^ h.setup.invert
      queue := h.queue ++
        (press h.setup.callbacks h.lastButton (b ^^^ h.setup.invert)).map fun p => (t, p) }
    refine ⟨h1, h2, h3, h4.trans (lastOf_cons ..).symm, h5.trans ?_⟩
    simp [calls, Function.comp_def]

theorem newButtons_of_le {first taken : ℕ} (state : List ℕ) (h0 : first ≤ taken)
    (hlt : taken < first + state.length) :
    newButtons state ((first : ℤ) + state.length - taken) = state.drop (taken - first) := by
  unfold newButtons
  congr 1
  omega

/-- The step lemma of the new handler. -/
theorem new_sound {s : Setup} {bs : List ℕ} {h : New} (hh : h.Has s bs) (t : ℚ) {first : ℕ}
    (h0 : first ≤ bs.length) (h1 : bs.length ≤ first + 8) (state : List ℕ) :
    (h.handleButtonsState t ⟨first % 256, state⟩).1.Has s (bs ++ state.drop (bs.length - first)) ∧
      (h.handleButtonsState t ⟨first % 256, state⟩).2
        = acknowledgement (first + state.length - bs.length) := by
  have hexpand := expand_new h0 h1
  rw [← hh.ackCount] at hexpand
  simp only at hexpand
  unfold New.handleButtonsState
  simp only [hexpand]
  rw [hh.ackCount]
  by_cases hnew : (first : ℤ) + state.length - bs.length ≤ 0
  · have hdrop : state.drop (bs.length - first) = [] := List.drop_eq_nil_of_le (by omega)
    rw [if_pos hnew, hdrop, List.append_nil, acknowledgement, if_pos (by omega)]
    exact ⟨hh, rfl⟩
  · rw [if_neg hnew, newButtons_of_le state h0 (by omega), acknowledgement, if_neg (by omega)]
    obtain ⟨hsetup, hack, hstarted, hlast, hqueue⟩ := New.take_spec t (state.drop (bs.length - first))
      { h with ackCount := (bs.length : ℤ) + ((first : ℤ) + state.length - bs.length) }
    refine ⟨⟨hsetup.trans hh.setup, hack.trans ?_, hlast.trans ?_, ?_⟩, ?_⟩
    · simp only [List.length_append, List.length_drop]
      omega
    · rw [lastOf_append, ← hh.lastButton, ← hh.setup]
    · rw [hstarted, List.map_append, hqueue, calls_append, ← hh.called, ← hh.lastButton, ← hh.setup,
        List.map_append, List.append_assoc]
    · exact congrArg some (by omega)

/-- The step lemma of the old one. -/
theorem orig_sound {s : Setup} {bs : List ℕ} {h : Orig} (hh : h.Has s bs) {first : ℕ}
    (h0 : first ≤ bs.length) (h1 : bs.length ≤ first + 8) (state : List ℕ) :
    (h.handleButtonsState ⟨first % 256, state⟩).1.Has s (bs ++ state.drop (bs.length - first)) ∧
      (h.handleButtonsState ⟨first % 256, state⟩).2
        = acknowledgement (first + state.length - bs.length) := by
  have hexpand := expand_orig h0 h1
  rw [← hh.ackCount] at hexpand
  simp only at hexpand
  unfold Orig.handleButtonsState
  simp only [hexpand]
  rw [hh.ackCount]
  by_cases hnew : (first : ℤ) + state.length - bs.length ≤ 0
  · have hdrop : state.drop (bs.length - first) = [] := List.drop_eq_nil_of_le (by omega)
    rw [if_pos hnew, hdrop, List.append_nil, acknowledgement, if_pos (by omega)]
    exact ⟨hh, rfl⟩
  · rw [if_neg hnew, newButtons_of_le state h0 (by omega), acknowledgement, if_neg (by omega)]
    obtain ⟨done, hdone, hlast, hstarted⟩ := hh.handled
    refine ⟨⟨hh.setup, ?_, done, ?_, hlast, hstarted⟩, ?_⟩
    · simp only [List.length_append, List.length_drop]
      omega
    · rw [← List.append_assoc, hdone]
    · exact congrArg some (by omega)

/-- Starting a call changes nothing of this. -/
theorem New.Has.start {s : Setup} {bs : List ℕ} {h : New} (hh : h.Has s bs) : h.start.Has s bs := by
  unfold New.start
  cases hq : h.queue with
  | nil => exact hh
  | cons p ps =>
    refine ⟨hh.setup, hh.ackCount, hh.lastButton, ?_⟩
    rw [← hh.called, hq]
    simp

theorem Orig.Has.start {s : Setup} {bs : List ℕ} {h : Orig} (hh : h.Has s bs) (t : ℚ) :
    (h.start t).Has s bs := by
  unfold Orig.start
  cases hq : h.queue with
  | nil => exact hh
  | cons b qs =>
    obtain ⟨done, hdone, hlast, hstarted⟩ := hh.handled
    refine ⟨hh.setup, hh.ackCount, done ++ [b], ?_, ?_, ?_⟩
    · rw [List.append_assoc, List.singleton_append, ← hq, hdone]
    · rw [lastOf_append, ← hlast, hh.setup, lastOf_cons]
      rfl
    · rw [calls_append, ← hstarted, ← hlast, hh.setup]
      simp [calls, Function.comp_def]

end Buttons

import Ff5m.Buttons.Handler

/-!
# From the samples to the calls

The microcontroller numbers its samples and sends, again and again until it is told
otherwise, those from the first that is not acknowledged on, up to eight of them.
Messages are duplicated or lost on the way, but keep their order; acknowledgements
arrive in order.  The reactor starts a waiting call whenever it gets to it.

A `System` has one of the two handlers at its end.  A `Line` is what remains of it
without the handler: all it knows of the handler is how many samples were taken.

* `Line.Sound.step`: a message on the way starts at most eight samples behind what was
  taken;
* `Refines.step`: so a handler takes from each message exactly what is new, and the
  system does what the line says;
* `delivery`: in every run the calls started and waiting are those of the samples
  taken so far, each callback being called once per change of its bits, and both
  handlers have the same calls.
-/

namespace Buttons

/-! ## The line -/

/-- A message on the way.  Only the low 8 bits of the number are sent. -/
structure Sent where
  first : ℕ
  state : List ℕ

/-- What happens. -/
inductive Event where
  | sample (b : ℕ)
  | send (count : ℕ)
  | deliver (time : ℚ)
  | duplicate (time : ℚ)
  | lose
  | acknowledge
  | start (time : ℚ)

/-- A handler of messages. -/
structure Driver (H : Type) where
  handle : ℚ → Params → H → H × Option ℤ
  start : ℚ → H → H

/-- The microcontroller with all samples it has taken and the number of the first that
is not acknowledged, what is on the way in both directions, and the handler. -/
structure System (H : Type) where
  samples : List ℕ
  acked : ℕ
  acks : List ℕ
  messages : List Sent
  host : H

section Step

variable {H : Type}

/-- The first message arrives; a duplicate leaves it on the way. -/
def System.deliver (D : Driver H) (time : ℚ) (keep : Bool) (y : System H) : System H :=
  match y.messages with
  | [] => y
  | m :: ms =>
    let r := D.handle time ⟨m.first % 256, m.state⟩ y.host
    { y with
      acks := y.acks ++ r.2.toList.map Int.toNat
      messages := if keep then m :: ms else ms
      host := r.1 }

/-- One event. -/
def System.step (D : Driver H) (y : System H) : Event → System H
  | .sample b => { y with samples := y.samples ++ [b] }
  | .send count =>
    { y with messages := y.messages ++ [⟨y.acked, (y.samples.drop y.acked).take (min count 8)⟩] }
  | .deliver time => y.deliver D time false
  | .duplicate time => y.deliver D time true
  | .lose => { y with messages := y.messages.tail }
  | .acknowledge =>
    match y.acks with
    | [] => y
    | c :: cs => { y with acked := y.acked + c, acks := cs }
  | .start time => { y with host := D.start time y.host }

/-- A run from before the first sample. -/
def System.run (D : Driver H) (h : H) (es : List Event) : System H :=
  es.foldl (System.step D) ⟨[], 0, [], [], h⟩

end Step

/-- The two handlers. -/
def newDriver : Driver New := ⟨fun time m h => h.handleButtonsState time m, fun _ h => h.start⟩

def origDriver : Driver Orig := ⟨fun _ m h => h.handleButtonsState m, fun time h => h.start time⟩

/-! ## Without the handler -/

/-- The system, with the number of samples taken in place of the handler. -/
structure Line where
  samples : List ℕ
  acked : ℕ
  acks : List ℕ
  messages : List Sent
  taken : ℕ

/-- The samples of a message beyond those taken. -/
def Sent.news (m : Sent) (taken : ℕ) : ℕ := m.first + m.state.length - taken

def Line.deliver (keep : Bool) (l : Line) : Line :=
  match l.messages with
  | [] => l
  | m :: ms =>
    { l with
      acks := l.acks ++ if m.news l.taken = 0 then [] else [m.news l.taken]
      messages := if keep then m :: ms else ms
      taken := l.taken + m.news l.taken }

def Line.step (l : Line) : Event → Line
  | .sample b => { l with samples := l.samples ++ [b] }
  | .send count =>
    { l with messages := l.messages ++ [⟨l.acked, (l.samples.drop l.acked).take (min count 8)⟩] }
  | .deliver _ => l.deliver false
  | .duplicate _ => l.deliver true
  | .lose => { l with messages := l.messages.tail }
  | .acknowledge =>
    match l.acks with
    | [] => l
    | c :: cs => { l with acked := l.acked + c, acks := cs }
  | .start _ => l

def Line.run (es : List Event) : Line := es.foldl Line.step ⟨[], 0, [], [], 0⟩

/-- A message that was made of these samples. -/
structure Sent.Of (samples : List ℕ) (m : Sent) : Prop where
  short : m.state.length ≤ 8
  fits : m.first + m.state.length ≤ samples.length
  state : m.state = (samples.drop m.first).take m.state.length

/-- The messages on the way, in order, start at most eight samples behind what was
taken and not after what is acknowledged; and so does the next. -/
structure Line.Sound (l : Line) : Prop where
  taken_le : l.taken ≤ l.samples.length
  acked_add : l.acked + l.acks.sum = l.taken
  window : l.taken ≤ l.acked + 8
  made : ∀ m ∈ l.messages, m.Of l.samples
  first_le : ∀ m ∈ l.messages, m.first ≤ l.acked
  behind : ∀ m ∈ l.messages, l.taken ≤ m.first + 8
  sorted : l.messages.Pairwise fun m m' => m.first ≤ m'.first

theorem Sent.Of.append {samples : List ℕ} {m : Sent} (h : m.Of samples) (bs : List ℕ) :
    m.Of (samples ++ bs) := by
  refine ⟨h.short, ?_, ?_⟩
  · rw [List.length_append]
    exact h.fits.trans (Nat.le_add_right ..)
  · rw [List.drop_append_of_le_length (by have := h.fits; omega), List.take_append_of_le_length]
    · exact h.state
    · have hfits := h.fits
      rw [List.length_drop]
      omega

/-- Taking the first message. -/
theorem Line.Sound.deliver {l : Line} (h : l.Sound) (keep : Bool) : (l.deliver keep).Sound := by
  unfold Line.deliver
  cases hm : l.messages with
  | nil => exact h
  | cons m ms =>
    have hmem : m ∈ l.messages := by rw [hm]; exact List.mem_cons_self ..
    have hof := h.made m hmem
    have hshort := hof.short
    have hfits := hof.fits
    have hsum := h.acked_add
    have hwindow := h.window
    have htaken := h.taken_le
    have hfirst := h.first_le m hmem
    have hsorted := h.sorted
    rw [hm, List.pairwise_cons] at hsorted
    -- what stays on the way was on the way before
    have hsub : ∀ m' ∈ (if keep then m :: ms else ms), m' ∈ l.messages := by
      intro m' hm'
      rw [hm]
      cases keep with
      | true => exact hm'
      | false => exact List.mem_cons_of_mem _ hm'
    have hfirst_le : ∀ m' ∈ l.messages, m.first ≤ m'.first := by
      intro m' hm'
      rw [hm] at hm'
      rcases List.mem_cons.1 hm' with rfl | hm'
      · exact le_refl _
      · exact hsorted.1 m' hm'
    refine ⟨?_, ?_, ?_, fun m' hm' => h.made m' (hsub m' hm'), fun m' hm' => h.first_le m' (hsub m' hm'),
      fun m' hm' => ?_, ?_⟩
    · simp only [Sent.news]
      omega
    · simp only [List.sum_append]
      split_ifs with hnew
      · simp only [List.sum_nil]
        omega
      · simp only [List.sum_singleton]
        omega
    · simp only [Sent.news]
      omega
    · have hbehind := h.behind m' (hsub m' hm')
      have hle := hfirst_le m' (hsub m' hm')
      simp only [Sent.news]
      omega
    · cases keep with
      | true => exact List.pairwise_cons.2 hsorted
      | false => exact hsorted.2

/-- The step lemma. -/
theorem Line.Sound.step {l : Line} (h : l.Sound) (e : Event) : (l.step e).Sound := by
  cases e with
  | sample b =>
    refine ⟨?_, h.acked_add, h.window, fun m hm => (h.made m hm).append [b], h.first_le, h.behind,
      h.sorted⟩
    rw [Line.step, List.length_append]
    exact h.taken_le.trans (Nat.le_add_right ..)
  | send count =>
    have hsum := h.acked_add
    have htaken := h.taken_le
    have hwindow := h.window
    have hnew : (⟨l.acked, (l.samples.drop l.acked).take (min count 8)⟩ : Sent).Of l.samples := by
      refine ⟨?_, ?_, ?_⟩
      · rw [List.length_take]
        omega
      · simp only [List.length_take, List.length_drop]
        omega
      · simp only [List.length_take]
        rw [List.take_eq_take_iff]
        omega
    refine ⟨h.taken_le, h.acked_add, h.window, fun m hm => ?_, fun m hm => ?_, fun m hm => ?_, ?_⟩
    · rcases List.mem_append.1 hm with hm | hm
      · exact h.made m hm
      · rw [List.mem_singleton.1 hm]
        exact hnew
    · rcases List.mem_append.1 hm with hm | hm
      · exact h.first_le m hm
      · rw [List.mem_singleton.1 hm]
        exact le_refl _
    · rcases List.mem_append.1 hm with hm | hm
      · exact h.behind m hm
      · rw [List.mem_singleton.1 hm]
        exact hwindow
    · refine List.pairwise_append.2 ⟨h.sorted, List.pairwise_singleton .., fun m hm m' hm' => ?_⟩
      rw [List.mem_singleton.1 hm']
      exact h.first_le m hm
  | deliver time => exact h.deliver false
  | duplicate time => exact h.deliver true
  | lose =>
    have hsub : ∀ m ∈ l.messages.tail, m ∈ l.messages := fun m hm => List.mem_of_mem_tail hm
    exact ⟨h.taken_le, h.acked_add, h.window, fun m hm => h.made m (hsub m hm),
      fun m hm => h.first_le m (hsub m hm), fun m hm => h.behind m (hsub m hm), h.sorted.tail⟩
  | acknowledge =>
    unfold Line.step
    cases ha : l.acks with
    | nil => simpa [ha] using h
    | cons c cs =>
      have hsum := h.acked_add
      rw [ha, List.sum_cons] at hsum
      have hwindow := h.window
      refine ⟨h.taken_le, ?_, ?_, h.made, fun m hm => ?_, h.behind, h.sorted⟩
      · show l.acked + c + cs.sum = l.taken
        omega
      · show l.taken ≤ l.acked + c + 8
        omega
      · exact (h.first_le m hm).trans (Nat.le_add_right ..)
  | start time => exact h

theorem Line.Sound.run {l : Line} (h : l.Sound) (es : List Event) : (es.foldl Line.step l).Sound := by
  induction es generalizing l with
  | nil => exact h
  | cons e es ih => exact ih (h.step e)

theorem Line.sound_run (es : List Event) : (Line.run es).Sound :=
  Line.Sound.run ⟨le_refl 0, rfl, Nat.zero_le _, by simp, by simp, by simp, by simp⟩ es

/-! ## The systems do what the line says -/

section Refinement

variable {H : Type}

/-- A handler that takes from a message what it has not had. -/
structure Driver.Correct (D : Driver H) (Has : List ℕ → H → Prop) : Prop where
  handle : ∀ {bs h}, Has bs h → ∀ (time : ℚ) {first : ℕ}, first ≤ bs.length → bs.length ≤ first + 8 →
    ∀ state : List ℕ,
      Has (bs ++ state.drop (bs.length - first)) (D.handle time ⟨first % 256, state⟩ h).1 ∧
        (D.handle time ⟨first % 256, state⟩ h).2 = acknowledgement (first + state.length - bs.length)
  start : ∀ {bs h}, Has bs h → ∀ time : ℚ, Has bs (D.start time h)

/-- The system is the line with a handler that has had the samples taken. -/
structure Refines (Has : List ℕ → H → Prop) (y : System H) (l : Line) : Prop where
  samples : y.samples = l.samples
  acked : y.acked = l.acked
  acks : y.acks = l.acks
  messages : y.messages = l.messages
  host : Has (l.samples.take l.taken) y.host

variable {D : Driver H} {Has : List ℕ → H → Prop}

/-- What was taken, and what is new of a message. -/
theorem take_append_news {samples : List ℕ} {m : Sent} (hm : m.Of samples) {n : ℕ} (h0 : m.first ≤ n) :
    samples.take n ++ m.state.drop (n - m.first) = samples.take (n + m.news n) := by
  have hstate := hm.state
  by_cases hnew : n < m.first + m.state.length
  · have hdrop : m.state.drop (n - m.first) = (samples.drop n).take (m.news n) := by
      rw [hstate, List.drop_take, List.drop_drop, Nat.add_sub_cancel' h0, Sent.news]
      congr 1
      omega
    rw [hdrop, List.take_add]
  · have hnil : m.state.drop (n - m.first) = [] := List.drop_eq_nil_of_le (by omega)
    have hzero : m.news n = 0 := by
      unfold Sent.news
      omega
    rw [hnil, List.append_nil, hzero, Nat.add_zero]

theorem Refines.deliver (hD : D.Correct Has) {y : System H} {l : Line} (hr : Refines Has y l)
    (hl : l.Sound) (time : ℚ) (keep : Bool) : Refines Has (y.deliver D time keep) (l.deliver keep) := by
  unfold System.deliver Line.deliver
  rw [hr.messages]
  cases hm : l.messages with
  | nil => exact hr
  | cons m ms =>
    have hmem : m ∈ l.messages := by rw [hm]; exact List.mem_cons_self ..
    have hlength : (l.samples.take l.taken).length = l.taken := List.length_take_of_le hl.taken_le
    have hfirst : m.first ≤ l.taken := by
      have hle := hl.first_le m hmem
      have hsum := hl.acked_add
      omega
    have hnear : m.first ≤ (l.samples.take l.taken).length := by rw [hlength]; exact hfirst
    obtain ⟨hhas, hack⟩ := hD.handle hr.host time hnear
      (by rw [hlength]; exact hl.behind m hmem) m.state
    rw [hlength, take_append_news (hl.made m hmem) hfirst] at hhas
    rw [hlength] at hack
    refine ⟨hr.samples, hr.acked, ?_, rfl, hhas⟩
    have hsent : (acknowledgement (m.first + m.state.length - l.taken)).toList.map Int.toNat
        = if m.news l.taken = 0 then [] else [m.news l.taken] := by
      unfold acknowledgement Sent.news
      by_cases hnew : m.first + m.state.length - l.taken = 0
      · rw [if_pos hnew, if_pos hnew]
        rfl
      · rw [if_neg hnew, if_neg hnew]
        rfl
    simp only
    rw [hack, hr.acks, hsent]

/-- The step lemma. -/
theorem Refines.step (hD : D.Correct Has) {y : System H} {l : Line} (hr : Refines Has y l)
    (hl : l.Sound) (e : Event) : Refines Has (y.step D e) (l.step e) := by
  cases e with
  | sample b =>
    refine ⟨congrArg (· ++ [b]) hr.samples, hr.acked, hr.acks, hr.messages, ?_⟩
    rw [Line.step, List.take_append_of_le_length hl.taken_le]
    exact hr.host
  | send count =>
    refine ⟨hr.samples, hr.acked, hr.acks, ?_, hr.host⟩
    simp only [System.step, Line.step, hr.messages, hr.acked, hr.samples]
  | deliver time => exact hr.deliver hD hl time false
  | duplicate time => exact hr.deliver hD hl time true
  | lose => exact ⟨hr.samples, hr.acked, hr.acks, congrArg List.tail hr.messages, hr.host⟩
  | acknowledge =>
    unfold System.step Line.step
    rw [hr.acks]
    cases ha : l.acks with
    | nil => simpa [ha] using hr
    | cons c cs => exact ⟨hr.samples, congrArg (· + c) hr.acked, rfl, hr.messages, hr.host⟩
  | start time => exact ⟨hr.samples, hr.acked, hr.acks, hr.messages, hD.start hr.host time⟩

theorem refines_run (hD : D.Correct Has) {h : H} (hh : Has [] h) (es : List Event) :
    Refines Has (System.run D h es) (Line.run es) := by
  have hrun : ∀ (es : List Event) (y : System H) (l : Line), l.Sound → Refines Has y l →
      Refines Has (es.foldl (System.step D) y) (es.foldl Line.step l) := by
    intro es
    induction es with
    | nil => intro y l _ hr; exact hr
    | cons e es ih => intro y l hl hr; exact ih _ _ (hl.step e) (hr.step hD hl e)
  exact hrun es _ _ (Line.sound_run []) ⟨rfl, rfl, rfl, rfl, hh⟩

end Refinement

theorem newDriver_correct (s : Setup) : newDriver.Correct (New.Has s) where
  handle hh time _ h0 h1 state := new_sound hh time h0 h1 state
  start hh _ := hh.start

theorem origDriver_correct (s : Setup) : origDriver.Correct (Orig.Has s) where
  handle hh _ _ h0 h1 state := orig_sound hh h0 h1 state
  start hh time := hh.start time

/-! ## Nothing is held up for good -/

/-- The event takes no sample. -/
def Event.Quiet : Event → Prop
  | .sample _ => False
  | _ => True

theorem lose_all (l : Line) :
    (List.replicate l.messages.length Event.lose).foldl Line.step l = { l with messages := [] } := by
  have hrun : ∀ (ms : List Sent) (l : Line), l.messages = ms →
      (List.replicate ms.length Event.lose).foldl Line.step l = { l with messages := [] } := by
    intro ms
    induction ms with
    | nil =>
      rintro ⟨samples, acked, acks, messages, taken⟩ h
      obtain rfl : messages = [] := h
      rfl
    | cons m ms ih =>
      intro l h
      rw [List.length_cons, List.replicate_succ, List.foldl_cons]
      exact ih (l.step .lose) (congrArg List.tail h)
  exact hrun _ l rfl

theorem acknowledge_all (l : Line) :
    (List.replicate l.acks.length Event.acknowledge).foldl Line.step l
      = { l with acked := l.acked + l.acks.sum, acks := [] } := by
  have hrun : ∀ (cs : List ℕ) (l : Line), l.acks = cs →
      (List.replicate cs.length Event.acknowledge).foldl Line.step l
        = { l with acked := l.acked + cs.sum, acks := [] } := by
    intro cs
    induction cs with
    | nil =>
      rintro ⟨samples, acked, acks, messages, taken⟩ h
      obtain rfl : acks = [] := h
      rfl
    | cons c cs ih =>
      intro l h
      have hstep : l.step .acknowledge = { l with acked := l.acked + c, acks := cs } := by
        rw [Line.step, h]
      rw [List.length_cons, List.replicate_succ, List.foldl_cons, hstep, ih _ rfl, List.sum_cons,
        Nat.add_assoc]
  exact hrun _ l rfl

/-- Sending again what is missing, often enough, gets all samples across. -/
theorem Line.Sound.completes {l : Line} (h : l.Sound) :
    ∃ es : List Event, (∀ e ∈ es, e.Quiet) ∧ (es.foldl Line.step l).samples = l.samples ∧
      (es.foldl Line.step l).taken = l.samples.length := by
  induction hk : l.samples.length - l.taken using Nat.strong_induction_on generalizing l with
  | _ k ih =>
    by_cases hall : l.taken = l.samples.length
    · exact ⟨[], by simp, rfl, hall⟩
    · have hlt : l.taken < l.samples.length := lt_of_le_of_ne h.taken_le hall
      let round := List.replicate l.messages.length Event.lose ++
        (List.replicate l.acks.length .acknowledge ++ [.send 8, .deliver 0])
      have hquiet : ∀ e ∈ round, e.Quiet := by
        intro e he
        simp only [round, List.mem_append, List.mem_replicate, List.mem_cons, List.not_mem_nil,
          or_false] at he
        rcases he with ⟨-, rfl⟩ | ⟨-, rfl⟩ | rfl | rfl <;> trivial
      have hack := acknowledge_all { l with messages := [] }
      have hround : round.foldl Line.step l
          = (({ l with acked := l.acked + l.acks.sum, acks := [], messages := [] } : Line).step
              (.send 8)).step (.deliver 0) := by
        simp only [round, List.foldl_append, lose_all, hack, List.foldl_cons, List.foldl_nil]
      have hsamples : (round.foldl Line.step l).samples = l.samples := by rw [hround]; rfl
      have htaken : (round.foldl Line.step l).taken = l.taken + min 8 (l.samples.length - l.taken) := by
        rw [hround]
        simp only [Line.step, Line.deliver, h.acked_add, List.nil_append, Sent.news, List.length_take,
          List.length_drop]
        omega
      obtain ⟨es, hes, hsame, hend⟩ := ih _ (by rw [hsamples, htaken]; omega) (h.run round) rfl
      refine ⟨round ++ es, fun e he => ?_, ?_, ?_⟩
      · rcases List.mem_append.1 he with he | he
        · exact hquiet e he
        · exact hes e he
      · rw [List.foldl_append, hsame, hsamples]
      · rw [List.foldl_append, hend, hsamples]

/-- The reactor gets to every call that waits. -/
theorem start_all (y : System New) :
    ∃ h, (List.replicate y.host.queue.length (Event.start 0)).foldl (System.step newDriver) y
      = { y with host := h } ∧ h.queue = [] := by
  have hrun : ∀ (ps : List (ℚ × Press)) (y : System New), y.host.queue = ps →
      ∃ h, (List.replicate ps.length (Event.start 0)).foldl (System.step newDriver) y
        = { y with host := h } ∧ h.queue = [] := by
    intro ps
    induction ps with
    | nil => intro y hy; exact ⟨y.host, rfl, hy⟩
    | cons p ps ih =>
      intro y hy
      have hqueue : (y.step newDriver (.start 0)).host.queue = ps := by
        show y.host.start.queue = ps
        unfold New.start
        rw [hy]
      obtain ⟨h, hfold, hempty⟩ := ih _ hqueue
      refine ⟨h, ?_, hempty⟩
      rw [List.length_cons, List.replicate_succ, List.foldl_cons, hfold]
      rfl
  exact hrun _ y rfl

/-! ## Main results -/

/-- The handlers before the first message. -/
def New.init (s : Setup) : New := ⟨s, 0, 0, [], []⟩

def Orig.init (s : Setup) : Orig := ⟨s, 0, 0, [], []⟩

/-- The calls that the new handler has made: started, or waiting in their order. -/
def New.pressed (h : New) : List Press := (h.started ++ h.queue).map Prod.snd

/-- Of `n` samples taken, what the two handlers have called. -/
structure Delivered (s : Setup) (n : ℕ) (y : System New) (z : System Orig) : Prop where
  some_taken : n ≤ y.samples.length
  taken : y.host.ackCount = n
  pressed : y.host.pressed = calls s 0 (y.samples.take n)
  once : ∀ i mask shift, s.callbacks[i]? = some (mask, shift) →
    ofCallback i y.host.pressed = changes mask shift 0 ((y.samples.take n).map (· ^^^ s.invert))
  same_line : z.samples = y.samples ∧ z.acked = y.acked ∧ z.acks = y.acks ∧ z.messages = y.messages
  same_taken : z.host.ackCount = n
  same_calls : z.host.started.map Prod.snd ++ calls s z.host.lastButton z.host.queue = y.host.pressed

theorem delivered (s : Setup) (es : List Event) :
    Delivered s (Line.run es).taken (System.run newDriver (.init s) es)
      (System.run origDriver (.init s) es) := by
  have hl := Line.sound_run es
  have hnew := refines_run (newDriver_correct s) (h := .init s) ⟨rfl, rfl, rfl, rfl⟩ es
  have horig := refines_run (origDriver_correct s) (h := .init s) ⟨rfl, rfl, [], rfl, rfl, rfl⟩ es
  have hlength : ((Line.run es).samples.take (Line.run es).taken).length = (Line.run es).taken :=
    List.length_take_of_le hl.taken_le
  have hpressed : (System.run newDriver (.init s) es).host.pressed
      = calls s 0 ((System.run newDriver (.init s) es).samples.take (Line.run es).taken) := by
    rw [hnew.samples]
    exact hnew.host.called
  obtain ⟨done, hdone, hlast, hstarted⟩ := horig.host.handled
  refine ⟨?_, ?_, hpressed, fun i mask shift hi => ?_, ?_, ?_, ?_⟩
  · rw [hnew.samples]
    exact hl.taken_le
  · rw [hnew.host.ackCount, hlength]
  · rw [hpressed]
    exact ofCallback_calls hi ..
  · exact ⟨horig.samples.trans hnew.samples.symm, horig.acked.trans hnew.acked.symm,
      horig.acks.trans hnew.acks.symm, horig.messages.trans hnew.messages.symm⟩
  · rw [horig.host.ackCount, hlength]
  · rw [hpressed, hnew.samples, hstarted, hlast, ← calls_append, hdone]

end Buttons

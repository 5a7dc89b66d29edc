import Ff5m.Link.SerialQueue

/-!
# The commands of a queue

What becomes of the commands that are given to `serialqueue.c`: they go from the upcoming queue
to the ready queue and from there into a block.

* `Queues`: each command queue is listed once, and the bytes are counted right;
* `step_commands`: one step;
* `run_commands`: in every run, the commands of a queue go into the blocks in the order in
  which they were given, each of them once.
-/

namespace Link

/-! ## What a queue holds -/

/-- The commands of a queue that are not in a block yet. -/
def contents (id : ℕ) (qs : List CommandQueue) : List QueueMessage :=
  ((qs.filter fun q => q.id = id).map fun q => q.readyQueue ++ q.upcomingQueue).flatten

/-- The commands of a queue among those of all. -/
def ofQueue (id : ℕ) (commands : List (ℕ × QueueMessage)) : List QueueMessage :=
  (commands.filter fun c => c.1 = id).map Prod.snd

/-- The commands of a queue in the blocks. -/
def inBlocks (id : ℕ) (bs : List Built) : List QueueMessage := (bs.map fun b => ofQueue id b.commands).flatten

def readyOf (qs : List CommandQueue) : ℤ := (qs.map fun q => bytesOf q.readyQueue).sum

def upcomingOf (qs : List CommandQueue) : ℤ := (qs.map fun q => bytesOf q.upcomingQueue).sum

theorem contents_cons (id : ℕ) (q : CommandQueue) (qs : List CommandQueue) :
    contents id (q :: qs) = (if q.id = id then q.readyQueue ++ q.upcomingQueue else []) ++ contents id qs := by
  unfold contents
  rw [List.filter_cons]
  by_cases h : q.id = id <;> simp [h]

theorem contents_of_not_mem {id : ℕ} {qs : List CommandQueue} (h : id ∉ qs.map CommandQueue.id) :
    contents id qs = [] := by
  induction qs with
  | nil => rfl
  | cons q qs ih =>
    rw [List.map_cons, List.mem_cons, not_or] at h
    rw [contents_cons, if_neg (Ne.symm h.1), List.nil_append, ih h.2]

theorem ofQueue_append (id : ℕ) (a b : List (ℕ × QueueMessage)) :
    ofQueue id (a ++ b) = ofQueue id a ++ ofQueue id b := by
  simp [ofQueue]

theorem ofQueue_singleton (id i : ℕ) (m : QueueMessage) : ofQueue id [(i, m)] = if i = id then [m] else [] := by
  unfold ofQueue
  by_cases h : i = id <;> simp [h]

theorem ofQueue_cons (id i : ℕ) (m : QueueMessage) (more : List (ℕ × QueueMessage)) :
    ofQueue id ((i, m) :: more) = (if i = id then [m] else []) ++ ofQueue id more := by
  rw [← ofQueue_singleton, ← ofQueue_append]
  rfl

theorem inBlocks_cons (id : ℕ) (b : Built) (bs : List Built) :
    inBlocks id (b :: bs) = ofQueue id b.commands ++ inBlocks id bs := rfl

theorem inBlocks_append (id : ℕ) (a b : List Built) : inBlocks id (a ++ b) = inBlocks id a ++ inBlocks id b := by
  simp [inBlocks]

theorem bytesOf_append (a b : List QueueMessage) :
    bytesOf (a ++ b) = bytesOf a + bytesOf b := by
  simp [bytesOf]

namespace SerialQueue

/-- The command queues of a state. -/
structure Queues (s : SerialQueue) : Prop where
  nodup : (s.pendingQueues.map CommandQueue.id).Nodup
  ready : s.readyBytes = readyOf s.pendingQueues
  upcoming : s.upcomingBytes = upcomingOf s.pendingQueues

theorem queues_alloc (isCan : Bool) : (alloc isCan).Queues :=
  ⟨.nil, rfl, rfl⟩

variable {s : SerialQueue}

/-! ## Commands are given -/

theorem mem_joinQueue {id i : ℕ} {msgs : List QueueMessage} {qs : List CommandQueue}
    (h : i ∈ (joinQueue id msgs qs).map CommandQueue.id) : i = id ∨ i ∈ qs.map CommandQueue.id := by
  induction qs with
  | nil => exact .inl (by simpa [joinQueue] using h)
  | cons q qs ih =>
    unfold joinQueue at h
    split_ifs at h with hq
    · exact .inr h
    · rw [List.map_cons, List.mem_cons] at h ⊢
      rcases h with h | h
      · exact .inr (.inl h)
      · exact (ih h).imp_right .inr

theorem joinQueue_nodup (id : ℕ) (msgs : List QueueMessage) {qs : List CommandQueue}
    (h : (qs.map CommandQueue.id).Nodup) : ((joinQueue id msgs qs).map CommandQueue.id).Nodup := by
  induction qs with
  | nil => simp [joinQueue]
  | cons q qs ih =>
    unfold joinQueue
    split_ifs with hq
    · exact h
    · rw [List.map_cons, List.nodup_cons] at h ⊢
      exact ⟨fun hmem => (mem_joinQueue hmem).elim hq h.1, ih h.2⟩

theorem contents_joinQueue (id i : ℕ) (msgs : List QueueMessage) {qs : List CommandQueue}
    (hnodup : (qs.map CommandQueue.id).Nodup) :
    contents id (joinQueue i msgs qs) = contents id qs ++ if i = id then msgs else [] := by
  induction qs with
  | nil =>
    rw [joinQueue, contents_cons]
    simp [contents]
  | cons q qs ih =>
    rw [List.map_cons, List.nodup_cons] at hnodup
    unfold joinQueue
    by_cases h : q.id = i
    · have hrest : i = id → contents id qs = [] := fun hi => contents_of_not_mem (hi ▸ h ▸ hnodup.1)
      rw [if_pos h, contents_cons, contents_cons, h]
      by_cases hi : i = id
      · simp [hi, hrest hi]
      · simp [hi]
    · rw [if_neg h, contents_cons, contents_cons, ih hnodup.2, List.append_assoc]

theorem readyOf_joinQueue (i : ℕ) (msgs : List QueueMessage) (qs : List CommandQueue) :
    readyOf (joinQueue i msgs qs) = readyOf qs ∧ upcomingOf (joinQueue i msgs qs) = upcomingOf qs + bytesOf msgs := by
  induction qs with
  | nil => simp [joinQueue, readyOf, upcomingOf, bytesOf]
  | cons q qs ih =>
    unfold joinQueue
    split_ifs with h
    · refine ⟨rfl, ?_⟩
      simp only [upcomingOf, List.map_cons, List.sum_cons, bytesOf_append]
      omega
    · simp only [readyOf, upcomingOf, List.map_cons, List.sum_cons] at ih ⊢
      omega

theorem Queues.sendBatch (h : s.Queues) (i : ℕ) (msgs : List QueueMessage) : (s.sendBatch i msgs).Queues ∧
    ∀ id, contents id (s.sendBatch i msgs).pendingQueues
      = contents id s.pendingQueues ++ if i = id then msgs.map withMinClock else [] := by
  unfold SerialQueue.sendBatch
  cases hmsgs : msgs.map withMinClock with
  | nil => exact ⟨h, fun id => by simp⟩
  | cons qm rest =>
    obtain ⟨hready, hupcoming⟩ := readyOf_joinQueue i (qm :: rest) s.pendingQueues
    refine ⟨⟨joinQueue_nodup i _ h.nodup, ?_, ?_⟩, fun id => contents_joinQueue id i _ h.nodup⟩
    · exact h.ready.trans hready.symm
    · rw [hupcoming, ← h.upcoming]

/-! ## Commands become ready -/

theorem contents_stage (id ackClock : ℕ) (qs : List CommandQueue) :
    contents id (qs.map (CommandQueue.stage ackClock)) = contents id qs := by
  induction qs with
  | nil => rfl
  | cons q qs ih =>
    have hq : (q.stage ackClock).readyQueue ++ (q.stage ackClock).upcomingQueue = q.readyQueue ++ q.upcomingQueue := by
      simp only [CommandQueue.stage, List.append_assoc, List.takeWhile_append_dropWhile]
    rw [List.map_cons, contents_cons, contents_cons, ih, hq]
    rfl

theorem readyOf_stage (ackClock : ℕ) (qs : List CommandQueue) :
    let moved := (qs.map fun q => bytesOf (q.upcomingQueue.takeWhile fun m => m.minClock ≤ ackClock)).sum
    readyOf (qs.map (CommandQueue.stage ackClock)) = readyOf qs + moved ∧
      upcomingOf (qs.map (CommandQueue.stage ackClock)) = upcomingOf qs - moved := by
  induction qs with
  | nil => simp [readyOf, upcomingOf]
  | cons q qs ih =>
    have hq : bytesOf q.upcomingQueue = bytesOf (q.upcomingQueue.takeWhile fun m => m.minClock ≤ ackClock)
        + bytesOf (q.upcomingQueue.dropWhile fun m => m.minClock ≤ ackClock) := by
      rw [← bytesOf_append, List.takeWhile_append_dropWhile]
    obtain ⟨hready, hupcoming⟩ := ih
    simp only [readyOf, upcomingOf, List.map_cons, List.sum_cons, CommandQueue.stage, bytesOf_append] at *
    constructor
    · rw [hready]
      ring
    · rw [hupcoming, hq]
      ring

theorem Queues.stageAll (h : s.Queues) (ackClock : ℕ) : (s.stageAll ackClock).Queues ∧
    ∀ id, contents id (s.stageAll ackClock).pendingQueues = contents id s.pendingQueues := by
  obtain ⟨hready, hupcoming⟩ := readyOf_stage ackClock s.pendingQueues
  refine ⟨⟨?_, ?_, ?_⟩, fun id => contents_stage id ackClock s.pendingQueues⟩
  · have hids : (s.stageAll ackClock).pendingQueues.map CommandQueue.id = s.pendingQueues.map CommandQueue.id := by
      simp [SerialQueue.stageAll, CommandQueue.stage]
    rw [hids]
    exact h.nodup
  · exact (congrArg (· + _) h.ready).trans hready.symm
  · exact (congrArg (· - _) h.upcoming).trans hupcoming.symm

/-! ## Commands go into a block -/

/-- The message that is chosen is the first of a queue. -/
theorem lowest_spec (qs : List CommandQueue) (minClock : ℕ) (best : Option (ℕ × QueueMessage)) :
    lowest qs minClock best = best ∨
      ∃ q ∈ qs, ∃ m rest, q.readyQueue = m :: rest ∧ lowest qs minClock best = some (q.id, m) := by
  induction qs generalizing minClock best with
  | nil => exact .inl rfl
  | cons q qs ih =>
    unfold lowest
    cases hq : q.readyQueue with
    | nil =>
      rcases ih minClock best with h | ⟨q', hq', h⟩
      · exact .inl h
      · exact .inr ⟨q', List.mem_cons_of_mem _ hq', h⟩
    | cons m rest =>
      simp only
      split_ifs with hlt
      · rcases ih m.reqClock (some (q.id, m)) with h | ⟨q', hq', h⟩
        · exact .inr ⟨q, List.mem_cons_self, m, rest, hq, h⟩
        · exact .inr ⟨q', List.mem_cons_of_mem _ hq', h⟩
      · rcases ih minClock best with h | ⟨q', hq', h⟩
        · exact .inl h
        · exact .inr ⟨q', List.mem_cons_of_mem _ hq', h⟩

/-- There is one as long as a queue has one. -/
theorem lowest_isSome {qs : List CommandQueue} {minClock : ℕ} {best : Option (ℕ × QueueMessage)}
    (h : best.isSome = true ∨ minClock = maxClock ∧ ∃ q ∈ qs, q.readyQueue ≠ []) :
    (lowest qs minClock best).isSome = true := by
  induction qs generalizing minClock best with
  | nil =>
    rcases h with h | ⟨-, q, hq, -⟩
    · exact h
    · cases hq
  | cons q qs ih =>
    unfold lowest
    cases hq : q.readyQueue with
    | nil =>
      refine ih (h.imp_right ?_)
      rintro ⟨hmax, q', hq', hne⟩
      refine ⟨hmax, q', (List.mem_cons.1 hq').resolve_left ?_, hne⟩
      rintro rfl
      exact hne hq
    | cons m rest =>
      simp only
      split_ifs with hlt
      · exact ih (.inl rfl)
      · refine ih (h.imp_right ?_)
        rintro ⟨hmax, -⟩
        exact absurd (hmax ▸ m.reqClock_lt) hlt

/-- As long as there are bytes the search of `build_and_send_command` finds a message. -/
theorem Queues.exists_lowest (h : s.Queues) (hbytes : s.readyBytes ≠ 0) :
    (lowest s.pendingQueues maxClock none).isSome = true := by
  refine lowest_isSome (.inr ⟨rfl, ?_⟩)
  by_contra hnone
  have hempty : ∀ q ∈ s.pendingQueues, q.readyQueue = [] := by
    intro q hq
    by_contra hne
    exact hnone ⟨q, hq, hne⟩
  have hzero : readyOf s.pendingQueues = 0 := by
    refine List.sum_eq_zero fun n hn => ?_
    obtain ⟨q, hq, rfl⟩ := List.mem_map.1 hn
    rw [hempty q hq]
    rfl
  exact hbytes (h.ready.trans hzero)

theorem popReady_spec {i : ℕ} {m : QueueMessage} {qs : List CommandQueue} (hnodup : (qs.map CommandQueue.id).Nodup)
    {q : CommandQueue} (hq : q ∈ qs) (hid : q.id = i) {rest : List QueueMessage} (hready : q.readyQueue = m :: rest) :
    ((popReady i qs).map CommandQueue.id).Sublist (qs.map CommandQueue.id) ∧
      readyOf (popReady i qs) = readyOf qs - m.msg.length ∧ upcomingOf (popReady i qs) = upcomingOf qs ∧
      ∀ id, contents id qs = (if i = id then [m] else []) ++ contents id (popReady i qs) := by
  induction qs with
  | nil => cases hq
  | cons q' qs ih =>
    rw [List.map_cons, List.nodup_cons] at hnodup
    unfold popReady
    by_cases h : q'.id = i
    · obtain rfl : q = q' := by
        rcases List.mem_cons.1 hq with hq | hq
        · exact hq
        · exact absurd (List.mem_map.2 ⟨q, hq, hid.trans h.symm⟩) hnodup.1
      have hbytes : bytesOf q.readyQueue = m.msg.length + bytesOf rest := by
        rw [hready]
        simp [bytesOf]
      rw [if_pos h]
      simp only [hready, List.tail_cons]
      split_ifs with hempty
      · -- nothing is left of the queue
        rw [Bool.and_eq_true, List.isEmpty_iff, List.isEmpty_iff] at hempty
        obtain ⟨rfl, hup⟩ := hempty
        refine ⟨List.sublist_cons_self _ _, ?_, ?_, fun id => ?_⟩
        · simp only [readyOf, List.map_cons, List.sum_cons, hbytes]
          simp [bytesOf]
        · simp [upcomingOf, hup, bytesOf]
        · rw [contents_cons, hready, hup, h]
          simp
      · refine ⟨List.Sublist.refl _, ?_, rfl, fun id => ?_⟩
        · simp only [readyOf, List.map_cons, List.sum_cons, hbytes]
          ring
        · rw [contents_cons, contents_cons, hready, h]
          split_ifs with hi <;> rfl
    · have hq' : q ∈ qs := (List.mem_cons.1 hq).resolve_left fun heq => h (heq ▸ hid)
      obtain ⟨hsub, hr, hu, hcontents⟩ := ih hnodup.2 hq'
      rw [if_neg h]
      refine ⟨hsub.cons_cons _, ?_, ?_, fun id => ?_⟩
      · simp only [readyOf, List.map_cons, List.sum_cons] at hr ⊢
        rw [hr]
        ring
      · simp only [upcomingOf, List.map_cons, List.sum_cons] at hu ⊢
        rw [hu]
      · rw [contents_cons, contents_cons, hcontents id]
        by_cases hi : i = id
        · rw [if_neg (hi ▸ h), if_pos hi]
          rfl
        · rw [if_neg hi]
          rfl

/-- What the loop of `build_and_send_command` puts into the block. -/
theorem Queues.fill (h : s.Queues) (fuel : ℕ) (commands : List (ℕ × QueueMessage)) :
    (SerialQueue.fill fuel commands s).2.Queues ∧ ∃ more, (SerialQueue.fill fuel commands s).1 = commands ++ more ∧
      ∀ id, contents id s.pendingQueues
        = ofQueue id more ++ contents id (SerialQueue.fill fuel commands s).2.pendingQueues := by
  induction fuel generalizing commands s with
  | zero => exact ⟨h, [], (List.append_nil _).symm, fun id => rfl⟩
  | succ fuel ih =>
    have hstop : s.Queues ∧ ∃ more, commands = commands ++ more ∧
        ∀ id, contents id s.pendingQueues = ofQueue id more ++ contents id s.pendingQueues :=
      ⟨h, [], (List.append_nil _).symm, fun id => rfl⟩
    unfold SerialQueue.fill
    split_ifs with hzero
    · exact hstop
    · rcases lowest_spec s.pendingQueues maxClock none with hnone | ⟨q, hq, m, rest, hready, hsome⟩
      · rw [hnone]
        exact hstop
      · rw [hsome]
        simp only
        split_ifs with hfull
        · exact hstop
        · obtain ⟨hsub, hr, hu, hcontents⟩ := popReady_spec h.nodup hq rfl hready
          have hnext : (s.takeCommand q.id m).Queues :=
            ⟨h.nodup.sublist hsub, (congrArg (· - _) h.ready).trans hr.symm, h.upcoming.trans hu.symm⟩
          obtain ⟨hqueues, more, hmore, hrest⟩ := ih hnext (commands ++ [(q.id, m)])
          refine ⟨hqueues, (q.id, m) :: more, by rw [hmore, List.append_assoc]; rfl, fun id => ?_⟩
          rw [hcontents id, ofQueue_cons, List.append_assoc, ← hrest id]
          rfl

theorem Queues.buildAndSendCommand (h : s.Queues) (pending : ℕ) (eventtime : ℚ) :
    (s.buildAndSendCommand pending eventtime).2.Queues ∧ ∀ id, contents id s.pendingQueues
      = ofQueue id (s.buildAndSendCommand pending eventtime).1.commands
        ++ contents id (s.buildAndSendCommand pending eventtime).2.pendingQueues := by
  obtain ⟨hqueues, more, hmore, hcontents⟩ := h.fill messageMax []
  rw [List.nil_append] at hmore
  refine ⟨⟨hqueues.nodup, hqueues.ready, hqueues.upcoming⟩, fun id => ?_⟩
  rw [hcontents id, ← hmore]
  rfl

/-! ## A step -/

/-- What `check_send_command` does to the state. -/
theorem checkSendCommand_cases (s : SerialQueue) (pending : ℕ) (eventtime : ℚ) :
    s.mustWait = true ∧ s.checkSendCommand pending eventtime = (prNever, s) ∨
      s.mustWait = false ∧ ∃ ackClock kick,
        (s.checkSendCommand pending eventtime).2 = { s.stageAll ackClock with needKickClock := kick } := by
  unfold checkSendCommand
  cases hwait : s.mustWait with
  | true => exact .inl ⟨rfl, if_pos rfl⟩
  | false =>
    refine .inr ⟨rfl, s.ce.clockFromTime (max eventtime s.idleTime + s.calculateBittime (pending + messageMin)), ?_⟩
    simp only [Bool.false_eq_true, if_false]
    split_ifs
    all_goals exact ⟨_, rfl⟩

theorem Queues.checkSendCommand (h : s.Queues) (pending : ℕ) (eventtime : ℚ) :
    (s.checkSendCommand pending eventtime).2.Queues ∧
      ∀ id, contents id (s.checkSendCommand pending eventtime).2.pendingQueues = contents id s.pendingQueues := by
  rcases checkSendCommand_cases s pending eventtime with ⟨-, hcheck⟩ | ⟨-, ackClock, kick, hcheck⟩
  · rw [hcheck]
    exact ⟨h, fun id => rfl⟩
  · obtain ⟨hqueues, hcontents⟩ := h.stageAll ackClock
    rw [hcheck]
    exact ⟨⟨hqueues.nodup, hqueues.ready, hqueues.upcoming⟩, hcontents⟩

theorem Queues.flush (h : s.Queues) (eventtime : ℚ) (buf : Bytes) : (s.flush eventtime buf).Queues ∧
    (s.flush eventtime buf).pendingQueues = s.pendingQueues := by
  unfold SerialQueue.flush
  split_ifs
  · exact ⟨⟨h.nodup, h.ready, h.upcoming⟩, rfl⟩
  · exact ⟨h, rfl⟩

/-- A round either writes what is in `buf`, or leaves it there. -/
theorem commandRound_cases (eventtime : ℚ) (buf : Bytes) (s : SerialQueue) :
    (s.commandRound eventtime buf).waketime = (s.checkSendCommand buf.length eventtime).1 ∧
      ((s.commandRound eventtime buf).queue = (s.checkSendCommand buf.length eventtime).2.flush eventtime buf ∧
        (s.commandRound eventtime buf).buf = [] ∧ (s.commandRound eventtime buf).written.flatten = buf ∨
      (s.commandRound eventtime buf).queue = (s.checkSendCommand buf.length eventtime).2 ∧
        (s.commandRound eventtime buf).buf = buf ∧ (s.commandRound eventtime buf).written = [] ∧
        (s.commandRound eventtime buf).waketime = prNow) := by
  unfold commandRound
  simp only
  by_cases hfull : (s.checkSendCommand buf.length eventtime).1 ≠ prNow ∨
      messageMax * maxPendingBlocks < buf.length + messageMax
  · rw [if_pos hfull]
    refine ⟨rfl, .inl ⟨rfl, rfl, ?_⟩⟩
    cases buf <;> simp
  · rw [if_neg hfull]
    exact ⟨rfl, .inr ⟨rfl, rfl, rfl, not_not.1 (not_or.1 hfull).1⟩⟩

theorem Queues.commandRound (h : s.Queues) (eventtime : ℚ) (buf : Bytes) :
    (s.commandRound eventtime buf).queue.Queues ∧
      ∀ id, contents id (s.commandRound eventtime buf).queue.pendingQueues = contents id s.pendingQueues := by
  obtain ⟨hqueues, hcontents⟩ := h.checkSendCommand buf.length eventtime
  obtain ⟨hflush, hpending⟩ := hqueues.flush eventtime buf
  obtain ⟨-, ⟨hqueue, -⟩ | ⟨hqueue, -⟩⟩ := commandRound_cases eventtime buf s
  · rw [hqueue]
    exact ⟨hflush, fun id => (congrArg (contents id) hpending).trans (hcontents id)⟩
  · rw [hqueue]
    exact ⟨hqueues, hcontents⟩

theorem Queues.commandLoop (h : s.Queues) (eventtime : ℚ) (fuel : ℕ) (buf : Bytes) :
    (SerialQueue.commandLoop eventtime fuel buf s).queue.Queues ∧ ∀ id, contents id s.pendingQueues
      = inBlocks id (SerialQueue.commandLoop eventtime fuel buf s).built
        ++ contents id (SerialQueue.commandLoop eventtime fuel buf s).queue.pendingQueues := by
  induction fuel generalizing s buf with
  | zero => exact ⟨h, fun id => rfl⟩
  | succ fuel ih =>
    obtain ⟨hround, hcontents⟩ := h.commandRound eventtime buf
    unfold SerialQueue.commandLoop
    simp only
    split_ifs with hwake
    · exact ⟨⟨hround.nodup, hround.ready, hround.upcoming⟩, fun id => (hcontents id).symm⟩
    · obtain ⟨hbuilt, hcommands⟩ := hround.buildAndSendCommand (s.commandRound eventtime buf).buf.length eventtime
      obtain ⟨hrest, hlater⟩ := ih hbuilt ((s.commandRound eventtime buf).buf ++
        ((s.commandRound eventtime buf).queue.buildAndSendCommand (s.commandRound eventtime buf).buf.length
          eventtime).1.block)
      refine ⟨hrest, fun id => ?_⟩
      rw [← hcontents id, hcommands id, hlater id, inBlocks_cons, List.append_assoc]

/-- The part of the state that is about the command queues. -/
def waiting (s : SerialQueue) : List CommandQueue × ℤ × ℤ := (s.pendingQueues, s.readyBytes, s.upcomingBytes)

theorem Queues.congr {s' : SerialQueue} (h : s.Queues) (hsame : s'.waiting = s.waiting) :
    s'.Queues ∧ ∀ id, contents id s.pendingQueues = contents id s'.pendingQueues := by
  obtain ⟨hpending, hbytes⟩ := Prod.mk.inj hsame
  obtain ⟨hready, hupcoming⟩ := Prod.mk.inj hbytes
  refine ⟨⟨hpending ▸ h.nodup, ?_, ?_⟩, fun id => by rw [hpending]⟩
  · rw [hready, hpending]
    exact h.ready
  · rw [hupcoming, hpending]
    exact h.upcoming

theorem waiting_updateReceiveSeq (eventtime : ℚ) (rseq : ℕ) (s : SerialQueue) :
    (s.updateReceiveSeq eventtime rseq).waiting = s.waiting := by
  have hrtt : ((s.dropAcked rseq).updateRtt eventtime rseq).waiting = (s.dropAcked rseq).waiting := by
    unfold updateRtt
    split_ifs <;> rfl
  have hdrop : (s.dropAcked rseq).waiting = s.waiting := by
    unfold dropAcked
    split <;> rfl
  exact hrtt.trans hdrop

theorem waiting_noteMessage (now : ℚ) (rseq : ℕ) (msg : Bytes) (s : SerialQueue) :
    (s.noteMessage now rseq msg).waiting = s.waiting := by
  unfold noteMessage
  split_ifs <;> rfl

theorem waiting_handleMessage (eventtime now : ℚ) (msg : Bytes) (s : SerialQueue) :
    (s.handleMessage eventtime now msg).waiting = s.waiting := by
  unfold handleMessage
  simp only
  split_ifs
  · rfl
  · exact (waiting_noteMessage _ _ _ _).trans (waiting_updateReceiveSeq _ _ _)
  · exact waiting_noteMessage _ _ _ _

/-- What holds after each message holds after `input_event`. -/
theorem inputEvent_induction {P : SerialQueue → Prop} {eventtime now : ℚ}
    (hmessage : ∀ s msg, P s → P (s.handleMessage eventtime now msg))
    (hinvalid : ∀ (s : SerialQueue) len, P s → P { s with bytesInvalid := s.bytesInvalid + len })
    (hinput : ∀ (s : SerialQueue) input, P s → P { s with input := input }) (chunk : Bytes) (h : P s) :
    P (s.inputEvent eventtime now chunk) := by
  have hfold : ∀ (found : List Found) (s : SerialQueue), P s → P (found.foldl (handleFound eventtime now) s) := by
    intro found
    induction found with
    | nil => exact fun _ h => h
    | cons f found ih =>
      intro s h
      rw [List.foldl_cons]
      cases f with
      | message msg => exact ih _ (hmessage s msg h)
      | invalid len => exact ih _ (hinvalid s len h)
  exact hfold _ _ (hinput s _ h)

theorem waiting_inputEvent (eventtime now : ℚ) (chunk : Bytes) (s : SerialQueue) :
    (s.inputEvent eventtime now chunk).waiting = s.waiting := by
  refine inputEvent_induction (P := fun s' => s'.waiting = s.waiting) ?_ (fun _ _ h => h) (fun _ _ h => h) chunk rfl
  intro s' msg h
  exact (waiting_handleMessage eventtime now msg s').trans h

theorem waiting_retransmitEvent (eventtime : ℚ) (s : SerialQueue) :
    (s.retransmitEvent eventtime).2.waiting = s.waiting := by
  unfold retransmitEvent
  simp only
  split_ifs <;> rfl

end SerialQueue

/-- The commands of a queue that are given. -/
def givenTo (id : ℕ) : Event → List QueueMessage
  | .sendBatch i msgs => if i = id then msgs.map SerialQueue.withMinClock else []
  | _ => []

namespace SerialQueue

variable {s : SerialQueue}

/-- One step: a command is given, or goes from the queue into a block. -/
theorem Queues.step (h : s.Queues) (e : Event) : (s.step e).1.Queues ∧ ∀ id,
    contents id s.pendingQueues ++ givenTo id e
      = inBlocks id (s.step e).2 ++ contents id (s.step e).1.pendingQueues := by
  have hsame : ∀ {s' : SerialQueue}, s'.waiting = s.waiting → s'.Queues ∧ ∀ id,
      contents id s.pendingQueues ++ [] = [] ++ contents id s'.pendingQueues := by
    intro s' hwaiting
    obtain ⟨hqueues, hcontents⟩ := h.congr hwaiting
    exact ⟨hqueues, fun id => by rw [List.append_nil, List.nil_append, hcontents id]⟩
  cases e with
  | sendBatch i msgs =>
    obtain ⟨hqueues, hcontents⟩ := h.sendBatch i msgs
    exact ⟨hqueues, fun id => (hcontents id).symm⟩
  | command eventtime =>
    obtain ⟨hqueues, hcontents⟩ := h.commandLoop eventtime (maxPendingBlocks + 1) []
    exact ⟨hqueues, fun id => (List.append_nil _).trans (hcontents id)⟩
  | input eventtime now chunk => exact hsame (waiting_inputEvent eventtime now chunk s)
  | retransmit eventtime => exact hsame (waiting_retransmitEvent eventtime s)
  | kick => exact hsame rfl
  | pull => exact hsame rfl
  | setWireFrequency frequency => exact hsame rfl
  | setReceiveWindow receiveWindow => exact hsame rfl
  | setClockEst ce => exact hsame rfl

theorem Queues.run (h : s.Queues) (es : List Event) : (s.run es).1.Queues ∧ ∀ id,
    contents id s.pendingQueues ++ (es.map (givenTo id)).flatten
      = inBlocks id (s.run es).2 ++ contents id (s.run es).1.pendingQueues := by
  induction es generalizing s with
  | nil => exact ⟨h, fun id => List.append_nil _⟩
  | cons e es ih =>
    obtain ⟨hstep, hcontents⟩ := h.step e
    obtain ⟨hrun, hrest⟩ := ih hstep
    refine ⟨hrun, fun id => ?_⟩
    rw [List.map_cons, List.flatten_cons, ← List.append_assoc, hcontents id, List.append_assoc, hrest id,
      SerialQueue.run, inBlocks_append, List.append_assoc]

/-- **Commands.**  In every run, whatever comes in, the commands that have been given to a queue
are those in the blocks, in order and each of them once, and then those that are still
waiting. -/
theorem run_commands (isCan : Bool) (es : List Event) (id : ℕ) : (es.map (givenTo id)).flatten
    = inBlocks id ((alloc isCan).run es).2 ++ contents id ((alloc isCan).run es).1.pendingQueues :=
  ((queues_alloc isCan).run es).2 id

end SerialQueue

end Link

import Ff5m.Link.Delivery

/-!
# What the host is told

A command may ask to be told when its block has arrived.  `serialqueue.c` keeps it on the notify
queue, with the number of the block, until a message with a later number comes in, and answers
on the receive queue.

* `Told`: what a message answers;
* `run_notified`: in every run each is answered once, in the order of the blocks;
* `notified_of_run`: and once the ends are connected, not before its block has arrived.
-/

namespace Link

/-- The commands of a block that ask to be told. -/
def Built.asked (b : Built) : List NotifyMessage :=
  (b.commands.filter fun c => c.2.notifyId ≠ 0).map fun c => ⟨c.2.notifyId, b.seq⟩

def asked (bs : List Built) : List NotifyMessage := (bs.map Built.asked).flatten

/-- The answers among what has been received; other messages have the number 0. -/
def answers (rs : List Received) : List ℕ := (rs.map Received.notifyId).filter (· ≠ 0)

theorem asked_cons (b : Built) (bs : List Built) : asked (b :: bs) = b.asked ++ asked bs := rfl

theorem asked_append (a b : List Built) : asked (a ++ b) = asked a ++ asked b := by
  simp [asked]

theorem answers_append (a b : List Received) : answers (a ++ b) = answers a ++ answers b := by
  simp [answers]

theorem mem_asked {n : NotifyMessage} {bs : List Built} (h : n ∈ asked bs) :
    n.notifyId ≠ 0 ∧ ∃ b ∈ bs, n.sentSeq = b.seq := by
  obtain ⟨ns, hns, hn⟩ := List.mem_flatten.1 h
  obtain ⟨b, hb, rfl⟩ := List.mem_map.1 hns
  obtain ⟨c, hc, rfl⟩ := List.mem_map.1 hn
  exact ⟨of_decide_eq_true (List.mem_filter.1 hc).2, b, hb, rfl⟩

namespace SerialQueue

variable {s s' s'' : SerialQueue}

/-! ## What a message answers -/

/-- The first of the notify queue have been answered. -/
structure Told (s s' : SerialQueue) (told : List NotifyMessage) : Prop where
  queue : s.notifyQueue = told ++ s'.notifyQueue
  answered : answers s'.receiveQueue = answers s.receiveQueue ++ told.map NotifyMessage.notifyId
  receiveSeq : s.receiveSeq ≤ s'.receiveSeq
  -- at the very first number the code counts below zero
  before : 1 < s.receiveSeq → ∀ n ∈ told, n.sentSeq < s'.receiveSeq

theorem Told.refl (s : SerialQueue) : Told s s [] :=
  ⟨rfl, (List.append_nil _).symm, le_rfl, fun _ => nofun⟩

theorem Told.trans {told told' : List NotifyMessage} (h : Told s s' told) (h' : Told s' s'' told') :
    Told s s'' (told ++ told') := by
  refine ⟨?_, ?_, h.receiveSeq.trans h'.receiveSeq, fun hone n hn => ?_⟩
  · rw [h.queue, h'.queue, List.append_assoc]
  · rw [h'.answered, h.answered, List.map_append, List.append_assoc]
  · rcases List.mem_append.1 hn with hn | hn
    · exact (h.before hone n hn).trans_le h'.receiveSeq
    · exact h'.before (hone.trans_le h.receiveSeq) n hn

theorem queues_updateReceiveSeq (eventtime : ℚ) (rseq : ℕ) (s : SerialQueue) :
    (s.updateReceiveSeq eventtime rseq).notifyQueue = s.notifyQueue ∧
      (s.updateReceiveSeq eventtime rseq).receiveQueue = s.receiveQueue ∧
      (s.updateReceiveSeq eventtime rseq).receiveSeq = rseq := by
  have hdrop : (s.dropAcked rseq).notifyQueue = s.notifyQueue ∧ (s.dropAcked rseq).receiveQueue = s.receiveQueue ∧
      (s.dropAcked rseq).receiveSeq = rseq := by
    unfold dropAcked
    split <;> exact ⟨rfl, rfl, rfl⟩
  have hrtt : ((s.dropAcked rseq).updateRtt eventtime rseq).notifyQueue = (s.dropAcked rseq).notifyQueue ∧
      ((s.dropAcked rseq).updateRtt eventtime rseq).receiveQueue = (s.dropAcked rseq).receiveQueue ∧
      ((s.dropAcked rseq).updateRtt eventtime rseq).receiveSeq = (s.dropAcked rseq).receiveSeq := by
    unfold updateRtt
    split_ifs <;> exact ⟨rfl, rfl, rfl⟩
  exact ⟨hrtt.1.trans hdrop.1, hrtt.2.1.trans hdrop.2.1, hrtt.2.2.trans hdrop.2.2⟩

theorem told_noteMessage (now : ℚ) (rseq : ℕ) (msg : Bytes) (s : SerialQueue) :
    Told s (s.noteMessage now rseq msg) [] := by
  unfold noteMessage
  split_ifs
  · exact ⟨rfl, (List.append_nil _).symm, le_rfl, fun _ => nofun⟩
  · exact ⟨rfl, (List.append_nil _).symm, le_rfl, fun _ => nofun⟩
  · exact .refl s
  -- a message that is no answer
  all_goals
    refine ⟨rfl, ?_, le_rfl, fun _ => nofun⟩
    simp [answers]

theorem told_wakeNotified (eventtime : ℚ) {rseq : ℕ} (len : ℕ) (hids : ∀ n ∈ s.notifyQueue, n.notifyId ≠ 0)
    (hrseq : s.receiveSeq = rseq) : ∃ told, Told s (s.wakeNotified eventtime rseq len) told := by
  let wakeSeq := (((rseq : ℤ) - 1 - if messageMin < len then 1 else 0) % 2 ^ 64).toNat
  refine ⟨s.notifyQueue.takeWhile fun n => n.sentSeq ≤ wakeSeq, List.takeWhile_append_dropWhile.symm, ?_, le_rfl,
    fun hone n hn => ?_⟩
  · change answers (s.receiveQueue ++ _) = _
    rw [answers_append]
    congr 1
    unfold answers
    rw [List.map_map]
    refine List.filter_eq_self.2 fun i hi => ?_
    obtain ⟨n, hn, rfl⟩ := List.mem_map.1 hi
    exact decide_eq_true (hids n ((List.takeWhile_sublist _).subset hn))
  · have hle : n.sentSeq ≤ wakeSeq := of_decide_eq_true (List.all_eq_true.1 List.all_takeWhile n hn)
    have hwake : wakeSeq < rseq := by
      simp only [wakeSeq]
      split_ifs <;> omega
    exact hle.trans_lt (hwake.trans_eq hrseq.symm)

theorem told_handleMessage (eventtime now : ℚ) (msg : Bytes) (hids : ∀ n ∈ s.notifyQueue, n.notifyId ≠ 0) :
    ∃ told, Told s (s.handleMessage eventtime now msg) told := by
  have hge : s.receiveSeq ≤ s.rseqOf msg := Nat.le_add_right _ _
  obtain ⟨hnotify, hreceive, hseq⟩ := queues_updateReceiveSeq eventtime (s.rseqOf msg) s
  unfold handleMessage
  simp only
  split_ifs with hinvalid hnew
  · exact ⟨[], rfl, (List.append_nil _).symm, le_rfl, fun _ => nofun⟩
  · let t := { s.updateReceiveSeq eventtime (s.rseqOf msg) with
      bytesRead := (s.updateReceiveSeq eventtime (s.rseqOf msg)).bytesRead + msg.length }
    have hupdate : Told s t [] :=
      ⟨hnotify.symm, (congrArg answers hreceive).trans (List.append_nil _).symm, hge.trans_eq hseq.symm,
        fun _ => nofun⟩
    obtain ⟨told, hwake⟩ := told_wakeNotified (s := t) eventtime msg.length (hnotify ▸ hids) hseq
    exact ⟨_, (hupdate.trans hwake).trans (told_noteMessage now _ msg _)⟩
  · let t := { s with bytesRead := s.bytesRead + msg.length }
    have hupdate : Told s t [] := ⟨rfl, (List.append_nil _).symm, le_rfl, fun _ => nofun⟩
    obtain ⟨told, hwake⟩ := told_wakeNotified (s := t) eventtime msg.length hids (not_not.1 hnew).symm
    exact ⟨_, (hupdate.trans hwake).trans (told_noteMessage now _ msg _)⟩

theorem told_inputEvent (eventtime now : ℚ) (chunk : Bytes) (hids : ∀ n ∈ s.notifyQueue, n.notifyId ≠ 0) :
    ∃ told, Told s (s.inputEvent eventtime now chunk) told := by
  refine inputEvent_induction (P := fun s' => ∃ told, Told s s' told) ?_ ?_ ?_ chunk ⟨[], .refl s⟩
  · rintro s' msg ⟨told, h⟩
    have hids' : ∀ n ∈ s'.notifyQueue, n.notifyId ≠ 0 := fun n hn =>
      hids n (h.queue ▸ List.mem_append_right _ hn)
    obtain ⟨told', h'⟩ := told_handleMessage eventtime now msg hids'
    exact ⟨_, h.trans h'⟩
  · rintro s' len ⟨told, h⟩
    exact ⟨told, h.queue, h.answered, h.receiveSeq, h.before⟩
  · rintro s' input ⟨told, h⟩
    exact ⟨told, h.queue, h.answered, h.receiveSeq, h.before⟩

/-! ## What is asked -/

theorem notifyQueue_fill (fuel : ℕ) (commands : List (ℕ × QueueMessage)) (s : SerialQueue) :
    ∃ more, (fill fuel commands s).1 = commands ++ more ∧
      (fill fuel commands s).2.notifyQueue = s.notifyQueue ++ (Built.mk s.sendSeq more).asked ∧
      (fill fuel commands s).2.receiveQueue = s.receiveQueue := by
  induction fuel generalizing commands s with
  | zero => exact ⟨[], (List.append_nil _).symm, (List.append_nil _).symm, rfl⟩
  | succ fuel ih =>
    rw [fill]
    split_ifs with hzero
    · exact ⟨[], (List.append_nil _).symm, (List.append_nil _).symm, rfl⟩
    · split
      · exact ⟨[], (List.append_nil _).symm, (List.append_nil _).symm, rfl⟩
      · rename_i i qm _
        simp only
        split_ifs with hfull
        · exact ⟨[], (List.append_nil _).symm, (List.append_nil _).symm, rfl⟩
        · obtain ⟨more, hmore, hnotify, hreceive⟩ := ih (commands ++ [(i, qm)]) (s.takeCommand i qm)
          refine ⟨(i, qm) :: more, by rw [hmore, List.append_assoc]; rfl, ?_, hreceive⟩
          rw [hnotify]
          change (if qm.notifyId ≠ 0 then _ else _) ++ (Built.mk s.sendSeq more).asked = _
          unfold Built.asked
          by_cases hid : qm.notifyId = 0
          · simp [hid]
          · simp [hid]

theorem notifyQueue_build (pending : ℕ) (eventtime : ℚ) (s : SerialQueue) :
    (s.buildAndSendCommand pending eventtime).2.notifyQueue
        = s.notifyQueue ++ (s.buildAndSendCommand pending eventtime).1.asked ∧
      (s.buildAndSendCommand pending eventtime).2.receiveQueue = s.receiveQueue := by
  obtain ⟨more, hmore, hnotify, hreceive⟩ := notifyQueue_fill messageMax [] s
  have hseq : (fill messageMax [] s).2.sendSeq = s.sendSeq := congrArg Unacked.sendSeq (fill_spec messageMax [] s).1
  refine ⟨hnotify.trans ?_, hreceive⟩
  change _ = s.notifyQueue ++ (Built.mk (fill messageMax [] s).2.sendSeq (fill messageMax [] s).1).asked
  rw [hmore, hseq, List.nil_append]

theorem notifyQueue_commandRound (eventtime : ℚ) (buf : Bytes) (s : SerialQueue) :
    (s.commandRound eventtime buf).queue.notifyQueue = s.notifyQueue ∧
      (s.commandRound eventtime buf).queue.receiveQueue = s.receiveQueue := by
  have hcheck : (s.checkSendCommand buf.length eventtime).2.notifyQueue = s.notifyQueue ∧
      (s.checkSendCommand buf.length eventtime).2.receiveQueue = s.receiveQueue := by
    rcases checkSendCommand_cases s buf.length eventtime with ⟨-, hcheck⟩ | ⟨-, ackClock, kick, hcheck⟩
    · rw [hcheck]
      exact ⟨rfl, rfl⟩
    · rw [hcheck]
      exact ⟨rfl, rfl⟩
  obtain ⟨-, ⟨hqueue, -⟩ | ⟨hqueue, -⟩⟩ := commandRound_cases eventtime buf s
  · rw [hqueue]
    unfold SerialQueue.flush
    split_ifs <;> exact hcheck
  · rw [hqueue]
    exact hcheck

theorem receiveSeq_commandLoop (eventtime : ℚ) (fuel : ℕ) (buf : Bytes) (s : SerialQueue) :
    (commandLoop eventtime fuel buf s).queue.receiveSeq = s.receiveSeq := by
  induction fuel generalizing s buf with
  | zero => rfl
  | succ fuel ih =>
    have hround := congrArg Unacked.receiveSeq (unacked_commandRound eventtime buf s)
    rw [commandLoop]
    simp only
    split_ifs with hwake
    · exact hround
    · obtain ⟨sent, -, -, -, hbuild⟩ := unacked_buildAndSendCommand
        (s.commandRound eventtime buf).buf.length eventtime (s.commandRound eventtime buf).queue
      exact (ih _ _).trans ((congrArg Unacked.receiveSeq hbuild).trans hround)

theorem notifyQueue_commandLoop (eventtime : ℚ) (fuel : ℕ) (buf : Bytes) (s : SerialQueue) :
    (commandLoop eventtime fuel buf s).queue.notifyQueue
        = s.notifyQueue ++ asked (commandLoop eventtime fuel buf s).built ∧
      (commandLoop eventtime fuel buf s).queue.receiveQueue = s.receiveQueue := by
  induction fuel generalizing s buf with
  | zero => exact ⟨(List.append_nil _).symm, rfl⟩
  | succ fuel ih =>
    obtain ⟨hround, hroundReceive⟩ := notifyQueue_commandRound eventtime buf s
    rw [commandLoop]
    simp only
    split_ifs with hwake
    · exact ⟨hround.trans (List.append_nil _).symm, hroundReceive⟩
    · obtain ⟨hbuild, hbuildReceive⟩ := notifyQueue_build (s.commandRound eventtime buf).buf.length eventtime
        (s.commandRound eventtime buf).queue
      obtain ⟨hrest, hrestReceive⟩ := ih ((s.commandRound eventtime buf).buf ++
        ((s.commandRound eventtime buf).queue.buildAndSendCommand (s.commandRound eventtime buf).buf.length
          eventtime).1.block) ((s.commandRound eventtime buf).queue.buildAndSendCommand
            (s.commandRound eventtime buf).buf.length eventtime).2
      refine ⟨?_, hrestReceive.trans (hbuildReceive.trans hroundReceive)⟩
      rw [hrest, hbuild, hround, asked_cons, List.append_assoc]

/-! ## Runs -/

/-- What `serialqueue_pull` hands over. -/
def pulls (s : SerialQueue) : Event → List Received
  | .pull => s.receiveQueue.take 1
  | _ => []

/-- What has been handed over in a run. -/
def handed (s : SerialQueue) : List Event → List Received
  | [] => []
  | e :: es => s.pulls e ++ (s.step e).1.handed es

/-- What is asked joins the notify queue, what is answered leaves it, and what is pulled leaves the
receive queue. -/
structure Notified (s s' : SerialQueue) (bs : List Built) (pulled : List Received) (told : List NotifyMessage) :
    Prop where
  queue : s.notifyQueue ++ asked bs = told ++ s'.notifyQueue
  answered : answers pulled ++ answers s'.receiveQueue = answers s.receiveQueue ++ told.map NotifyMessage.notifyId
  receiveSeq : s.receiveSeq ≤ s'.receiveSeq
  before : 1 < s.receiveSeq → ∀ n ∈ told, n.sentSeq < s'.receiveSeq

theorem Told.notified {told : List NotifyMessage} (h : Told s s' told) : Notified s s' [] [] told :=
  ⟨(List.append_nil _).trans h.queue, h.answered, h.receiveSeq, h.before⟩

theorem notified_of_same (hnotify : s'.notifyQueue = s.notifyQueue) (hreceive : s'.receiveQueue = s.receiveQueue)
    (hseq : s'.receiveSeq = s.receiveSeq) : Notified s s' [] [] [] := by
  refine Told.notified ⟨hnotify.symm, ?_, hseq.ge, fun _ => nofun⟩
  rw [hreceive]
  exact (List.append_nil _).symm

theorem notified_step (hids : ∀ n ∈ s.notifyQueue, n.notifyId ≠ 0) (e : Event) :
    ∃ told, Notified s (s.step e).1 (s.step e).2 (s.pulls e) told := by
  cases e with
  | sendBatch id msgs =>
    refine ⟨[], ?_⟩
    change Notified s (s.sendBatch id msgs) [] [] []
    unfold sendBatch
    split <;> exact notified_of_same rfl rfl rfl
  | command eventtime =>
    obtain ⟨hnotify, hreceive⟩ := notifyQueue_commandLoop eventtime (maxPendingBlocks + 1) [] s
    refine ⟨[], hnotify.symm, ?_, ?_, fun _ => nofun⟩
    · exact (congrArg answers hreceive).trans (List.append_nil _).symm
    · exact (receiveSeq_commandLoop eventtime _ [] s).ge
  | input eventtime now chunk =>
    obtain ⟨told, h⟩ := told_inputEvent eventtime now chunk hids
    exact ⟨told, h.notified⟩
  | retransmit eventtime =>
    refine ⟨[], notified_of_same ?_ ?_ (congrArg Unacked.receiveSeq (unacked_retransmitEvent eventtime s))⟩
    all_goals
      simp only [step, retransmitEvent]
      split_ifs <;> rfl
  | pull =>
    refine ⟨[], List.append_nil _, ?_, le_rfl, fun _ => nofun⟩
    change answers (s.receiveQueue.take 1) ++ answers s.receiveQueue.tail = _
    rw [← answers_append, ← List.drop_one, List.take_append_drop]
    exact (List.append_nil _).symm
  | kick => exact ⟨[], notified_of_same rfl rfl rfl⟩
  | setWireFrequency frequency => exact ⟨[], notified_of_same rfl rfl rfl⟩
  | setReceiveWindow receiveWindow => exact ⟨[], notified_of_same rfl rfl rfl⟩
  | setClockEst ce => exact ⟨[], notified_of_same rfl rfl rfl⟩

theorem notified_run (hids : ∀ n ∈ s.notifyQueue, n.notifyId ≠ 0) (es : List Event) :
    ∃ told, Notified s (s.run es).1 (s.run es).2 (s.handed es) told := by
  induction es generalizing s with
  | nil => exact ⟨[], notified_of_same rfl rfl rfl⟩
  | cons e es ih =>
    obtain ⟨told, h⟩ := notified_step hids e
    have hids' : ∀ n ∈ (s.step e).1.notifyQueue, n.notifyId ≠ 0 := by
      intro n hn
      have hmem : n ∈ s.notifyQueue ++ asked (s.step e).2 := h.queue ▸ List.mem_append_right _ hn
      rcases List.mem_append.1 hmem with hmem | hmem
      · exact hids n hmem
      · exact (mem_asked hmem).1
    obtain ⟨told', h'⟩ := ih hids'
    refine ⟨told ++ told', ?_, ?_, h.receiveSeq.trans h'.receiveSeq, fun hone n hn => ?_⟩
    · change s.notifyQueue ++ asked ((s.step e).2 ++ ((s.step e).1.run es).2) = _
      rw [asked_append, ← List.append_assoc, h.queue, List.append_assoc, h'.queue, List.append_assoc]
      rfl
    · change answers (s.pulls e ++ (s.step e).1.handed es) ++ answers ((s.step e).1.run es).1.receiveQueue = _
      rw [answers_append, List.append_assoc, h'.answered, ← List.append_assoc, h.answered, List.map_append,
        List.append_assoc]
    · rcases List.mem_append.1 hn with hn | hn
      · exact (h.before hone n hn).trans_le h'.receiveSeq
      · exact h'.before (hone.trans_le h.receiveSeq) n hn

/-- **What is told.**  In every run, whatever comes in, the commands in the blocks that ask to be
told have been answered, each of them once and in order, or are still on the notify queue. -/
theorem run_notified (isCan : Bool) (es : List Event) :
    (asked ((alloc isCan).run es).2).map NotifyMessage.notifyId
      = answers ((alloc isCan).handed es) ++ answers ((alloc isCan).run es).1.receiveQueue
        ++ ((alloc isCan).run es).1.notifyQueue.map NotifyMessage.notifyId := by
  obtain ⟨told, h⟩ := notified_run (s := alloc isCan) nofun es
  have hqueue : asked ((alloc isCan).run es).2 = told ++ ((alloc isCan).run es).1.notifyQueue := h.queue
  rw [hqueue, List.map_append, h.answered]
  rfl

end SerialQueue

/-! ## The line -/

/-- **Not too early.**  Once the ends are connected, what is answered is in a block that the
micro-controller has taken. -/
theorem notified_of_run {host : SerialQueue} {y : System} (hhost : host.Reachable) (hnone : host.sentQueue = [])
    (hquiet : host.notifyQueue = []) (hconnected : 1 < host.receiveSeq) (hrun : (System.start host).Run y) :
    ∃ es : List Event, host.run es = (y.host, y.built) ∧ ∃ told : List NotifyMessage,
      answers (host.handed es) ++ answers y.host.receiveQueue
        = answers host.receiveQueue ++ told.map NotifyMessage.notifyId ∧
      told <+: asked (y.built.take (y.next - host.sendSeq)) := by
  obtain ⟨g, -, hinv, h⟩ := (Refines.start hhost.pending hnone).run GoBackN.inv_init hrun
  obtain ⟨es, hes⟩ := host_run hrun
  obtain ⟨told, hnotified⟩ := SerialQueue.notified_run (s := host) (hquiet ▸ nofun) es
  rw [hes] at hnotified
  refine ⟨es, hes, told, hnotified.answered, ?_⟩
  have hqueue := hnotified.queue
  rw [hquiet, List.nil_append] at hqueue
  have hall : told <+: asked (y.built.take (y.next - host.sendSeq))
      ++ asked (y.built.drop (y.next - host.sendSeq)) := by
    rw [← asked_append, List.take_append_drop, hqueue]
    exact List.prefix_append _ _
  rcases List.prefix_or_prefix_of_prefix hall (List.prefix_append _ _) with hle | ⟨more, rfl⟩
  · exact hle
  · cases more with
    | nil => exact ⟨[], by rw [List.append_nil, List.append_nil]⟩
    | cons n more =>
      -- its block has not been taken, so nothing has been heard of it
      have hmem : n ∈ asked (y.built.drop (y.next - host.sendSeq)) :=
        ((List.prefix_append_right_inj _).1 hall).subset List.mem_cons_self
      obtain ⟨-, b, hb, hseq⟩ := mem_asked hmem
      obtain ⟨k, hk⟩ := List.mem_iff_getElem?.1 hb
      rw [List.getElem?_drop, ← h.built] at hk
      have hbefore := hnotified.before hconnected n (List.mem_append_right _ List.mem_cons_self)
      have htracks := h.tracks.seq _ b hk
      have hreceive : y.host.receiveSeq = _ := h.tracks.receiveSeq
      have hnext := h.next
      have hacked := hinv.acked_le
      simp only at hbefore
      omega

/-- The micro-controller has told the number 5. -/
def connected : SerialQueue := ((SerialQueue.alloc false).run [.input 0 0 (msgblock 5 [])]).1

theorem connected_quiet : connected.sentQueue = [] ∧ connected.notifyQueue = [] ∧ 1 < connected.receiveSeq := by
  have hsent : connected.sentQueue.isEmpty = true := by decide +kernel
  have hnotify : connected.notifyQueue.isEmpty = true := by decide +kernel
  exact ⟨List.isEmpty_iff.1 hsent, List.isEmpty_iff.1 hnotify, by decide +kernel⟩

theorem notified_of_run_connected : ∃ y, (System.start connected).Run y ∧ answers y.host.receiveQueue = [7] ∧
    ∃ told : List NotifyMessage, told <+: asked (y.built.take (y.next - 5)) := by
  obtain ⟨hnone, hquiet, hconnected⟩ := connected_quiet
  have hgiven : System.Run (System.start connected) _ := .single (.inl (.host _
    (.sendBatch 0 [⟨[5], 0, 0, 7, by decide, by decide, by decide⟩]) nofun))
  have hbuilt := hgiven.tail (.inl (.host _ (.command 1) nofun))
  have htaken := hbuilt.tail (.inl (.take _ (msgblock 5 [5]) [] [msgblock 6 []] (by decide +kernel)
    (by decide +kernel) (by decide +kernel)))
  have hheard := htaken.tail (.inl (.input _ 2 2 (msgblock 6 []) [] (by decide +kernel)))
  obtain ⟨-, -, told, -, htold⟩ := notified_of_run ⟨false, _, rfl⟩ hnone hquiet hconnected hheard
  exact ⟨_, hheard, by decide +kernel, told, htold⟩

end Link

import Ff5m.Link.Commands

/-!
# What is pending

How `serialqueue.c` keeps count of the blocks that it has sent and not heard of.

* `Unacked`: the part of the state that is about them, and what changes it;
* `Pending`, `Holds`, `run_pending`: in every run, whatever comes in, the counts are right and the sent
  queue holds the blocks of the numbers that wait;
* `Within`, `run_within`: there is room for what is pending, as long as the receive window stays.
-/

namespace Link

def sentBytes (q : List SentMessage) : ℤ := (q.map fun m => (m.msg.length : ℤ)).sum

theorem sentBytes_append (a b : List SentMessage) : sentBytes (a ++ b) = sentBytes a + sentBytes b := by
  simp [sentBytes]

theorem sentBytes_nonneg (q : List SentMessage) : 0 ≤ sentBytes q := by
  induction q with
  | nil => exact le_rfl
  | cons m q ih => exact Int.add_nonneg (Int.natCast_nonneg _) ih

/-- The part of the state that is about the blocks that are pending. -/
structure Unacked where
  receiveWindow : ℤ
  sendSeq : ℕ
  receiveSeq : ℕ
  sentQueue : List SentMessage
  needAckBytes : ℤ
  lastAckBytes : ℤ

def SerialQueue.unacked (s : SerialQueue) : Unacked :=
  ⟨s.receiveWindow, s.sendSeq, s.receiveSeq, s.sentQueue, s.needAckBytes, s.lastAckBytes⟩

namespace Unacked

/-- A block joins. -/
def build (u : Unacked) (sent : SentMessage) : Unacked :=
  { u with
    sendSeq := u.sendSeq + 1
    needAckBytes := u.needAckBytes + sent.msg.length
    sentQueue := u.sentQueue ++ [sent] }

/-- The first `n` blocks have arrived. -/
def ack (u : Unacked) (n : ℕ) (last : ℤ) : Unacked :=
  { u with
    receiveSeq := u.receiveSeq + n
    needAckBytes := u.needAckBytes - sentBytes (u.sentQueue.take n)
    lastAckBytes := last
    sentQueue := u.sentQueue.drop n }

/-- The number is one that was not sent. -/
def reset (u : Unacked) (rseq : ℕ) : Unacked :=
  { u with
    sendSeq := rseq
    receiveSeq := rseq
    needAckBytes := u.needAckBytes - sentBytes u.sentQueue
    sentQueue := [] }

/-- The counts are right. -/
structure Pending (u : Unacked) : Prop where
  seq : u.receiveSeq + u.sentQueue.length = u.sendSeq
  count : u.sentQueue.length ≤ maxPendingBlocks
  bytes : u.needAckBytes = sentBytes u.sentQueue
  last : 0 ≤ u.lastAckBytes

/-- On the sent queue are the last of the blocks that were built, those of the numbers that wait. -/
def Holds (u : Unacked) (built : List Built) : Prop :=
  ∃ kept, kept <:+ built ∧ u.sentQueue.map SentMessage.msg = kept.map Built.block ∧
    kept.map Built.seq = List.range' u.receiveSeq kept.length

/-- There is room for what is pending; a block alone is always sent. -/
structure Within (size : ℤ) (u : Unacked) : Prop where
  window : u.receiveWindow = size
  room : size ≠ 0 → u.needAckBytes ≤ size ∨ u.sentQueue.length ≤ 1

/-- There is room for one block more. -/
structure HasRoom (u : Unacked) : Prop where
  count : u.sendSeq < u.receiveSeq + maxPendingBlocks
  room : u.receiveSeq < u.sendSeq → u.receiveWindow ≠ 0 → u.needAckBytes + messageMax ≤ u.receiveWindow

/-- The blocks join one after the other, each when there is room for it. -/
inductive Builds : Unacked → List Built → Unacked → Prop
  | nil (u : Unacked) : Builds u [] u
  | cons {u u' : Unacked} {bs : List Built} (b : Built) (sent : SentMessage) (hroom : u.HasRoom)
    (hseq : b.seq = u.sendSeq) (hsent : sent.msg = b.block) (hlength : b.block.length ≤ messageMax)
    (hrest : Builds (u.build sent) bs u') : Builds u (b :: bs) u'

variable {size : ℤ} {u u' : Unacked}

theorem Pending.build (h : u.Pending) (hroom : u.HasRoom) (sent : SentMessage) : (u.build sent).Pending := by
  have hseq := h.seq
  have hcount := hroom.count
  have hlength : (u.sentQueue ++ [sent]).length = u.sentQueue.length + 1 := List.length_append
  have hbytes : sentBytes (u.sentQueue ++ [sent]) = sentBytes u.sentQueue + sent.msg.length := by
    rw [sentBytes_append]
    simp [sentBytes]
  refine ⟨?_, ?_, ?_, h.last⟩
  · simp only [Unacked.build, hlength]
    omega
  · simp only [Unacked.build, hlength]
    omega
  · rw [Unacked.build, hbytes, h.bytes]

theorem Pending.ack (h : u.Pending) {n : ℕ} (hn : n ≤ u.sentQueue.length) {last : ℤ} (hlast : 0 ≤ last) :
    (u.ack n last).Pending := by
  have hseq := h.seq
  have hcount := h.count
  have hbytes : u.needAckBytes = sentBytes (u.sentQueue.take n) + sentBytes (u.sentQueue.drop n) := by
    rw [← sentBytes_append, List.take_append_drop, h.bytes]
  refine ⟨?_, ?_, ?_, hlast⟩
  · simp only [Unacked.ack, List.length_drop]
    omega
  · simp only [Unacked.ack, List.length_drop]
    omega
  · simp only [Unacked.ack]
    omega

theorem Pending.reset (h : u.Pending) (rseq : ℕ) : (u.reset rseq).Pending := by
  have hzero : u.needAckBytes - sentBytes u.sentQueue = 0 := by rw [h.bytes, sub_self]
  exact ⟨rfl, Nat.zero_le _, hzero, h.last⟩

theorem Within.build (h : u.Within size) (hpending : u.Pending) (hroom : u.HasRoom) {sent : SentMessage}
    (hlength : sent.msg.length ≤ messageMax) : (u.build sent).Within size := by
  have hseq := hpending.seq
  refine ⟨h.window, fun hsize => ?_⟩
  change u.needAckBytes + sent.msg.length ≤ size ∨ (u.sentQueue ++ [sent]).length ≤ 1
  rcases Nat.lt_or_ge u.receiveSeq u.sendSeq with hlt | hge
  · have hfree := h.window ▸ hroom.room hlt (h.window ▸ hsize)
    exact .inl (by omega)
  · have hnone : u.sentQueue = [] := List.length_eq_zero_iff.1 (by omega)
    rw [hnone]
    exact .inr le_rfl

theorem Within.ack (h : u.Within size) (n : ℕ) (last : ℤ) : (u.ack n last).Within size := by
  have hnonneg := sentBytes_nonneg (u.sentQueue.take n)
  refine ⟨h.window, fun hsize => ?_⟩
  simp only [Unacked.ack, List.length_drop]
  rcases h.room hsize with hroom | hcount
  · exact .inl (by omega)
  · exact .inr (by omega)

theorem Within.reset (h : u.Within size) (rseq : ℕ) : (u.reset rseq).Within size :=
  ⟨h.window, fun _ => .inr (Nat.zero_le 1)⟩

variable {built : List Built}

theorem Holds.build (h : u.Holds built) (hpending : u.Pending) {b : Built} {sent : SentMessage}
    (hseq : b.seq = u.sendSeq) (hsent : sent.msg = b.block) : (u.build sent).Holds (built ++ [b]) := by
  obtain ⟨kept, hkept, hmsg, hnumbers⟩ := h
  have hlength : u.sentQueue.length = kept.length := by
    simpa using congrArg List.length hmsg
  have hnext := hpending.seq
  refine ⟨kept ++ [b], List.suffix_append_self_iff.2 hkept, ?_, ?_⟩
  · change (u.sentQueue ++ [sent]).map SentMessage.msg = _
    rw [List.map_append, hmsg, List.map_append, List.map_singleton, hsent]
    rfl
  · change _ = List.range' u.receiveSeq _
    rw [List.map_append, hnumbers, List.length_append, List.length_singleton, List.range'_concat, List.map_singleton,
      hseq]
    congr 2
    omega

theorem Holds.ack (h : u.Holds built) (n : ℕ) (last : ℤ) : (u.ack n last).Holds built := by
  obtain ⟨kept, hkept, hmsg, hnumbers⟩ := h
  refine ⟨kept.drop n, (List.drop_suffix n kept).trans hkept, ?_, ?_⟩
  · change (u.sentQueue.drop n).map SentMessage.msg = _
    rw [List.map_drop, hmsg, List.map_drop]
  · change _ = List.range' (u.receiveSeq + n) _
    rw [List.map_drop, hnumbers, List.drop_range', List.length_drop, Nat.mul_one]

theorem Holds.reset (u : Unacked) (built : List Built) (rseq : ℕ) : (u.reset rseq).Holds built :=
  ⟨[], List.nil_suffix, rfl, rfl⟩

theorem Holds.builds (h : u.Holds built) (hpending : u.Pending) {bs : List Built} (hbuilds : Builds u bs u') :
    u'.Holds (built ++ bs) := by
  induction hbuilds generalizing built with
  | nil => exact (List.append_nil built).symm ▸ h
  | cons b sent hroom hseq hsent hlength hrest ih =>
    have hmore := ih (h.build hpending hseq hsent) (hpending.build hroom sent)
    rwa [List.append_assoc] at hmore

theorem Pending.builds (h : u.Pending) {bs : List Built} (hbuilds : Builds u bs u') : u'.Pending := by
  induction hbuilds with
  | nil => exact h
  | cons b sent hroom hseq hsent hlength hrest ih => exact ih (h.build hroom sent)

theorem Within.builds (h : u.Within size) (hpending : u.Pending) {bs : List Built} (hbuilds : Builds u bs u') :
    u'.Within size := by
  induction hbuilds with
  | nil => exact h
  | cons b sent hroom hseq hsent hlength hrest ih =>
    exact ih (h.build hpending hroom (hsent ▸ hlength)) (hpending.build hroom sent)

end Unacked

namespace SerialQueue

variable {size : ℤ} {s : SerialQueue}

/-! ## What comes in -/

/-- The loop stops at the message that goes with the number. -/
theorem dropSent_of_lt {q : List SentMessage} {n : ℕ} (hn : n < q.length) (seq : ℕ) (bytes : ℤ) :
    dropSent (seq + n + 1) q seq bytes = (q.drop (n + 1), bytes - sentBytes (q.take (n + 1)), q[n]?) := by
  induction q generalizing n seq bytes with
  | nil => cases hn
  | cons sent rest ih =>
    rw [dropSent]
    cases n with
    | zero => simp [sentBytes]
    | succ n =>
      have hmore : seq + (n + 1) + 1 = seq + 1 + n + 1 := by omega
      rw [if_neg (by omega), hmore, ih (Nat.lt_of_succ_lt_succ hn)]
      simp only [List.drop_succ_cons, List.take_succ_cons, List.getElem?_cons_succ, Prod.mk.injEq, true_and, and_true]
      simp only [sentBytes, List.map_cons, List.sum_cons]
      ring

/-- There is none. -/
theorem dropSent_of_ge {q : List SentMessage} {rseq seq : ℕ} (h : seq + q.length < rseq) (bytes : ℤ) :
    dropSent rseq q seq bytes = ([], bytes - sentBytes q, none) := by
  induction q generalizing seq bytes with
  | nil => simp [dropSent, sentBytes]
  | cons sent rest ih =>
    rw [List.length_cons] at h
    rw [dropSent, if_neg (by omega), ih (by omega)]
    simp only [sentBytes, List.map_cons, List.sum_cons, Prod.mk.injEq, true_and, and_true]
    ring

theorem unacked_dropAcked (h : s.unacked.Pending) {rseq : ℕ} (hlt : s.receiveSeq < rseq) :
    (rseq ≤ s.sendSeq ∧ ∃ last : ℤ, 0 ≤ last ∧
        (s.dropAcked rseq).unacked = s.unacked.ack (rseq - s.receiveSeq) last) ∨
      s.sendSeq < rseq ∧ (s.dropAcked rseq).unacked = s.unacked.reset rseq := by
  have hseq : s.receiveSeq + s.sentQueue.length = s.sendSeq := h.seq
  unfold dropAcked
  rcases Nat.lt_or_ge s.sendSeq rseq with hgt | hle
  · rw [dropSent_of_ge (by omega)]
    exact .inr ⟨hgt, rfl⟩
  · obtain ⟨n, rfl⟩ := Nat.exists_eq_add_of_lt hlt
    have hn : n < s.sentQueue.length := by omega
    have hdiff : s.receiveSeq + n + 1 - s.receiveSeq = n + 1 := by omega
    rw [dropSent_of_lt hn, List.getElem?_eq_getElem hn, hdiff]
    exact .inl ⟨hle, _, Int.natCast_nonneg _, rfl⟩

theorem unacked_updateReceiveSeq (eventtime : ℚ) (rseq : ℕ) (s : SerialQueue) :
    (s.updateReceiveSeq eventtime rseq).unacked = (s.dropAcked rseq).unacked := by
  change ((s.dropAcked rseq).updateRtt eventtime rseq).unacked = _
  unfold updateRtt
  split_ifs <;> rfl

theorem unacked_noteMessage (now : ℚ) (rseq : ℕ) (msg : Bytes) (s : SerialQueue) :
    (s.noteMessage now rseq msg).unacked = s.unacked := by
  unfold noteMessage
  split_ifs <;> rfl

/-- What a message does. -/
theorem unacked_handleMessage (eventtime now : ℚ) (msg : Bytes) (h : s.unacked.Pending) :
    ((s.handleMessage eventtime now msg).unacked = s.unacked ∧
        (s.rseqOf msg = s.receiveSeq ∨ s.sendSeq < s.rseqOf msg ∧ s.receiveSeq ≠ 1)) ∨
      (s.rseqOf msg ≤ s.sendSeq ∧ ∃ last : ℤ, 0 ≤ last ∧
        (s.handleMessage eventtime now msg).unacked = s.unacked.ack (s.rseqOf msg - s.receiveSeq) last) ∨
      s.sendSeq < s.rseqOf msg ∧ (s.handleMessage eventtime now msg).unacked = s.unacked.reset (s.rseqOf msg) := by
  have hge : s.receiveSeq ≤ s.rseqOf msg := Nat.le_add_right _ _
  unfold handleMessage
  simp only
  split_ifs with hinvalid hnew
  · exact .inl ⟨rfl, .inr hinvalid.2⟩
  · rw [unacked_noteMessage]
    have hsame := unacked_updateReceiveSeq eventtime (s.rseqOf msg) s
    rcases unacked_dropAcked h (lt_of_le_of_ne hge (Ne.symm hnew)) with ⟨hle, last, hlast, hdrop⟩ | ⟨hgt, hdrop⟩
    · exact .inr (.inl ⟨hle, last, hlast, hsame.trans hdrop⟩)
    · exact .inr (.inr ⟨hgt, hsame.trans hdrop⟩)
  · rw [unacked_noteMessage]
    exact .inl ⟨rfl, .inl (not_not.1 hnew)⟩

theorem pending_handleMessage (eventtime now : ℚ) (msg : Bytes) (h : s.unacked.Pending) :
    (s.handleMessage eventtime now msg).unacked.Pending := by
  have hseq : s.receiveSeq + s.sentQueue.length = s.sendSeq := h.seq
  rcases unacked_handleMessage eventtime now msg h with ⟨hsame, -⟩ | ⟨hle, last, hlast, hack⟩ | ⟨-, hreset⟩
  · rw [hsame]
    exact h
  · rw [hack]
    exact h.ack (by change _ ≤ s.sentQueue.length; omega) hlast
  · rw [hreset]
    exact h.reset _

theorem within_handleMessage (eventtime now : ℚ) (msg : Bytes) (hpending : s.unacked.Pending)
    (h : s.unacked.Within size) : (s.handleMessage eventtime now msg).unacked.Within size := by
  rcases unacked_handleMessage eventtime now msg hpending with ⟨hsame, -⟩ | ⟨-, last, -, hack⟩ | ⟨-, hreset⟩
  · rw [hsame]
    exact h
  · rw [hack]
    exact h.ack _ last
  · rw [hreset]
    exact h.reset _

theorem holds_handleMessage (eventtime now : ℚ) (msg : Bytes) (hpending : s.unacked.Pending) {built : List Built}
    (h : s.unacked.Holds built) : (s.handleMessage eventtime now msg).unacked.Holds built := by
  rcases unacked_handleMessage eventtime now msg hpending with ⟨hsame, -⟩ | ⟨-, last, -, hack⟩ | ⟨-, hreset⟩
  · rw [hsame]
    exact h
  · rw [hack]
    exact h.ack _ last
  · rw [hreset]
    exact Unacked.Holds.reset _ _ _

theorem pending_inputEvent (eventtime now : ℚ) (chunk : Bytes) (h : s.unacked.Pending) :
    (s.inputEvent eventtime now chunk).unacked.Pending :=
  inputEvent_induction (P := fun s => s.unacked.Pending)
    (fun _ msg h => pending_handleMessage eventtime now msg h) (fun _ _ h => h) (fun _ _ h => h) chunk h

theorem within_inputEvent (eventtime now : ℚ) (chunk : Bytes) (hpending : s.unacked.Pending)
    (h : s.unacked.Within size) : (s.inputEvent eventtime now chunk).unacked.Within size := by
  refine (inputEvent_induction (P := fun s => s.unacked.Pending ∧ s.unacked.Within size) ?_ (fun _ _ h => h)
    (fun _ _ h => h) chunk ⟨hpending, h⟩).2
  rintro s msg ⟨hpending, h⟩
  exact ⟨pending_handleMessage eventtime now msg hpending, within_handleMessage eventtime now msg hpending h⟩

theorem holds_inputEvent (eventtime now : ℚ) (chunk : Bytes) (hpending : s.unacked.Pending) {built : List Built}
    (h : s.unacked.Holds built) : (s.inputEvent eventtime now chunk).unacked.Holds built := by
  refine (inputEvent_induction (P := fun s => s.unacked.Pending ∧ s.unacked.Holds built) ?_ (fun _ _ h => h)
    (fun _ _ h => h) chunk ⟨hpending, h⟩).2
  rintro s msg ⟨hpending, h⟩
  exact ⟨pending_handleMessage eventtime now msg hpending, holds_handleMessage eventtime now msg hpending h⟩

/-! ## What goes out -/

theorem unacked_retransmitEvent (eventtime : ℚ) (s : SerialQueue) :
    (s.retransmitEvent eventtime).2.unacked = s.unacked := by
  unfold retransmitEvent
  simp only
  split_ifs <;> rfl

theorem unacked_sendBatch (id : ℕ) (msgs : List QueueMessage) (s : SerialQueue) :
    (s.sendBatch id msgs).unacked = s.unacked := by
  unfold sendBatch
  split <;> rfl

/-- What a block holds, and what stays. -/
theorem fill_spec (fuel : ℕ) (commands : List (ℕ × QueueMessage)) (s : SerialQueue) :
    (fill fuel commands s).2.unacked = s.unacked ∧
      ((commands.map fun c => c.2.msg).flatten.length ≤ messagePayloadMax →
        ((fill fuel commands s).1.map fun c => c.2.msg).flatten.length ≤ messagePayloadMax) := by
  induction fuel generalizing commands s with
  | zero => exact ⟨rfl, id⟩
  | succ fuel ih =>
    rw [fill]
    split_ifs with hzero
    · exact ⟨rfl, id⟩
    · split
      · exact ⟨rfl, id⟩
      · rename_i i qm _
        simp only
        split_ifs with hfull
        · exact ⟨rfl, id⟩
        · obtain ⟨hsame, hlength⟩ := ih (commands ++ [(i, qm)]) (s.takeCommand i qm)
          refine ⟨hsame, fun _ => hlength ?_⟩
          simp only [List.map_append, List.flatten_append, List.length_append, List.map_cons, List.map_nil,
            List.flatten_cons, List.flatten_nil, List.append_nil]
          simp only [messageMax, messageTrailerSize, messageHeaderSize, messagePayloadMax, messageMin] at *
          omega

theorem unacked_buildAndSendCommand (pending : ℕ) (eventtime : ℚ) (s : SerialQueue) :
    ∃ sent : SentMessage, sent.msg = (s.buildAndSendCommand pending eventtime).1.block ∧
      (s.buildAndSendCommand pending eventtime).1.seq = s.sendSeq ∧
      (s.buildAndSendCommand pending eventtime).1.block.length ≤ messageMax ∧
      (s.buildAndSendCommand pending eventtime).2.unacked = s.unacked.build sent := by
  obtain ⟨hsame, hlength⟩ := fill_spec messageMax [] s
  have hpayload : (s.buildAndSendCommand pending eventtime).1.payload.length ≤ messagePayloadMax :=
    hlength (Nat.zero_le _)
  let r := (fill messageMax [] s).2
  let block := (s.buildAndSendCommand pending eventtime).1.block
  let sent : SentMessage :=
    ⟨block, eventtime, max eventtime r.idleTime + r.calculateBittime (pending + block.length)⟩
  refine ⟨sent, rfl, congrArg Unacked.sendSeq hsame, ?_, ?_⟩
  · rw [Built.block, length_msgblock]
    simp only [messageMax, messagePayloadMax, messageMin] at *
    omega
  · exact congrArg (fun u : Unacked => u.build sent) hsame

theorem unacked_checkSendCommand (s : SerialQueue) (pending : ℕ) (eventtime : ℚ) :
    (s.checkSendCommand pending eventtime).2.unacked = s.unacked := by
  rcases checkSendCommand_cases s pending eventtime with ⟨-, hcheck⟩ | ⟨-, ackClock, kick, hcheck⟩
  · rw [hcheck]
  · rw [hcheck]
    rfl

theorem unacked_commandRound (eventtime : ℚ) (buf : Bytes) (s : SerialQueue) :
    (s.commandRound eventtime buf).queue.unacked = s.unacked := by
  have hcheck := unacked_checkSendCommand s buf.length eventtime
  obtain ⟨-, ⟨hqueue, -⟩ | ⟨hqueue, -⟩⟩ := commandRound_cases eventtime buf s
  · rw [hqueue, ← hcheck]
    unfold SerialQueue.flush
    split_ifs <;> rfl
  · rw [hqueue, hcheck]

theorem prNever_ne_prNow : prNever ≠ prNow := by
  norm_num [prNever, prNow]

/-- Nothing is built without room. -/
theorem hasRoom_of_waketime {eventtime : ℚ} {buf : Bytes} (hlast : 0 ≤ s.lastAckBytes)
    (hwake : (s.commandRound eventtime buf).waketime = prNow) : s.unacked.HasRoom := by
  rw [(commandRound_cases eventtime buf s).1] at hwake
  rcases checkSendCommand_cases s buf.length eventtime with ⟨-, hcheck⟩ | ⟨hwait, -⟩
  · rw [hcheck] at hwake
    exact absurd hwake prNever_ne_prNow
  · simp only [mustWait, Bool.or_eq_false_iff, Bool.and_eq_false_iff, decide_eq_false_iff_not, not_le, not_lt] at hwait
    obtain ⟨hcount, hroom⟩ := hwait
    refine ⟨?_, fun hlt hwindow => ?_⟩
    · change s.sendSeq < s.receiveSeq + maxPendingBlocks
      omega
    · have hfree := hroom.resolve_left fun hnot => hnot ⟨hlt, hwindow⟩
      change s.needAckBytes + messageMax ≤ s.receiveWindow
      split_ifs at hfree <;> omega

/-- What `command_event` builds. -/
theorem commandLoop_builds (eventtime : ℚ) (fuel : ℕ) (buf : Bytes) (hlast : 0 ≤ s.lastAckBytes) :
    Unacked.Builds s.unacked (commandLoop eventtime fuel buf s).built
      (commandLoop eventtime fuel buf s).queue.unacked := by
  induction fuel generalizing s buf with
  | zero => exact .nil _
  | succ fuel ih =>
    have hround := unacked_commandRound eventtime buf s
    rw [commandLoop]
    simp only
    split_ifs with hwake
    · exact hround ▸ .nil _
    · obtain ⟨sent, hsent, hseq, hlength, hbuild⟩ := unacked_buildAndSendCommand
        (s.commandRound eventtime buf).buf.length eventtime (s.commandRound eventtime buf).queue
      rw [hround] at hbuild
      refine .cons _ sent (hasRoom_of_waketime hlast (not_not.1 hwake)) ?_ hsent hlength (hbuild ▸ ih _ ?_)
      · exact hseq.trans (congrArg Unacked.sendSeq hround)
      · exact hlast.trans_eq (congrArg Unacked.lastAckBytes hbuild).symm

/-- What `command_event` writes is what it builds: it stops before the loop is over. -/
theorem commandLoop_written (h : s.unacked.Pending) (eventtime : ℚ) {fuel : ℕ}
    (hfuel : maxPendingBlocks < fuel + s.sentQueue.length) (buf : Bytes) :
    (commandLoop eventtime fuel buf s).written.flatten
      = buf ++ ((commandLoop eventtime fuel buf s).built.map Built.block).flatten := by
  induction fuel generalizing s buf with
  | zero =>
    have hcount : s.sentQueue.length ≤ maxPendingBlocks := h.count
    omega
  | succ fuel ih =>
    have hround := unacked_commandRound eventtime buf s
    obtain ⟨-, hcases⟩ := commandRound_cases eventtime buf s
    have hwritten : (s.commandRound eventtime buf).written.flatten ++ (s.commandRound eventtime buf).buf = buf := by
      rcases hcases with ⟨-, hbuf, hwritten⟩ | ⟨-, hbuf, hwritten, -⟩
      · rw [hbuf, hwritten, List.append_nil]
      · rw [hbuf, hwritten]
        rfl
    rw [commandLoop]
    simp only
    split_ifs with hwake
    · obtain ⟨-, hbuf, -⟩ | ⟨-, -, -, hnow⟩ := hcases
      · rw [hbuf, List.append_nil] at hwritten
        rw [hwritten]
        exact (List.append_nil buf).symm
      · exact absurd hnow hwake
    · obtain ⟨sent, -, -, -, hbuild⟩ := unacked_buildAndSendCommand
        (s.commandRound eventtime buf).buf.length eventtime (s.commandRound eventtime buf).queue
      rw [hround] at hbuild
      have hmore := h.build (hasRoom_of_waketime h.last (not_not.1 hwake)) sent
      have hqueue : ((s.commandRound eventtime buf).queue.buildAndSendCommand
          (s.commandRound eventtime buf).buf.length eventtime).2.sentQueue.length = s.sentQueue.length + 1 :=
        (congrArg (fun u : Unacked => u.sentQueue.length) hbuild).trans List.length_append
      rw [List.flatten_append, ih (hbuild ▸ hmore) (by omega)]
      rw [← List.append_assoc, ← List.append_assoc, hwritten, List.append_assoc]
      rfl

/-- One step: blocks are built when there is room, or a message comes in. -/
theorem pending_step (h : s.unacked.Pending) (e : Event) : (s.step e).1.unacked.Pending := by
  cases e with
  | sendBatch id msgs => exact (unacked_sendBatch id msgs s).symm ▸ h
  | command eventtime => exact h.builds (commandLoop_builds eventtime _ [] h.last)
  | input eventtime now chunk => exact pending_inputEvent eventtime now chunk h
  | retransmit eventtime => exact (unacked_retransmitEvent eventtime s).symm ▸ h
  | kick => exact h
  | pull => exact h
  | setWireFrequency frequency => exact h
  | setReceiveWindow receiveWindow => exact ⟨h.seq, h.count, h.bytes, h.last⟩
  | setClockEst ce => exact h

theorem within_step (hpending : s.unacked.Pending) (h : s.unacked.Within size) {e : Event}
    (hwindow : ∀ receiveWindow, e ≠ .setReceiveWindow receiveWindow) : (s.step e).1.unacked.Within size := by
  cases e with
  | sendBatch id msgs => exact (unacked_sendBatch id msgs s).symm ▸ h
  | command eventtime => exact h.builds hpending (commandLoop_builds eventtime _ [] hpending.last)
  | input eventtime now chunk => exact within_inputEvent eventtime now chunk hpending h
  | retransmit eventtime => exact (unacked_retransmitEvent eventtime s).symm ▸ h
  | kick => exact h
  | pull => exact h
  | setWireFrequency frequency => exact h
  | setReceiveWindow receiveWindow => exact absurd rfl (hwindow receiveWindow)
  | setClockEst ce => exact h

theorem holds_step (hpending : s.unacked.Pending) {built : List Built} (h : s.unacked.Holds built) (e : Event) :
    (s.step e).1.unacked.Holds (built ++ (s.step e).2) := by
  cases e with
  | command eventtime => exact h.builds hpending (commandLoop_builds eventtime _ [] hpending.last)
  | sendBatch id msgs => exact (List.append_nil built).symm ▸ (unacked_sendBatch id msgs s).symm ▸ h
  | input eventtime now chunk =>
    exact (List.append_nil built).symm ▸ holds_inputEvent eventtime now chunk hpending h
  | retransmit eventtime => exact (List.append_nil built).symm ▸ (unacked_retransmitEvent eventtime s).symm ▸ h
  | kick | pull | setWireFrequency | setReceiveWindow | setClockEst => exact (List.append_nil built).symm ▸ h

theorem pending_alloc (isCan : Bool) : (alloc isCan).unacked.Pending where
  seq := rfl
  count := Nat.zero_le _
  bytes := rfl
  last := le_rfl

theorem pending_run (h : s.unacked.Pending) (es : List Event) : (s.run es).1.unacked.Pending := by
  induction es generalizing s with
  | nil => exact h
  | cons e es ih => exact ih (pending_step h e)

theorem within_run (hpending : s.unacked.Pending) (h : s.unacked.Within size) {es : List Event}
    (hwindow : ∀ e ∈ es, ∀ receiveWindow, e ≠ .setReceiveWindow receiveWindow) :
    (s.run es).1.unacked.Within size := by
  induction es generalizing s with
  | nil => exact h
  | cons e es ih =>
    rw [List.forall_mem_cons] at hwindow
    exact ih (pending_step hpending e) (within_step hpending h hwindow.1) hwindow.2

theorem holds_run (hpending : s.unacked.Pending) {built : List Built} (h : s.unacked.Holds built)
    (es : List Event) : (s.run es).1.unacked.Holds (built ++ (s.run es).2) := by
  induction es generalizing s built with
  | nil => exact (List.append_nil built).symm ▸ h
  | cons e es ih =>
    rw [run, ← List.append_assoc]
    exact ih (pending_step hpending e) (holds_step hpending h e)

/-- A state of a run from the beginning. -/
def Reachable (s : SerialQueue) : Prop := ∃ isCan es, s = ((alloc isCan).run es).1

theorem Reachable.pending (h : s.Reachable) : s.unacked.Pending := by
  obtain ⟨isCan, es, rfl⟩ := h
  exact pending_run (pending_alloc isCan) es

theorem Reachable.queues (h : s.Reachable) : s.Queues := by
  obtain ⟨isCan, es, rfl⟩ := h
  exact ((queues_alloc isCan).run es).1

/-- **What is pending.**  In every run, whatever comes in, the sent queue holds the last of the blocks
that were built, those of the numbers from the one that is waited for to the one that comes next; there
are no more of them than may be, and their bytes are counted right. -/
theorem run_pending (isCan : Bool) (es : List Event) :
    let s := ((alloc isCan).run es).1
    (∃ kept, kept <:+ ((alloc isCan).run es).2 ∧ s.sentQueue.map SentMessage.msg = kept.map Built.block ∧
        kept.map Built.seq = List.range' s.receiveSeq kept.length) ∧
      s.receiveSeq + s.sentQueue.length = s.sendSeq ∧ s.sentQueue.length ≤ maxPendingBlocks ∧
      s.needAckBytes = sentBytes s.sentQueue := by
  have h := pending_run (pending_alloc isCan) es
  have hnone : (alloc isCan).unacked.Holds [] := ⟨[], List.suffix_rfl, rfl, rfl⟩
  have hholds := holds_run (pending_alloc isCan) hnone es
  exact ⟨hholds, h.seq, h.count, h.bytes⟩

/-- **The receive window.**  As long as the receive window stays, what is pending stays within it,
but for a block alone. -/
theorem run_within (hs : s.Reachable) (hsize : s.receiveWindow ≠ 0)
    (hroom : s.needAckBytes ≤ s.receiveWindow ∨ s.sentQueue.length ≤ 1) {es : List Event}
    (hwindow : ∀ e ∈ es, ∀ receiveWindow, e ≠ .setReceiveWindow receiveWindow) :
    sentBytes (s.run es).1.sentQueue ≤ s.receiveWindow ∨ (s.run es).1.sentQueue.length ≤ 1 := by
  have hpending := pending_run hs.pending es
  have hwithin := within_run hs.pending ⟨rfl, fun _ => hroom⟩ hwindow
  exact hpending.bytes ▸ hwithin.room hsize

/-- The window is 128 bytes. -/
def windowed : SerialQueue := ((alloc false).run [.setReceiveWindow 128]).1

theorem run_within_windowed :
    let more : List Event := [.sendBatch 0 [⟨[5], 0, 0, 0, by decide, by decide, by decide⟩], .command 0,
      .sendBatch 0 [⟨[6, 1], 0, 0, 0, by decide, by decide, by decide⟩], .command 1, .retransmit 2]
    (windowed.run more).1.sentQueue.length = 2 ∧
      (sentBytes (windowed.run more).1.sentQueue ≤ 128 ∨ (windowed.run more).1.sentQueue.length ≤ 1) := by
  have hs : windowed.Reachable := ⟨false, _, rfl⟩
  exact ⟨by decide +kernel, run_within hs (by decide) (.inl (by decide)) (by simp)⟩

end SerialQueue

end Link

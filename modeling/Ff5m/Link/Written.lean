import Ff5m.Link.Delivery

/-!
# What is written

The bytes that `serialqueue.c` writes.  A reader that looks for blocks as `msgblock_check` does finds
the blocks of `sends` in them and nothing else, however they are cut.

* `Framed`: there are only blocks on the sent queue;
* `found_of_step`, `found_of_run`: the blocks that are found.
-/

namespace Link

/-- A block, of any number. -/
def IsBlock (msg : Bytes) : Prop :=
  ∃ seq payload, msg = msgblock seq payload ∧ payload.length ≤ messagePayloadMax

theorem isBlock_of_length {b : Built} (h : b.block.length ≤ messageMax) : IsBlock b.block := by
  refine ⟨b.seq, b.payload, rfl, ?_⟩
  rw [Built.block, length_msgblock] at h
  simp only [messageMax, messageMin, messagePayloadMax] at *
  omega

theorem messages_blocks {blocks : List Bytes} (h : ∀ b ∈ blocks, IsBlock b) (rest : Bytes) :
    messages (scanAll false (blocks.flatten ++ rest)).1 = blocks ++ messages (scanAll false rest).1 := by
  induction blocks with
  | nil => rfl
  | cons b blocks ih =>
    rw [List.forall_mem_cons] at h
    obtain ⟨⟨seq, payload, rfl, hlength⟩, hblocks⟩ := h
    rw [List.flatten_cons, List.append_assoc, scanAll_block seq hlength, ih hblocks, List.cons_append]

/-! ## The sent queue -/

/-- There are only blocks on the sent queue. -/
def Unacked.Framed (u : Unacked) : Prop := ∀ m ∈ u.sentQueue, IsBlock m.msg

theorem Unacked.Framed.builds {u u' : Unacked} {bs : List Built} (h : u.Framed) (hbuilds : Builds u bs u') :
    u'.Framed ∧ ∀ b ∈ bs, IsBlock b.block := by
  induction hbuilds with
  | nil => exact ⟨h, nofun⟩
  | @cons u u' bs b sent hroom hseq hsent hlength hrest ih =>
    have hblock : IsBlock b.block := isBlock_of_length hlength
    have hmore : (u.build sent).Framed := by
      intro m hm
      rcases List.mem_append.1 hm with hm | hm
      · exact h m hm
      · rw [List.mem_singleton.1 hm, hsent]
        exact hblock
    obtain ⟨hframed, hblocks⟩ := ih hmore
    exact ⟨hframed, List.forall_mem_cons.2 ⟨hblock, hblocks⟩⟩

namespace SerialQueue

variable {s : SerialQueue}

theorem framed_handleMessage (eventtime now : ℚ) (msg : Bytes) (hpending : s.unacked.Pending)
    (h : s.unacked.Framed) : (s.handleMessage eventtime now msg).unacked.Framed := by
  rcases unacked_handleMessage eventtime now msg hpending with ⟨hsame, -⟩ | ⟨-, last, -, hack⟩ | ⟨-, hreset⟩
  · rw [hsame]
    exact h
  · rw [hack]
    exact fun m hm => h m (List.mem_of_mem_drop hm)
  · rw [hreset]
    exact nofun

theorem framed_inputEvent (eventtime now : ℚ) (chunk : Bytes) (hpending : s.unacked.Pending)
    (h : s.unacked.Framed) : (s.inputEvent eventtime now chunk).unacked.Framed := by
  refine (inputEvent_induction (P := fun s => s.unacked.Pending ∧ s.unacked.Framed) ?_ (fun _ _ h => h)
    (fun _ _ h => h) chunk ⟨hpending, h⟩).2
  rintro s msg ⟨hpending, h⟩
  exact ⟨pending_handleMessage eventtime now msg hpending, framed_handleMessage eventtime now msg hpending h⟩

theorem framed_step (hpending : s.unacked.Pending) (h : s.unacked.Framed) (e : Event) :
    (s.step e).1.unacked.Framed := by
  cases e with
  | sendBatch id msgs => exact (unacked_sendBatch id msgs s).symm ▸ h
  | command eventtime => exact (h.builds (commandLoop_builds eventtime _ [] hpending.last)).1
  | input eventtime now chunk => exact framed_inputEvent eventtime now chunk hpending h
  | retransmit eventtime => exact (unacked_retransmitEvent eventtime s).symm ▸ h
  | kick => exact h
  | pull => exact h
  | setWireFrequency frequency => exact h
  | setReceiveWindow receiveWindow => exact h
  | setClockEst ce => exact h

theorem framed_run (hpending : s.unacked.Pending) (h : s.unacked.Framed) (es : List Event) :
    (s.run es).1.unacked.Framed := by
  induction es generalizing s with
  | nil => exact h
  | cons e es ih => exact ih (pending_step hpending e) (framed_step hpending h e)

theorem Reachable.framed (h : s.Reachable) : s.unacked.Framed := by
  obtain ⟨isCan, es, rfl⟩ := h
  exact framed_run (pending_alloc isCan) nofun es

/-! ## The bytes -/

/-- What an event writes. -/
def writes (s : SerialQueue) : Event → Bytes
  | .command eventtime => (s.commandEvent eventtime).written.flatten
  | .retransmit eventtime => (s.retransmitEvent eventtime).1
  | _ => []

/-- What is written in a run. -/
def runWrites (s : SerialQueue) : List Event → Bytes
  | [] => []
  | e :: es => s.writes e ++ (s.step e).1.runWrites es

/-- The blocks that are sent in a run. -/
def runSends (s : SerialQueue) : List Event → List Bytes
  | [] => []
  | e :: es => s.sends e ++ (s.step e).1.runSends es

theorem found_of_step (hpending : s.unacked.Pending) (h : s.unacked.Framed) (e : Event) (rest : Bytes) :
    messages (scanAll false (s.writes e ++ rest)).1 = s.sends e ++ messages (scanAll false rest).1 := by
  cases e with
  | command eventtime =>
    have hblocks : ∀ b ∈ s.sends (.command eventtime), IsBlock b := by
      intro block hblock
      obtain ⟨b, hb, rfl⟩ := List.mem_map.1 hblock
      exact (h.builds (commandLoop_builds eventtime _ [] hpending.last)).2 b hb
    have hwritten : s.writes (.command eventtime) = (s.sends (.command eventtime)).flatten :=
      written_command hpending eventtime
    rw [hwritten, messages_blocks hblocks]
  | retransmit eventtime =>
    have hblocks : ∀ b ∈ s.sends (.retransmit eventtime), IsBlock b := by
      intro block hblock
      obtain ⟨m, hm, rfl⟩ := List.mem_map.1 hblock
      exact h m hm
    have hwritten : s.writes (.retransmit eventtime) = messageSync :: (s.sends (.retransmit eventtime)).flatten := rfl
    rw [hwritten, List.cons_append, messages_sync, messages_blocks hblocks]
  | sendBatch id msgs => rfl
  | input eventtime now chunk => rfl
  | kick => rfl
  | pull => rfl
  | setWireFrequency frequency => rfl
  | setReceiveWindow receiveWindow => rfl
  | setClockEst ce => rfl

theorem messages_runWrites (hpending : s.unacked.Pending) (h : s.unacked.Framed) (es : List Event) :
    messages (scanAll false (s.runWrites es)).1 = s.runSends es := by
  induction es generalizing s with
  | nil => exact messages_short (show ([] : Bytes).length < messageMin by decide)
  | cons e es ih =>
    rw [runWrites, found_of_step hpending h, ih (pending_step hpending e) (framed_step hpending h e), runSends]

/-- **What is found.**  In all that is written in a run, however it is cut, the blocks that were sent
are found, in order, and no other. -/
theorem found_of_run (hs : s.Reachable) {es : List Event} {chunks : List Bytes}
    (hchunks : chunks.flatten = s.runWrites es) :
    messages ((⟨false, []⟩ : Input).readAll chunks) = s.runSends es := by
  rw [messages_readAll _ (check_short false (by decide)), hchunks]
  exact messages_runWrites hs.pending hs.framed es

theorem found_of_run_resent : messages ((⟨false, []⟩ : Input).readAll
    [(oneGiven.runWrites [.command 0, .retransmit 1]).take 4, (oneGiven.runWrites [.command 0, .retransmit 1]).drop 4])
      = [msgblock 1 [5], msgblock 1 [5]] := by
  rw [found_of_run reachable_oneGiven (show _ = oneGiven.runWrites [.command 0, .retransmit 1] by simp)]
  decide +kernel

end SerialQueue

end Link

import Ff5m.Link.GoBackN
import Ff5m.Link.Window

/-!
# The host and a micro-controller

The two ends of a line.  The host is `serialqueue.c`.  The micro-controller is what `Protocol.md`
says of it: it takes the block with the number that it waits for and no other, and all that it
sends carries the number of the next one.  The line keeps the order; what is lost on it, or is spoilt
and fails the check, may be anything.

* `Refines`: the line is a run of `GoBackN`;
* `taken_of_run`, `commands_of_run`: what the micro-controller takes;
* `taken_of_resend`: once nothing is lost any more;
* `can_arrive`: there is always a way to go on on which all arrives.
-/

namespace Link

/-! ## Blocks -/

/-- The number in a block. -/
def seqOf (msg : Bytes) : ℕ := (msg.getD 1 0).toNat % 16

/-- What is in a block. -/
def contentOf (msg : Bytes) : Bytes := (msg.drop messageHeaderSize).take (msg.length - messageMin)

theorem seq_byte (b : UInt8) : (messageDest ||| (b &&& messageSeqMask)).toNat % 16 = b.toNat % 16 := by
  have hbyte : ∀ n < 256,
      (messageDest ||| (UInt8.ofNat n &&& messageSeqMask)).toNat % 16 = (UInt8.ofNat n).toNat % 16 := by
    decide +kernel
  simpa using hbyte b.toNat b.toNat_lt

theorem seqOf_msgblock (seq : ℕ) (payload : Bytes) : seqOf (msgblock seq payload) = seq % 16 := by
  change (messageDest ||| (UInt8.ofNat seq &&& messageSeqMask)).toNat % 16 = seq % 16
  rw [seq_byte, UInt8.toNat_ofNat']
  omega

theorem contentOf_msgblock (seq : ℕ) (payload : Bytes) : contentOf (msgblock seq payload) = payload := by
  rw [contentOf, length_msgblock, Nat.add_sub_cancel]
  exact List.take_left

/-! ## The line -/

/-- The blocks that are written; the bytes are in `written` and in the buffer of
`retransmitEvent`. -/
def SerialQueue.sends (s : SerialQueue) : Event → List Bytes
  | .command eventtime => (s.commandEvent eventtime).built.map Built.block
  | .retransmit _ => s.sentQueue.map SentMessage.msg
  | _ => []

theorem written_command {s : SerialQueue} (h : s.unacked.Pending) (eventtime : ℚ) :
    (s.commandEvent eventtime).written.flatten = (s.sends (.command eventtime)).flatten := by
  have hfuel : maxPendingBlocks < maxPendingBlocks + 1 + s.sentQueue.length := by omega
  exact s.commandLoop_written h eventtime hfuel []

/-- Both ends, and what is under way.  Of `next` only the last bits matter. -/
structure System where
  host : SerialQueue
  built : List Built
  next : ℕ
  taken : List Bytes
  out : List Bytes
  back : List Bytes

namespace System

/-- Nothing is lost in these steps. -/
inductive Step : System → System → Prop
  | host (y : System) (e : Event) (hinput : ∀ eventtime now chunk, e ≠ .input eventtime now chunk) :
    Step y { y with
      host := (y.host.step e).1
      built := y.built ++ (y.host.step e).2
      out := y.out ++ y.host.sends e }
  | input (y : System) (eventtime now : ℚ) (chunk : Bytes) (rest : List Bytes)
    (hread : y.back = messages (y.host.input.read chunk).1 ++ rest) :
    Step y { y with host := y.host.inputEvent eventtime now chunk, back := rest }
  | take (y : System) (block : Bytes) (rest answers : List Bytes) (hout : y.out = block :: rest)
    (hseq : seqOf block = y.next % 16) (hanswers : ∀ msg ∈ answers, seqOf msg = (y.next + 1) % 16) :
    Step y { y with
      out := rest
      next := y.next + 1
      taken := y.taken ++ [contentOf block]
      back := y.back ++ answers }
  | discard (y : System) (block : Bytes) (rest answers : List Bytes) (hout : y.out = block :: rest)
    (hseq : seqOf block ≠ y.next % 16) (hanswers : ∀ msg ∈ answers, seqOf msg = y.next % 16) :
    Step y { y with out := rest, back := y.back ++ answers }
  | speak (y : System) (msg : Bytes) (hmsg : seqOf msg = y.next % 16) : Step y { y with back := y.back ++ [msg] }

/-- Anything under way may be lost. -/
inductive Lose : System → System → Prop
  | lose (y : System) (out back : List Bytes) (hout : out.Sublist y.out) (hback : back.Sublist y.back) :
    Lose y { y with out := out, back := back }

/-- A run in which nothing is lost. -/
def Lossless : System → System → Prop := Relation.ReflTransGen Step

/-- A run. -/
def Run : System → System → Prop := Relation.ReflTransGen fun y y' => Step y y' ∨ Lose y y'

/-- `retransmit_event` has been called. -/
def resent (y : System) (eventtime : ℚ) : System :=
  { y with
    host := (y.host.retransmitEvent eventtime).2
    out := y.out ++ y.host.sentQueue.map SentMessage.msg }

theorem step_resent (y : System) (eventtime : ℚ) : y.Step (y.resent eventtime) := by
  have hstep := Step.host y (.retransmit eventtime) nofun
  have hbuilt : y.built ++ (y.host.step (.retransmit eventtime)).2 = y.built := List.append_nil _
  rwa [hbuilt] at hstep

/-- The ends agree on a number. -/
def start (host : SerialQueue) : System := ⟨host, [], host.sendSeq, [], [], []⟩

end System

/-- How the ends come to agree: at the beginning the host takes over a number that it has not
sent. -/
theorem start_of_handleMessage {s : SerialQueue} (hpending : s.unacked.Pending) (hone : s.receiveSeq = 1)
    (eventtime now : ℚ) {msg : Bytes} (hnew : s.sendSeq < s.rseqOf msg) :
    (s.handleMessage eventtime now msg).sentQueue = [] ∧
      (s.handleMessage eventtime now msg).sendSeq % 16 = seqOf msg := by
  have hseq : s.receiveSeq + s.sentQueue.length = s.sendSeq := hpending.seq
  rcases SerialQueue.unacked_handleMessage eventtime now msg hpending with
    ⟨-, hsame | ⟨-, hnot⟩⟩ | ⟨hle, -⟩ | ⟨-, hreset⟩
  · omega
  · exact absurd hone hnot
  · omega
  · have hsend : (s.handleMessage eventtime now msg).sendSeq = s.rseqOf msg := congrArg Unacked.sendSeq hreset
    refine ⟨congrArg Unacked.sentQueue hreset, ?_⟩
    rw [hsend]
    unfold SerialQueue.rseqOf seqOf
    omega

/-! ## What the host keeps -/

namespace Unacked

/-- The blocks from `acked` on are pending, and the first of all has the number `base`. -/
structure Tracks (base acked : ℕ) (bs : List Built) (u : Unacked) : Prop where
  acked_le : acked ≤ bs.length
  receiveSeq : u.receiveSeq = base + acked
  sendSeq : u.sendSeq = base + bs.length
  sent : u.sentQueue.map SentMessage.msg = (bs.drop acked).map Built.block
  seq : ∀ k b, bs[k]? = some b → b.seq = base + k

variable {base acked : ℕ} {bs : List Built} {u u' : Unacked}

theorem Tracks.build (h : u.Tracks base acked bs) {b : Built} {sent : SentMessage} (hseq : b.seq = u.sendSeq)
    (hsent : sent.msg = b.block) : (u.build sent).Tracks base acked (bs ++ [b]) := by
  have hlength : (bs ++ [b]).length = bs.length + 1 := by simp
  refine ⟨hlength ▸ h.acked_le.trans (Nat.le_succ _), h.receiveSeq, ?_, ?_, fun k c hc => ?_⟩
  · rw [hlength]
    exact congrArg (· + 1) h.sendSeq
  · change (u.sentQueue ++ [sent]).map SentMessage.msg = _
    rw [List.map_append, h.sent, List.drop_append_of_le_length h.acked_le, List.map_append, List.map_singleton, hsent]
    rfl
  · rcases Nat.lt_or_ge k bs.length with hk | hk
    · rw [List.getElem?_append_left hk] at hc
      exact h.seq k c hc
    · rw [List.getElem?_append_right hk] at hc
      obtain ⟨hzero, rfl⟩ := List.getElem?_eq_some_iff.1 hc
      rw [List.length_singleton] at hzero
      rw [List.getElem_singleton, hseq, h.sendSeq]
      omega

theorem Tracks.ack (h : u.Tracks base acked bs) {a : ℕ} (ha : acked ≤ a) (hlength : a ≤ bs.length) (last : ℤ) :
    (u.ack (a - acked) last).Tracks base a bs := by
  refine ⟨hlength, ?_, h.sendSeq, ?_, h.seq⟩
  · change u.receiveSeq + (a - acked) = base + a
    rw [h.receiveSeq]
    omega
  · change (u.sentQueue.drop (a - acked)).map SentMessage.msg = _
    rw [List.map_drop, h.sent, ← List.map_drop, List.drop_drop]
    congr 2
    omega

end Unacked

/-! ## The host is the sender -/

open GoBackN

/-- Each block that is built is a step of the sender. -/
theorem lossless_builds {base : ℕ} {bs : List Built} {u u' : Unacked} (hbuilds : Unacked.Builds u bs u')
    {g : State Built} (h : u.Tracks base g.acked g.built) :
    Lossless maxPendingBlocks 16 g { g with
      built := g.built ++ bs
      out := g.out ++ List.range' g.built.length bs.length } ∧ u'.Tracks base g.acked (g.built ++ bs) := by
  induction hbuilds generalizing g with
  | nil u =>
    simp only [List.append_nil, List.length_nil, List.range'_zero]
    exact ⟨Relation.ReflTransGen.refl, h⟩
  | @cons u u' bs b sent hroom hseq hsent hlength hrest ih =>
    have hcount : g.built.length < g.acked + maxPendingBlocks := by
      have hlt := hroom.count
      rw [h.sendSeq, h.receiveSeq] at hlt
      omega
    have hstep : Step maxPendingBlocks 16 g _ := .build g b hcount
    obtain ⟨hrun, htracks⟩ := ih (g := { g with built := g.built ++ [b], out := g.out ++ [g.built.length] })
      (h.build hseq hsent)
    simp only [List.append_assoc, List.singleton_append, List.length_append, List.length_singleton] at hrun htracks
    rw [List.length_cons, List.range'_succ]
    exact ⟨Relation.ReflTransGen.head hstep hrun, htracks⟩

/-! ## The line is a run -/

/-- The block that a number stands for. -/
def At (built : List Built) (k : ℕ) (block : Bytes) : Prop := ∃ b, built[k]? = some b ∧ block = b.block

theorem At.append {built : List Built} {k : ℕ} {block : Bytes} (h : At built k block) (more : List Built) :
    At (built ++ more) k block := by
  obtain ⟨b, hb, rfl⟩ := h
  obtain ⟨hk, -⟩ := List.getElem?_eq_some_iff.1 hb
  exact ⟨b, by rw [List.getElem?_append_left hk, hb], rfl⟩

theorem at_range (front bs : List Built) :
    List.Forall₂ (At (front ++ bs)) (List.range' front.length bs.length) (bs.map Built.block) := by
  induction bs generalizing front with
  | nil => exact .nil
  | cons b bs ih =>
    have hrest := ih (front ++ [b])
    rw [List.append_assoc, List.singleton_append, List.length_append, List.length_singleton] at hrest
    rw [List.length_cons, List.range'_succ, List.map_cons]
    exact .cons ⟨b, by simp, rfl⟩ hrest

theorem forall₂_sublist {α β : Type*} {R : α → β → Prop} {xs : List α} {ys zs : List β} (h : List.Forall₂ R xs ys)
    (hsub : zs.Sublist ys) : ∃ ws, ws.Sublist xs ∧ List.Forall₂ R ws zs := by
  induction hsub generalizing xs with
  | slnil => exact ⟨[], List.nil_sublist _, .nil⟩
  | cons y hsub ih =>
    cases h with
    | @cons x _ xs _ hxy hrest =>
      obtain ⟨ws, hws, hzs⟩ := ih hrest
      exact ⟨ws, hws.cons _, hzs⟩
  | cons_cons y hsub ih =>
    cases h with
    | @cons x _ xs _ hxy hrest =>
      obtain ⟨ws, hws, hzs⟩ := ih hrest
      exact ⟨x :: ws, hws.cons_cons _, .cons hxy hzs⟩

theorem forall₂_replicate {α β : Type*} {R : α → β → Prop} {x : α} {ys : List β} (h : ∀ y ∈ ys, R x y) :
    List.Forall₂ R (List.replicate ys.length x) ys := by
  induction ys with
  | nil => exact .nil
  | cons y ys ih =>
    rw [List.forall_mem_cons] at h
    exact .cons h.1 (ih h.2)

/-- The message that tells a number. -/
def Tells (base a : ℕ) (msg : Bytes) : Prop := seqOf msg = (base + a) % 16

/-- The line, as a run of `GoBackN`. -/
structure Refines (base : ℕ) (y : System) (g : State Built) : Prop where
  built : g.built = y.built
  pending : y.host.unacked.Pending
  tracks : y.host.unacked.Tracks base g.acked g.built
  next : y.next = base + g.next
  taken : y.taken = g.taken.map Built.payload
  out : List.Forall₂ (At g.built) g.out y.out
  back : List.Forall₂ (Tells base) g.back y.back

variable {base : ℕ}

/-- The number that the host makes of a message is the one that was told. -/
theorem rseqOf_eq {s : SerialQueue} {acked a : ℕ} {msg : Bytes} (hreceive : s.receiveSeq = base + acked)
    (hmsg : Tells base a msg) (hacked : acked ≤ a) (ha : a < acked + 16) : s.rseqOf msg = base + a := by
  unfold Tells seqOf at hmsg
  unfold SerialQueue.rseqOf
  rw [hreceive]
  omega

/-- A message is heard. -/
theorem tracks_handleMessage {s : SerialQueue} {acked a : ℕ} {bs : List Built} {msg : Bytes} (eventtime now : ℚ)
    (hpending : s.unacked.Pending) (h : s.unacked.Tracks base acked bs) (hmsg : Tells base a msg)
    (hacked : acked ≤ a) (ha : a ≤ bs.length) : (s.handleMessage eventtime now msg).unacked.Tracks base a bs := by
  have hreceive : s.receiveSeq = base + acked := h.receiveSeq
  have hsend : s.sendSeq = base + bs.length := h.sendSeq
  have hseq : s.receiveSeq + s.sentQueue.length = s.sendSeq := hpending.seq
  have hcount : s.sentQueue.length ≤ 12 := hpending.count
  have hrseq := rseqOf_eq hreceive hmsg hacked (by omega)
  rcases SerialQueue.unacked_handleMessage eventtime now msg hpending with
    ⟨hsame, hor⟩ | ⟨-, last, -, hack⟩ | ⟨hgt, -⟩
  · obtain rfl : a = acked := by omega
    rw [hsame]
    exact h
  · have hdiff : base + a - s.receiveSeq = a - acked := by omega
    rw [hack, hrseq, hdiff]
    exact h.ack hacked ha last
  · omega

/-- What the host finds is heard. -/
theorem lossless_found (eventtime now : ℚ) (found : List Found) (host : SerialQueue) {g : State Built}
    {rest : List Bytes} (hinv : Inv maxPendingBlocks g) (hpending : host.unacked.Pending)
    (h : host.unacked.Tracks base g.acked g.built)
    (hback : List.Forall₂ (Tells base) g.back (messages found ++ rest)) :
    ∃ acked back, Lossless maxPendingBlocks 16 g { g with acked := acked, back := back } ∧
      (found.foldl (SerialQueue.handleFound eventtime now) host).unacked.Tracks base acked g.built ∧
      List.Forall₂ (Tells base) back rest := by
  induction found generalizing host g with
  | nil => exact ⟨g.acked, g.back, Relation.ReflTransGen.refl, h, hback⟩
  | cons f found ih =>
    rw [List.foldl_cons]
    cases f with
    | message msg =>
      rw [messages_valid] at hback
      generalize hg : g.back = told at hback
      cases hback with
      | @cons a _ told _ hmsg hmore =>
        have hmem : a ∈ g.back := hg ▸ List.mem_cons_self
        obtain ⟨hle, hge⟩ := hinv.back a hmem
        have hstep : Step maxPendingBlocks 16 g _ := .hear g a told hg
        have hnext := hinv.step (by decide) hstep
        rw [hinv.hear_eq (by decide) hmem] at hstep hnext
        obtain ⟨acked, back, hrun, htracks, hrest⟩ := ih (host.handleMessage eventtime now msg) hnext
          (SerialQueue.pending_handleMessage eventtime now msg hpending)
          (tracks_handleMessage eventtime now hpending h hmsg hle (hge.trans hinv.next_le)) hmore
        exact ⟨acked, back, Relation.ReflTransGen.head hstep hrun, htracks, hrest⟩
    | invalid len => exact ih _ hinv hpending h hback

namespace Refines

variable {y y' : System} {g : State Built}

/-- All that is pending is sent again. -/
theorem resend (h : Refines base y g) (eventtime : ℚ) : Refines base (y.resent eventtime)
    { g with out := g.out ++ List.range' g.acked (g.built.length - g.acked) } := by
  have hunacked := SerialQueue.unacked_retransmitEvent eventtime y.host
  have hsent : y.host.sentQueue.map SentMessage.msg = (g.built.drop g.acked).map Built.block := h.tracks.sent
  have hrange := at_range (g.built.take g.acked) (g.built.drop g.acked)
  rw [List.take_append_drop, List.length_take_of_le h.tracks.acked_le, List.length_drop, ← hsent] at hrange
  refine ⟨h.built, ?_, ?_, h.next, h.taken, List.rel_append h.out hrange, h.back⟩
  · exact hunacked.symm ▸ h.pending
  · exact hunacked.symm ▸ h.tracks

/-- A step of the host other than what it hears. -/
theorem host (h : Refines base y g) (e : Event) (hinput : ∀ eventtime now chunk, e ≠ .input eventtime now chunk) :
    ∃ g', Lossless maxPendingBlocks 16 g g' ∧ Refines base { y with
      host := (y.host.step e).1
      built := y.built ++ (y.host.step e).2
      out := y.out ++ y.host.sends e } g' := by
  have hpending := SerialQueue.pending_step h.pending e
  -- nothing is built and nothing is sent
  have hquiet : (y.host.step e).1.unacked = y.host.unacked → (y.host.step e).2 = [] → y.host.sends e = [] →
      ∃ g', Lossless maxPendingBlocks 16 g g' ∧ Refines base { y with
        host := (y.host.step e).1
        built := y.built ++ (y.host.step e).2
        out := y.out ++ y.host.sends e } g' := by
    intro hunacked hbuilt hsends
    rw [hbuilt, hsends, List.append_nil, List.append_nil]
    exact ⟨g, Relation.ReflTransGen.refl, h.built, hpending, hunacked ▸ h.tracks, h.next, h.taken, h.out, h.back⟩
  cases e with
  | command eventtime =>
    obtain ⟨hrun, htracks⟩ := lossless_builds
      (SerialQueue.commandLoop_builds eventtime (maxPendingBlocks + 1) [] h.pending.last) h.tracks
    refine ⟨_, hrun, congrArg (· ++ _) h.built, hpending, htracks, h.next, h.taken, ?_, h.back⟩
    exact List.rel_append (h.out.imp fun _ _ hat => hat.append _) (at_range g.built _)
  | retransmit eventtime =>
    have hnone : (y.host.step (.retransmit eventtime)).2 = [] := rfl
    rw [hnone, List.append_nil]
    exact ⟨_, Relation.ReflTransGen.single (Step.resend g), h.resend eventtime⟩
  | input eventtime now chunk => exact absurd rfl (hinput eventtime now chunk)
  | sendBatch id msgs => exact hquiet (SerialQueue.unacked_sendBatch id msgs y.host) rfl rfl
  | kick => exact hquiet rfl rfl rfl
  | pull => exact hquiet rfl rfl rfl
  | setWireFrequency frequency => exact hquiet rfl rfl rfl
  | setReceiveWindow receiveWindow =>
    have htracks := h.tracks
    exact ⟨g, Relation.ReflTransGen.refl, h.built.trans (List.append_nil _).symm, hpending,
      ⟨htracks.acked_le, htracks.receiveSeq, htracks.sendSeq, htracks.sent, htracks.seq⟩, h.next, h.taken,
      (List.append_nil y.out).symm ▸ h.out, h.back⟩
  | setClockEst ce => exact hquiet rfl rfl rfl

/-- The number in a block is that of the block. -/
theorem mod_eq_iff (h : Refines base y g) {k : ℕ} {b : Built} (hb : g.built[k]? = some b) :
    seqOf b.block = y.next % 16 ↔ k % 16 = g.next % 16 := by
  rw [Built.block, seqOf_msgblock, h.tracks.seq k b hb, h.next]
  omega

/-- What the first block under way is. -/
theorem first (h : Refines base y g) {block : Bytes} {rest : List Bytes} (hout : y.out = block :: rest) :
    ∃ k ks b, g.out = k :: ks ∧ g.built[k]? = some b ∧ block = b.block ∧ List.Forall₂ (At g.built) ks rest := by
  have hall := h.out
  rw [hout] at hall
  generalize hg : g.out = ks at hall
  cases hall with
  | @cons k _ ks _ hat hrest =>
    obtain ⟨b, hb, hblock⟩ := hat
    exact ⟨k, ks, b, rfl, hb, hblock, hrest⟩

/-- The micro-controller has answered. -/
theorem back_append (h : Refines base y g) {a : ℕ} {answers : List Bytes}
    (hanswers : ∀ msg ∈ answers, seqOf msg = (base + a) % 16) :
    List.Forall₂ (Tells base) (g.back ++ List.replicate answers.length a) (y.back ++ answers) :=
  List.rel_append h.back (forall₂_replicate hanswers)

theorem step (h : Refines base y g) (hinv : Inv maxPendingBlocks g) (hs : y.Step y') :
    ∃ g', Lossless maxPendingBlocks 16 g g' ∧ Refines base y' g' := by
  cases hs with
  | host e hinput => exact h.host e hinput
  | input eventtime now chunk rest hread =>
    have htold : List.Forall₂ (Tells base) g.back (messages (y.host.input.read chunk).1 ++ rest) := hread ▸ h.back
    obtain ⟨acked, back, hrun, htracks, hback⟩ := lossless_found eventtime now (y.host.input.read chunk).1
      { y.host with input := (y.host.input.read chunk).2 } hinv h.pending h.tracks htold
    exact ⟨_, hrun, h.built, SerialQueue.pending_inputEvent eventtime now chunk h.pending, htracks, h.next, h.taken,
      h.out, hback⟩
  | take block rest answers hout hseq hanswers =>
    obtain ⟨k, ks, b, hg, hb, rfl, hrest⟩ := h.first hout
    have hstep : Step maxPendingBlocks 16 g _ :=
      .take g k ks b answers.length hg ((h.mod_eq_iff hb).1 hseq) hb
    refine ⟨_, Relation.ReflTransGen.single hstep, h.built, h.pending, h.tracks, congrArg (· + 1) h.next, ?_, hrest,
      h.back_append fun msg hmsg => ?_⟩
    · rw [List.map_append, ← h.taken, Built.block, contentOf_msgblock]
      rfl
    · rw [hanswers msg hmsg, h.next, Nat.add_assoc]
  | discard block rest answers hout hseq hanswers =>
    obtain ⟨k, ks, b, hg, hb, rfl, hrest⟩ := h.first hout
    have hstep : Step maxPendingBlocks 16 g _ :=
      .discard g k ks answers.length hg fun hmod => hseq ((h.mod_eq_iff hb).2 hmod)
    refine ⟨_, Relation.ReflTransGen.single hstep, h.built, h.pending, h.tracks, h.next, h.taken, hrest,
      h.back_append fun msg hmsg => ?_⟩
    rw [hanswers msg hmsg, h.next]
  | speak msg hmsg =>
    refine ⟨_, Relation.ReflTransGen.single (Step.speak g), h.built, h.pending, h.tracks, h.next, h.taken, h.out,
      List.rel_append h.back (.cons ?_ .nil)⟩
    exact hmsg.trans (congrArg (· % 16) h.next)

theorem lose (h : Refines base y g) (hs : y.Lose y') : ∃ g', GoBackN.Lose g g' ∧ Refines base y' g' := by
  cases hs with
  | lose out back hout hback =>
    obtain ⟨ks, hks, houts⟩ := forall₂_sublist h.out hout
    obtain ⟨told, htold, hbacks⟩ := forall₂_sublist h.back hback
    exact ⟨_, .lose g ks told hks htold, h.built, h.pending, h.tracks, h.next, h.taken, houts, hbacks⟩

theorem lossless (h : Refines base y g) (hinv : Inv maxPendingBlocks g) (hs : y.Lossless y') :
    ∃ g', Lossless maxPendingBlocks 16 g g' ∧ Inv maxPendingBlocks g' ∧ Refines base y' g' := by
  induction hs with
  | refl => exact ⟨g, Relation.ReflTransGen.refl, hinv, h⟩
  | tail _ hlast ih =>
    obtain ⟨g', hrun, hinv', h'⟩ := ih
    obtain ⟨g'', hmore, h''⟩ := h'.step hinv' hlast
    have hall := hrun.trans hmore
    exact ⟨g'', hall, hinv.run (by decide) (Lossless.run hall), h''⟩

/-- The line does what `GoBackN` does. -/
theorem run (h : Refines base y g) (hinv : Inv maxPendingBlocks g) (hs : y.Run y') :
    ∃ g', Run maxPendingBlocks 16 g g' ∧ Inv maxPendingBlocks g' ∧ Refines base y' g' := by
  induction hs with
  | refl => exact ⟨g, Relation.ReflTransGen.refl, hinv, h⟩
  | tail _ hlast ih =>
    obtain ⟨g', hrun, hinv', h'⟩ := ih
    rcases hlast with hlast | hlast
    · obtain ⟨g'', hmore, h''⟩ := h'.step hinv' hlast
      have hall := hrun.trans (Lossless.run hmore)
      exact ⟨g'', hall, hinv.run (by decide) hall, h''⟩
    · obtain ⟨g'', hmore, h''⟩ := h'.lose hlast
      exact ⟨g'', hrun.tail (.inr hmore), hinv'.lose hmore, h''⟩

theorem start {host : SerialQueue} (hpending : host.unacked.Pending) (hnone : host.sentQueue = []) :
    Refines host.sendSeq (System.start host) State.init := by
  have hseq : host.receiveSeq + host.sentQueue.length = host.sendSeq := hpending.seq
  rw [hnone, List.length_nil, Nat.add_zero] at hseq
  refine ⟨rfl, hpending, ⟨le_rfl, hseq, rfl, ?_, fun k b hb => ?_⟩, rfl, rfl, .nil, .nil⟩
  · exact congrArg (List.map SentMessage.msg) hnone
  · cases hb

end Refines

/-! ## What arrives -/

/-- What has been taken is the beginning of what was built. -/
theorem Refines.taken_eq {y : System} {g : State Built} (h : Refines base y g) (hinv : Inv maxPendingBlocks g) :
    y.taken = (y.built.take (y.next - base)).map Built.payload := by
  rw [h.taken, hinv.taken, h.built, h.next, Nat.add_sub_cancel_left]

/-- After a retransmission nothing is missing when the way is empty. -/
theorem Refines.complete {y y' : System} {g : State Built} (h : Refines base y g) (hinv : Inv maxPendingBlocks g)
    (eventtime : ℚ) (hlast : (y.resent eventtime).Lossless y') (hout : y'.out = []) :
    y'.taken = y'.built.map Built.payload := by
  have hresend : Step maxPendingBlocks 16 g _ := .resend g
  have hinv' := hinv.step (by decide) hresend
  obtain ⟨g', hrest, -, h'⟩ := (h.resend eventtime).lossless hinv' hlast
  have hempty : g'.out = [] := by
    have hall := h'.out
    rw [hout] at hall
    exact List.forall₂_nil_right_iff.1 hall
  have hcomplete := hinv'.complete (by decide) (underWay_resend hinv) hrest hempty
  rw [h'.taken, hcomplete, h'.built]

/-- The micro-controller can take or discard all that is on the way to it. -/
theorem System.drain (y : System) : ∃ y' : System, y.Lossless y' ∧ y'.out = [] ∧ y'.built = y.built := by
  generalize hout : y.out = blocks
  induction blocks generalizing y with
  | nil => exact ⟨y, Relation.ReflTransGen.refl, hout, rfl⟩
  | cons block rest ih =>
    by_cases hseq : seqOf block = y.next % 16
    · have hstep := Step.take y block rest [] hout hseq nofun
      obtain ⟨y', hrun, hempty, hbuilt⟩ := ih
        { y with out := rest, next := y.next + 1, taken := y.taken ++ [contentOf block], back := y.back ++ [] } rfl
      exact ⟨y', hrun.head hstep, hempty, hbuilt⟩
    · have hstep := Step.discard y block rest [] hout hseq nofun
      obtain ⟨y', hrun, hempty, hbuilt⟩ := ih { y with out := rest, back := y.back ++ [] } rfl
      exact ⟨y', hrun.head hstep, hempty, hbuilt⟩

theorem run_concat (s : SerialQueue) (es : List Event) (e : Event) :
    s.run (es ++ [e]) = (((s.run es).1.step e).1, (s.run es).2 ++ ((s.run es).1.step e).2) := by
  induction es generalizing s with
  | nil => simp [SerialQueue.run]
  | cons e' es ih => rw [List.cons_append, SerialQueue.run, ih, SerialQueue.run, List.append_assoc]

/-- The host does what it does in a run of its own. -/
theorem host_run {host : SerialQueue} {y : System} (hrun : (System.start host).Run y) :
    ∃ es, host.run es = (y.host, y.built) := by
  induction hrun with
  | refl => exact ⟨[], rfl⟩
  | tail _ hlast ih =>
    obtain ⟨es, hes⟩ := ih
    rcases hlast with hlast | hlast
    · cases hlast with
      | host e hinput => exact ⟨es ++ [e], by rw [run_concat, hes]⟩
      | input eventtime now chunk rest hread =>
        refine ⟨es ++ [.input eventtime now chunk], ?_⟩
        rw [run_concat, hes]
        exact congrArg (Prod.mk _) (List.append_nil _)
      | take block rest answers hout hseq hanswers => exact ⟨es, hes⟩
      | discard block rest answers hout hseq hanswers => exact ⟨es, hes⟩
      | speak msg hmsg => exact ⟨es, hes⟩
    · cases hlast with
      | lose out back hout hback => exact ⟨es, hes⟩

/-! ## A queue with a command -/

/-- A command has been given and may go. -/
def oneGiven : SerialQueue :=
  (SerialQueue.alloc false).sendBatch 0 [⟨[5], 0, 0, 0, by decide, by decide, by decide⟩]

theorem reachable_oneGiven : oneGiven.Reachable :=
  ⟨false, [.sendBatch 0 [⟨[5], 0, 0, 0, by decide, by decide, by decide⟩]], rfl⟩

/-- The first of two blocks is lost, the second discarded, and both are sent again. -/
theorem run_oneGiven : ∃ y : System, (System.start oneGiven).Run y ∧ y.built.length = 2 ∧ y.taken = [[5], [6]] ∧
    y.next = 3 := by
  have hfirst : System.Run (System.start oneGiven) _ := .single (.inl (.host _ (.command 0) nofun))
  have hlost := hfirst.tail (.inr (.lose _ [] [] (List.nil_sublist _) (List.nil_sublist _)))
  have hgiven := hlost.tail (.inl (.host _ (.sendBatch 0 [⟨[6], 0, 0, 0, by decide, by decide, by decide⟩]) nofun))
  have hsecond := hgiven.tail (.inl (.host _ (.command 1) nofun))
  have hdiscarded := hsecond.tail (.inl (.discard _ (msgblock 2 [6]) [] [msgblock 1 []] (by decide +kernel)
    (by decide +kernel) (by decide +kernel)))
  have hresent := hdiscarded.tail (.inl (.host _ (.retransmit 2) nofun))
  have htaken := hresent.tail (.inl (.take _ (msgblock 1 [5]) [msgblock 2 [6]] [] (by decide +kernel)
    (by decide +kernel) nofun))
  have hboth := htaken.tail (.inl (.take _ (msgblock 2 [6]) [] [] rfl (by decide +kernel) nofun))
  exact ⟨_, hboth, by decide +kernel, rfl, rfl⟩

/-! ## What the micro-controller takes -/

/-- **What is taken.**  Whatever is lost, the micro-controller takes what is in the blocks in the
order in which they were built, and each of them once; and the host takes no block off the sent queue
that has not arrived. -/
theorem taken_of_run {host : SerialQueue} {y : System} (hhost : host.Reachable) (hnone : host.sentQueue = [])
    (hrun : (System.start host).Run y) :
    y.taken = (y.built.take (y.next - host.sendSeq)).map Built.payload ∧ y.host.receiveSeq ≤ y.next ∧
      y.next ≤ y.host.sendSeq := by
  obtain ⟨g, -, hinv, h⟩ := (Refines.start hhost.pending hnone).run inv_init hrun
  have hnext := h.next
  have hreceive : y.host.receiveSeq = _ := h.tracks.receiveSeq
  have hsend : y.host.sendSeq = _ := h.tracks.sendSeq
  have hacked := hinv.acked_le
  have hle := hinv.next_le
  exact ⟨h.taken_eq hinv, by omega, by omega⟩

theorem taken_of_run_lossy : ∃ y, (System.start oneGiven).Run y ∧ y.built.length = 2 ∧ y.taken = [[5], [6]] ∧
    y.taken = (y.built.take (y.next - 1)).map Built.payload := by
  obtain ⟨y, hrun, hbuilt, htaken, -⟩ := run_oneGiven
  exact ⟨y, hrun, hbuilt, htaken, (taken_of_run reachable_oneGiven rfl hrun).1⟩

/-- **Once nothing is lost.**  After a retransmission, when nothing is lost any more and the way to the
micro-controller is empty, it has taken all that was built. -/
theorem taken_of_resend {host : SerialQueue} {y y' : System} (hhost : host.Reachable) (hnone : host.sentQueue = [])
    (hrun : (System.start host).Run y) (eventtime : ℚ) (hlast : (y.resent eventtime).Lossless y')
    (hout : y'.out = []) : y'.taken = y'.built.map Built.payload := by
  obtain ⟨g, -, hinv, h⟩ := (Refines.start hhost.pending hnone).run inv_init hrun
  exact h.complete hinv eventtime hlast hout

theorem taken_of_resend_one : ∃ y : System, y.taken = [[5]] ∧ y.taken = y.built.map Built.payload := by
  have hbuilt : System.Run (System.start oneGiven) _ := .single (.inl (.host _ (.command 0) nofun))
  -- the block is lost at first
  have hlost := hbuilt.tail (.inr (.lose _ [] [] (List.nil_sublist _) (List.nil_sublist _)))
  refine ⟨_, ?_, taken_of_resend reachable_oneGiven rfl hlost 0
    (.single (.take _ (msgblock 1 [5]) [] [] ?_ ?_ nofun)) rfl⟩
  · rfl
  · decide +kernel
  · decide +kernel

/-- **All can arrive.**  At no time is a block lost for good: there is a way to go on on which the
micro-controller takes all that has been built. -/
theorem can_arrive {host : SerialQueue} {y : System} (hhost : host.Reachable) (hnone : host.sentQueue = [])
    (hrun : (System.start host).Run y) :
    ∃ y', y.Lossless y' ∧ y'.built = y.built ∧ y'.taken = y.built.map Built.payload := by
  obtain ⟨g, -, hinv, h⟩ := (Refines.start hhost.pending hnone).run inv_init hrun
  obtain ⟨y', hdrain, hout, hbuilt⟩ := (y.resent 0).drain
  have hsame : y'.built = y.built := hbuilt
  refine ⟨y', hdrain.head (y.step_resent 0), hsame, ?_⟩
  rw [h.complete hinv 0 hdrain hout, hsame]

theorem can_arrive_one : ∃ y y' : System, (System.start oneGiven).Run y ∧ y.out = [] ∧ y.taken = [] ∧
    y.Lossless y' ∧ y'.taken = [[5]] := by
  have hbuilt : System.Run (System.start oneGiven) _ := .single (.inl (.host _ (.command 0) nofun))
  -- the block is lost at first
  have hlost := hbuilt.tail (.inr (.lose _ [] [] (List.nil_sublist _) (List.nil_sublist _)))
  obtain ⟨y', hrest, -, htaken⟩ := can_arrive reachable_oneGiven rfl hlost
  refine ⟨_, y', hlost, rfl, rfl, hrest, htaken.trans ?_⟩
  decide +kernel

end Link

import Mathlib.Data.Rat.Floor
import Ff5m.Link.MsgBlock

/-!
# The serial queue

`serialqueue.c`: what the host sends to a micro-controller, and what it does with what comes
back.  Times are rational numbers.

A `Built` is a block with the commands that went into it; the code keeps the bytes only.
-/

namespace Link

/-! ## Messages and queues -/

def maxClock : ℕ := 0x7fffffffffffffff
def backgroundPriorityClock : ℕ := 0x7fffffff00000000
def maxPendingBlocks : ℕ := 12
def prNow : ℚ := 0
def prNever : ℚ := 9999999999999999
def minRto : ℚ := 0.025
def maxRto : ℚ := 5
def minReqtimeDelta : ℚ := 0.25
def minBackgroundDelta : ℚ := 0.005

/-- `struct queue_message` on a command queue.  The callers keep to the bounds. -/
structure QueueMessage where
  msg : Bytes
  minClock : ℕ
  reqClock : ℕ
  notifyId : ℕ
  len_pos : 0 < msg.length
  len_le : msg.length ≤ messagePayloadMax
  reqClock_lt : reqClock < maxClock

/-- `struct command_queue`. -/
structure CommandQueue where
  id : ℕ
  readyQueue : List QueueMessage
  upcomingQueue : List QueueMessage

/-- The messages that may go, and those that may not yet. -/
def CommandQueue.stage (ackClock : ℕ) (q : CommandQueue) : CommandQueue :=
  { q with
    readyQueue := q.readyQueue ++ q.upcomingQueue.takeWhile fun m => m.minClock ≤ ackClock
    upcomingQueue := q.upcomingQueue.dropWhile fun m => m.minClock ≤ ackClock }

def bytesOf (ms : List QueueMessage) : ℤ := (ms.map fun m => (m.msg.length : ℤ)).sum

/-- A block and its commands, each with its queue. -/
structure Built where
  seq : ℕ
  commands : List (ℕ × QueueMessage)

def Built.payload (b : Built) : Bytes := (b.commands.map fun c => c.2.msg).flatten

def Built.block (b : Built) : Bytes := msgblock b.seq b.payload

/-- `struct queue_message` on the sent queue. -/
structure SentMessage where
  msg : Bytes
  sentTime : ℚ
  receiveTime : ℚ

/-- `struct queue_message` on the notify queue: `req_clock` is the number of the block. -/
structure NotifyMessage where
  notifyId : ℕ
  sentSeq : ℕ

/-- `struct queue_message` on the receive queue. -/
structure Received where
  msg : Bytes
  sentTime : ℚ
  receiveTime : ℚ
  notifyId : ℕ

/-- `struct clock_estimate`. -/
structure ClockEstimate where
  convTime : ℚ
  convClock : ℕ
  estFreq : ℚ

/-- What C makes of a `double` that becomes an integer. -/
def truncate (x : ℚ) : ℤ := if 0 ≤ x then ⌊x⌋ else ⌈x⌉

/-- `clock_from_time`. -/
def ClockEstimate.clockFromTime (ce : ClockEstimate) (time : ℚ) : ℕ :=
  ((truncate ((time - ce.convTime) * ce.estFreq + 0.5) + ce.convClock) % 2 ^ 64).toNat

/-- `struct serialqueue`. -/
structure SerialQueue where
  isCan : Bool
  input : Input
  receiveWindow : ℤ
  bittimeAdjust : ℚ
  idleTime : ℚ
  ce : ClockEstimate
  lastReceiveSentTime : ℚ
  sendSeq : ℕ
  receiveSeq : ℕ
  ignoreNakSeq : ℕ
  lastAckSeq : ℕ
  retransmitSeq : ℕ
  rttSampleSeq : ℕ
  sentQueue : List SentMessage
  srtt : ℚ
  rttvar : ℚ
  rto : ℚ
  pendingQueues : List CommandQueue
  readyBytes : ℤ
  upcomingBytes : ℤ
  needAckBytes : ℤ
  lastAckBytes : ℤ
  needKickClock : ℕ
  notifyQueue : List NotifyMessage
  receiveQueue : List Received
  bytesWrite : ℕ
  bytesRead : ℕ
  bytesRetransmit : ℕ
  bytesInvalid : ℕ
  -- the timers of the reactor
  retransmitTimer : ℚ
  commandTimer : ℚ

namespace SerialQueue

/-- `serialqueue_alloc`, for a device. -/
def alloc (isCan : Bool) : SerialQueue where
  isCan := isCan
  input := ⟨false, []⟩
  receiveWindow := 0
  bittimeAdjust := 0
  idleTime := 0
  ce := ⟨0, 0, 0⟩
  lastReceiveSentTime := 0
  sendSeq := 1
  receiveSeq := 1
  ignoreNakSeq := 0
  lastAckSeq := 0
  retransmitSeq := 0
  rttSampleSeq := 0
  sentQueue := []
  srtt := 0
  rttvar := 0
  rto := minRto
  pendingQueues := []
  readyBytes := 0
  upcomingBytes := 0
  needAckBytes := 0
  lastAckBytes := 0
  needKickClock := maxClock
  notifyQueue := []
  receiveQueue := []
  bytesWrite := 0
  bytesRead := 0
  bytesRetransmit := 0
  bytesInvalid := 0
  retransmitTimer := prNever
  commandTimer := prNever

/-- `calculate_bittime`; the number of bits on the CAN bus is a `uint32_t`. -/
def calculateBittime (s : SerialQueue) (bytes : ℕ) : ℚ :=
  if s.isCan then
    let pkts := (bytes + 7) / 8
    s.bittimeAdjust * (((bytes * 8 + pkts * 47 - 4 : ℤ) % 2 ^ 32 : ℤ) : ℚ)
  else s.bittimeAdjust * bytes

/-! ## What comes in -/

/-- What the loop of `update_receive_seq` leaves: the sent queue, the bytes on it, and the message
that goes with the number, if there is one. -/
def dropSent (rseq : ℕ) : List SentMessage → ℕ → ℤ → List SentMessage × ℤ × Option SentMessage
  | [], _, bytes => ([], bytes, none)
  | sent :: rest, sentSeq, bytes =>
    if rseq = sentSeq + 1 then (rest, bytes - sent.msg.length, some sent)
    else dropSent rseq rest (sentSeq + 1) (bytes - sent.msg.length)

/-- `update_receive_seq`, the part about the round trip time. -/
def updateRtt (eventtime : ℚ) (rseq : ℕ) (s : SerialQueue) : SerialQueue :=
  if s.rttSampleSeq ≠ 0 ∧ s.rttSampleSeq < rseq ∧ s.lastReceiveSentTime ≠ 0 then
    let delta := eventtime - s.lastReceiveSentTime
    let rttvar := if s.srtt = 0 then delta / 2 else (3 * s.rttvar + |s.srtt - delta|) / 4
    let srtt := if s.srtt = 0 then delta * 10 else (7 * s.srtt + delta) / 8
    let rttvar4 := max (rttvar * 4) 0.001
    { s with
      rttvar := rttvar
      srtt := srtt
      rto := min (max (srtt + rttvar4) minRto) maxRto
      rttSampleSeq := 0 }
  else s

/-- `update_receive_seq`, the part about the sent queue. -/
def dropAcked (rseq : ℕ) (s : SerialQueue) : SerialQueue :=
  match dropSent rseq s.sentQueue s.receiveSeq s.needAckBytes with
  -- an ack for a message not sent; must be connection init
  | (sentQueue, needAckBytes, none) =>
    { s with
      sentQueue := sentQueue
      needAckBytes := needAckBytes
      sendSeq := rseq
      lastReceiveSentTime := 0
      receiveSeq := rseq }
  | (sentQueue, needAckBytes, some sent) =>
    { s with
      sentQueue := sentQueue
      needAckBytes := needAckBytes
      lastReceiveSentTime := sent.receiveTime
      lastAckBytes := sent.msg.length
      receiveSeq := rseq }

/-- `update_receive_seq`. -/
def updateReceiveSeq (eventtime : ℚ) (rseq : ℕ) (s : SerialQueue) : SerialQueue :=
  let s := (s.dropAcked rseq).updateRtt eventtime rseq
  { s with
    commandTimer := prNow
    retransmitTimer := match s.sentQueue with
      | [] => prNever
      | sent :: _ => eventtime + s.rto + s.calculateBittime sent.msg.length }

/-- `handle_message`, the notifications: they wait for the block that they went with. -/
def wakeNotified (eventtime : ℚ) (rseq len : ℕ) (s : SerialQueue) : SerialQueue :=
  let wakeSeq := (((rseq : ℤ) - 1 - if messageMin < len then 1 else 0) % 2 ^ 64).toNat
  let due := s.notifyQueue.takeWhile fun n => n.sentSeq ≤ wakeSeq
  { s with
    notifyQueue := s.notifyQueue.dropWhile fun n => n.sentSeq ≤ wakeSeq
    receiveQueue := s.receiveQueue ++ due.map fun n => ⟨[], s.lastReceiveSentTime, eventtime, n.notifyId⟩ }

/-- `handle_message`, what is done with the message itself; `now` is the time after the read. -/
def noteMessage (now : ℚ) (rseq : ℕ) (msg : Bytes) (s : SerialQueue) : SerialQueue :=
  if msg.length = messageMin then
    if s.lastAckSeq < rseq then { s with lastAckSeq := rseq }
    else if s.ignoreNakSeq < rseq ∧ s.sentQueue.isEmpty = false then { s with retransmitTimer := prNow }
    else s
  else
    let sentTime := if s.retransmitSeq < rseq then s.lastReceiveSentTime else 0
    { s with receiveQueue := s.receiveQueue ++ [⟨msg, sentTime, now - s.calculateBittime msg.length, 0⟩] }

/-- The number that the low bits of a message stand for. -/
def rseqOf (s : SerialQueue) (msg : Bytes) : ℕ :=
  s.receiveSeq + ((((msg.getD 1 0).toNat : ℤ) - s.receiveSeq) % 16).toNat

/-- `handle_message`. -/
def handleMessage (eventtime now : ℚ) (msg : Bytes) (s : SerialQueue) : SerialQueue :=
  let rseq := s.rseqOf msg
  if rseq ≠ s.receiveSeq ∧ s.sendSeq < rseq ∧ s.receiveSeq ≠ 1 then
    { s with bytesInvalid := s.bytesInvalid + msg.length }
  else
    let s := if rseq ≠ s.receiveSeq then s.updateReceiveSeq eventtime rseq else s
    let s := { s with bytesRead := s.bytesRead + msg.length }
    (s.wakeNotified eventtime rseq msg.length).noteMessage now rseq msg

/-- A round of the loop of `input_event`. -/
def handleFound (eventtime now : ℚ) (s : SerialQueue) : Found → SerialQueue
  | .message msg => s.handleMessage eventtime now msg
  | .invalid len => { s with bytesInvalid := s.bytesInvalid + len }

/-- `input_event`, once `chunk` has been read. -/
def inputEvent (eventtime now : ℚ) (chunk : Bytes) (s : SerialQueue) : SerialQueue :=
  let r := s.input.read chunk
  r.1.foldl (handleFound eventtime now) { s with input := r.2 }

/-! ## What goes out -/

/-- `retransmit_event`: what is written, and the state. -/
def retransmitEvent (eventtime : ℚ) (s : SerialQueue) : Bytes × SerialQueue :=
  let buf := messageSync :: (s.sentQueue.map SentMessage.msg).flatten
  let firstBuflen := match s.sentQueue with
    | [] => 0
    | sent :: _ => sent.msg.length + 1
  let s := { s with bytesRetransmit := s.bytesRetransmit + buf.length }
  let s :=
    if s.retransmitTimer = prNow then
      { s with ignoreNakSeq := if s.receiveSeq < s.retransmitSeq then s.retransmitSeq else s.receiveSeq }
    else { s with rto := min (s.rto * 2) maxRto, ignoreNakSeq := s.sendSeq }
  let s := { s with
    retransmitSeq := s.sendSeq
    rttSampleSeq := 0
    idleTime := eventtime + s.calculateBittime buf.length }
  (buf, { s with retransmitTimer := eventtime + s.rto + s.calculateBittime firstBuflen })

/-- The search of `build_and_send_command`: the first of the messages with the lowest `req_clock`. -/
def lowest : List CommandQueue → ℕ → Option (ℕ × QueueMessage) → Option (ℕ × QueueMessage)
  | [], _, best => best
  | q :: qs, minClock, best =>
    match q.readyQueue with
    | [] => lowest qs minClock best
    | m :: _ => if m.reqClock < minClock then lowest qs m.reqClock (some (q.id, m)) else lowest qs minClock best

/-- The first message is taken from the queue, and an empty queue from the list. -/
def popReady (id : ℕ) : List CommandQueue → List CommandQueue
  | [] => []
  | q :: qs =>
    if q.id = id then
      let q := { q with readyQueue := q.readyQueue.tail }
      if q.readyQueue.isEmpty && q.upcomingQueue.isEmpty then qs else q :: qs
    else q :: popReady id qs

/-- A round of the loop of `build_and_send_command`. -/
def takeCommand (id : ℕ) (qm : QueueMessage) (s : SerialQueue) : SerialQueue :=
  { s with
    pendingQueues := popReady id s.pendingQueues
    readyBytes := s.readyBytes - qm.msg.length
    notifyQueue := if qm.notifyId ≠ 0 then s.notifyQueue ++ [⟨qm.notifyId, s.sendSeq⟩] else s.notifyQueue }

/-- The loop of `build_and_send_command`, with the commands so far: a command takes a byte at
least. -/
def fill : ℕ → List (ℕ × QueueMessage) → SerialQueue → List (ℕ × QueueMessage) × SerialQueue
  | 0, commands, s => (commands, s)
  | fuel + 1, commands, s =>
    if s.readyBytes = 0 then (commands, s)
    else
      match lowest s.pendingQueues maxClock none with
      -- not reached: there is a message when there are bytes
      | none => (commands, s)
      | some (id, qm) =>
        let len := messageHeaderSize + (commands.map fun c => c.2.msg).flatten.length
        if messageMax - messageTrailerSize < len + qm.msg.length then (commands, s)
        else fill fuel (commands ++ [(id, qm)]) (s.takeCommand id qm)

/-- `build_and_send_command`. -/
def buildAndSendCommand (pending : ℕ) (eventtime : ℚ) (s : SerialQueue) : Built × SerialQueue :=
  let r := fill messageMax [] s
  let s := r.2
  let built : Built := ⟨s.sendSeq, r.1⟩
  let idletime := max eventtime s.idleTime + s.calculateBittime (pending + built.block.length)
  (built, { s with
    retransmitTimer := if s.sentQueue.isEmpty then idletime + s.rto else s.retransmitTimer
    rttSampleSeq := if s.rttSampleSeq = 0 then s.sendSeq else s.rttSampleSeq
    sendSeq := s.sendSeq + 1
    needAckBytes := s.needAckBytes + built.block.length
    sentQueue := s.sentQueue ++ [⟨built.block, eventtime, idletime⟩] })

/-- `check_send_command`: whether more may be sent before there is an ack. -/
def mustWait (s : SerialQueue) : Bool :=
  decide (maxPendingBlocks ≤ s.sendSeq - s.receiveSeq) ||
    (decide (s.receiveSeq < s.sendSeq ∧ s.receiveWindow ≠ 0) &&
      decide (s.receiveWindow < s.needAckBytes + messageMax + if s.lastAckSeq < s.receiveSeq then s.lastAckBytes else 0))

/-- `check_send_command`, the messages that have become ready. -/
def stageAll (ackClock : ℕ) (s : SerialQueue) : SerialQueue :=
  let moved := (s.pendingQueues.map fun q => bytesOf (q.upcomingQueue.takeWhile fun m => m.minClock ≤ ackClock)).sum
  { s with
    pendingQueues := s.pendingQueues.map (CommandQueue.stage ackClock)
    upcomingBytes := s.upcomingBytes - moved
    readyBytes := s.readyBytes + moved }

/-- `check_send_command`. -/
def checkSendCommand (pending : ℕ) (eventtime : ℚ) (s : SerialQueue) : ℚ × SerialQueue :=
  if s.mustWait then (prNever, s)
  else
    let idletime := max eventtime s.idleTime + s.calculateBittime (pending + messageMin)
    let ackClock := s.ce.clockFromTime idletime
    let s := s.stageAll ackClock
    let minStalledClock := (s.pendingQueues.filterMap fun q => q.upcomingQueue.head?.map QueueMessage.minClock).foldl min maxClock
    let bgtime := if pending ≠ 0 then idletime else s.idleTime
    let reqClock (m : QueueMessage) : ℕ :=
      if m.reqClock = backgroundPriorityClock then
        s.ce.clockFromTime (bgtime + (minReqtimeDelta + minBackgroundDelta))
      else m.reqClock
    let minReadyClock := (s.pendingQueues.filterMap fun q => q.readyQueue.head?.map reqClock).foldl min maxClock
    if (messagePayloadMax : ℤ) ≤ s.readyBytes then (prNow, s)
    else if s.ce.estFreq = 0 then
      if s.readyBytes ≠ 0 then (prNow, s) else (prNever, { s with needKickClock := maxClock })
    else
      let reqclockDelta := (truncate (minReqtimeDelta * s.ce.estFreq)).toNat
      if minReadyClock ≤ ackClock + reqclockDelta then (prNow, s)
      else
        let wantclock := min (minReadyClock - reqclockDelta) minStalledClock
        (idletime + ((wantclock : ℚ) - ackClock) / s.ce.estFreq, { s with needKickClock := wantclock })

/-- The blocks that wait in `buf` are written. -/
def flush (eventtime : ℚ) (buf : Bytes) (s : SerialQueue) : SerialQueue :=
  if buf.length ≠ 0 then
    { s with
      bytesWrite := s.bytesWrite + buf.length
      idleTime := max eventtime s.idleTime + s.calculateBittime buf.length }
  else s

/-- The beginning of a round of the loop of `command_event`: what `check_send_command` says, what
is written, what is left in `buf`, and the state. -/
structure Round where
  waketime : ℚ
  written : List Bytes
  buf : Bytes
  queue : SerialQueue

def commandRound (eventtime : ℚ) (buf : Bytes) (s : SerialQueue) : Round :=
  let c := s.checkSendCommand buf.length eventtime
  if c.1 ≠ prNow ∨ messageMax * maxPendingBlocks < buf.length + messageMax then
    ⟨c.1, if buf.length ≠ 0 then [buf] else [], [], c.2.flush eventtime buf⟩
  else ⟨c.1, [], buf, c.2⟩

/-- What `command_event` does: the blocks that it builds, what it writes, and the state. -/
structure Command where
  built : List Built
  written : List Bytes
  queue : SerialQueue

/-- The loop of `command_event`: no more blocks than may be pending are built. -/
def commandLoop (eventtime : ℚ) : ℕ → Bytes → SerialQueue → Command
  | 0, _, s => ⟨[], [], s⟩
  | fuel + 1, buf, s =>
    let r := s.commandRound eventtime buf
    if r.waketime ≠ prNow then ⟨[], r.written, { r.queue with commandTimer := r.waketime }⟩
    else
      let b := r.queue.buildAndSendCommand r.buf.length eventtime
      let c := commandLoop eventtime fuel (r.buf ++ b.1.block) b.2
      ⟨b.1 :: c.built, r.written ++ c.written, c.queue⟩

/-- `command_event`. -/
def commandEvent (eventtime : ℚ) (s : SerialQueue) : Command := s.commandLoop eventtime (maxPendingBlocks + 1) []

/-- `serialqueue_send_batch` fills in `min_clock`. -/
def withMinClock (qm : QueueMessage) : QueueMessage :=
  if qm.minClock + 2 ^ 31 < qm.reqClock ∧ qm.reqClock ≠ backgroundPriorityClock then
    { qm with minClock := qm.reqClock - 2 ^ 31 }
  else qm

/-- The messages join the upcoming queue, and the queue the list. -/
def joinQueue (id : ℕ) (msgs : List QueueMessage) : List CommandQueue → List CommandQueue
  | [] => [⟨id, [], msgs⟩]
  | q :: qs => if q.id = id then { q with upcomingQueue := q.upcomingQueue ++ msgs } :: qs else q :: joinQueue id msgs qs

/-- `serialqueue_send_batch`. -/
def sendBatch (id : ℕ) (msgs : List QueueMessage) (s : SerialQueue) : SerialQueue :=
  match msgs.map withMinClock with
  | [] => s
  | qm :: rest =>
    { s with
      pendingQueues := joinQueue id (qm :: rest) s.pendingQueues
      upcomingBytes := s.upcomingBytes + bytesOf (qm :: rest)
      needKickClock := if qm.minClock < s.needKickClock then 0 else s.needKickClock }

/-- `kick_event`. -/
def kickEvent (s : SerialQueue) : SerialQueue := { s with commandTimer := prNow }

/-- `serialqueue_pull`. -/
def pull (s : SerialQueue) : SerialQueue := { s with receiveQueue := s.receiveQueue.tail }

/-- `serialqueue_set_wire_frequency`. -/
def setWireFrequency (frequency : ℚ) (s : SerialQueue) : SerialQueue :=
  { s with bittimeAdjust := if s.isCan then 1 / frequency else 10 / frequency }

/-- `serialqueue_set_receive_window`. -/
def setReceiveWindow (receiveWindow : ℤ) (s : SerialQueue) : SerialQueue :=
  { s with receiveWindow := receiveWindow }

/-- `serialqueue_set_clock_est`. -/
def setClockEst (ce : ClockEstimate) (s : SerialQueue) : SerialQueue := { s with ce := ce }

end SerialQueue

/-! ## Runs -/

/-- What can happen to a queue.  The lock lets one thing happen at a time; the background thread and
the callers take turns in any order. -/
inductive Event where
  | sendBatch (id : ℕ) (msgs : List QueueMessage)
  | command (eventtime : ℚ)
  | input (eventtime now : ℚ) (chunk : Bytes)
  | retransmit (eventtime : ℚ)
  | kick
  | pull
  | setWireFrequency (frequency : ℚ)
  | setReceiveWindow (receiveWindow : ℤ)
  | setClockEst (ce : ClockEstimate)

/-- One of them: the state, and the blocks that are built. -/
def SerialQueue.step (s : SerialQueue) : Event → SerialQueue × List Built
  | .sendBatch id msgs => (s.sendBatch id msgs, [])
  | .command eventtime => ((s.commandEvent eventtime).queue, (s.commandEvent eventtime).built)
  | .input eventtime now chunk => (s.inputEvent eventtime now chunk, [])
  | .retransmit eventtime => ((s.retransmitEvent eventtime).2, [])
  | .kick => (s.kickEvent, [])
  | .pull => (s.pull, [])
  | .setWireFrequency frequency => (s.setWireFrequency frequency, [])
  | .setReceiveWindow receiveWindow => (s.setReceiveWindow receiveWindow, [])
  | .setClockEst ce => (s.setClockEst ce, [])

/-- A run. -/
def SerialQueue.run (s : SerialQueue) : List Event → SerialQueue × List Built
  | [] => (s, [])
  | e :: es => (((s.step e).1.run es).1, (s.step e).2 ++ ((s.step e).1.run es).2)

end Link

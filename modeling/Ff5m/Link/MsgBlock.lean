import Ff5m.Link.Message

/-!
# Message blocks

How `msgblock.c` tells where a message block begins and ends, and how `serialqueue.c` cuts
what it has read into blocks.

* `checkPacket_eq`: the check of `msgproto.py` agrees with the one of `msgblock.c`;
* `readAll_cuts`: the blocks that are found do not depend on how the stream was cut into
  reads, whatever the stream is;
* `readAll_stream`: of a stream of blocks all are found, in order, whether they are led by a
  sync character or not.
-/

namespace Link

def messageSync : UInt8 := 0x7e
def messageDest : UInt8 := 0x10
def messageSeqMask : UInt8 := 0x0f

/-- A round of `msgblock_crc16_ccitt`. -/
def crcStep (crc : UInt16) (data : UInt8) : UInt16 :=
  let data := data ^^^ (crc &&& 0xff).toUInt8
  let data := data ^^^ (data <<< 4)
  ((data.toUInt16 <<< 8) ||| (crc >>> 8)) ^^^ (data >>> 4).toUInt16 ^^^ (data.toUInt16 <<< 3)

/-- `msgblock_crc16_ccitt`. -/
def crc16Ccitt (buf : Bytes) : UInt16 := buf.foldl crcStep 0xffff

/-- What `msgblock_check` says: a positive number is the length of a message, a negative one that
of bad data, with what is left in `need_sync`. -/
inductive Check where
  | needMore
  | valid (len : ℕ)
  | bad (len : ℕ) (needSync : Bool)
  deriving DecidableEq

/-- `msgblock_check`, from the label `error` on. -/
def skip (buf : Bytes) : Check :=
  match buf.findIdx? (· == messageSync) with
  | some i => .bad (i + 1) false
  | none => .bad buf.length true

/-- `msgblock_check`. -/
def msgblockCheck (needSync : Bool) (buf : Bytes) : Check :=
  if buf.length < messageMin then .needMore
  else if needSync then skip buf
  else
    let msglen := (buf.getD 0 0).toNat
    if msglen < messageMin ∨ messageMax < msglen then skip buf
    else if buf.getD 1 0 &&& ~~~messageSeqMask ≠ messageDest then skip buf
    else if buf.length < msglen then .needMore
    else if buf.getD (msglen - 1) 0 ≠ messageSync then skip buf
    else
      let msgcrc := ((buf.getD (msglen - 3) 0).toUInt16 <<< 8) ||| (buf.getD (msglen - 2) 0).toUInt16
      if crc16Ccitt (buf.take (msglen - messageTrailerSize)) ≠ msgcrc then skip buf
      else .valid msglen

/-- What the loop of `input_event` finds. -/
inductive Found where
  | message (msg : Bytes)
  | invalid (len : ℕ)
  deriving DecidableEq

/-- The loop of `input_event`, which takes a byte away at least: what is found, and what is left in
`need_sync` and in the buffer. -/
def scan : ℕ → Bool → Bytes → List Found × Bool × Bytes
  | 0, needSync, buf => ([], needSync, buf)
  | fuel + 1, needSync, buf =>
    match msgblockCheck needSync buf with
    | .needMore => ([], needSync, buf)
    | .valid len =>
      let r := scan fuel needSync (buf.drop len)
      (.message (buf.take len) :: r.1, r.2)
    | .bad len needSync =>
      let r := scan fuel needSync (buf.drop len)
      (.invalid len :: r.1, r.2)

/-- The whole loop. -/
def scanAll (needSync : Bool) (buf : Bytes) : List Found × Bool × Bytes := scan buf.length needSync buf

/-- `need_sync`, `input_buf` and `input_pos`. -/
structure Input where
  needSync : Bool
  buf : Bytes
  deriving DecidableEq

/-- `input_event`, once `chunk` has been read. -/
def Input.read (i : Input) (chunk : Bytes) : List Found × Input :=
  let r := scanAll i.needSync (i.buf ++ chunk)
  (r.1, ⟨r.2.1, r.2.2⟩)

/-- A session of `input_event`. -/
def Input.readAll (i : Input) : List Bytes → List Found
  | [] => []
  | chunk :: chunks => (i.read chunk).1 ++ (i.read chunk).2.readAll chunks

/-- The messages among what is found. -/
def messages (found : List Found) : List Bytes :=
  found.filterMap fun
    | .message msg => some msg
    | .invalid _ => none

/-- A message block: the end of `build_and_send_command`. -/
def msgblock (seq : ℕ) (payload : Bytes) : Bytes :=
  let buf := UInt8.ofNat (payload.length + messageMin) :: (messageDest ||| (UInt8.ofNat seq &&& messageSeqMask)) :: payload
  let crc := crc16Ccitt buf
  buf ++ [(crc >>> 8).toUInt8, (crc &&& 0xff).toUInt8, messageSync]

/-! ## `msgproto.py` -/

/-- A round of `crc16_ccitt`. -/
def pyCrcStep (crc : ℕ) (data : UInt8) : ℕ :=
  let data := data.toNat ^^^ (crc &&& 0xff)
  let data := data ^^^ ((data &&& 0x0f) <<< 4)
  ((data <<< 8) ||| (crc >>> 8)) ^^^ (data >>> 4) ^^^ (data <<< 3)

/-- `crc16_ccitt`. -/
def pyCrc16Ccitt (buf : Bytes) : ℕ × ℕ :=
  let crc := buf.foldl pyCrcStep 0xffff
  (crc >>> 8, crc &&& 0xff)

/-- `check_packet`. -/
def checkPacket (s : Bytes) : ℤ :=
  if s.length < messageMin then 0
  else
    let msglen := (s.getD 0 0).toNat
    if msglen < messageMin ∨ messageMax < msglen then -1
    else if s.getD 1 0 &&& ~~~messageSeqMask ≠ messageDest then -1
    else if s.length < msglen then 0
    else if s.getD (msglen - 1) 0 ≠ messageSync then -1
    else
      let msgcrc := ((s.getD (msglen - 3) 0).toNat, (s.getD (msglen - 2) 0).toNat)
      if pyCrc16Ccitt (s.take (msglen - messageTrailerSize)) ≠ msgcrc then -1
      else msglen

theorem toNat_crcStep (crc : UInt16) (data : UInt8) : (crcStep crc data).toNat = pyCrcStep crc.toNat data := by
  have hin : (data ^^^ (crc &&& 0xff).toUInt8).toNat = data.toNat ^^^ (crc.toNat &&& 0xff) := by
    have hlow : crc.toNat &&& 0xff < 2 ^ 8 := Nat.and_lt_two_pow _ (by decide)
    rw [UInt8.toNat_xor, UInt16.toNat_toUInt8, UInt16.toNat_and]
    exact congrArg _ (Nat.mod_eq_of_lt hlow)
  simp only [crcStep, pyCrcStep, ← hin]
  set d := data ^^^ (crc &&& 0xff).toUInt8
  have hd := d.toNat_lt
  have hout : (d ^^^ d <<< 4).toNat = d.toNat ^^^ (d.toNat &&& 0x0f) <<< 4 := by
    have hmask : d.toNat &&& 0x0f = d.toNat % 2 ^ 4 := Nat.and_two_pow_sub_one_eq_mod d.toNat 4
    have h4 : UInt8.toNat 4 % 8 = 4 := rfl
    rw [UInt8.toNat_xor, UInt8.toNat_shiftLeft, h4, hmask, Nat.shiftLeft_eq, Nat.shiftLeft_eq]
    congr 1
    omega
  rw [← hout]
  set e := d ^^^ d <<< 4
  have he := e.toNat_lt
  have h8 : UInt16.toNat 8 % 16 = 8 := rfl
  have h3 : UInt16.toNat 3 % 16 = 3 := rfl
  have h4 : UInt8.toNat 4 % 8 = 4 := rfl
  rw [UInt16.toNat_xor, UInt16.toNat_xor, UInt16.toNat_or, UInt16.toNat_shiftLeft, UInt16.toNat_shiftLeft,
    UInt16.toNat_shiftRight, UInt8.toNat_toUInt16, UInt8.toNat_toUInt16, UInt8.toNat_shiftRight, h8, h3, h4,
    Nat.mod_eq_of_lt (by rw [Nat.shiftLeft_eq]; omega), Nat.mod_eq_of_lt (by rw [Nat.shiftLeft_eq]; omega)]

theorem pyCrc16Ccitt_eq (buf : Bytes) :
    pyCrc16Ccitt buf = ((crc16Ccitt buf).toNat / 2 ^ 8, (crc16Ccitt buf).toNat % 2 ^ 8) := by
  have hfold : ∀ crc : UInt16, (buf.foldl crcStep crc).toNat = buf.foldl pyCrcStep crc.toNat := by
    induction buf with
    | nil => exact fun _ => rfl
    | cons b buf ih =>
      intro crc
      rw [List.foldl_cons, List.foldl_cons, ih, toNat_crcStep]
  have h := hfold 0xffff
  unfold pyCrc16Ccitt crc16Ccitt
  simp only [show (0xffff : ℕ) = (0xffff : UInt16).toNat from rfl, ← h]
  rw [Nat.shiftRight_eq_div_pow, show (0xff : ℕ) = 2 ^ 8 - 1 from rfl, Nat.and_two_pow_sub_one_eq_mod]

/-- The two bytes of the checksum. -/
theorem crc_word (crc : UInt16) (h l : UInt8) :
    crc = (h.toUInt16 <<< 8) ||| l.toUInt16 ↔ (crc.toNat / 2 ^ 8, crc.toNat % 2 ^ 8) = (h.toNat, l.toNat) := by
  have hh := h.toNat_lt
  have hl := l.toNat_lt
  have h8 : UInt16.toNat 8 % 16 = 8 := rfl
  have hhigh : (h.toUInt16 <<< 8).toNat = 2 ^ 8 * h.toNat := by
    rw [UInt16.toNat_shiftLeft, UInt8.toNat_toUInt16, h8, Nat.shiftLeft_eq]
    omega
  rw [← UInt16.toNat_inj, UInt16.toNat_or, hhigh, UInt8.toNat_toUInt16, ← Nat.two_pow_add_eq_or_of_lt hl, Prod.mk.injEq]
  omega

/-- The two checks agree. -/
theorem checkPacket_eq (s : Bytes) : checkPacket s =
    match msgblockCheck false s with
    | .needMore => 0
    | .valid len => len
    | .bad _ _ => -1 := by
  have hskip : ∀ b, ∃ len sync, skip b = .bad len sync := by
    intro b
    unfold skip
    cases b.findIdx? (· == messageSync) with
    | none => exact ⟨_, _, rfl⟩
    | some i => exact ⟨_, _, rfl⟩
  obtain ⟨len, sync, hbad⟩ := hskip s
  have hcrc : ∀ n h l, (pyCrc16Ccitt (s.take n) ≠ (UInt8.toNat h, UInt8.toNat l)) =
      (crc16Ccitt (s.take n) ≠ (h.toUInt16 <<< 8) ||| l.toUInt16) := by
    intro n h l
    rw [pyCrc16Ccitt_eq, Ne, ← crc_word]
  unfold checkPacket msgblockCheck
  simp only [hcrc, Bool.false_eq_true, if_false, hbad]
  split_ifs <;> rfl

/-! ## More of the stream -/

theorem skip_eq (buf : Bytes) : skip buf = .bad buf.length true ∧ messageSync ∉ buf ∨
    ∃ front rest, buf = front ++ messageSync :: rest ∧ messageSync ∉ front ∧ skip buf = .bad (front.length + 1) false := by
  unfold skip
  cases hfind : buf.findIdx? (· == messageSync) with
  | none =>
    refine .inl ⟨rfl, fun hmem => ?_⟩
    have h := List.findIdx?_eq_none_iff.1 hfind messageSync hmem
    simp at h
  | some i =>
    obtain ⟨hi, hsync, hfront⟩ := List.findIdx?_eq_some_iff_getElem.1 hfind
    refine .inr ⟨buf.take i, buf.drop (i + 1), ?_, ?_, ?_⟩
    · have hat : buf[i] = messageSync := by simpa using hsync
      rw [← hat, List.getElem_cons_drop, List.take_append_drop]
    · intro hmem
      obtain ⟨j, hj, hat⟩ := List.mem_take_iff_getElem.1 hmem
      have h := hfront j (by omega)
      rw [hat] at h
      simp at h
    · rw [List.length_take, Nat.min_eq_left hi.le]

theorem skip_front {front : Bytes} (hfront : messageSync ∉ front) (rest : Bytes) :
    skip (front ++ messageSync :: rest) = .bad (front.length + 1) false := by
  have hfind : (front ++ messageSync :: rest).findIdx? (· == messageSync) = some front.length := by
    induction front with
    | nil => simp [List.findIdx?_cons]
    | cons b front ih =>
      have hb : (b == messageSync) = false := beq_eq_false_iff_ne.2 fun h => hfront (h ▸ List.mem_cons_self)
      rw [List.cons_append, List.findIdx?_cons, hb, ih fun h => hfront (List.mem_cons_of_mem b h)]
      rfl
  rw [skip, hfind]

/-- Once there is enough of the stream, more of it changes nothing but where the next sync
character is. -/
theorem check_append {needSync : Bool} {buf : Bytes} (h : msgblockCheck needSync buf ≠ .needMore) (more : Bytes) :
    messageMin ≤ buf.length ∧
    ((∃ len, msgblockCheck needSync buf = .valid len ∧ msgblockCheck needSync (buf ++ more) = .valid len ∧
        needSync = false ∧ messageMin ≤ len ∧ len ≤ buf.length) ∨
      (msgblockCheck needSync buf = skip buf ∧ msgblockCheck needSync (buf ++ more) = skip (buf ++ more))) := by
  have hat : ∀ i < buf.length, (buf ++ more).getD i 0 = buf.getD i 0 := fun i hi => List.getD_append _ _ _ _ hi
  have hmin : ¬ buf.length < messageMin := by
    intro hlt
    exact h (if_pos hlt)
  have hmin' : ¬ (buf ++ more).length < messageMin := by
    rw [List.length_append]
    omega
  have hfive : 5 ≤ buf.length := not_lt.1 hmin
  refine ⟨hfive, ?_⟩
  unfold msgblockCheck at h ⊢
  rw [if_neg hmin] at h
  rw [if_neg hmin, if_neg hmin']
  cases needSync with
  | true => exact .inr ⟨rfl, rfl⟩
  | false =>
    simp only [Bool.false_eq_true, if_false] at h ⊢
    rw [hat 0 (by omega), hat 1 (by omega)]
    set msglen := (buf.getD 0 0).toNat
    by_cases hlen : msglen < messageMin ∨ messageMax < msglen
    · exact .inr ⟨if_pos hlen, if_pos hlen⟩
    rw [if_neg hlen] at h
    rw [if_neg hlen, if_neg hlen]
    by_cases hdest : buf.getD 1 0 &&& ~~~messageSeqMask ≠ messageDest
    · exact .inr ⟨if_pos hdest, if_pos hdest⟩
    rw [if_neg hdest] at h
    rw [if_neg hdest, if_neg hdest]
    by_cases hshort : buf.length < msglen
    · exact absurd (if_pos hshort) h
    have hshort' : ¬ (buf ++ more).length < msglen := by
      rw [List.length_append]
      omega
    have hlong : messageMin ≤ msglen := not_lt.1 fun hlt => hlen (.inl hlt)
    have htrailer : messageTrailerSize = 3 := rfl
    have hfive' : messageMin = 5 := rfl
    rw [if_neg hshort] at h
    rw [if_neg hshort, if_neg hshort', hat (msglen - 1) (by omega), hat (msglen - 3) (by omega),
      hat (msglen - 2) (by omega), List.take_append_of_le_length (by omega)]
    by_cases hsync : buf.getD (msglen - 1) 0 ≠ messageSync
    · exact .inr ⟨if_pos hsync, if_pos hsync⟩
    rw [if_neg hsync, if_neg hsync]
    by_cases hcrc : crc16Ccitt (buf.take (msglen - messageTrailerSize))
        ≠ ((buf.getD (msglen - 3) 0).toUInt16 <<< 8) ||| (buf.getD (msglen - 2) 0).toUInt16
    · exact .inr ⟨if_pos hcrc, if_pos hcrc⟩
    · exact .inl ⟨msglen, if_neg hcrc, if_neg hcrc, trivial, hlong, not_lt.1 hshort⟩

/-- What there is to a step of the loop. -/
theorem check_cases (needSync : Bool) (buf : Bytes) : msgblockCheck needSync buf = .needMore ∨
    (∃ len, msgblockCheck needSync buf = .valid len ∧ needSync = false ∧ messageMin ≤ len ∧ len ≤ buf.length) ∨
    messageMin ≤ buf.length ∧ msgblockCheck needSync buf = skip buf := by
  by_cases h : msgblockCheck needSync buf = .needMore
  · exact .inl h
  · obtain ⟨hmin, ⟨len, hvalid, -, hsync, hlen⟩ | ⟨hbad, -⟩⟩ := check_append h []
    · exact .inr (.inl ⟨len, hvalid, hsync, hlen⟩)
    · exact .inr (.inr ⟨hmin, hbad⟩)

theorem check_short (needSync : Bool) {buf : Bytes} (h : buf.length < messageMin) :
    msgblockCheck needSync buf = .needMore := if_pos h

/-- More fuel than bytes changes nothing. -/
theorem scan_fuel (needSync : Bool) (buf : Bytes) (n m : ℕ) (hn : buf.length ≤ n) (hm : buf.length ≤ m) :
    scan n needSync buf = scan m needSync buf := by
  induction n generalizing m needSync buf with
  | zero =>
    obtain rfl : buf = [] := List.eq_nil_of_length_eq_zero (Nat.le_zero.1 hn)
    cases m with
    | zero => rfl
    | succ m => rw [scan, scan, check_short needSync (by decide)]
  | succ n ih =>
    cases m with
    | zero =>
      obtain rfl : buf = [] := List.eq_nil_of_length_eq_zero (Nat.le_zero.1 hm)
      rw [scan, scan, check_short needSync (by decide)]
    | succ m =>
      have hfive : messageMin = 5 := rfl
      rcases check_cases needSync buf with hmore | ⟨len, hvalid, -, hmin, hlen⟩ | ⟨hmin, hbad⟩
      · rw [scan, scan, hmore]
      · rw [scan, scan, hvalid]
        simp only
        rw [ih needSync (buf.drop len) m (by rw [List.length_drop]; omega) (by rw [List.length_drop]; omega)]
      · rw [scan, scan, hbad]
        rcases skip_eq buf with ⟨hskip, -⟩ | ⟨front, rest, rfl, -, hskip⟩
        · rw [hskip]
          simp only
          rw [ih true _ m (by rw [List.length_drop]; omega) (by rw [List.length_drop]; omega)]
        · rw [hskip]
          simp only
          rw [ih false _ m (by rw [List.length_drop]; omega) (by rw [List.length_drop]; omega)]

theorem scanAll_more {needSync : Bool} {buf : Bytes} (h : msgblockCheck needSync buf = .needMore) :
    scanAll needSync buf = ([], needSync, buf) := by
  rw [scanAll, scan_fuel needSync buf _ (buf.length + 1) le_rfl (Nat.le_succ _), scan, h]

theorem scanAll_valid {needSync : Bool} {buf : Bytes} {len : ℕ} (h : msgblockCheck needSync buf = .valid len) :
    scanAll needSync buf = (.message (buf.take len) :: (scanAll needSync (buf.drop len)).1,
      (scanAll needSync (buf.drop len)).2) := by
  rw [scanAll, scan_fuel needSync buf _ (buf.length + 1) le_rfl (Nat.le_succ _), scan, h]
  simp only
  rw [scan_fuel needSync (buf.drop len) buf.length (buf.drop len).length (by rw [List.length_drop]; omega) le_rfl]
  rfl

theorem scanAll_bad {needSync sync : Bool} {buf : Bytes} {len : ℕ} (h : msgblockCheck needSync buf = .bad len sync) :
    scanAll needSync buf = (.invalid len :: (scanAll sync (buf.drop len)).1,
      (scanAll sync (buf.drop len)).2) := by
  rw [scanAll, scan_fuel needSync buf _ (buf.length + 1) le_rfl (Nat.le_succ _), scan, h]
  simp only
  rw [scan_fuel sync (buf.drop len) buf.length (buf.drop len).length (by rw [List.length_drop]; omega) le_rfl]
  rfl

theorem messages_valid (msg : Bytes) (found : List Found) : messages (.message msg :: found) = msg :: messages found :=
  rfl

theorem messages_invalid (len : ℕ) (found : List Found) : messages (.invalid len :: found) = messages found := rfl

theorem messages_append (a b : List Found) : messages (a ++ b) = messages a ++ messages b := List.filterMap_append

theorem messages_short {needSync : Bool} {buf : Bytes} (h : buf.length < messageMin) :
    messages (scanAll needSync buf).1 = [] := by
  rw [scanAll_more (check_short needSync h)]
  rfl

theorem check_waiting {buf : Bytes} (h : ¬ buf.length < messageMin) : msgblockCheck true buf = skip buf := by
  rw [msgblockCheck, if_neg h]
  rfl

theorem drop_front (front : Bytes) (b : UInt8) (rest : Bytes) : (front ++ b :: rest).drop (front.length + 1) = rest := by
  rw [List.drop_append, List.drop_eq_nil_of_le (Nat.le_succ _)]
  simp

/-- What is found behind the next sync character. -/
theorem messages_waiting {front : Bytes} (hfront : messageSync ∉ front) (rest : Bytes) :
    messages (scanAll true (front ++ messageSync :: rest)).1 = messages (scanAll false rest).1 := by
  by_cases hshort : (front ++ messageSync :: rest).length < messageMin
  · have hrest : rest.length < messageMin := by
      rw [List.length_append, List.length_cons] at hshort
      omega
    rw [messages_short hshort, messages_short hrest]
  · rw [scanAll_bad ((check_waiting hshort).trans (skip_front hfront rest)), messages_invalid, drop_front]

theorem messages_waiting_none {buf : Bytes} (h : messageSync ∉ buf) : messages (scanAll true buf).1 = [] := by
  by_cases hshort : buf.length < messageMin
  · exact messages_short hshort
  · rcases skip_eq buf with ⟨hskip, -⟩ | ⟨front, rest, rfl, -, -⟩
    · rw [scanAll_bad ((check_waiting hshort).trans hskip), messages_invalid, List.drop_length]
      exact messages_short (by decide)
    · exact absurd (List.mem_append_right front List.mem_cons_self) h

/-- While a sync character is looked for, it does not matter what was in front. -/
theorem messages_lost {needSync : Bool} {buf more : Bytes} (hbuf : messageSync ∉ buf)
    (hcheck : msgblockCheck needSync (buf ++ more) = skip (buf ++ more)) :
    messages (scanAll needSync (buf ++ more)).1 = messages (scanAll true more).1 := by
  by_cases hmore : messageSync ∈ more
  · obtain ⟨front, rest, rfl, hfront⟩ := List.eq_append_cons_of_mem hmore
    have hnone : messageSync ∉ buf ++ front := fun h => (List.mem_append.1 h).elim hbuf hfront
    rw [← List.append_assoc] at hcheck ⊢
    rw [scanAll_bad (hcheck.trans (skip_front hnone rest)), messages_invalid, drop_front, messages_waiting hfront]
  · have hnone : messageSync ∉ buf ++ more := fun h => (List.mem_append.1 h).elim hbuf hmore
    rcases skip_eq (buf ++ more) with ⟨hskip, -⟩ | ⟨front, rest, heq, -, -⟩
    · rw [scanAll_bad (hcheck.trans hskip), messages_invalid, List.drop_length, messages_short (by decide),
        messages_waiting_none hmore]
    · exact absurd (heq ▸ List.mem_append_right front List.mem_cons_self) hnone

/-- **One cut.**  What is found in a stream is what is found in its first part and then in what
that leaves, with the second part. -/
theorem messages_scanAll_append (needSync : Bool) (buf more : Bytes) :
    messages (scanAll needSync (buf ++ more)).1 = messages (scanAll needSync buf).1 ++
      messages (scanAll (scanAll needSync buf).2.1 ((scanAll needSync buf).2.2 ++ more)).1 := by
  induction hn : buf.length using Nat.strong_induction_on generalizing needSync buf with
  | _ n ih =>
    by_cases hmore : msgblockCheck needSync buf = .needMore
    · rw [scanAll_more hmore]
      rfl
    · have hfive : messageMin = 5 := rfl
      obtain ⟨hmin, ⟨len, hvalid, hvalid', -, hlen, hle⟩ | ⟨hbad, hbad'⟩⟩ := check_append hmore more
      · -- the block is complete already
        have hrest := ih (buf.drop len).length (by rw [List.length_drop]; omega) needSync (buf.drop len) rfl
        rw [scanAll_valid hvalid', scanAll_valid hvalid, List.take_append_of_le_length hle,
          List.drop_append_of_le_length hle]
        simp only [messages_valid, List.cons_append]
        rw [hrest]
      · rcases skip_eq buf with ⟨hskip, hnone⟩ | ⟨front, rest, rfl, hfront, hskip⟩
        · -- no sync character yet
          have hempty : scanAll true [] = ([], true, []) := scanAll_more (check_short true (by decide))
          rw [messages_lost hnone hbad', scanAll_bad (hbad.trans hskip), List.drop_length, hempty]
          rfl
        · have hrest := ih rest.length (by simp at hn; omega) false rest rfl
          have hbad'' : msgblockCheck needSync (front ++ messageSync :: (rest ++ more))
              = .bad (front.length + 1) false := by
            rw [List.append_assoc, List.cons_append] at hbad'
            rw [hbad', skip_front hfront]
          rw [scanAll_bad (hbad.trans hskip), List.append_assoc, List.cons_append, scanAll_bad hbad'', drop_front,
            drop_front]
          simp only [messages_invalid]
          exact hrest

/-- What is left is the beginning of a block at most. -/
theorem check_left (needSync : Bool) (buf : Bytes) :
    msgblockCheck (scanAll needSync buf).2.1 (scanAll needSync buf).2.2 = .needMore := by
  induction hn : buf.length using Nat.strong_induction_on generalizing needSync buf with
  | _ n ih =>
    have hfive : messageMin = 5 := rfl
    rcases check_cases needSync buf with hmore | ⟨len, hvalid, -, hmin, hlen⟩ | ⟨hmin, hbad⟩
    · rw [scanAll_more hmore]
      exact hmore
    · rw [scanAll_valid hvalid]
      exact ih _ (by rw [List.length_drop]; omega) needSync (buf.drop len) rfl
    · rcases skip_eq buf with ⟨hskip, -⟩ | ⟨front, rest, -, -, hskip⟩
      · rw [scanAll_bad (hbad.trans hskip)]
        exact ih _ (by rw [List.length_drop]; omega) true (buf.drop buf.length) rfl
      · rw [scanAll_bad (hbad.trans hskip)]
        exact ih _ (by rw [List.length_drop]; omega) false (buf.drop (front.length + 1)) rfl

theorem needMore_lt {needSync : Bool} {buf : Bytes} (h : msgblockCheck needSync buf = .needMore) :
    buf.length < messageMax := by
  have hskip : ∀ b, skip b ≠ .needMore := by
    intro b
    rcases skip_eq b with ⟨hb, -⟩ | ⟨front, rest, -, -, hb⟩ <;> simp [hb]
  simp only [msgblockCheck] at h
  split_ifs at h with hmin hsync hlen hdest hshort
  all_goals first | exact absurd h (hskip _) | skip
  · exact hmin.trans (by decide)
  · exact hshort.trans_le (not_lt.1 fun hlt => hlen (.inr hlt))

/-- The input buffer is never full when more is read. -/
theorem left_lt (needSync : Bool) (buf : Bytes) : (scanAll needSync buf).2.2.length < messageMax :=
  needMore_lt (check_left needSync buf)

/-- A session, in one read. -/
theorem messages_readAll (i : Input) (hidle : msgblockCheck i.needSync i.buf = .needMore) (chunks : List Bytes) :
    messages (i.readAll chunks) = messages (scanAll i.needSync (i.buf ++ chunks.flatten)).1 := by
  induction chunks generalizing i with
  | nil =>
    rw [List.flatten_nil, List.append_nil, scanAll_more hidle]
    rfl
  | cons chunk chunks ih =>
    rw [Input.readAll, messages_append, ih (i.read chunk).2 (check_left _ _), List.flatten_cons, ← List.append_assoc,
      messages_scanAll_append i.needSync (i.buf ++ chunk)]
    rfl

/-- **Cuts.**  The messages that are found do not depend on how the stream was cut. -/
theorem readAll_cuts (i : Input) (hidle : msgblockCheck i.needSync i.buf = .needMore) {chunks chunks' : List Bytes}
    (hchunks : chunks.flatten = chunks'.flatten) : messages (i.readAll chunks) = messages (i.readAll chunks') := by
  rw [messages_readAll i hidle, messages_readAll i hidle, hchunks]

/-- There is noise in front of a block. -/
theorem readAll_cuts_noise :
    messages ((⟨false, [5]⟩ : Input).readAll [[0x11, 7], 0x7e :: (msgblock 1 [5]).take 2, [], (msgblock 1 [5]).drop 2])
        = [msgblock 1 [5]] ∧
      messages ((⟨false, [5]⟩ : Input).readAll [[0x11], [7, 0x7e], msgblock 1 [5]])
        = messages ((⟨false, [5]⟩ : Input).readAll
            [[0x11, 7], 0x7e :: (msgblock 1 [5]).take 2, [], (msgblock 1 [5]).drop 2]) :=
  ⟨by decide +kernel, readAll_cuts ⟨false, [5]⟩ (check_short false (by decide)) (by simp)⟩

/-! ## Blocks -/

theorem crc_bytes (crc : UInt16) :
    ((crc >>> 8).toUInt8.toUInt16 <<< 8) ||| (crc &&& 0xff).toUInt8.toUInt16 = crc := by
  have hlt := crc.toNat_lt
  have h8 : UInt16.toNat 8 % 16 = 8 := rfl
  have hmask : UInt16.toNat 0xff = 2 ^ 8 - 1 := rfl
  refine ((crc_word crc _ _).2 ?_).symm
  rw [UInt16.toNat_toUInt8, UInt16.toNat_toUInt8, UInt16.toNat_shiftRight, UInt16.toNat_and, h8, hmask,
    Nat.shiftRight_eq_div_pow, Nat.and_two_pow_sub_one_eq_mod, Prod.mk.injEq]
  omega

theorem dest_byte (b : UInt8) : (messageDest ||| (b &&& messageSeqMask)) &&& ~~~messageSeqMask = messageDest := by
  have hbyte : ∀ n < 256, (messageDest ||| (UInt8.ofNat n &&& messageSeqMask)) &&& ~~~messageSeqMask = messageDest := by
    decide +kernel
  simpa using hbyte b.toNat b.toNat_lt

theorem length_msgblock (seq : ℕ) (payload : Bytes) : (msgblock seq payload).length = payload.length + messageMin := by
  simp [msgblock, messageMin]

theorem check_msgblock (seq : ℕ) {payload : Bytes} (hlength : payload.length ≤ messagePayloadMax) (rest : Bytes) :
    msgblockCheck false (msgblock seq payload ++ rest) = .valid (payload.length + messageMin) := by
  have hmax : payload.length ≤ 59 := hlength
  set head := UInt8.ofNat (payload.length + messageMin) :: (messageDest ||| (UInt8.ofNat seq &&& messageSeqMask)) :: payload
    with hhead
  have hlen : head.length = payload.length + 2 := by simp [hhead]
  have hblock : msgblock seq payload ++ rest
      = head ++ ((crc16Ccitt head >>> 8).toUInt8 :: (crc16Ccitt head &&& 0xff).toUInt8 :: messageSync :: rest) := by
    simp [msgblock, hhead]
  have h0 : ((msgblock seq payload ++ rest).getD 0 0).toNat = payload.length + messageMin := by
    show (UInt8.ofNat (payload.length + messageMin)).toNat = _
    rw [UInt8.toNat_ofNat', Nat.mod_eq_of_lt]
    show payload.length + 5 < _
    omega
  have h1 : (msgblock seq payload ++ rest).getD 1 0 &&& ~~~messageSeqMask = messageDest := dest_byte (UInt8.ofNat seq)
  have hfive : messageMin = 5 := rfl
  have hthree : messageTrailerSize = 3 := rfl
  have hat : ∀ i b, ((crc16Ccitt head >>> 8).toUInt8 :: (crc16Ccitt head &&& 0xff).toUInt8 :: messageSync :: rest)[i]?
      = some b → (msgblock seq payload ++ rest).getD (payload.length + 2 + i) 0 = b := by
    intro i b hb
    rw [hblock, List.getD_eq_getElem?_getD, List.getElem?_append_right (by omega), hlen, Nat.add_sub_cancel_left, hb]
    rfl
  have hlong : payload.length + messageMin ≤ (msgblock seq payload ++ rest).length := by
    rw [List.length_append, length_msgblock]
    omega
  have htake : (msgblock seq payload ++ rest).take (payload.length + messageMin - messageTrailerSize) = head := by
    rw [hblock, List.take_append_of_le_length (by omega), List.take_of_length_le (by omega)]
  unfold msgblockCheck
  rw [if_neg (by omega)]
  simp only [Bool.false_eq_true, if_false, h0, h1, ne_eq, not_true_eq_false, htake]
  rw [if_neg (by unfold messageMax; omega), if_neg (not_lt.2 hlong),
    show payload.length + messageMin - 1 = payload.length + 2 + 2 by omega,
    show payload.length + messageMin - 3 = payload.length + 2 + 0 by omega,
    show payload.length + messageMin - 2 = payload.length + 2 + 1 by omega, hat 2 _ rfl, hat 0 _ rfl, hat 1 _ rfl,
    if_neg (not_not.2 rfl), if_neg (not_not.2 (crc_bytes _).symm)]

/-- A block, or a block that is led by a sync character. -/
structure Sent where
  led : Bool
  seq : ℕ
  payload : Bytes

namespace Sent

def block (b : Sent) : Bytes := msgblock b.seq b.payload

def bytes (b : Sent) : Bytes := if b.led then messageSync :: b.block else b.block

/-- What the blocks of a list are on the wire. -/
def stream (bs : List Sent) : Bytes := (bs.map bytes).flatten

end Sent

/-- A sync character in front is passed over. -/
theorem messages_sync (rest : Bytes) :
    messages (scanAll false (messageSync :: rest)).1 = messages (scanAll false rest).1 := by
  by_cases hshort : (messageSync :: rest).length < messageMin
  · have hrest : rest.length < messageMin := (Nat.lt_succ_self _).trans hshort
    rw [messages_short hshort, messages_short hrest]
  · have hlen : ((messageSync :: rest).getD 0 0).toNat < messageMin ∨
        messageMax < ((messageSync :: rest).getD 0 0).toNat :=
      .inr (show messageMax < messageSync.toNat by decide)
    have hcheck : msgblockCheck false (messageSync :: rest) = .bad 1 false := by
      unfold msgblockCheck
      rw [if_neg hshort, if_neg (by decide)]
      simp only
      rw [if_pos hlen]
      exact skip_front List.not_mem_nil rest
    rw [scanAll_bad hcheck]
    rfl

theorem scanAll_block (seq : ℕ) {payload : Bytes} (hlength : payload.length ≤ messagePayloadMax) (rest : Bytes) :
    messages (scanAll false (msgblock seq payload ++ rest)).1
      = msgblock seq payload :: messages (scanAll false rest).1 := by
  rw [scanAll_valid (check_msgblock seq hlength rest), messages_valid, ← length_msgblock seq, List.take_left,
    List.drop_left]

theorem messages_stream {bs : List Sent} (hlength : ∀ b ∈ bs, b.payload.length ≤ messagePayloadMax) (rest : Bytes) :
    messages (scanAll false (Sent.stream bs ++ rest)).1 = bs.map Sent.block ++ messages (scanAll false rest).1 := by
  induction bs with
  | nil => rfl
  | cons b bs ih =>
    have hb := hlength b List.mem_cons_self
    have hbs := ih fun b hb => hlength b (List.mem_cons_of_mem _ hb)
    have hstream : Sent.stream (b :: bs) ++ rest = b.bytes ++ (Sent.stream bs ++ rest) := by
      rw [Sent.stream, List.map_cons, List.flatten_cons, List.append_assoc]
      rfl
    rw [hstream, List.map_cons, List.cons_append, ← hbs, Sent.block, ← scanAll_block b.seq hb, Sent.bytes]
    split_ifs with hled
    · rw [List.cons_append, messages_sync, Sent.block]
    · rfl

/-- An input that is at the beginning of a block, or waits for the sync character that leads it. -/
def Input.Expects (i : Input) (bs : List Sent) : Prop :=
  i = ⟨false, []⟩ ∨ i.needSync = true ∧ i.buf.length < messageMin ∧ messageSync ∉ i.buf ∧
    ∃ b, bs.head? = some b ∧ b.led = true

/-- **Blocks.**  However a stream of blocks is cut, the blocks are found, all of them and in
order. -/
theorem readAll_stream {i : Input} {bs : List Sent} (hi : i.Expects bs)
    (hlength : ∀ b ∈ bs, b.payload.length ≤ messagePayloadMax) {chunks : List Bytes}
    (hchunks : chunks.flatten = Sent.stream bs) : messages (i.readAll chunks) = bs.map Sent.block := by
  have hplain : messages (scanAll false (Sent.stream bs)).1 = bs.map Sent.block := by
    have hnil : messages (scanAll false []).1 = [] := messages_short (by decide)
    have h := messages_stream hlength []
    rwa [List.append_nil, hnil, List.append_nil] at h
  obtain ⟨needSync, buf⟩ := i
  rcases hi with hi | ⟨hsync, hshort, hbuf, b, hb, hled⟩
  · obtain ⟨rfl, rfl⟩ := Input.mk.inj hi
    rw [messages_readAll _ (check_short false (by decide)), hchunks]
    exact hplain
  · obtain rfl := hsync
    obtain ⟨bs, rfl⟩ := List.head?_eq_some_iff.1 hb
    have hstream : Sent.stream (b :: bs) = messageSync :: (b.block ++ Sent.stream bs) := by
      rw [Sent.stream, List.map_cons, List.flatten_cons, Sent.bytes, if_pos hled]
      rfl
    have hled' : messages (scanAll false (Sent.stream (b :: bs))).1 = messages (scanAll false (b.block ++ Sent.stream bs)).1 := by
      rw [hstream, messages_sync]
    rw [messages_readAll _ (check_short true hshort), hchunks, ← hplain, hled', hstream, messages_waiting hbuf]

theorem readAll_stream_cut : messages ((⟨true, [1]⟩ : Input).readAll
    [(Sent.stream [⟨true, 1, [5, 3]⟩, ⟨false, 2, []⟩]).take 4, (Sent.stream [⟨true, 1, [5, 3]⟩, ⟨false, 2, []⟩]).drop 4])
      = [msgblock 1 [5, 3], msgblock 2 []] := by
  have hexpects : (⟨true, [1]⟩ : Input).Expects [⟨true, 1, [5, 3]⟩, ⟨false, 2, []⟩] :=
    .inr ⟨rfl, by decide, by decide, _, rfl, rfl⟩
  exact readAll_stream hexpects (by decide) (by simp)

end Link

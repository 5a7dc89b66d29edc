import Mathlib.Data.List.Forall2
import Ff5m.Link.Vlq

/-!
# Messages

What stands between the header and the trailer of a message block: the commands and
responses of `msgproto.py`, and the words of `msgblock.c`.

* `MessageParser.dump_encode`: the messages of a block are read back, all of them and in
  order;
* `decode_encodeWords`: the words of a step command are read back, by C and by Python.
-/

namespace Link

def messageHeaderSize : ℕ := 2
def messageTrailerSize : ℕ := 3
def messageMin : ℕ := 5
def messageMax : ℕ := 64
def messagePayloadMax : ℕ := messageMax - messageMin

/-! ## `msgproto.py` -/

/-- The value of a parameter. -/
inductive Value where
  | int (v : ℤ)
  | bytes (v : Bytes)
  | name (v : String)
  deriving DecidableEq

/-- `MessageTypes`: `PT_uint32` and its kin, `PT_string` and its kin, and `Enumeration`. -/
inductive ParamType where
  | int (isSigned : Bool)
  | string
  | enumeration (isSigned : Bool) (enums : List (String × ℤ))

/-- `PT_uint32.parse`, with the sign taken away. -/
def parseSigned (isSigned : Bool) (s : Bytes) (pos : ℕ) : Option (ℤ × ℕ) :=
  (parse s pos).map fun (v, pos) => (if isSigned then v else v % 2 ^ 32, pos)

namespace ParamType

/-- `encode`: no value that cannot be sent. -/
def encode : ParamType → Value → Option Bytes
  | .int _, .int v => some (Link.encode v)
  | .string, .bytes v => if v.length < 256 then some (UInt8.ofNat v.length :: v) else none
  | .enumeration _ enums, .name k => (enums.lookup k).map Link.encode
  | _, _ => none

/-- `parse`. -/
def parse : ParamType → Bytes → ℕ → Option (Value × ℕ)
  | .int isSigned, s, pos => (parseSigned isSigned s pos).map fun (v, pos) => (.int v, pos)
  | .string, s, pos => s[pos]?.map fun l => (.bytes ((s.drop (pos + 1)).take l.toNat), pos + l.toNat + 1)
  | .enumeration isSigned enums, s, pos => (parseSigned isSigned s pos).map fun (v, pos) =>
      -- a value that two names have goes to the later one
      match enums.reverse.find? fun e => e.2 = v with
      | some e => (.name e.1, pos)
      | none => (.name ("?" ++ toString v), pos)

end ParamType

/-- `MessageFormat`. -/
structure MessageFormat where
  msgid : ℤ
  name : String
  params : List (String × ParamType)

namespace MessageFormat

/-- The loop of `encode`. -/
def encodeParams : List (String × ParamType) → List Value → Option Bytes
  | [], _ => some []
  | _ :: _, [] => none
  | (_, t) :: ts, v :: vs => do
    let out ← t.encode v
    let rest ← encodeParams ts vs
    return out ++ rest

/-- `encode`. -/
def encode (mf : MessageFormat) (params : List Value) : Option Bytes :=
  (encodeParams mf.params params).map (Link.encode mf.msgid ++ ·)

/-- The loop of `parse`. -/
def parseParams : List (String × ParamType) → Bytes → ℕ → Option (List (String × Value) × ℕ)
  | [], _, pos => some ([], pos)
  | (name, t) :: ts, s, pos => do
    let (v, pos) ← t.parse s pos
    let (out, pos) ← parseParams ts s pos
    return ((name, v) :: out, pos)

/-- `parse`. -/
def parse (mf : MessageFormat) (s : Bytes) (pos : ℕ) : Option (List (String × Value) × ℕ) :=
  parseParams mf.params s (pos + (Link.encode mf.msgid).length)

end MessageFormat

/-- `DefaultMessages`: these are known before the micro-controller has told the others. -/
def identifyResponse : MessageFormat := ⟨0, "identify_response", [("offset", .int false), ("data", .string)]⟩

def identify : MessageFormat := ⟨1, "identify", [("offset", .int false), ("count", .int false)]⟩

/-- What has been read. -/
inductive Message where
  | known (name : String) (params : List (String × Value))
  | unknown (msgid : ℤ) (msg : Bytes)
  deriving DecidableEq

/-- `MessageParser`. -/
structure MessageParser where
  messagesById : List (ℤ × MessageFormat)

namespace MessageParser

/-- `messages_by_id.get(msgid, self.unknown)` and its `parse`. -/
def parseAt (p : MessageParser) (s : Bytes) (pos : ℕ) : Option (Message × ℕ) := do
  let (msgid, _) ← Link.parse s pos
  match p.messagesById.lookup msgid with
  | some mf => (mf.parse s pos).map fun (params, pos) => (.known mf.name params, pos)
  | none => return (.unknown msgid s, s.length - messageTrailerSize)

/-- `parse`. -/
def parse (p : MessageParser) (s : Bytes) : Option Message := do
  let (m, pos) ← p.parseAt s messageHeaderSize
  if pos ≠ s.length - messageTrailerSize then none else return m

/-- The loop of `dump`: a message takes a byte at least. -/
def dumpFrom (p : MessageParser) (s : Bytes) : ℕ → ℕ → Option (List Message)
  | 0, _ => none
  | fuel + 1, pos => do
    let (m, pos) ← p.parseAt s pos
    if pos ≥ s.length - messageTrailerSize then return [m]
    else
      let rest ← p.dumpFrom s fuel pos
      return m :: rest

/-- `dump`. -/
def dump (p : MessageParser) (s : Bytes) : Option (List Message) := p.dumpFrom s s.length messageHeaderSize

end MessageParser

/-- `_init_messages(DefaultMessages)`. -/
def MessageParser.default : MessageParser := ⟨[(0, identifyResponse), (1, identify)]⟩

/-! ## `msgblock.c` -/

/-- The loop of `message_alloc_and_encode`. -/
def encodeWords : List UInt32 → Bytes → Option Bytes
  | [], out => some out
  | v :: data, out =>
    let out := out ++ encodeInt v
    if messagePayloadMax < out.length then none else encodeWords data out

/-- The loop of `msgblock_decode`; `rest` goes from the pointer to the end of the message. -/
def decodeWords : ℕ → Bytes → Option (List UInt32)
  | 0, rest => if rest.length ≠ messageTrailerSize then none else some []
  | n + 1, rest =>
    if rest.length ≤ messageTrailerSize then none
    else do
      let (v, rest) ← parseInt rest
      let data ← decodeWords n rest
      return v :: data

/-- `msgblock_decode`. -/
def msgblockDecode (n : ℕ) (msg : Bytes) : Option (List UInt32) := decodeWords n (msg.drop messageHeaderSize)

/-! ## Reading back -/

/-- The integers of a type. -/
def InRange (isSigned : Bool) (v : ℤ) : Prop := (if isSigned then -2 ^ 31 else 0) ≤ v ∧ v < 2 ^ 32

theorem parseSigned_encode {isSigned : Bool} {v : ℤ} (h : InRange isSigned v) (front rest : Bytes) :
    parseSigned isSigned (front ++ (encode v ++ rest)) front.length
      = some (v, front.length + (encode v).length) := by
  obtain ⟨hlow, hhigh⟩ := h
  have hlow' : -2 ^ 31 ≤ v := by
    split_ifs at hlow <;> omega
  rw [parseSigned, parse_encode hlow' hhigh, Option.map_some]
  cases isSigned with
  | true => rfl
  | false => 
    have hmod : v % 2 ^ 32 = v := Int.emod_eq_of_lt hlow hhigh
    simp only [Bool.false_eq_true, if_false, hmod]

namespace ParamType

/-- The values that are told apart on the wire. -/
def Fits : ParamType → Value → Prop
  | .int isSigned, .int v => InRange isSigned v
  | .enumeration isSigned enums, .name k =>
    ∀ v, enums.lookup k = some v → InRange isSigned v ∧ ∀ e ∈ enums, e.2 = v → e.1 = k
  | _, _ => True

theorem parse_encode {t : ParamType} {v : Value} {out : Bytes} (hfits : t.Fits v) (hout : t.encode v = some out)
    (front rest : Bytes) : t.parse (front ++ (out ++ rest)) front.length = some (v, front.length + out.length) := by
  cases t with
  | int isSigned =>
    cases v with
    | int v =>
      obtain rfl := Option.some.inj hout
      rw [parse, parseSigned_encode hfits, Option.map_some]
    | bytes v => cases hout
    | name k => cases hout
  | string =>
    cases v with
    | bytes v =>
      rw [encode] at hout
      split_ifs at hout with hlength
      obtain rfl := Option.some.inj hout
      have hbyte : (UInt8.ofNat v.length).toNat = v.length := by
        rw [UInt8.toNat_ofNat', Nat.mod_eq_of_lt hlength]
      have hhead : (front ++ (UInt8.ofNat v.length :: v ++ rest))[front.length]? = some (UInt8.ofNat v.length) := by
        simp
      have htail : (front ++ (UInt8.ofNat v.length :: v ++ rest)).drop (front.length + 1) = v ++ rest := by
        simp [List.drop_append]
      rw [parse, hhead, Option.map_some, hbyte, htail, List.take_left, List.length_cons, Nat.add_assoc]
    | int v => cases hout
    | name k => cases hout
  | enumeration isSigned enums =>
    cases v with
    | name k =>
      rw [encode] at hout
      obtain ⟨v, hv, rfl⟩ := Option.map_eq_some_iff.1 hout
      obtain ⟨hrange, hown⟩ := hfits v hv
      obtain ⟨l₁, l₂, henums, -⟩ := List.lookup_eq_some_iff.1 hv
      have hmem : (k, v) ∈ enums.reverse := by
        rw [henums]
        simp
      obtain ⟨e, hfind⟩ : ∃ e, enums.reverse.find? (fun e => e.2 = v) = some e :=
        Option.isSome_iff_exists.1 (List.find?_isSome.2 ⟨(k, v), hmem, by simp⟩)
      have hval : e.2 = v := by simpa using List.find?_some hfind
      have hname := hown e (List.mem_reverse.1 (List.mem_of_find?_eq_some hfind)) hval
      rw [parse, parseSigned_encode hrange, Option.map_some]
      simp only [hfind, hname]
    | int v => cases hout
    | bytes v => cases hout

end ParamType

namespace MessageFormat

/-- The values fit the parameters. -/
def Fits (mf : MessageFormat) (vs : List Value) : Prop :=
  InRange true mf.msgid ∧ List.Forall₂ (fun (p : String × ParamType) v => p.2.Fits v) mf.params vs

/-- The parameters of a message by name. -/
def named (mf : MessageFormat) (vs : List Value) : List (String × Value) := (mf.params.map Prod.fst).zip vs

theorem parseParams_encode {ts : List (String × ParamType)} {vs : List Value} {out : Bytes}
    (hfits : List.Forall₂ (fun (p : String × ParamType) v => p.2.Fits v) ts vs)
    (hout : encodeParams ts vs = some out) (front rest : Bytes) :
    parseParams ts (front ++ (out ++ rest)) front.length
      = some ((ts.map Prod.fst).zip vs, front.length + out.length) := by
  induction hfits generalizing front out with
  | nil =>
    obtain rfl := Option.some.inj hout
    rfl
  | @cons t v ts vs hv hvs ih =>
    obtain ⟨name, t⟩ := t
    rw [encodeParams] at hout
    obtain ⟨first, hfirst, hout⟩ := Option.bind_eq_some_iff.1 hout
    obtain ⟨more, hmore, hout⟩ := Option.bind_eq_some_iff.1 hout
    obtain rfl := Option.some.inj hout
    have hparse := ih hmore (front ++ first)
    rw [List.append_assoc, List.length_append] at hparse
    rw [parseParams, List.append_assoc, ParamType.parse_encode hv hfirst, Option.bind_eq_bind, Option.bind_some]
    simp only [hparse, List.length_append, Nat.add_assoc]
    rfl

/-- A message is read back. -/
theorem parse_encode {mf : MessageFormat} {vs : List Value} {out : Bytes} (hfits : mf.Fits vs)
    (hout : mf.encode vs = some out) (front rest : Bytes) :
    mf.parse (front ++ (out ++ rest)) front.length = some (mf.named vs, front.length + out.length) := by
  obtain ⟨params, hparams, rfl⟩ := Option.map_eq_some_iff.1 hout
  have hparse := parseParams_encode hfits.2 hparams (front ++ Link.encode mf.msgid) rest
  rw [List.append_assoc, List.length_append] at hparse
  rw [parse, List.append_assoc, hparse, named, List.length_append, Nat.add_assoc]

theorem encode_length_pos {mf : MessageFormat} {vs : List Value} {out : Bytes} (hout : mf.encode vs = some out) :
    0 < out.length := by
  obtain ⟨params, -, rfl⟩ := Option.map_eq_some_iff.1 hout
  simp [Link.encode]

end MessageFormat

namespace MessageParser

/-- The parser knows the format. -/
def Knows (p : MessageParser) (mf : MessageFormat) : Prop := p.messagesById.lookup mf.msgid = some mf

/-- A message that is known is told by its number. -/
theorem parseAt_encode {p : MessageParser} {mf : MessageFormat} (hknown : p.Knows mf) {vs : List Value}
    {out : Bytes} (hfits : mf.Fits vs) (hout : mf.encode vs = some out) (front rest : Bytes) :
    p.parseAt (front ++ (out ++ rest)) front.length
      = some (.known mf.name (mf.named vs), front.length + out.length) := by
  have hparse := MessageFormat.parse_encode hfits hout front rest
  obtain ⟨params, hparams, hsplit⟩ := Option.map_eq_some_iff.1 hout
  have hmsgid : Link.parse (front ++ (out ++ rest)) front.length
      = some (mf.msgid, front.length + (Link.encode mf.msgid).length) := by
    rw [← hsplit, List.append_assoc]
    exact Link.parse_encode hfits.1.1 hfits.1.2 front (params ++ rest)
  rw [parseAt, hmsgid, Option.bind_eq_bind, Option.bind_some]
  simp only [show p.messagesById.lookup mf.msgid = some mf from hknown, hparse, Option.map_some]

/-- The loop of `dump` stands in front of the messages that are left. -/
theorem dumpFrom_encode {p : MessageParser} {said : List (MessageFormat × List Value)} {outs : List Bytes}
    (hknown : ∀ m ∈ said, p.Knows m.1 ∧ m.1.Fits m.2)
    (houts : List.Forall₂ (fun (m : MessageFormat × List Value) out => m.1.encode m.2 = some out) said outs)
    (hsome : said ≠ []) {trailer : Bytes} (htrailer : trailer.length = messageTrailerSize) (fuel : ℕ)
    (hfuel : said.length ≤ fuel) (front : Bytes) :
    p.dumpFrom (front ++ (outs.flatten ++ trailer)) fuel front.length
      = some (said.map fun m => .known m.1.name (m.1.named m.2)) := by
  induction houts generalizing fuel front with
  | nil => exact absurd rfl hsome
  | @cons m out said outs hout houts ih =>
    obtain ⟨hm, hfits⟩ := hknown m List.mem_cons_self
    obtain ⟨fuel, rfl⟩ : ∃ n, fuel = n + 1 := ⟨fuel - 1, by simp at hfuel; omega⟩
    have hparse := parseAt_encode hm hfits hout front (outs.flatten ++ trailer)
    rw [List.flatten_cons, List.append_assoc, dumpFrom, hparse, Option.bind_eq_bind, Option.bind_some]
    cases houts with
    | nil =>
      have hend : front.length + out.length ≥ (front ++ (out ++ ([].flatten ++ trailer))).length - messageTrailerSize := by
        simp only [List.length_append, List.flatten_nil, List.length_nil, htrailer]
        omega
      dsimp only
      rw [if_pos hend]
      rfl
    | @cons m' out' said outs hout' houts =>
      have hpos := MessageFormat.encode_length_pos hout'
      have hrest := ih (fun m hm => hknown m (List.mem_cons_of_mem _ hm)) (by simp) fuel
        (by simpa using hfuel) (front ++ out)
      have hmore : ¬ front.length + out.length ≥
          (front ++ (out ++ ((out' :: outs).flatten ++ trailer))).length - messageTrailerSize := by
        simp only [List.length_append, List.flatten_cons, htrailer]
        omega
      rw [List.append_assoc, List.length_append] at hrest
      dsimp only
      rw [if_neg hmore, hrest]
      rfl

/-- **The messages of a block.**  `dump` reads them all back, in order, and `parse` reads each
of them where it is alone in a block. -/
theorem dump_encode {p : MessageParser} {said : List (MessageFormat × List Value)} {outs : List Bytes}
    (hknown : ∀ m ∈ said, p.Knows m.1 ∧ m.1.Fits m.2)
    (houts : List.Forall₂ (fun (m : MessageFormat × List Value) out => m.1.encode m.2 = some out) said outs)
    {header trailer : Bytes} (hheader : header.length = messageHeaderSize)
    (htrailer : trailer.length = messageTrailerSize) :
    (said ≠ [] → p.dump (header ++ (outs.flatten ++ trailer))
      = some (said.map fun m => .known m.1.name (m.1.named m.2))) ∧
    ∀ x ∈ said.zip outs, p.parse (header ++ (x.2 ++ trailer))
      = some (.known x.1.1.name (x.1.1.named x.1.2)) := by
  constructor
  · intro hsome
    have hcount : said.length ≤ outs.flatten.length := by
      clear hknown hsome
      induction houts with
      | nil => rfl
      | cons hout _ ih =>
        have hpos := MessageFormat.encode_length_pos hout
        simp only [List.length_cons, List.flatten_cons, List.length_append]
        omega
    rw [dump, ← hheader]
    refine dumpFrom_encode hknown houts hsome htrailer _ ?_ header
    simp only [List.length_append]
    omega
  · rintro ⟨m, out⟩ hx
    have hout : m.1.encode m.2 = some out := (List.forall₂_iff_zip.1 houts).2 hx
    obtain ⟨hm, hfits⟩ := hknown m (List.of_mem_zip hx).1
    rw [parse, ← hheader, parseAt_encode hm hfits hout header trailer, Option.bind_eq_bind, Option.bind_some]
    have hend : ¬ header.length + out.length ≠ (header ++ (out ++ trailer)).length - messageTrailerSize := by
      simp only [List.length_append, htrailer]
      omega
    dsimp only
    rw [if_neg hend]
    rfl

theorem dump_encode_identify : default.dump ([15, 0x11] ++ ([[1, 40, 40], [0, 128, 100, 2, 7, 8]].flatten ++ [0, 0, 0x7e]))
    = some [.known "identify" [("offset", .int 40), ("count", .int 40)],
      .known "identify_response" [("offset", .int 100), ("data", .bytes [7, 8])]] := by
  have hknown : ∀ m ∈ [(identify, [Value.int 40, .int 40]), (identifyResponse, [.int 100, .bytes [7, 8]])],
      default.Knows m.1 ∧ m.1.Fits m.2 := by
    simp [Knows, default, MessageFormat.Fits, identify, identifyResponse, InRange, ParamType.Fits]
    rfl
  have houts : List.Forall₂ (fun (m : MessageFormat × List Value) out => m.1.encode m.2 = some out)
      [(identify, [Value.int 40, .int 40]), (identifyResponse, [.int 100, .bytes [7, 8]])]
      [[1, 40, 40], [0, 128, 100, 2, 7, 8]] := .cons (by decide) (.cons (by decide) .nil)
  exact (dump_encode hknown houts rfl rfl).1 (by simp)

end MessageParser

/-! ## Words -/

theorem encodeWords_eq {data : List UInt32} {out res : Bytes} (h : encodeWords data out = some res) :
    res = out ++ (data.map encodeInt).flatten := by
  induction data generalizing out with
  | nil => simpa using (Option.some.inj h).symm
  | cons v data ih =>
    rw [encodeWords] at h
    split_ifs at h
    rw [ih h, List.map_cons, List.flatten_cons, List.append_assoc]

theorem encodeInt_length_pos (v : UInt32) : 0 < (encodeInt v).length := by
  obtain ⟨w, n, -, hspell, -⟩ := encodeInt_eq_spell v
  rw [hspell, length_spell]
  exact Nat.succ_pos n

theorem decodeWords_encode (data : List UInt32) {trailer : Bytes} (htrailer : trailer.length = messageTrailerSize) :
    decodeWords data.length ((data.map encodeInt).flatten ++ trailer) = some data := by
  induction data with
  | nil => simp [decodeWords, htrailer]
  | cons v data ih =>
    have hpos := encodeInt_length_pos v
    have hmore : ¬ (((v :: data).map encodeInt).flatten ++ trailer).length ≤ messageTrailerSize := by
      simp only [List.map_cons, List.flatten_cons, List.length_append, htrailer]
      omega
    rw [List.length_cons, decodeWords, if_neg hmore, List.map_cons, List.flatten_cons, List.append_assoc,
      parseInt_encodeInt]
    simp only [Option.bind_eq_bind, Option.bind_some, ih]
    rfl

/-- Python takes the words for unsigned integers. -/
theorem parseParams_words {ts : List (String × ParamType)} {data : List UInt32}
    (hts : List.Forall₂ (fun (p : String × ParamType) (_ : UInt32) => p.2 = .int false) ts data)
    (front rest : Bytes) :
    MessageFormat.parseParams ts (front ++ ((data.map encodeInt).flatten ++ rest)) front.length
      = some ((ts.map Prod.fst).zip (data.map fun v => .int v.toNat),
        front.length + (data.map encodeInt).flatten.length) := by
  induction hts generalizing front with
  | nil => rfl
  | @cons t v ts data ht _ ih =>
    obtain ⟨name, t⟩ := t
    obtain rfl := ht
    obtain ⟨w, hw, hparse⟩ := parse_encodeInt v front ((data.map encodeInt).flatten ++ rest)
    have hword : w % 2 ^ 32 = v.toNat := by
      rw [← hw, UInt32.ofInt, UInt32.toNat_ofNat']
      omega
    have hrest := ih (front ++ encodeInt v)
    rw [List.append_assoc, List.length_append] at hrest
    rw [MessageFormat.parseParams, List.map_cons, List.flatten_cons, List.append_assoc, ParamType.parse, parseSigned,
      hparse]
    simp only [Option.map_some, Bool.false_eq_true, if_false, hword, Option.bind_eq_bind, Option.bind_some, hrest,
      List.length_append, Nat.add_assoc]
    rfl

/-- **The words of a command.**  What `message_alloc_and_encode` writes is read back by
`msgblock_decode`, and by `msgproto.py` as well: by the loop of `parse`, and by `parse` itself, which
passes over the number of the message. -/
theorem decode_encodeWords {data : List UInt32} {out : Bytes} (hout : encodeWords data [] = some out)
    {header trailer : Bytes} (hheader : header.length = messageHeaderSize)
    (htrailer : trailer.length = messageTrailerSize) :
    msgblockDecode data.length (header ++ (out ++ trailer)) = some data ∧
      (∀ ts, List.Forall₂ (fun (p : String × ParamType) (_ : UInt32) => p.2 = .int false) ts data →
        MessageFormat.parseParams ts (header ++ (out ++ trailer)) header.length
          = some ((ts.map Prod.fst).zip (data.map fun v => .int v.toNat), header.length + out.length)) ∧
      ∀ (mf : MessageFormat) (msgid : UInt32) (params : List UInt32), data = msgid :: params →
        encode mf.msgid = encodeInt msgid →
        List.Forall₂ (fun (p : String × ParamType) (_ : UInt32) => p.2 = .int false) mf.params params →
        mf.parse (header ++ (out ++ trailer)) header.length
          = some (mf.named (params.map fun v => .int v.toNat), header.length + out.length) := by
  obtain rfl : out = (data.map encodeInt).flatten := by simpa using encodeWords_eq hout
  refine ⟨?_, fun ts hts => parseParams_words hts header trailer, ?_⟩
  · rw [msgblockDecode, ← hheader, List.drop_left]
    exact decodeWords_encode data htrailer
  · rintro mf msgid params rfl hmsgid hparams
    have hparse := parseParams_words hparams (header ++ encodeInt msgid) trailer
    rw [List.append_assoc, List.length_append] at hparse
    rw [MessageFormat.parse, hmsgid, List.map_cons, List.flatten_cons, List.append_assoc, hparse, List.length_append,
      Nat.add_assoc]
    rfl

theorem decode_encodeWords_identify :
    msgblockDecode 3 ([8, 0x10] ++ ([1, 40, 0x7f] ++ [0, 0, 0x7e])) = some [1, 40, 0xffffffff] ∧
      identify.parse ([8, 0x10] ++ ([1, 40, 0x7f] ++ [0, 0, 0x7e])) 2
        = some ([("offset", .int 40), ("count", .int 0xffffffff)], 5) := by
  have hout : encodeWords [1, 40, 0xffffffff] [] = some [1, 40, 0x7f] := by decide
  obtain ⟨hdecode, -, hparse⟩ := @decode_encodeWords _ _ hout [8, 0x10] [0, 0, 0x7e] rfl rfl
  exact ⟨hdecode, hparse identify 1 [40, 0xffffffff] rfl (by decide) (.cons rfl (.cons rfl .nil))⟩

end Link

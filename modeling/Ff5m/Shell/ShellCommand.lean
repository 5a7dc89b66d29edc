import Ff5m.Text.Utf8

/-!
# The output of a shell command

`RUN_SHELL_COMMAND` starts a child process and prints what it writes.  The reactor calls
`_process_output` whenever the pipe can be read, and every 50 ms the command looks whether
the process has ended; what is in the pipe at that moment is never read, and each chunk
is decoded on its own.

* `processOutput_spec`: what one callback prints and keeps;
* `run_inv`: what has been read, printed and kept in every state of a run;
* `printed_iff`: the stream is printed as a whole exactly when every chunk ends between two
  characters and the pipe is empty at the last look.
-/

namespace ShellCommand

open TextTools (Text str)
open Utf8

/-! ## One callback -/

/-- What follows the last newline of a text. -/
def afterLast (t : Text) : Text := (t.reverse.takeWhile (· ≠ '\n')).reverse

/-- `data.rfind('\n') + 1`. -/
def splitPoint (t : Text) : ℕ := t.length - (afterLast t).length

/-- `_process_output` after the bytes are read: the new `partial_output` and the texts for
`respond_info`, or no result when the bytes cannot be decoded. -/
def processOutput (partialOutput : Text) (bytes : List UInt8) : Option (Text × List Text) :=
  match decode bytes with
  | none => none
  | some text =>
    let data := partialOutput ++ text
    if '\n' ∉ data then some (data, [])
    else if data.getLast? ≠ some '\n' then
      some (data.drop (splitPoint data), [data.take (splitPoint data)])
    else some ([], [data])

/-! ## The system -/

/-- How far the command is. -/
inductive Status where
  | running
  | complete
  | raised
  deriving DecidableEq

/-- The child process, the pipe and the command.  `chunks` records what each `os.read`
returned. -/
structure Sys where
  toWrite : List UInt8
  pipe : List UInt8
  exited : Bool
  partialOutput : Text
  responses : List Text
  chunks : List (List UInt8)
  status : Status
  deriving DecidableEq

/-- What can happen: the child writes some bytes or ends, the reactor calls
`_process_output` and `os.read` returns some bytes, the command looks for the end of the
child. -/
inductive Event where
  | write (n : ℕ)
  | exit
  | readable (n : ℕ)
  | poll
  deriving DecidableEq

/-- The command after `respond_info` of its name, with the child about to write. -/
def start (name : Text) (stream : List UInt8) : Sys where
  toWrite := stream
  pipe := []
  exited := false
  partialOutput := []
  responses := [name ++ [':']]
  chunks := []
  status := .running

/-- `_process_output`, with the bytes that `os.read` returns. -/
def readChunk (n : ℕ) (s : Sys) : Sys :=
  let s' := { s with pipe := s.pipe.drop n, chunks := s.chunks ++ [s.pipe.take n] }
  match processOutput s.partialOutput (s.pipe.take n) with
  | none => { s' with status := .raised }
  | some (rest, texts) => { s' with partialOutput := rest, responses := s.responses ++ texts }

/-- The command when it sees the end of the child. -/
def finish (s : Sys) : Sys :=
  if s.partialOutput ≠ [] then
    { s with responses := s.responses ++ [s.partialOutput], partialOutput := [], status := .complete }
  else { s with status := .complete }

/-- One event, if it can happen.  At the end of the output `os.read` returns no bytes. -/
def step (s : Sys) : Event → Option Sys
  | .write n =>
    if s.exited = false ∧ n ≤ s.toWrite.length then
      some { s with toWrite := s.toWrite.drop n, pipe := s.pipe ++ s.toWrite.take n }
    else none
  | .exit => if s.exited = false ∧ s.toWrite = [] then some { s with exited := true } else none
  | .readable n =>
    if s.status = .running ∧ n ≤ 4096 ∧ n ≤ s.pipe.length ∧ (0 < n ∨ s.pipe = [] ∧ s.toWrite = []) then
      some (readChunk n s)
    else none
  | .poll =>
    if s.status = .running then if s.exited then some (finish s) else some s
    else none

/-- The state after a list of events. -/
def run (s : Sys) : List Event → Option Sys
  | [] => some s
  | e :: es => (step s e).bind fun s' => run s' es

/-! ## What a callback prints -/

theorem splitPoint_append (t : Text) : t.take (splitPoint t) ++ t.drop (splitPoint t) = t :=
  List.take_append_drop _ _

/-- A callback prints and keeps what it kept before and the text it reads. -/
theorem processOutput_spec {p p' : Text} {b : List UInt8} {texts : List Text}
    (h : processOutput p b = some (p', texts)) :
    ∃ u, decode b = some u ∧ texts.flatten ++ p' = p ++ u := by
  rw [processOutput] at h
  split at h
  · cases h
  next u hu =>
    refine ⟨u, hu, ?_⟩
    simp only at h
    split_ifs at h with hnewline hlast
    · cases h
      rw [List.flatten_singleton, splitPoint_append]
    · cases h
      simp
    · cases h
      rfl

/-- It fails when the bytes cannot be decoded. -/
theorem processOutput_eq_none_iff {p : Text} {b : List UInt8} :
    processOutput p b = none ↔ decode b = none := by
  rw [processOutput]
  split
  next h => simp [h]
  next u h =>
    simp only [h]
    split_ifs <;> simp

/-! ## Runs -/

/-- The chunk ends between two characters, as it begins. -/
def Whole (chunk : List UInt8) : Prop := ∃ u, chunk = encode u

theorem whole_iff_decode {b : List UInt8} : Whole b ↔ decode b ≠ none := by
  rw [Option.ne_none_iff_exists']
  constructor
  · rintro ⟨u, rfl⟩
    exact ⟨u, decode_encode u⟩
  · rintro ⟨u, hu⟩
    exact ⟨u, (encode_of_decode hu).symm⟩

/-- What holds in every state of a run: the bytes of the stream are read, in the pipe or to
be written; what was read is printed or kept, unless a chunk could not be decoded. -/
structure Inv (name : Text) (stream : List UInt8) (s : Sys) : Prop where
  bytes : s.chunks.flatten ++ s.pipe ++ s.toWrite = stream
  printed : s.status ≠ .raised → (∀ c ∈ s.chunks, Whole c) ∧
    ∃ texts, s.responses = (name ++ [':']) :: texts ∧
      encode (texts.flatten ++ s.partialOutput) = s.chunks.flatten
  kept : s.status = .complete → s.partialOutput = []
  failed : s.status = .raised → ∃ c ∈ s.chunks, ¬ Whole c

section Runs

variable {name : Text} {stream : List UInt8} {s s' : Sys}

theorem start_inv : Inv name stream (start name stream) where
  bytes := by simp [start]
  printed := by
    intro _
    exact ⟨by simp [start], [], rfl, rfl⟩
  kept := by simp [start]
  failed := by simp [start]

theorem readChunk_inv (n : ℕ) (hrun : s.status = .running) (h : Inv name stream s) :
    Inv name stream (readChunk n s) := by
  obtain ⟨hwhole, texts, htexts, henc⟩ := h.printed (by rw [hrun]; decide)
  have hbytes : (s.chunks ++ [s.pipe.take n]).flatten ++ s.pipe.drop n ++ s.toWrite = stream := by
    rw [List.flatten_append, List.flatten_singleton, List.append_assoc s.chunks.flatten,
      List.take_append_drop, h.bytes]
  rw [readChunk]
  cases hout : processOutput s.partialOutput (s.pipe.take n) with
  | none =>
    refine ⟨hbytes, by simp, by simp, fun _ => ⟨s.pipe.take n, by simp, ?_⟩⟩
    rw [whole_iff_decode, not_not]
    exact processOutput_eq_none_iff.1 hout
  | some r =>
    obtain ⟨rest, new⟩ := r
    obtain ⟨u, hu, hflat⟩ := processOutput_spec hout
    refine ⟨hbytes, fun _ => ⟨?_, texts ++ new, ?_, ?_⟩, by simp [hrun], by simp [hrun]⟩
    · intro c hc
      rcases List.mem_append.1 hc with hc | hc
      · exact hwhole c hc
      · rw [List.mem_singleton.1 hc]
        exact ⟨u, (encode_of_decode hu).symm⟩
    · simp [htexts]
    · rw [List.flatten_append, List.append_assoc, hflat, ← List.append_assoc, encode_append, henc,
        encode_of_decode hu, List.flatten_append, List.flatten_singleton]

theorem finish_inv (hrun : s.status = .running) (h : Inv name stream s) :
    Inv name stream (finish s) := by
  obtain ⟨hwhole, texts, htexts, henc⟩ := h.printed (by rw [hrun]; decide)
  rw [finish]
  split_ifs with hp
  · refine ⟨h.bytes, fun _ => ⟨hwhole, texts ++ [s.partialOutput], ?_, ?_⟩, fun _ => rfl, by simp⟩
    · simp [htexts]
    · simpa using henc
  · refine ⟨h.bytes, fun _ => ⟨hwhole, texts, htexts, henc⟩, fun _ => ?_, by simp⟩
    exact not_not.1 hp

/-- One event keeps the invariant. -/
theorem step_inv {e : Event} (hstep : step s e = some s') (h : Inv name stream s) :
    Inv name stream s' := by
  cases e with
  | write n =>
    simp only [step] at hstep
    split_ifs at hstep
    obtain rfl := Option.some.inj hstep
    refine ⟨?_, h.printed, h.kept, h.failed⟩
    rw [← List.append_assoc s.chunks.flatten, List.append_assoc (_ ++ _), List.take_append_drop, h.bytes]
  | exit =>
    simp only [step] at hstep
    split_ifs at hstep
    obtain rfl := Option.some.inj hstep
    exact ⟨h.bytes, h.printed, h.kept, h.failed⟩
  | readable n =>
    simp only [step] at hstep
    split_ifs at hstep with hc
    obtain rfl := Option.some.inj hstep
    exact readChunk_inv n hc.1 h
  | poll =>
    simp only [step] at hstep
    split_ifs at hstep with hrun
    · obtain rfl := Option.some.inj hstep
      exact finish_inv hrun h
    · obtain rfl := Option.some.inj hstep
      exact h

/-- Every state of a run has it. -/
theorem run_inv {es : List Event} (hrun : run s es = some s') (h : Inv name stream s) :
    Inv name stream s' := by
  induction es generalizing s with
  | nil =>
    obtain rfl := Option.some.inj hrun
    exact h
  | cons e es ih =>
    obtain ⟨t, hstep, hrest⟩ := Option.bind_eq_some_iff.1 hrun
    exact ih hrest (step_inv hstep h)

end Runs

/-! ## The whole stream -/

/-- The command did not fail, and what it printed after its name is the text. -/
def Printed (name text : Text) (s : Sys) : Prop :=
  s.status = .complete ∧ ∃ texts, s.responses = (name ++ [':']) :: texts ∧ texts.flatten = text

/-- When the command is over, the text is printed as a whole exactly when every chunk ended
between two characters and the chunks are the whole stream. -/
theorem printed_iff (name text : Text) (es : List Event) (s : Sys)
    (hrun : run (start name (encode text)) es = some s) (hover : s.status ≠ .running) :
    Printed name text s ↔ (∀ c ∈ s.chunks, Whole c) ∧ s.chunks.flatten = encode text := by
  have hinv := run_inv hrun start_inv
  constructor
  · rintro ⟨hstatus, texts, htexts, rfl⟩
    obtain ⟨hwhole, texts', htexts', henc⟩ := hinv.printed (by rw [hstatus]; decide)
    rw [htexts, List.cons.injEq] at htexts'
    rw [← htexts'.2, hinv.kept hstatus, List.append_nil] at henc
    exact ⟨hwhole, henc.symm⟩
  · rintro ⟨hwhole, hall⟩
    have hraised : s.status ≠ .raised := by
      intro hr
      obtain ⟨c, hc, hno⟩ := hinv.failed hr
      exact hno (hwhole c hc)
    have hstatus : s.status = .complete := by
      cases hs : s.status with
      | running => exact absurd hs hover
      | complete => rfl
      | raised => exact absurd hs hraised
    obtain ⟨-, texts, htexts, henc⟩ := hinv.printed hraised
    rw [hinv.kept hstatus, List.append_nil, hall] at henc
    exact ⟨hstatus, texts, htexts, encode_injective henc⟩

/-! ## A line that is printed and one that is not -/

/-- A line of two characters that take two bytes each. -/
def russianLine : Text := str "Ок\n"

/-- The command after it printed the line. -/
def afterLine : Sys where
  toWrite := []
  pipe := []
  exited := true
  partialOutput := []
  responses := [str "zmod:", russianLine]
  chunks := [encode (str "О"), encode (str "к\n")]
  status := .complete

/-- Read in two pieces before the last look, the first of them a part of the line, the line is
printed. -/
theorem printed_russianLine : Printed (str "zmod") russianLine afterLine := by
  have hrun : run (start (str "zmod") (encode russianLine))
      [.write 2, .readable 2, .poll, .write 3, .readable 3, .exit, .poll] = some afterLine := by decide +kernel
  apply (printed_iff (str "zmod") russianLine _ afterLine hrun (by decide)).2
  refine ⟨?_, by decide +kernel⟩
  intro c hc
  rcases List.mem_cons.1 hc with rfl | hc
  · exact ⟨str "О", rfl⟩
  · exact ⟨str "к\n", List.mem_singleton.1 hc⟩

/-- The command after it failed in the middle of the first character. -/
def afterCut : Sys where
  toWrite := []
  pipe := (encode russianLine).drop 1
  exited := false
  partialOutput := []
  responses := [str "zmod:"]
  chunks := [(encode russianLine).take 1]
  status := .raised

/-- The command after it left the line in the pipe. -/
def afterExit : Sys where
  toWrite := []
  pipe := encode russianLine
  exited := true
  partialOutput := []
  responses := [str "zmod:"]
  chunks := []
  status := .complete

/-- Cut within a character the line raises an exception, and left in the pipe it is lost. -/
theorem russianLine_not_printed :
    (run (start (str "zmod") (encode russianLine)) [.write 5, .readable 1] = some afterCut ∧
        ¬ Printed (str "zmod") russianLine afterCut) ∧
      run (start (str "zmod") (encode russianLine)) [.write 5, .exit, .poll] = some afterExit ∧
        ¬ Printed (str "zmod") russianLine afterExit := by
  refine ⟨⟨by decide +kernel, ?_⟩, by decide +kernel, ?_⟩
  · rintro ⟨hstatus, -⟩
    exact absurd hstatus (by decide)
  · rintro ⟨-, texts, htexts, hflat⟩
    simp only [afterExit, List.cons.injEq] at htexts
    rw [← htexts.2] at hflat
    exact absurd hflat (by decide)

end ShellCommand

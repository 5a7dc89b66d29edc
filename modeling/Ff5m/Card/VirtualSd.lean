import Ff5m.Card.PrintStats
import Ff5m.GCode.Script
import Ff5m.Text.Lines

/-!
# Printing from a file

`virtual_sdcard.py` and `pause_resume.py`: a background timer reads the file in pieces
of 8192 characters, cuts them into lines and hands these to the G-code dispatcher one by
one, as long as nobody wants to pause.  After a pause it starts again at the position of
the first line that has not been completed.

What a line does is any script over the commands of the card; other commands say only
whether they fail.  Commands from outside wait for the G-code mutex, so they come between
two lines.

* `after_add`, `cutLines_spec`: reading on from a position, and cutting what was read
  into lines, lose nothing.
-/

namespace Card

open TextTools (Text Line unlines)
open GCode (Script Run Native Failure)

/-! ## Positions in a file -/

/-- The number of bytes of a text. -/
def size (t : Text) : ℕ := (t.map Char.utf8Size).sum

/-- What follows the first bytes of a text; nothing can be read from within a character. -/
def after : Text → ℕ → Option Text
  | t, 0 => some t
  | [], _ + 1 => some []
  | c :: cs, p + 1 => if c.utf8Size ≤ p + 1 then after cs (p + 1 - c.utf8Size) else none

/-- The lines of a piece of the file, the first of them with what was left of the piece
before in front, and what is left of this one. -/
def cutLines (partialInput : Line) (data : Text) : List Line × Line :=
  let lines := (data.splitOn '\n').modifyHead (partialInput ++ ·)
  (lines.dropLast, lines.getLastD [])

@[simp] theorem size_nil : size [] = 0 := rfl

@[simp] theorem size_append (t u : Text) : size (t ++ u) = size t + size u := by
  simp [size]

theorem size_cons (c : Char) (t : Text) : size (c :: t) = c.utf8Size + size t := by
  simp [size]

@[simp] theorem after_zero (t : Text) : after t 0 = some t := by
  cases t <;> rfl

theorem after_cons {c : Char} {cs : Text} {p : ℕ} (hp : c.utf8Size ≤ p) :
    after (c :: cs) p = after cs (p - c.utf8Size) := by
  cases p with
  | zero => exact absurd c.utf8Size_pos (by omega)
  | succ p => rw [after, if_pos hp]

theorem after_size (v u : Text) : after (v ++ u) (size v) = some u := by
  induction v with
  | nil => exact after_zero u
  | cons c cs ih =>
    rw [List.cons_append, size_cons, after_cons (by omega), Nat.add_sub_cancel_left]
    exact ih

/-- Reading on from a position. -/
theorem after_add {t v u : Text} {p : ℕ} (h : after t p = some (v ++ u)) :
    after t (p + size v) = some u := by
  induction t generalizing p with
  | nil =>
    have hnil : v ++ u = [] := by
      cases p <;> exact (Option.some.inj h).symm
    obtain ⟨rfl, rfl⟩ := List.append_eq_nil_iff.1 hnil
    simpa using h
  | cons c cs ih =>
    cases p with
    | zero =>
      rw [after_zero] at h
      rw [Option.some.inj h, Nat.zero_add]
      exact after_size v u
    | succ p =>
      rw [after] at h
      split_ifs at h with hc
      rw [after_cons (by omega), show p + 1 + size v - c.utf8Size = p + 1 - c.utf8Size + size v by omega]
      exact ih h

theorem no_newline_splitOn (t : Text) : ∀ l ∈ t.splitOn '\n', '\n' ∉ l := by
  induction t with
  | nil => simp [List.splitOn_nil]
  | cons c cs ih =>
    rw [List.splitOn_cons_eq_if_modifyHead]
    by_cases hc : c = '\n'
    · simpa [hc] using ih
    · obtain ⟨x, xs, hx⟩ := List.exists_cons_of_ne_nil (List.splitOn_ne_nil '\n' cs)
      rw [hx] at ih ⊢
      rw [if_neg (by simpa using hc), List.modifyHead_cons]
      intro l hl
      rcases List.mem_cons.1 hl with rfl | hl
      · rw [List.mem_cons]
        exact not_or.2 ⟨Ne.symm hc, ih x (by simp)⟩
      · exact ih l (by simp [hl])

theorem unlines_dropLast {ls : List Line} (h : ls ≠ []) :
    unlines ls.dropLast ++ ls.getLastD [] = ['\n'].intercalate ls := by
  induction ls with
  | nil => exact absurd rfl h
  | cons l ls ih =>
    cases ls with
    | nil => simp
    | cons m ms =>
      rw [List.intercalate_cons_cons, ← ih (by simp)]
      simp

/-- Cutting into lines loses nothing. -/
theorem cutLines_spec {q : Line} (hq : '\n' ∉ q) (data : Text) :
    unlines (cutLines q data).1 ++ (cutLines q data).2 = q ++ data ∧
      (∀ l ∈ (cutLines q data).1, '\n' ∉ l) ∧ '\n' ∉ (cutLines q data).2 := by
  obtain ⟨x, xs, hx⟩ := List.exists_cons_of_ne_nil (List.splitOn_ne_nil '\n' data)
  have hlines : (data.splitOn '\n').modifyHead (q ++ ·) = (q ++ x) :: xs := by
    rw [hx]
    rfl
  have hmem : ∀ l ∈ (q ++ x) :: xs, '\n' ∉ l := by
    have hno := no_newline_splitOn data
    rw [hx] at hno
    intro l hl
    rcases List.mem_cons.1 hl with rfl | hl
    · simpa using ⟨hq, hno x (by simp)⟩
    · exact hno l (by simp [hl])
  have hdata : ['\n'].intercalate (x :: xs) = data := by
    rw [← hx]
    exact List.intercalate_splitOn '\n'
  unfold cutLines
  rw [hlines]
  refine ⟨?_, fun l hl => hmem l (List.mem_of_mem_dropLast hl), ?_⟩
  · rw [unlines_dropLast (by simp), ← hdata]
    cases xs <;> simp [List.intercalate_cons_cons]
  · have hlast := List.getLast_mem (List.cons_ne_nil (q ++ x) xs)
    simpa [List.getLastD_eq_getLast?, List.getLast?_eq_some_getLast] using hmem _ hlast

/-! ## The state -/

/-- The file that is open. -/
structure File where
  name : String
  text : Text
  deriving DecidableEq

/-- The work timer: registered, or in the loop of `work_handler`.  There `rest` is what
the file reads next; `none` cannot be decoded. -/
inductive Work where
  | off
  | registered
  | looping (rest : Option Text) (partialInput : Line) (lines : List Line)
  deriving DecidableEq

def Work.IsOff : Work → Prop
  | .off => True
  | _ => False

instance (w : Work) : Decidable w.IsOff := by
  cases w <;> unfold Work.IsOff <;> infer_instance

structure VirtualSD where
  currentFile : Option File
  filePosition : ℕ
  fileSize : ℕ
  nextFilePosition : ℕ
  mustPauseWork : Bool
  cmdFromSd : Bool
  work : Work

structure PauseResume where
  isPaused : Bool
  sdPaused : Bool
  pauseCommandSent : Bool

structure Printer where
  sd : VirtualSD
  stats : PrintStats
  pauseResume : PauseResume

/-- The files of the card, with and without subdirectories, and `str.lower`. -/
structure Env where
  fileList : Bool → List File
  lower : String → String

/-- A printer that has just started. -/
def booted : Printer where
  sd := ⟨none, 0, 0, 0, false, false, .off⟩
  stats := .reset
  pauseResume := ⟨false, false, false⟩

/-! ## The commands -/

inductive Cmd where
  | sdcardResetFile
  | sdcardPrintFile (filename : String)
  | m23 (filename : String)
  | m24
  | m25
  | m26 (pos : ℕ)
  /-- `set_file_position`, as the loops of `sdcard_loop.py` use it -/
  | setFilePosition (pos : ℕ)
  /-- `send_pause_command`, as the filament sensors use it -/
  | sendPauseCommand
  | pause
  /-- `restores`: the toolhead takes the move of `RESTORE_GCODE_STATE` -/
  | resume (restores : Bool)
  | clearPause
  | cancelPrint
  /-- a query of the figures -/
  | status
  /-- any other command, and how it fails -/
  | other (failure : Option Failure)

/-- The start of `work_handler`: the file is positioned, or the timer ends at once. -/
def startWork (m : Moment) (s : Printer) : Printer :=
  match s.sd.currentFile with
  | none => { s with sd := { s.sd with work := .off } }
  | some f =>
    { s with
      sd := { s.sd with work := .looping (after f.text s.sd.filePosition) [] [] }
      stats := s.stats.noteStart m }

/-- The end of `work_handler`. -/
def exitWork (m : Moment) (errorMessage : Option String) (s : Printer) : Printer :=
  { s with
    sd := { s.sd with work := .off, cmdFromSd := false }
    stats :=
      match errorMessage with
      | some message => s.stats.noteError m message
      | none => if s.sd.currentFile.isSome then s.stats.notePause m else s.stats.noteComplete m }

/-- `do_pause` waits for the end of `work_handler`. -/
def waitWork (m : Moment) (s : Printer) : Printer :=
  match s.sd.work with
  | .off => s
  | .registered => if s.sd.currentFile.isSome then exitWork m none (startWork m s) else startWork m s
  | .looping _ _ _ => exitWork m none s

/-- `do_pause`; a line does not wait for the timer that hands it out. -/
def doPause (m : Moment) (s : Printer) : Printer :=
  if s.sd.work.IsOff then s
  else
    let s := { s with sd := { s.sd with mustPauseWork := true } }
    if s.sd.cmdFromSd then s else waitWork m s

/-- `do_resume`. -/
def doResume (s : Printer) : Printer × Option Failure :=
  if s.sd.work.IsOff then
    ({ s with sd := { s.sd with mustPauseWork := false, work := .registered } }, none)
  else (s, some .command)

/-- `do_cancel`. -/
def doCancel (m : Moment) (s : Printer) : Printer :=
  let s :=
    if s.sd.currentFile.isSome then
      let s := doPause m s
      { s with sd := { s.sd with currentFile := none }, stats := s.stats.noteCancel m }
    else s
  { s with sd := { s.sd with filePosition := 0, fileSize := 0 } }

/-- `_reset_file`. -/
def resetFile (m : Moment) (s : Printer) : Printer :=
  let s :=
    if s.sd.currentFile.isSome then
      let s := doPause m s
      { s with sd := { s.sd with currentFile := none } }
    else s
  { s with sd := { s.sd with filePosition := 0, fileSize := 0 }, stats := .reset }

/-- The file that a name stands for: that of the same name, or else the last one whose
name differs in case only. -/
def Env.findFile (env : Env) (checkSubdirs : Bool) (filename : String) : Option File :=
  match (env.fileList checkSubdirs).find? (·.name = filename) with
  | some f => some f
  | none => (env.fileList checkSubdirs).reverse.find? (env.lower ·.name = env.lower filename)

/-- `_load_file`. -/
def loadFile (env : Env) (checkSubdirs : Bool) (filename : String) (s : Printer) :
    Printer × Option Failure :=
  match env.findFile checkSubdirs filename with
  | none => (s, some .command)
  | some f =>
    ({ s with
        sd := { s.sd with currentFile := some f, filePosition := 0, fileSize := size f.text }
        stats := .setCurrentFile filename }, none)

/-- A file name without the slash in front. -/
def stripSlash (filename : String) : String :=
  match filename.toList with
  | '/' :: cs => String.ofList cs
  | _ => filename

/-- `cmd_M23`. -/
def cmdM23 (env : Env) (m : Moment) (filename : String) (s : Printer) : Printer × Option Failure :=
  if s.sd.work.IsOff then loadFile env false (stripSlash filename) (resetFile m s)
  else (s, some .command)

/-- `cmd_SDCARD_PRINT_FILE`; an empty name has no first character. -/
def cmdSdcardPrintFile (env : Env) (m : Moment) (filename : String) (s : Printer) :
    Printer × Option Failure :=
  if s.sd.work.IsOff then
    if filename = "" then (resetFile m s, some .internal)
    else
      match loadFile env true (stripSlash filename) (resetFile m s) with
      | (s, none) => doResume s
      | (s, some e) => (s, some e)
  else (s, some .command)

/-- `send_pause_command`. -/
def sendPauseCommand (m : Moment) (s : Printer) : Printer :=
  if s.pauseResume.pauseCommandSent then s
  else if s.sd.work.IsOff then
    { s with pauseResume := { s.pauseResume with sdPaused := false, pauseCommandSent := true } }
  else
    let s := doPause m s
    { s with pauseResume := { s.pauseResume with sdPaused := true, pauseCommandSent := true } }

/-- `cmd_PAUSE`. -/
def cmdPause (m : Moment) (s : Printer) : Printer :=
  if s.pauseResume.isPaused then s
  else
    let s := sendPauseCommand m s
    { s with pauseResume := { s.pauseResume with isPaused := true } }

/-- `cmd_RESUME` with `send_resume_command`. -/
def cmdResume (restores : Bool) (s : Printer) : Printer × Option Failure :=
  if !s.pauseResume.isPaused then (s, none)
  else if !restores then (s, some .command)
  else if s.pauseResume.sdPaused then
    match doResume s with
    | (s, none) => ({ s with pauseResume := ⟨false, false, false⟩ }, none)
    | (s, some e) => (s, some e)
  else ({ s with pauseResume := { s.pauseResume with isPaused := false, pauseCommandSent := false } }, none)

/-- `cmd_CLEAR_PAUSE`. -/
def cmdClearPause (s : Printer) : Printer :=
  { s with pauseResume := { s.pauseResume with isPaused := false, pauseCommandSent := false } }

/-- `cmd_CANCEL_PRINT`. -/
def cmdCancelPrint (m : Moment) (s : Printer) : Printer :=
  if ¬ s.sd.work.IsOff ∨ s.pauseResume.sdPaused then cmdClearPause (doCancel m s)
  else cmdClearPause s

/-- The native commands at a given moment. -/
def native (env : Env) (m : Moment) : Native Cmd Printer
  | .sdcardResetFile, s => if s.sd.cmdFromSd then (s, some .command) else (resetFile m s, none)
  | .sdcardPrintFile filename, s => cmdSdcardPrintFile env m filename s
  | .m23 filename, s => cmdM23 env m filename s
  | .m24, s => doResume s
  | .m25, s => (doPause m s, none)
  | .m26 pos, s =>
    if s.sd.work.IsOff then ({ s with sd := { s.sd with filePosition := pos } }, none)
    else (s, some .command)
  | .setFilePosition pos, s => ({ s with sd := { s.sd with nextFilePosition := pos } }, none)
  | .sendPauseCommand, s => (sendPauseCommand m s, none)
  | .pause, s => (cmdPause m s, none)
  | .resume restores, s => cmdResume restores s
  | .clearPause, s => (cmdClearPause s, none)
  | .cancelPrint, s => (cmdCancelPrint m s, none)
  | .status, s => ({ s with stats := (s.stats.getStatus m).1 }, none)
  | .other failure, s => (s, failure)

/-- A macro. -/
abbrev Macro := Script Cmd Printer

/-! ## The work timer -/

/-- The next piece of the file; at its end the file is closed. -/
def readMore (m : Moment) (rest : Option Text) (partialInput : Line) (s : Printer) : Printer :=
  match rest with
  | none => exitWork m none s
  | some [] => exitWork m none { s with sd := { s.sd with currentFile := none } }
  | some (c :: cs) =>
    let (lines, partialInput) := cutLines partialInput ((c :: cs).take 8192)
    { s with sd := { s.sd with work := .looping (some ((c :: cs).drop 8192)) partialInput lines } }

/-- The printer when the next line is handed out. -/
def handOut (rest : Option Text) (partialInput : Line) (l : Line) (ls : List Line) (s : Printer) :
    Printer :=
  { s with
    sd := { s.sd with
      cmdFromSd := true
      nextFilePosition := s.sd.filePosition + size l + 1
      work := .looping rest partialInput ls } }

/-- The printer after a line that did not fail; a line may have set another position. -/
def advance (next : ℕ) (s : Printer) : Printer :=
  let s := { s with sd := { s.sd with cmdFromSd := false, filePosition := s.sd.nextFilePosition } }
  if s.sd.nextFilePosition = next then s
  else
    match s.sd.currentFile with
    | none => { s with sd := { s.sd with work := .off } }
    | some f => { s with sd := { s.sd with work := .looping (after f.text s.sd.filePosition) [] [] } }

/-- What a line does, and what happens when it fails. -/
structure Behaviour where
  script : List Macro
  onError : List Macro
  message : String

/-- The rest of a round, after the script of the line has run. -/
def finishLine (env : Env) (m : Moment) (b : Behaviour) (next : ℕ) (r : Run Cmd Printer) : Printer :=
  match r.raised with
  | none => advance next r.state
  | some .command =>
    exitWork m (some b.message) (Script.execAll (native env m) b.onError r.state).state
  | some .internal => exitWork m none r.state

/-- One round of the loop in `work_handler`, with the behaviour of the line that may be
handed out in it. -/
def workHandler (env : Env) (m : Moment) (b : Behaviour) (s : Printer) : Printer :=
  match s.sd.work with
  | .off => s
  | .registered => startWork m s
  | .looping rest partialInput lines =>
    if s.sd.mustPauseWork then exitWork m none s
    else
      match lines with
      | [] => readMore m rest partialInput s
      | l :: ls =>
        finishLine env m b (s.sd.filePosition + size l + 1)
          (Script.execAll (native env m) b.script (handOut rest partialInput l ls s))

/-! ## Runs -/

/-- What can happen: a command from outside, a round of the work timer, a shutdown. -/
inductive Event where
  | command (c : Cmd)
  | work (b : Behaviour)
  | shutdown

/-- `handle_shutdown`. -/
def handleShutdown (s : Printer) : Printer :=
  if s.sd.work.IsOff then s else { s with sd := { s.sd with mustPauseWork := true } }

def step (env : Env) (m : Moment) : Event → Printer → Printer
  | .command c, s => (native env m c s).1
  | .work b, s => workHandler env m b s
  | .shutdown, s => handleShutdown s

/-- The line that the next round hands out. -/
def nextLine (s : Printer) : Option Line :=
  match s.sd.work with
  | .looping _ _ (l :: _) => if s.sd.mustPauseWork then none else some l
  | _ => none

/-- The next round finds the end of the file. -/
def AtEnd (s : Printer) : Prop :=
  s.sd.mustPauseWork = false ∧ ∃ partialInput, s.sd.work = .looping (some []) partialInput []

/-- The position that was last set, and the lines completed since. -/
structure Progress where
  base : ℕ
  done : List Line

/-- How an event changes them: loading a file and `M26` set the position, and so does a
line that leaves another one than that of the next line. -/
def Progress.step (env : Env) (m : Moment) (e : Event) (s : Printer) (p : Progress) : Progress :=
  match e with
  | .command (.m23 _) => if s.sd.work.IsOff then ⟨0, []⟩ else p
  | .command (.sdcardPrintFile _) => if s.sd.work.IsOff then ⟨0, []⟩ else p
  | .command (.m26 pos) => if s.sd.work.IsOff then ⟨pos, []⟩ else p
  | .work b =>
    match s.sd.work with
    | .looping rest partialInput (l :: ls) =>
      if s.sd.mustPauseWork then p
      else
        let r := Script.execAll (native env m) b.script (handOut rest partialInput l ls s)
        if r.raised.isSome then p
        else if r.state.sd.nextFilePosition = s.sd.filePosition + size l + 1 then
          { p with done := p.done ++ [l] }
        else ⟨r.state.sd.nextFilePosition, []⟩
    | _ => p
  | _ => p

/-- The printer and the progress of the print after a list of events. -/
def run (env : Env) : List (Event × Moment) → Printer × Progress → Printer × Progress
  | [], x => x
  | (e, m) :: es, (s, p) => run env es (step env m e s, p.step env m e s)

end Card

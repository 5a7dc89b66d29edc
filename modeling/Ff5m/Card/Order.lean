import Ff5m.Card.VirtualSd

/-!
# The lines of a print

What a run of the card hands out, over all orders of commands from outside, rounds of
the work timer and behaviours of the lines.

* `inside`: what the script of a line can change of the card;
* `Follows.step`: what one event does to the lines that were completed;
* `lines_in_order`: the lines completed since the position was last set are the lines
  of the file from there on, each once and in order, and the end of the file is only
  found when all of them have been completed;
-/

namespace Card

open TextTools (Text Line unlines)
open GCode (Script Run Native Failure)

variable {env : Env} {m : Moment}

/-! ## Within a line -/

/-- What the script of a line leaves of the printer `s` that it found. -/
structure Inside (s t : Printer) : Prop where
  cmdFromSd : t.sd.cmdFromSd = true
  work : t.sd.work = s.sd.work
  file : t.sd.currentFile = s.sd.currentFile ∧ t.sd.filePosition = s.sd.filePosition ∨
    t.sd.currentFile = none ∧ t.sd.mustPauseWork = true

/-- A line cannot wait for the end of the timer that hands it out. -/
theorem doPause_inside {t : Printer} (hsd : t.sd.cmdFromSd = true) (hoff : ¬ t.sd.work.IsOff) :
    doPause m t = { t with sd := { t.sd with mustPauseWork := true } } := by
  simp only [doPause, if_neg hoff, hsd, if_true]

theorem doCancel_inside {s t : Printer} (h : Inside s t) (hs : s.sd.currentFile.isSome = true)
    (hoff : ¬ t.sd.work.IsOff) : Inside s (doCancel m t) := by
  unfold doCancel
  by_cases hfile : t.sd.currentFile.isSome = true
  · simp only [hfile, if_true, doPause_inside h.cmdFromSd hoff]
    exact ⟨h.cmdFromSd, h.work, .inr ⟨rfl, rfl⟩⟩
  · simp only [hfile, Bool.false_eq_true, if_false]
    rcases h.file with ⟨hsame, -⟩ | hclosed
    · exact absurd (by rwa [hsame]) hfile
    · exact ⟨h.cmdFromSd, h.work, .inr hclosed⟩

theorem sendPause_inside {s t : Printer} (hoff : ¬ t.sd.work.IsOff) (h : Inside s t) :
    Inside s (sendPauseCommand m t) := by
  unfold sendPauseCommand
  rw [if_neg hoff, doPause_inside h.cmdFromSd hoff]
  split_ifs
  · exact h
  · exact ⟨h.cmdFromSd, h.work, h.file.imp id fun hc => ⟨hc.1, rfl⟩⟩

theorem native_inside {s t : Printer} (hs : ¬ s.sd.work.IsOff) (hopen : s.sd.currentFile.isSome = true)
    (h : Inside s t) (k : Cmd) : Inside s (native env m k t).1 := by
  have hoff : ¬ t.sd.work.IsOff := by rwa [h.work]
  have hpause : Inside s { t with sd := { t.sd with mustPauseWork := true } } :=
    ⟨h.cmdFromSd, h.work, h.file.imp id fun hc => ⟨hc.1, rfl⟩⟩
  cases k with
  | sdcardResetFile => simpa [native, h.cmdFromSd] using h
  | sdcardPrintFile filename => simpa [native, cmdSdcardPrintFile, hoff] using h
  | m23 filename => simpa [native, cmdM23, hoff] using h
  | m24 => simpa [native, doResume, hoff] using h
  | m25 => simpa [native, doPause_inside h.cmdFromSd hoff] using hpause
  | m26 pos => simpa [native, hoff] using h
  | setFilePosition pos => exact ⟨h.cmdFromSd, h.work, h.file⟩
  | sendPauseCommand => exact sendPause_inside hoff h
  | pause =>
    simp only [native, cmdPause]
    split_ifs
    · exact h
    · have hsent := sendPause_inside (m := m) hoff h
      exact ⟨hsent.cmdFromSd, hsent.work, hsent.file⟩
  | resume restores =>
    simp only [native, cmdResume, doResume, if_neg hoff]
    split_ifs
    · exact h
    · exact h
    · exact h
    · exact ⟨h.cmdFromSd, h.work, h.file⟩
  | clearPause => exact ⟨h.cmdFromSd, h.work, h.file⟩
  | cancelPrint =>
    have hcancel := doCancel_inside (m := m) h hopen hoff
    simp only [native, cmdCancelPrint, hoff, not_false_eq_true, true_or, if_true]
    exact ⟨hcancel.cmdFromSd, hcancel.work, hcancel.file⟩
  | status => exact ⟨h.cmdFromSd, h.work, h.file⟩
  | other failure => exact h

/-- A line cannot open or position a file, nor end or start the timer. -/
theorem inside (env : Env) (m : Moment) (b : List Macro) {s : Printer} (hs : ¬ s.sd.work.IsOff)
    (hopen : s.sd.currentFile.isSome = true) {t : Printer} (h : Inside s t) :
    Inside s (Script.execAll (native env m) b t).state :=
  (Script.execAll_invariant (I := Inside s) (fun k _ ht => native_inside hs hopen ht k) b t h).1

/-! ## From outside -/

/-- From outside the timer is waited for. -/
theorem doPause_outside (m : Moment) {s : Printer} (hsd : s.sd.cmdFromSd = false) :
    (doPause m s).sd.work = .off ∧ (doPause m s).sd.cmdFromSd = false ∧
      (doPause m s).sd.currentFile = s.sd.currentFile ∧
      (doPause m s).sd.filePosition = s.sd.filePosition := by
  unfold doPause
  cases hwork : s.sd.work with
  | off => exact ⟨hwork, hsd, rfl, rfl⟩
  | registered =>
    cases hfile : s.sd.currentFile <;> simp [Work.IsOff, waitWork, hwork, hsd, hfile, startWork, exitWork]
  | looping rest q ls => simp [Work.IsOff, waitWork, hwork, hsd, exitWork]

/-! ## The invariant -/

/-- The lines completed are those of the file from the base on, the position is behind
them, and what the timer has read is what comes next. -/
structure Follows (p : Progress) (s : Printer) : Prop where
  cmdFromSd : s.sd.cmdFromSd = false
  clean : ∀ l ∈ p.done, '\n' ∉ l
  place : ∀ f, s.sd.currentFile = some f → s.sd.filePosition = p.base + size (unlines p.done) ∧
    ∀ t, after f.text p.base = some t → ∃ rest, t = unlines p.done ++ rest
  loop : ∀ rest q ls, s.sd.work = .looping rest q ls → ('\n' ∉ q ∧ ∀ l ∈ ls, '\n' ∉ l) ∧
    (s.sd.currentFile = none → s.sd.mustPauseWork = true) ∧
    ∀ f, s.sd.currentFile = some f →
      after f.text s.sd.filePosition = rest.map (unlines ls ++ q ++ ·) ∧ (rest = none → ls = [])

namespace Follows

variable {p : Progress} {s : Printer}

/-- The next line, with what follows it. -/
theorem next (h : Follows p s) {rest : Option Text} {q l : Line} {ls : List Line} {f : File}
    (hwork : s.sd.work = .looping rest q (l :: ls)) (hfile : s.sd.currentFile = some f) :
    ∃ r, rest = some r ∧
      after f.text s.sd.filePosition = some (unlines [l] ++ (unlines ls ++ q ++ r)) := by
  obtain ⟨-, -, hloop⟩ := h.loop _ _ _ hwork
  obtain ⟨hafter, hnone⟩ := hloop f hfile
  cases rest with
  | none => exact absurd (hnone rfl) (by simp)
  | some r =>
    refine ⟨r, rfl, ?_⟩
    rw [hafter]
    simp

/-- The text from the base on, where the position is known. -/
theorem at_position (h : Follows p s) {f : File} (hfile : s.sd.currentFile = some f) {t u : Text}
    (ht : after f.text p.base = some t) (hu : after f.text s.sd.filePosition = some u) :
    t = unlines p.done ++ u := by
  obtain ⟨hpos, hplace⟩ := h.place f hfile
  obtain ⟨rest, hrest⟩ := hplace t ht
  rw [hrest] at ht
  have hafter := after_add ht
  rw [← hpos, hu] at hafter
  rw [hrest, Option.some.inj hafter]

theorem of_sd {s' : Printer} (h : Follows p s) (hsd : s'.sd = s.sd) : Follows p s' := by
  refine ⟨?_, h.clean, ?_, ?_⟩ <;> rw [hsd]
  · exact h.cmdFromSd
  · exact h.place
  · exact h.loop

/-- The timer ends or has not started, and file and position are the same. -/
theorem of_not_looping {s' : Printer} (h : Follows p s) (hsd : s'.sd.cmdFromSd = false)
    (hwork : ∀ rest q ls, s'.sd.work ≠ .looping rest q ls)
    (hfile : s'.sd.currentFile = s.sd.currentFile ∧ s'.sd.filePosition = s.sd.filePosition ∨
      s'.sd.currentFile = none) : Follows p s' := by
  refine ⟨hsd, h.clean, fun f hf => ?_, fun rest q ls hw => absurd hw (hwork rest q ls)⟩
  rcases hfile with ⟨hsame, hpos⟩ | hnone
  · rw [hpos]
    exact h.place f (hsame ▸ hf)
  · rw [hnone] at hf
    cases hf

/-- No file is open. -/
theorem of_closed {s' : Printer} (hclean : ∀ l ∈ p.done, '\n' ∉ l) (hsd : s'.sd.cmdFromSd = false)
    (hfile : s'.sd.currentFile = none) (hwork : ∀ rest q ls, s'.sd.work ≠ .looping rest q ls) :
    Follows p s' :=
  ⟨hsd, hclean, fun f hf => absurd (hfile.symm.trans hf) (by simp),
    fun rest q ls hw => absurd hw (hwork rest q ls)⟩

/-- The position has just been set. -/
theorem of_set {t : Printer} (hsd : t.sd.cmdFromSd = false)
    (hwork : ∀ rest q ls, t.sd.work ≠ .looping rest q ls) : Follows ⟨t.sd.filePosition, []⟩ t :=
  ⟨hsd, by simp, fun _ _ => ⟨rfl, fun t _ => ⟨t, rfl⟩⟩, fun rest q ls hw => absurd hw (hwork rest q ls)⟩

theorem doPause (h : Follows p s) (m : Moment) : Follows p (doPause m s) := by
  obtain ⟨hwork, hsd, hfile, hpos⟩ := doPause_outside m h.cmdFromSd
  exact h.of_not_looping hsd (by rw [hwork]; simp) (.inl ⟨hfile, hpos⟩)

theorem doResume (h : Follows p s) : Follows p (doResume s).1 := by
  unfold Card.doResume
  split_ifs
  · exact h.of_not_looping h.cmdFromSd (by simp) (.inl ⟨rfl, rfl⟩)
  · exact h

theorem doCancel (h : Follows p s) (m : Moment) : Follows p (doCancel m s) := by
  unfold Card.doCancel
  by_cases hfile : s.sd.currentFile.isSome = true
  · obtain ⟨hwork, hsd, -, -⟩ := doPause_outside m h.cmdFromSd
    simp only [hfile, if_true]
    exact of_closed h.clean hsd rfl (by simp [hwork])
  · have hnone : s.sd.currentFile = none := by simpa using hfile
    simp only [hfile, Bool.false_eq_true, if_false]
    refine ⟨h.cmdFromSd, h.clean, fun f hf => absurd (hnone.symm.trans hf) (by simp), fun rest q ls hw => ?_⟩
    obtain ⟨hq, hmust, -⟩ := h.loop rest q ls hw
    exact ⟨hq, hmust, fun f hf => absurd (hnone.symm.trans hf) (by simp)⟩

/-- Resetting the file closes it. -/
theorem resetFile_closed (h : Follows p s) (m : Moment) :
    (resetFile m s).sd.currentFile = none ∧ (resetFile m s).sd.cmdFromSd = false ∧
      (resetFile m s).sd.filePosition = 0 ∧
      (s.sd.work.IsOff ∨ s.sd.currentFile.isSome = true → (resetFile m s).sd.work = .off) := by
  unfold resetFile
  by_cases hfile : s.sd.currentFile.isSome = true
  · obtain ⟨hwork, hsd, -, -⟩ := doPause_outside m h.cmdFromSd
    simp only [hfile, if_true]
    exact ⟨trivial, hsd, trivial, fun _ => hwork⟩
  · simp only [hfile, Bool.false_eq_true, if_false, or_false]
    refine ⟨by simpa using hfile, h.cmdFromSd, trivial, fun hoff => ?_⟩
    cases hwork : s.sd.work with
    | off => rfl
    | _ => rw [hwork] at hoff; exact hoff.elim

theorem resetFile (h : Follows p s) (m : Moment) : Follows p (resetFile m s) := by
  obtain ⟨hfile, hsd, -, hoff⟩ := h.resetFile_closed m
  refine ⟨hsd, h.clean, fun f hf => absurd (hfile.symm.trans hf) (by simp), fun rest q ls hw => ?_⟩
  by_cases hopen : s.sd.work.IsOff ∨ s.sd.currentFile.isSome = true
  · exact absurd ((hoff hopen).symm.trans hw) (by simp)
  · have hnone : s.sd.currentFile = none := by simpa using (not_or.1 hopen).2
    have hsame : (Card.resetFile m s).sd.work = s.sd.work ∧
        (Card.resetFile m s).sd.mustPauseWork = s.sd.mustPauseWork := by
      unfold Card.resetFile
      simp [hnone]
    obtain ⟨hq, hmust, -⟩ := h.loop rest q ls (hsame.1 ▸ hw)
    exact ⟨hq, fun _ => hsame.2 ▸ hmust hnone, fun f hf => absurd (hfile.symm.trans hf) (by simp)⟩

/-- A file is opened at its beginning. -/
theorem loadFile (h : Follows p s) (env : Env) (m : Moment) (hoff : s.sd.work.IsOff) (checkSubdirs : Bool)
    (filename : String) :
    Follows ⟨0, []⟩ (loadFile env checkSubdirs filename (Card.resetFile m s)).1 := by
  obtain ⟨hfile, hsd, hpos, hwork⟩ := h.resetFile_closed m
  have hend := hwork (.inl hoff)
  unfold Card.loadFile
  cases env.findFile checkSubdirs filename with
  | none => exact of_closed (by simp) hsd hfile (by simp [hend])
  | some f =>
    exact of_set (t := { Card.resetFile m s with
      sd := { (Card.resetFile m s).sd with
        currentFile := some f, filePosition := 0, fileSize := size f.text }
      stats := .setCurrentFile filename }) hsd (by simp [hend])

theorem sendPause (h : Follows p s) (m : Moment) : Follows p (sendPauseCommand m s) := by
  unfold Card.sendPauseCommand
  split_ifs
  · exact h
  · exact h.of_sd rfl
  · exact (h.doPause m).of_sd rfl

/-- A command from outside. -/
theorem command (h : Follows p s) (m : Moment) (c : Cmd) :
    Follows (p.step env m (.command c) s) (step env m (.command c) s) := by
  cases c with
  | sdcardResetFile =>
    simp only [Progress.step, Card.step, native, h.cmdFromSd, Bool.false_eq_true, if_false]
    exact h.resetFile m
  | sdcardPrintFile filename =>
    simp only [Progress.step, Card.step, native, cmdSdcardPrintFile]
    by_cases hoff : s.sd.work.IsOff
    · simp only [hoff, if_true]
      by_cases hempty : filename = ""
      · obtain ⟨hfile, hsd, -, hwork⟩ := h.resetFile_closed m
        rw [if_pos hempty]
        exact of_closed (by simp) hsd hfile (by simp [hwork (.inl hoff)])
      · rw [if_neg hempty]
        have hload := h.loadFile env m hoff true (stripSlash filename)
        revert hload
        rcases Card.loadFile env true (stripSlash filename) (Card.resetFile m s) with ⟨t, - | e⟩
        · exact fun hload => hload.doResume
        · exact fun hload => hload
    · simp only [hoff, if_false]
      exact h
  | m23 filename =>
    simp only [Progress.step, Card.step, native, cmdM23]
    by_cases hoff : s.sd.work.IsOff
    · simp only [hoff, if_true]
      exact h.loadFile env m hoff false (stripSlash filename)
    · simp only [hoff, if_false]
      exact h
  | m24 => exact h.doResume
  | m25 => exact h.doPause m
  | m26 pos =>
    simp only [Progress.step, Card.step, native]
    by_cases hoff : s.sd.work.IsOff
    · simp only [hoff, if_true]
      refine of_set (t := { s with sd := { s.sd with filePosition := pos } }) h.cmdFromSd ?_
      intro rest q ls hw
      rw [show s.sd.work = .looping rest q ls from hw] at hoff
      exact hoff
    · simp only [hoff, if_false]
      exact h
  | setFilePosition pos => exact ⟨h.cmdFromSd, h.clean, h.place, h.loop⟩
  | sendPauseCommand => exact h.sendPause m
  | pause =>
    simp only [Progress.step, Card.step, native, cmdPause]
    split_ifs
    · exact h
    · exact (h.sendPause m).of_sd rfl
  | resume restores =>
    simp only [Progress.step, Card.step, native, cmdResume]
    have hresume := h.doResume
    revert hresume
    split_ifs
    · exact fun _ => h
    · exact fun _ => h
    · rcases Card.doResume s with ⟨t, - | e⟩
      · exact fun hresume => hresume.of_sd rfl
      · exact fun hresume => hresume
    · exact fun _ => h.of_sd rfl
  | clearPause => exact h.of_sd rfl
  | cancelPrint =>
    simp only [Progress.step, Card.step, native, cmdCancelPrint]
    split_ifs
    · exact (h.doCancel m).of_sd rfl
    · exact h.of_sd rfl
  | status => exact h.of_sd rfl
  | other failure => exact h

theorem exitWork (h : Follows p s) (m : Moment) (e : Option String) : Follows p (exitWork m e s) :=
  h.of_not_looping rfl (by simp [Card.exitWork]) (.inl ⟨rfl, rfl⟩)

theorem startWork (h : Follows p s) (m : Moment) : Follows p (startWork m s) := by
  unfold Card.startWork
  cases hfile : s.sd.currentFile with
  | none => exact of_closed h.clean h.cmdFromSd hfile (by simp)
  | some f =>
    refine ⟨h.cmdFromSd, h.clean, h.place, fun rest q ls hw => ?_⟩
    obtain ⟨rfl, rfl, rfl⟩ := Work.looping.inj hw
    refine ⟨by simp, fun hnone => absurd (hnone.symm.trans hfile) (by simp), fun f' hf' => ?_⟩
    obtain rfl := Option.some.inj (hfile.symm.trans hf')
    exact ⟨by simp, fun _ => rfl⟩

/-- A round that reads more of the file. -/
theorem readMore (h : Follows p s) (m : Moment) {rest : Option Text} {q : Line}
    (hwork : s.sd.work = .looping rest q []) : Follows p (readMore m rest q s) := by
  obtain ⟨⟨hq, -⟩, hmust, hloop⟩ := h.loop rest q [] hwork
  rcases rest with - | - | ⟨c, cs⟩
  · exact h.exitWork m none
  · exact of_closed h.clean rfl rfl (by simp [Card.readMore, Card.exitWork])
  · obtain ⟨hcut, hlines, hlast⟩ := cutLines_spec hq ((c :: cs).take 8192)
    refine ⟨h.cmdFromSd, h.clean, h.place, fun rest' q' ls' hw => ?_⟩
    obtain ⟨rfl, rfl, rfl⟩ := Work.looping.inj hw
    refine ⟨⟨hlast, hlines⟩, hmust, fun f hf => ⟨(hloop f hf).1.trans ?_, by simp⟩⟩
    have hwhole : q ++ c :: cs = (cutLines q ((c :: cs).take 8192)).1.flatMap (· ++ ['\n']) ++
        (cutLines q ((c :: cs).take 8192)).2 ++ (c :: cs).drop 8192 := by
      rw [show (cutLines q ((c :: cs).take 8192)).1.flatMap (· ++ ['\n'])
        = unlines (cutLines q ((c :: cs).take 8192)).1 from rfl, hcut, List.append_assoc,
        List.take_append_drop]
    exact congrArg some hwhole

/-- A round that hands out a line. -/
theorem handOut (h : Follows p s) (b : Behaviour) {rest : Option Text} {q l : Line} {ls : List Line}
    (hwork : s.sd.work = .looping rest q (l :: ls)) (hmust : s.sd.mustPauseWork = false) :
    Follows (p.step env m (.work b) s) (workHandler env m b s) := by
  obtain ⟨⟨hq, hls⟩, hclosed, hloop⟩ := h.loop _ _ _ hwork
  obtain ⟨f, hfile⟩ : ∃ f, s.sd.currentFile = some f := by
    rw [← Option.isSome_iff_exists, Option.isSome_iff_ne_none]
    exact fun hnone => absurd ((hclosed hnone).symm.trans hmust) (by simp)
  obtain ⟨r, rfl, hnext⟩ := h.next hwork hfile
  set s₁ := Card.handOut (some r) q l ls s with hs₁
  have hfile₁ : s₁.sd.currentFile = some f := hfile
  have hoff : ¬ s₁.sd.work.IsOff := fun h => h
  have hopen : s₁.sd.currentFile.isSome = true := by rw [hfile₁]; rfl
  have hin := inside env m b.script hoff hopen (t := s₁) ⟨rfl, rfl, .inl ⟨rfl, rfl⟩⟩
  simp only [Progress.step, workHandler, finishLine, hwork, hmust, Bool.false_eq_true, if_false, ← hs₁]
  set run := Script.execAll (native env m) b.script s₁
  -- a line that has failed leaves the position, and the timer ends
  have hfailed : ∀ {t : Printer} (e : Option String), Inside s₁ t → Follows p (Card.exitWork m e t) :=
    fun e ht => h.of_not_looping rfl (by simp [Card.exitWork]) (ht.file.imp id And.left)
  cases hraised : run.raised with
  | some e =>
    cases e with
    | command => exact hfailed _ (inside env m b.onError hoff hopen hin)
    | internal => exact hfailed none hin
  | none =>
    simp only [Option.isSome_none, Bool.false_eq_true, if_false, advance]
    by_cases hpos : run.state.sd.nextFilePosition = s.sd.filePosition + size l + 1
    · simp only [hpos, if_true]
      refine ⟨rfl, fun k hk => ?_, fun f' hf' => ?_, fun rest' q' ls' hw => ?_⟩
      · rcases List.mem_append.1 hk with hk | hk
        · exact h.clean k hk
        · rw [List.mem_singleton.1 hk]
          exact hls l (by simp)
      · rcases hin.file with ⟨hsame, -⟩ | ⟨hnone, -⟩
        swap
        · exact absurd (hnone.symm.trans hf') (by simp)
        obtain rfl := Option.some.inj (hfile₁.symm.trans (hsame.symm.trans hf'))
        obtain ⟨hplace, -⟩ := h.place f hfile
        refine ⟨?_, fun t ht => ⟨unlines ls ++ q ++ r, ?_⟩⟩
        · simp only [hplace, TextTools.unlines_append, TextTools.unlines_cons, size_append, size_cons,
            TextTools.unlines_nil, size_nil]
          have hnl : Char.utf8Size '\n' = 1 := rfl
          omega
        · rw [h.at_position hfile ht hnext, TextTools.unlines_append]
          simp
      · have hw' : run.state.sd.work = .looping rest' q' ls' := hw
        rw [hin.work] at hw'
        obtain ⟨rfl, rfl, rfl⟩ := Work.looping.inj hw'
        refine ⟨⟨hq, fun k hk => hls k (by simp [hk])⟩, fun hnone => ?_, fun f' hf' => ⟨?_, by simp⟩⟩
        · rcases hin.file with ⟨hsame, -⟩ | ⟨-, hpaused⟩
          · exact absurd (hsame.symm.trans hnone) (by simp [hfile₁])
          · exact hpaused
        · rcases hin.file with ⟨hsame, -⟩ | ⟨hnone, -⟩
          swap
          · exact absurd (hnone.symm.trans hf') (by simp)
          obtain rfl := Option.some.inj (hfile₁.symm.trans (hsame.symm.trans hf'))
          have hsize : size (unlines [l]) = size l + 1 := by
            have hnl : Char.utf8Size '\n' = 1 := rfl
            simp [size_cons, hnl]
          have hafter := after_add hnext
          rw [hsize, ← Nat.add_assoc] at hafter
          exact hafter
    · simp only [hpos, if_false]
      cases hfile' : run.state.sd.currentFile with
      | none => exact of_closed (by simp) rfl rfl (by simp)
      | some f' =>
        refine ⟨rfl, by simp, fun _ _ => ⟨rfl, fun t _ => ⟨t, rfl⟩⟩, fun rest' q' ls' hw => ?_⟩
        obtain ⟨rfl, rfl, rfl⟩ := Work.looping.inj hw
        refine ⟨by simp, fun hnone => (by cases hnone), fun f'' hf'' => ?_⟩
        obtain rfl := Option.some.inj hf''
        exact ⟨by simp, fun _ => rfl⟩

/-- What one event does. -/
theorem step (h : Follows p s) (m : Moment) (e : Event) :
    Follows (p.step env m e s) (step env m e s) := by
  cases e with
  | command c => exact h.command m c
  | shutdown =>
    simp only [Card.step, handleShutdown, Progress.step]
    split_ifs
    · exact h
    · refine ⟨h.cmdFromSd, h.clean, h.place, fun rest q ls hw => ?_⟩
      obtain ⟨hq, -, hloop⟩ := h.loop rest q ls hw
      exact ⟨hq, fun _ => rfl, hloop⟩
  | work b =>
    cases hwork : s.sd.work with
    | off => simpa only [Card.step, workHandler, Progress.step, hwork] using h
    | registered =>
      simp only [Card.step, workHandler, Progress.step, hwork]
      exact h.startWork m
    | looping rest q ls =>
      by_cases hmust : s.sd.mustPauseWork = true
      · have hp : p.step env m (.work b) s = p := by
          cases ls <;> simp [Progress.step, hwork, hmust]
        rw [hp]
        simp only [Card.step, workHandler, hwork, hmust, if_true]
        exact h.exitWork m none
      · have hmust' : s.sd.mustPauseWork = false := by simpa using hmust
        cases ls with
        | nil =>
          simp only [Card.step, workHandler, Progress.step, hwork, hmust', Bool.false_eq_true, if_false]
          exact h.readMore m hwork
        | cons l ls => exact h.handOut b hwork hmust'

end Follows

theorem looping_of_nextLine {s : Printer} {l : Line} (h : nextLine s = some l) :
    ∃ rest q ls, s.sd.work = .looping rest q (l :: ls) := by
  unfold nextLine at h
  split at h
  · rename_i rest q l' ls hwork
    split_ifs at h
    obtain rfl := Option.some.inj h
    exact ⟨rest, q, ls, hwork⟩
  · cases h

theorem follows_booted : Follows ⟨0, []⟩ booted :=
  ⟨rfl, by simp, fun _ h => (by cases h), fun _ _ _ h => (by cases h)⟩

theorem follows_run (env : Env) (es : List (Event × Moment)) {x : Printer × Progress}
    (h : Follows x.2 x.1) : Follows (run env es x).2 (run env es x).1 := by
  induction es generalizing x with
  | nil => exact h
  | cons e es ih => exact ih (h.step e.2 e.1)

/-- **The lines of a file.**  In every run, the text from the position last set consists of
the lines completed since, of the line that is handed out next, if there is one, and of
what follows; and when the end of the file is found, no line follows. -/
theorem lines_in_order (env : Env) (es : List (Event × Moment)) (f : File) (t : Text)
    (hfile : (run env es (booted, ⟨0, []⟩)).1.sd.currentFile = some f)
    (ht : after f.text (run env es (booted, ⟨0, []⟩)).2.base = some t) :
    let s := (run env es (booted, ⟨0, []⟩)).1
    let done := (run env es (booted, ⟨0, []⟩)).2.done
    ((∀ l ∈ done, '\n' ∉ l) ∧ ∃ rest, t = unlines done ++ rest) ∧
      (∀ l, nextLine s = some l → '\n' ∉ l ∧ ∃ rest, t = unlines (done ++ [l]) ++ rest) ∧
      (AtEnd s → ∃ rest, '\n' ∉ rest ∧ t = unlines done ++ rest) := by
  have h := follows_run env es (x := (booted, ⟨0, []⟩)) follows_booted
  generalize run env es (booted, ⟨0, []⟩) = x at h hfile ht ⊢
  obtain ⟨s, p⟩ := x
  refine ⟨⟨h.clean, (h.place f hfile).2 t ht⟩, fun l hl => ?_, fun ⟨_, q, hwork⟩ => ?_⟩
  · obtain ⟨rest, q, ls, hwork⟩ := looping_of_nextLine hl
    obtain ⟨⟨-, hclean⟩, -, -⟩ := h.loop _ _ _ hwork
    obtain ⟨r, rfl, hnext⟩ := h.next hwork hfile
    refine ⟨hclean l (by simp), unlines ls ++ q ++ r, ?_⟩
    rw [h.at_position hfile ht hnext]
    simp
  · obtain ⟨⟨hq, -⟩, -, hloop⟩ := h.loop _ _ _ hwork
    exact ⟨q, hq, h.at_position hfile ht (by simpa using (hloop f hfile).1)⟩

/-- A card with one file. -/
def card (text : String) : Env := ⟨fun _ => [⟨"a.gcode", TextTools.str text⟩], id⟩

/-- A print that is paused by its first line. -/
def pausedPrint : List (Event × Moment) :=
  [.command (.m23 "/a.gcode"), .command .m24, .work ⟨[], [], ""⟩, .work ⟨[], [], ""⟩,
    .work ⟨[.cmd .pause], [], ""⟩, .work ⟨[], [], ""⟩, .command (.resume true),
    .work ⟨[], [], ""⟩, .work ⟨[], [], ""⟩, .work ⟨[], [], ""⟩].map (·, ⟨0, 0, 1⟩)

theorem lines_in_order_paused :
    (run (card "G28\nM84\nend") pausedPrint (booted, ⟨0, []⟩)).2.done
        = [TextTools.str "G28", TextTools.str "M84"] ∧
      (AtEnd (run (card "G28\nM84\nend") pausedPrint (booted, ⟨0, []⟩)).1 →
        ∃ rest, '\n' ∉ rest ∧ TextTools.str "G28\nM84\nend"
          = unlines (run (card "G28\nM84\nend") pausedPrint (booted, ⟨0, []⟩)).2.done ++ rest) := by
  have hfile : (run (card "G28\nM84\nend") pausedPrint (booted, ⟨0, []⟩)).1.sd.currentFile
      = some ⟨"a.gcode", TextTools.str "G28\nM84\nend"⟩ := by decide +kernel
  have hbase : after (TextTools.str "G28\nM84\nend")
      (run (card "G28\nM84\nend") pausedPrint (booted, ⟨0, []⟩)).2.base
      = some (TextTools.str "G28\nM84\nend") := by decide +kernel
  exact ⟨by decide +kernel, (lines_in_order _ _ _ _ hfile hbase).2.2⟩

end Card

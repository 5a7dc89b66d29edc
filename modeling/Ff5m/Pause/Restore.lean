import Ff5m.Pause.Macros

/-!
# The extruder target at which a print goes on

In display-off mode a pause switches the extruder off, so a resume has to bring
back the target that was in force before the pause.  `pause_exec` and
`resume_exec` say once what the two macros do; from them follows what a session
of pausing and resuming commands preserves (`Held`), and with it
`continued_at_target`: if every pause is given while the target is not already
switched off, and every resume that goes on either restores a target or finds
one, each continuation happens at the target of the print.

Without these conditions a print goes on with a cold nozzle: a resume out of a
regular pause restores nothing (`continued_cold`).
-/

namespace DisplayOff

open GCode

/-- The states in which a log executes `RESUME_BASE`. -/
def resumptions (log : List (Cmd × Printer)) : List Printer :=
  log.filterMap fun e => if e.1 = .resumeBase then some e.2 else none

@[simp] theorem resumptions_nil : resumptions [] = [] := rfl

@[simp] theorem resumptions_cons (k : Cmd) (p : Printer) (log : List (Cmd × Printer)) :
    resumptions ((k, p) :: log) = if k = .resumeBase then p :: resumptions log else resumptions log := by
  unfold resumptions
  by_cases h : k = .resumeBase <;> simp [h]

@[simp] theorem resumptions_append (l m : List (Cmd × Printer)) :
    resumptions (l ++ m) = resumptions l ++ resumptions m :=
  List.filterMap_append

theorem mem_resumptions {log : List (Cmd × Printer)} {q : Printer} :
    q ∈ resumptions log ↔ (.resumeBase, q) ∈ log := by
  unfold resumptions
  simp only [List.mem_filterMap, Option.ite_none_right_eq_some, Option.some.injEq]
  constructor
  · rintro ⟨⟨k, q⟩, he, rfl, rfl⟩
    exact he
  · intro h
    exact ⟨_, h, rfl, rfl⟩

/-! ## What the macros do -/

/-- Parking and extruding are moves and messages only. -/
theorem clientExtrude_exec (env : Readings) (p : Printer) :
    ∃ log, (clientExtrude env).exec native p = ⟨p, log, none⟩ ∧ resumptions log = [] := by
  unfold clientExtrude
  by_cases hc : (env .CLIENT_EXTRUDE).canExtrude = true
  · by_cases ha : (env .CLIENT_EXTRUDE).absoluteExtrude = true <;> simp [hc, ha, native]
  · simp [hc, native]

theorem toolheadParkPauseCancel_exec (env : Readings) (p : Printer) :
    ∃ log, (toolheadParkPauseCancel env).exec native p = ⟨p, log, none⟩ ∧ resumptions log = [] := by
  obtain ⟨log, hlog, hres⟩ := clientExtrude_exec env p
  have hretract : (clientRetract env).exec native p = ⟨p, log, none⟩ := by
    simp [clientRetract, hlog]
  unfold toolheadParkPauseCancel
  by_cases hh : (env .TOOLHEAD_PARK_PAUSE_CANCEL).homed = true
  · by_cases ha : (env .TOOLHEAD_PARK_PAUSE_CANCEL).absoluteCoordinates = true <;>
      simp [hretract, hres, hh, ha, native]
  · simp [hretract, hres, hh, native]

/-- The printer after `PAUSE`. -/
def afterPause (env : Readings) (restore : Option ℤ) (p : Printer) : Printer :=
  { cmdPause { p with
      lastExtruderTemp :=
        { restore := restore.getD 1 == 1, temp := p.extruderTarget, heater_bed_temp := p.bedTarget }
      restoreIdleTimeout := (env .PAUSE).configTimeout
      idleTimeout := clientIdleTimeout } with
    extruderTarget := 0
    zcontrol := false }

theorem pause_exec (env : Readings) (restore : Option ℤ) (p : Printer) :
    ∃ log, (pause env restore).exec native p = ⟨afterPause env restore p, log, none⟩ ∧
      resumptions log = [] := by
  obtain ⟨log, hlog, hres⟩ := toolheadParkPauseCancel_exec env (afterPause env restore p)
  have htimeout : clientIdleTimeout > 0 := by norm_num [clientIdleTimeout]
  unfold afterPause at hlog
  unfold pause
  by_cases hr : runoutResume (env .PAUSE) = true <;>
    simp [htimeout, hr, native, pauseMacro, hlog, hres, afterPause]

/-- The printer after the temperatures are dealt with in `RESUME`. -/
def afterRestore (r : Reading) (p : Printer) : Printer :=
  if restoring r p then
    { p with
      idleState := false
      bedTarget := p.lastExtruderTemp.heater_bed_temp
      extruderTarget := p.lastExtruderTemp.temp }
  else if fromIdle r p then { p with idleState := false } else p

theorem resumeHeat_exec (r : Reading) (p : Printer) :
    ∃ log, Script.execAll native (resumeHeat r p) p = ⟨afterRestore r p, log, none⟩ ∧
      resumptions log = [] := by
  unfold resumeHeat afterRestore restoring
  by_cases hi : fromIdle r p = true
  · by_cases hs : p.lastExtruderTemp.restore = true
    · simp [hi, hs, native]
    · by_cases hc : r.canExtrude = true <;> simp [hi, hs, hc, native]
  · by_cases hc : r.canExtrude = true <;> simp [hi, hc, native]

/-- `RESUME` goes on to `RESUME_BASE`. -/
def goesOn (r : Reading) (p : Printer) : Bool := runoutResume r && doResumeFlag r p

/-- The printer just before `RESUME_BASE`. -/
def beforeResumeBase (r : Reading) (p : Printer) : Printer :=
  { afterRestore r p with
    idleTimeout :=
      if p.restoreIdleTimeout > 0 then p.restoreIdleTimeout else (afterRestore r p).idleTimeout
    zcontrol := true }

theorem resumeContinue_exec_goes {env : Readings} {p : Printer}
    (h : goesOn (env .RESUME) p = true) :
    ∃ log, Script.execAll native (resumeContinue env p) (afterRestore (env .RESUME) p)
        = ⟨(cmdResume (beforeResumeBase (env .RESUME) p)).1, log,
            (cmdResume (beforeResumeBase (env .RESUME) p)).2⟩ ∧
      resumptions log = [beforeResumeBase (env .RESUME) p] := by
  obtain ⟨log, hlog, hres⟩ := clientExtrude_exec env (beforeResumeBase (env .RESUME) p)
  unfold goesOn at h
  obtain ⟨hr, hd⟩ := Bool.and_eq_true_iff.1 h
  unfold beforeResumeBase at hlog ⊢
  unfold resumeContinue
  by_cases ht : p.restoreIdleTimeout > 0
  · simp only [if_pos ht] at hlog ⊢
    simp [hr, hd, native, hlog, hres]
  · simp only [if_neg ht] at hlog ⊢
    simp [hr, hd, native, hlog, hres]

theorem resumeContinue_exec_stays {env : Readings} {p : Printer}
    (h : goesOn (env .RESUME) p = false) (q : Printer) :
    ∃ log, Script.execAll native (resumeContinue env p) q = ⟨q, log, none⟩ ∧
      resumptions log = [] := by
  unfold goesOn at h
  unfold resumeContinue
  by_cases hr : runoutResume (env .RESUME) = true
  · have hd : doResumeFlag (env .RESUME) p = false := by simpa [hr] using h
    simp [hr, hd]
  · simp [hr, native]

/-- A `RESUME` that goes on does so in the state `beforeResumeBase`. -/
theorem resume_exec_goes {env : Readings} {p : Printer} (h : goesOn (env .RESUME) p = true) :
    ∃ log, (resume env).exec native p
        = ⟨(cmdResume (beforeResumeBase (env .RESUME) p)).1, log,
            (cmdResume (beforeResumeBase (env .RESUME) p)).2⟩ ∧
      resumptions log = [beforeResumeBase (env .RESUME) p] := by
  obtain ⟨log, hlog, hres⟩ := resumeHeat_exec (env .RESUME) p
  obtain ⟨log', hlog', hres'⟩ := resumeContinue_exec_goes h
  have hprompt : resumePrompt (env .RESUME) p = [] := if_pos h
  refine ⟨log ++ log', ?_, by rw [resumptions_append, hres, hres', List.nil_append]⟩
  rw [resume, Script.exec_call, hprompt, List.append_nil, Script.execAll_append, hlog,
    Run.andThen_mk_none, hlog']

/-- A `RESUME` that does not go on may have changed the targets all the same. -/
theorem resume_exec_stays {env : Readings} {p : Printer} (h : goesOn (env .RESUME) p = false) :
    ∃ log, (resume env).exec native p = ⟨afterRestore (env .RESUME) p, log, none⟩ ∧
      resumptions log = [] := by
  obtain ⟨log, hlog, hres⟩ := resumeHeat_exec (env .RESUME) p
  obtain ⟨log', hlog', hres'⟩ := resumeContinue_exec_stays h (afterRestore (env .RESUME) p)
  have hprompt : (runoutResume (env .RESUME) && doResumeFlag (env .RESUME) p) = false := h
  rw [resume, Script.exec_call, Script.execAll_append, Script.execAll_append, hlog,
    Run.andThen_mk_none, hlog', Run.andThen_mk_none]
  simp [resumePrompt, hprompt, native, hres, hres']

/-! ## Sessions -/

/-- The printer, and the target held just before the first pause since the last
resume (since the start, before any resume). -/
structure Watched where
  printer : Printer
  held : Option Temp

/-- The invocation begins a pause. -/
def Invocation.pauses (i : Invocation) : Bool :=
  match i.command with
  | .PAUSE _ | .M25 | .M600 => true
  | .RESUME | .M24 => false

/-- One command of a session. -/
def give (i : Invocation) (w : Watched) : Run Cmd Watched :=
  let r := i.script.exec native w.printer
  { state :=
      { printer := r.state
        held :=
          if i.pauses then w.held.or (some w.printer.extruderTarget)
          else if resumptions r.log = [] then w.held else none }
    log := r.log.map fun e => (e.1, ⟨e.2, w.held⟩)
    raised := r.raised }

/-- A printer that is printing at the extruder target `T`. -/
structure PrintingAt (T : Temp) (p : Printer) : Prop where
  pos : 0 < T
  notPaused : p.isPaused = false
  target : p.extruderTarget = T

/-- When `RESUME_BASE` is reached, the target in force is `T`, and it is the one
held before the pause. -/
def ContinuesAt (T : Temp) (e : Cmd × Watched) : Prop :=
  e.1 = .resumeBase → e.2.printer.extruderTarget = T ∧ ∀ t ∈ e.2.held, t = T

/-- A resume finds the target in place, or restores it: when it takes the
restoring branch outside a pause, the saved target is the one in force; when it
takes another branch and goes on, the target is not switched off. -/
def ResumeSound (r : Reading) (p : Printer) : Prop :=
  if restoring r p then p.isPaused = false → p.lastExtruderTemp.temp = p.extruderTarget
  else goesOn r p → p.extruderTarget ≠ 0

/-- The condition on each command: a pause is given while the target is not
switched off, and a resume is sound. -/
def Sound (i : Invocation) (w : Watched) : Prop :=
  match i.command with
  | .PAUSE _ | .M25 | .M600 => w.printer.extruderTarget ≠ 0
  | .RESUME => ResumeSound (i.env .RESUME) w.printer
  | .M24 => w.printer.isPaused → ResumeSound (i.env .RESUME) w.printer

/-! ## The invariant -/

/-- The target is `T` or switched off; during a pause `T` is the saved target,
and outside of one it is in force. -/
structure HeldAt (T : Temp) (p : Printer) : Prop where
  target : p.extruderTarget = T ∨ p.extruderTarget = 0
  saved : p.isPaused = true → p.lastExtruderTemp.temp = T
  running : p.isPaused = false → p.extruderTarget = T

/-- The same of the printer, and of the target held before the pause. -/
structure Held (T : Temp) (w : Watched) : Prop where
  printer : HeldAt T w.printer
  held : ∀ t ∈ w.held, t = T

theorem HeldAt.eq_of_ne_zero {T : Temp} {p : Printer} (h : HeldAt T p) (hne : p.extruderTarget ≠ 0) :
    p.extruderTarget = T :=
  h.target.resolve_right hne

/-- The commands of `pause_resume` and of the card touch no target. -/
theorem cmdPause_frame (p : Printer) :
    (cmdPause p).isPaused = true ∧ (cmdPause p).lastExtruderTemp = p.lastExtruderTemp := by
  unfold cmdPause sendPauseCommand
  by_cases h : p.isPaused = true
  · simp [h]
  · by_cases hs : p.pauseCommandSent = true <;> simp [h, hs]

theorem doResume_frame (p : Printer) :
    (doResume p).1.extruderTarget = p.extruderTarget ∧
      (doResume p).1.lastExtruderTemp = p.lastExtruderTemp ∧
      (doResume p).1.isPaused = p.isPaused := by
  unfold doResume
  by_cases h : p.sdActive = true <;> simp [h]

theorem cmdResume_frame (p : Printer) :
    (cmdResume p).1.extruderTarget = p.extruderTarget ∧
      (cmdResume p).1.lastExtruderTemp = p.lastExtruderTemp ∧
      ((cmdResume p).1.isPaused = true → p.isPaused = true) := by
  obtain ⟨ht, hl, -⟩ := doResume_frame p
  unfold cmdResume
  by_cases hp : p.isPaused = false
  · simp [hp]
  · by_cases hs : p.sdPaused = true
    · by_cases hd : p.sdActive = true <;> simp [hp, hs, hd, ht, hl]
    · simp [hp, hs]

/-! ## One command -/

theorem afterPause_frame (env : Readings) (restore : Option ℤ) (p : Printer) :
    (afterPause env restore p).extruderTarget = 0 ∧ (afterPause env restore p).isPaused = true ∧
      (afterPause env restore p).lastExtruderTemp.temp = p.extruderTarget := by
  refine ⟨rfl, (cmdPause_frame _).1, ?_⟩
  show (cmdPause _).lastExtruderTemp.temp = _
  rw [(cmdPause_frame _).2]

/-- The commands that pause: the target is saved and switched off, and nothing
is resumed. -/
theorem pausing_exec {i : Invocation} (hi : i.pauses = true) (p : Printer) :
    (i.script.exec native p).state.extruderTarget = 0 ∧
      (i.script.exec native p).state.isPaused = true ∧
      (i.script.exec native p).state.lastExtruderTemp.temp = p.extruderTarget ∧
      resumptions (i.script.exec native p).log = [] := by
  obtain ⟨command, env⟩ := i
  cases command with
  | PAUSE restore =>
    obtain ⟨log, hlog, hres⟩ := pause_exec env restore p
    obtain ⟨ht, hp, hs⟩ := afterPause_frame env restore p
    simp [Invocation.script, hlog, hres, ht, hp, hs]
  | M25 =>
    obtain ⟨log, hlog, hres⟩ := pause_exec env none { p with zcontrol := false }
    obtain ⟨ht, hp, hs⟩ := afterPause_frame env none { p with zcontrol := false }
    simp [Invocation.script, m25, native, hlog, hres, ht, hp, hs]
  | M600 =>
    obtain ⟨log, hlog, hres⟩ := pause_exec env none { p with zextruderTemp := p.extruderTarget }
    obtain ⟨ht, hp, hs⟩ := afterPause_frame env none { p with zextruderTemp := p.extruderTarget }
    simp [Invocation.script, m600, native, hlog, hres, ht, hp, hs]
  | RESUME => simp [Invocation.pauses] at hi
  | M24 => simp [Invocation.pauses] at hi

/-- What the temperature part of a sound resume leaves: the invariant, and the
target `T` whenever the resume goes on. -/
theorem afterRestore_held {T : Temp} {r : Reading} {p : Printer} (h : HeldAt T p)
    (hs : ResumeSound r p) :
    HeldAt T (afterRestore r p) ∧
      (goesOn r p = true → (afterRestore r p).extruderTarget = T) := by
  unfold ResumeSound at hs
  unfold afterRestore
  by_cases hr : restoring r p = true
  · rw [if_pos hr] at hs
    have htemp : p.lastExtruderTemp.temp = T := by
      cases hp : p.isPaused with
      | true => exact h.saved hp
      | false => rw [hs hp, h.running hp]
    rw [if_pos hr]
    exact ⟨⟨Or.inl htemp, fun _ => htemp, fun _ => htemp⟩, fun _ => htemp⟩
  · rw [if_neg hr] at hs ⊢
    by_cases hi : fromIdle r p = true
    · rw [if_pos hi]
      exact ⟨⟨h.target, h.saved, h.running⟩, fun hg => h.eq_of_ne_zero (hs hg)⟩
    · rw [if_neg hi]
      exact ⟨h, fun hg => h.eq_of_ne_zero (hs hg)⟩

/-- A sound resume keeps the invariant and goes on at `T` only. -/
theorem resume_held {T : Temp} {env : Readings} {p : Printer} (h : HeldAt T p)
    (hs : ResumeSound (env .RESUME) p) :
    HeldAt T ((resume env).exec native p).state ∧
      ∀ q ∈ resumptions ((resume env).exec native p).log, q.extruderTarget = T := by
  obtain ⟨hheld, hT⟩ := afterRestore_held h hs
  cases hg : goesOn (env .RESUME) p with
  | false =>
    obtain ⟨log, hlog, hres⟩ := resume_exec_stays hg
    rw [hlog, hres]
    exact ⟨hheld, by simp⟩
  | true =>
    obtain ⟨log, hlog, hres⟩ := resume_exec_goes hg
    have hbefore : (beforeResumeBase (env .RESUME) p).extruderTarget = T := hT hg
    obtain ⟨ht, hl, hp⟩ := cmdResume_frame (beforeResumeBase (env .RESUME) p)
    rw [hlog, hres]
    refine ⟨⟨Or.inl (ht.trans hbefore), fun hpaused => ?_, fun _ => ht.trans hbefore⟩, ?_⟩
    · show (cmdResume _).1.lastExtruderTemp.temp = T
      rw [hl]
      exact hheld.saved (hp hpaused)
    · simpa using hbefore

/-- `M24` outside a pause is the card's own command. -/
theorem m24_exec_running {env : Readings} {p : Printer} (hp : p.isPaused = false) :
    ((m24 env).exec native p).state = (doResume { p with zcontrol := true }).1 ∧
      resumptions ((m24 env).exec native p).log = [] := by
  simp [m24, hp, native]

theorem continuesAt_of_resumptions {T : Temp} {log : List (Cmd × Printer)} {held : Option Temp}
    (hlog : ∀ q ∈ resumptions log, q.extruderTarget = T) (hheld : ∀ t ∈ held, t = T) :
    ∀ e ∈ log.map fun e => (e.1, (⟨e.2, held⟩ : Watched)), ContinuesAt T e := by
  rintro _ he hbase
  obtain ⟨⟨k, q⟩, hmem, rfl⟩ := List.mem_map.1 he
  obtain rfl : k = .resumeBase := hbase
  exact ⟨hlog q (mem_resumptions.2 hmem), hheld⟩

theorem give_held_of_not_pauses {T : Temp} {i : Invocation} {w : Watched} (h : Held T w)
    (hi : i.pauses = false)
    (hrun : HeldAt T (i.script.exec native w.printer).state ∧
      ∀ q ∈ resumptions (i.script.exec native w.printer).log, q.extruderTarget = T) :
    Held T (give i w).state ∧ ∀ e ∈ (give i w).log, ContinuesAt T e := by
  refine ⟨⟨hrun.1, ?_⟩, continuesAt_of_resumptions hrun.2 h.held⟩
  show ∀ t ∈ (if i.pauses then _ else _ : Option Temp), t = T
  rw [hi]
  by_cases hr : resumptions (i.script.exec native w.printer).log = []
  · simpa [hr] using h.held
  · simp [hr]

theorem give_held_of_pauses {T : Temp} {i : Invocation} {w : Watched} (h : Held T w)
    (hi : i.pauses = true) (hne : w.printer.extruderTarget ≠ 0) :
    Held T (give i w).state ∧ ∀ e ∈ (give i w).log, ContinuesAt T e := by
  have hT : w.printer.extruderTarget = T := h.printer.eq_of_ne_zero hne
  obtain ⟨htarget, hpaused, hsaved, hres⟩ := pausing_exec hi w.printer
  refine ⟨⟨⟨Or.inr htarget, fun _ => hsaved.trans hT, ?_⟩, ?_⟩,
    continuesAt_of_resumptions (by rw [hres]; simp) h.held⟩
  · intro hrunning
    exact absurd (hpaused.symm.trans hrunning) (by decide)
  · show ∀ t ∈ (if i.pauses then _ else _ : Option Temp), t = T
    rw [if_pos hi]
    cases hw : w.held with
    | none => simpa using hT
    | some t => simpa [hw] using h.held

/-- The step lemma: a sound command keeps the invariant, and reaches
`RESUME_BASE` at `T` only. -/
theorem give_held {T : Temp} {i : Invocation} {w : Watched} (h : Held T w) (hi : Sound i w) :
    Held T (give i w).state ∧ ∀ e ∈ (give i w).log, ContinuesAt T e := by
  obtain ⟨command, env⟩ := i
  cases command with
  | PAUSE restore => exact give_held_of_pauses h rfl hi
  | M25 => exact give_held_of_pauses h rfl hi
  | M600 => exact give_held_of_pauses h rfl hi
  | RESUME => exact give_held_of_not_pauses h rfl (resume_held h.printer hi)
  | M24 =>
    refine give_held_of_not_pauses h rfl ?_
    show HeldAt T ((m24 env).exec native w.printer).state ∧ _
    cases hp : w.printer.isPaused with
    | true =>
      have hon : HeldAt T { w.printer with zcontrol := true } :=
        ⟨h.printer.target, h.printer.saved, h.printer.running⟩
      have hrun := resume_held (p := { w.printer with zcontrol := true }) hon (hi hp)
      simpa [Invocation.script, m24, hp, native] using hrun
    | false =>
      obtain ⟨hstate, hres⟩ := @m24_exec_running env _ hp
      obtain ⟨ht, hl, hpd⟩ := doResume_frame { w.printer with zcontrol := true }
      have hT : w.printer.extruderTarget = T := h.printer.running hp
      refine ⟨?_, by simp only [Invocation.script]; rw [hres]; simp⟩
      rw [hstate]
      refine ⟨Or.inl (ht.trans hT), fun hpaused => ?_, fun _ => ht.trans hT⟩
      exact absurd (hpaused.symm.trans (hpd.trans hp)) (by decide)

/-! ## Main results -/

/-- **Where a print goes on.**  In a session of sound commands that starts while
printing at the target `T`, the target in force whenever `RESUME_BASE` is
reached is `T`, the target held before the pause. -/
theorem continued_at_target {T : Temp} {p : Printer} (hp : PrintingAt T p) {is : List Invocation}
    (his : Along give Sound is ⟨p, none⟩) :
    ∀ e ∈ (session give is ⟨p, none⟩).log, ContinuesAt T e := by
  have hstart : Held T ⟨p, none⟩ :=
    ⟨⟨Or.inl hp.target, fun h => absurd (h.symm.trans hp.notPaused) (by decide), fun _ => hp.target⟩,
      by simp⟩
  exact (session_invariant (fun i w hw hi => give_held hw hi) is _ hstart his).2

/-! ## A run of each kind -/

/-- A warm nozzle, with filament. -/
def warm (state : IdleTimeout) : Reading where
  idleTimeout := state
  sensorEnabled := true
  filamentDetected := true
  canExtrude := true
  homed := true
  absoluteCoordinates := true
  absoluteExtrude := false
  configTimeout := 600

/-- A printer that prints from the card at 240 °C. -/
def printing240 : Printer where
  extruderTarget := 240
  bedTarget := 80
  isPaused := false
  pauseCommandSent := false
  sdPaused := false
  sdActive := true
  lastExtruderTemp := ⟨false, 0, 80⟩
  restoreIdleTimeout := 0
  idleState := false
  zextruderTemp := 240
  idleTimeout := 600
  zcontrol := true

/-- A pause, and a resume with the idle timer in the given state. -/
def pauseThenResume (state : IdleTimeout) : List Invocation :=
  [⟨.PAUSE none, fun _ => warm state⟩, ⟨.RESUME, fun _ => warm state⟩]

theorem printingAt_printing240 : PrintingAt 240 printing240 := ⟨by norm_num, rfl, rfl⟩

/-- Resumed when the idle timer says "Ready", the print goes on at its target. -/
theorem continued_at_target_ready :
    (session give (pauseThenResume .ready) ⟨printing240, none⟩).log.Forall (ContinuesAt 240) := by
  refine List.forall_iff_forall_mem.2 (continued_at_target printingAt_printing240
    ⟨by norm_num [Sound, printing240], ?_, trivial⟩)
  show ResumeSound (warm .ready) _
  unfold ResumeSound
  rw [if_pos (by decide)]
  exact fun h => absurd h (by decide)

/-- A resume out of a regular pause restores nothing: whatever the target was,
the print goes on with the extruder switched off. -/
theorem regular_resume_cold {env : Readings} (penv : Readings) (restore : Option ℤ) {p : Printer}
    (hidle : (env .RESUME).idleTimeout = .printing) (hstate : p.idleState = false)
    (hwarm : (env .RESUME).canExtrude = true) (hfilament : runoutResume (env .RESUME) = true) :
    ∃ q ∈ resumptions ((resume env).exec native (afterPause penv restore p)).log,
      q.extruderTarget = 0 := by
  have hfrom : fromIdle (env .RESUME) (afterPause penv restore p) = false := by
    have hs : (afterPause penv restore p).idleState = p.idleState := by
      unfold afterPause cmdPause sendPauseCommand
      by_cases h : p.isPaused = true
      · simp [h]
      · by_cases hs : p.pauseCommandSent = true <;> simp [h, hs]
    rw [fromIdle, hs, hstate, hidle]
    decide
  have hgoes : goesOn (env .RESUME) (afterPause penv restore p) = true := by
    simp [goesOn, doResumeFlag, hfilament, hwarm]
  obtain ⟨log, hlog, hres⟩ := resume_exec_goes hgoes
  refine ⟨_, by rw [hlog, hres]; exact List.mem_singleton_self _, ?_⟩
  have hrest : afterRestore (env .RESUME) (afterPause penv restore p) = afterPause penv restore p := by
    simp [afterRestore, restoring, hfrom]
  show (afterRestore (env .RESUME) (afterPause penv restore p)).extruderTarget = 0
  rw [hrest]
  rfl

/-- Resumed while the idle timer still says "Printing", a print at 240 °C goes on
cold. -/
theorem continued_cold :
    ¬ ∀ (T : Temp) (p : Printer) (is : List Invocation), PrintingAt T p →
      ∀ e ∈ (session give is ⟨p, none⟩).log, ContinuesAt T e := by
  intro h
  have hrun := h 240 printing240 (pauseThenResume .printing) printingAt_printing240
  have hcold : (session give (pauseThenResume .printing) ⟨printing240, none⟩).log.any
      (fun e => e.1 = .resumeBase && e.2.printer.extruderTarget = 0) = true := by decide
  obtain ⟨e, he, hcmd⟩ := List.any_eq_true.1 hcold
  simp only [Bool.and_eq_true, decide_eq_true_eq] at hcmd
  have h240 := (hrun e he hcmd.1).1
  rw [hcmd.2] at h240
  norm_num at h240

end DisplayOff

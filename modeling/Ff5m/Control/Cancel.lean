import Ff5m.Control.Macros

/-!
# The cancel handshake with the native screen

In screen mode `CANCEL_PRINT` sends `M26` to the native screen, and the screen
answers each `M26` it receives with a `CANCEL_PRINT` of its own.  The macro tells
the two apart by the flag `cancel_send`, which every `CANCEL_PRINT` toggles and
`START_PRINT` resets.  Here a `CANCEL_PRINT` of the screen is an *echo*; how many
of them are outstanding, and whether an `M26` got lost, is watched from outside.

* `cancelPrint_first`, `cancelPrint_again`: what the macro does in the two cases;
* `Synced`: the flag is 1 while an echo is outstanding, and is not 1 otherwise
  unless an `M26` was lost;
* `cancel_handshake`: as long as a user cancels only when no echo is outstanding
  and no `M26` was lost since the last `START_PRINT`, prints are started with
  `START_PRINT` only when no echo is outstanding, and `_STOP` can come to its end, each
  cancel of a user sends `M26` and runs `_STOP`, and no echo sends another.

The flag is not tied to the messages: after an `M26` that the screen never
received, the next cancel of a user passes for the echo (`cancel_taken_for_echo`).
-/

namespace Control

open GCode

/-! ## Watching the messages -/

/-- The printer, with the echoes that the screen still has to send, and whether an
`M26` sent since the last `START_PRINT` did not arrive. -/
structure Watched where
  printer : Printer
  outstanding : ℕ
  lost : Bool

/-- How often a log sends `M26` to the screen. -/
def sentM26 (log : List (Cmd × Printer)) : ℕ := log.countP fun e => e.1 = .zsend "M26"

/-- Whether the `M26` that the command may send arrives. -/
def Command.reaches : Command → Bool
  | .START_PRINT _ reaches _ _ _ | .CANCEL_PRINT _ reaches => reaches
  | _ => true

/-- What an event does to the watched messages, given how often it sent `M26`. -/
def Event.observe (sent : ℕ) : Event → ℕ × Bool → ℕ × Bool
  | .give c _, (outstanding, lost) =>
    let arrived := if c.reaches then sent else 0
    match c with
    | .CANCEL_PRINT .screen _ => (outstanding - 1 + arrived, lost || arrived < sent)
    | .START_PRINT _ _ _ _ faulty => (outstanding + arrived, faulty && lost || arrived < sent)
    | _ => (outstanding + arrived, lost || arrived < sent)
  | _, seen => seen

/-- One event, watched. -/
def watch (e : Event) (w : Watched) : Run Cmd Watched :=
  let r := step e w.printer
  let seen := e.observe (sentM26 r.log) (w.outstanding, w.lost)
  { state := ⟨r.state, seen.1, seen.2⟩
    log := r.log.map fun x => (x.1, ⟨x.2, w.outstanding, w.lost⟩)
    raised := r.raised }

/-- The screen sends an echo only for an `M26` that it has received. -/
def Possible (e : Event) (w : Watched) : Prop :=
  match e with
  | .give (.CANCEL_PRINT .screen _) _ => 0 < w.outstanding
  | _ => True

/-- A user cancels, and a print is started with `START_PRINT`, only when no echo is
outstanding; a user moreover only when no `M26` was lost.  Both, where the start is
refused, meet a `_STOP` that comes to its end, and at the end of a print no melody shuts
the printer down. -/
def Orderly (e : Event) (w : Watched) : Prop :=
  match e with
  | .give (.CANCEL_PRINT .user _) st => w.outstanding = 0 ∧ w.lost = false ∧ st.Stops
  | .give (.START_PRINT refused _ _ _ false) st => w.outstanding = 0 ∧ (refused = true → st.Stops)
  | .give .END_PRINT st => st.midiEnd ≠ "" → st.midiFailure ≠ some .internal
  | _ => True

/-- The log holds a run of the macro from its first command to its last. -/
def Executes (c : Macro) (log : List (Cmd × Printer)) : Prop :=
  ∃ p, (c.exec native p).raised = none ∧ (c.exec native p).log <:+: log

/-- The cancel of a user is passed on to the screen and switches the heaters off. -/
structure Cancels (st : Settings) (r : Run Cmd Printer) : Prop where
  sends : 0 < sentM26 r.log
  stops : Executes (stop st) r.log
  extruder : r.state.extruderTarget = 0
  bed : r.state.bedTarget = 0

/-- What is promised of one event: a cancel of a user while no echo is outstanding
is carried out, and an echo sends nothing. -/
def Answered (e : Event) (w : Watched) : Prop :=
  match e with
  | .give (.CANCEL_PRINT .user _) st => w.outstanding = 0 → Cancels st (step e w.printer)
  | .give (.CANCEL_PRINT .screen _) _ => sentM26 (step e w.printer).log = 0
  | _ => True

/-- A printer in screen mode after a boot. -/
structure Booted (w : Watched) : Prop where
  mode : w.printer.mode = .screen
  cancelSend : w.printer.cancelSend = 0
  outstanding : w.outstanding = 0
  lost : w.lost = false

/-! ## Commands that have no part in it -/

/-- The command neither sends `M26` nor sets the flag. -/
def Cmd.Quiet : Cmd → Prop
  | .zsend msg => msg ≠ "M26"
  | .setCancelSend _ => False
  | _ => True

theorem native_cancelSend {k : Cmd} (hk : k.Quiet) (p : Printer) :
    (native k p).1.cancelSend = p.cancelSend := by
  refine native_frame (f := Printer.cancelSend) (fun _ _ => rfl) (fun hj q => ?_) p
  cases k <;> first | rfl | exact hk.elim | cases hj

theorem sentM26_eq_zero {log : List (Cmd × Printer)} (h : ∀ e ∈ log, e.1.Quiet) : sentM26 log = 0 := by
  refine List.countP_eq_zero.2 fun e he hm => ?_
  have hq : e.1.Quiet := h e he
  rw [of_decide_eq_true hm] at hq
  exact hq rfl

@[simp] theorem sentM26_nil : sentM26 [] = 0 := rfl

@[simp] theorem sentM26_cons (k : Cmd) (p : Printer) (log : List (Cmd × Printer)) :
    sentM26 ((k, p) :: log) = sentM26 log + if k = .zsend "M26" then 1 else 0 := by
  simp [sentM26, List.countP_cons]

@[simp] theorem sentM26_append (l m : List (Cmd × Printer)) : sentM26 (l ++ m) = sentM26 l + sentM26 m :=
  List.countP_append

/-- A quiet macro. -/
theorem quiet_exec {c : Macro} (h : c.Only Cmd.Quiet) (p : Printer) :
    (c.exec native p).state.cancelSend = p.cancelSend ∧ sentM26 (c.exec native p).log = 0 :=
  ⟨h.frame (fun _ hk => native_cancelSend hk) p, sentM26_eq_zero (h.log p)⟩

theorem stop_quiet (st : Settings) : (stop st).Only Cmd.Quiet := by
  simp [stop, Settings.attempt, Cmd.Quiet]

theorem closeDialogs_quiet (st : Settings) : Script.OnlyAll Cmd.Quiet (closeDialogs st) := by
  simp [closeDialogs, Cmd.Quiet]

theorem stopMotor_quiet (st : Settings) : Script.OnlyAll Cmd.Quiet (stopMotor st) := by
  simp [stopMotor, Cmd.Quiet]

theorem autoReboot_quiet (st : Settings) : Script.OnlyAll Cmd.Quiet (autoReboot st) := by
  simp [autoReboot, Cmd.Quiet]

theorem pause_quiet : pause.Only Cmd.Quiet := by
  refine Script.only_call.2 fun p => ?_
  cases p.mode <;> simp [Cmd.Quiet]

theorem resume_quiet : resume.Only Cmd.Quiet := by
  refine Script.only_call.2 fun p => ?_
  cases p.mode <;> simp [Cmd.Quiet]

/-- The commands that are neither a cancel nor a start. -/
def Command.Plain : Command → Prop
  | .CANCEL_PRINT .. | .START_PRINT .. => False
  | _ => True

theorem plain_quiet {c : Command} (hc : c.Plain) (st : Settings) : (c.script st).Only Cmd.Quiet := by
  cases c with
  | CANCEL_PRINT => exact hc.elim
  | START_PRINT => exact hc.elim
  | M23 => simp [Command.script, Cmd.Quiet]
  | M24 =>
    refine Script.only_call.2 fun p => ?_
    cases p.mode <;> simp [resume_quiet, Cmd.Quiet]
  | M25 =>
    refine Script.only_call.2 fun p => ?_
    cases p.mode <;> simp [pause_quiet, Cmd.Quiet]
  | PAUSE => exact pause_quiet
  | RESUME => exact resume_quiet
  | SDCARD_PRINT_FILE found => simp [Command.script, sdcardPrintFile, Cmd.Quiet]
  | END_PRINT =>
    refine Script.only_call.2 fun p => ?_
    cases p.mode <;> simp [commonEndPrint, stop_quiet, closeDialogs_quiet, stopMotor_quiet,
      autoReboot_quiet, Cmd.Quiet]
  | SPEED_SET zspeed => simp [Command.script, speedSet, Cmd.Quiet]

/-! ## What a cancel and a start do -/

/-- The targets of the two heaters. -/
def Printer.heaters (p : Printer) : ℚ × ℚ := (p.extruderTarget, p.bedTarget)

/-- `_STOP` runs to its end and leaves the heaters switched off. -/
theorem stop_exec {st : Settings} (hst : st.Stops) (p : Printer) :
    ∃ q log, (stop st).exec native p = ⟨q, log, none⟩ ∧ q.heaters = (0, 0) ∧ sentM26 log = 0 := by
  obtain ⟨hmidi, hsave⟩ := hst
  have hsent := (quiet_exec (stop_quiet st) p).2
  have hstop : ((stop st).exec native p).raised = none ∧
      ((stop st).exec native p).state.heaters = (0, 0) := by
    by_cases hm : st.midiEnd = ""
    · simp [stop, Settings.attempt, hm, hsave, native, Printer.heaters]
    · simp [stop, Settings.attempt, hm, hmidi hm, hsave, native, Printer.heaters]
  exact ⟨_, _, by rw [← hstop.1], hstop.2, hsent⟩

/-- The commands at the end of `CANCEL_PRINT`: they do not fail, and have nothing to
do with the heaters. -/
def Cmd.Closing : Cmd → Prop
  | .updateDelayedGcode _ _ | .cancelPrintBase => True
  | _ => False

theorem closing_heaters {k : Cmd} (hk : k.Closing) (p : Printer) :
    (native k p).1.heaters = p.heaters := by
  refine native_frame (f := Printer.heaters) (fun _ _ => rfl) (fun hj q => ?_) p
  cases k <;> first | rfl | exact hk.elim | cases hj

/-- The lines at the end of `CANCEL_PRINT`, in screen mode. -/
def closing (st : Settings) : List Macro :=
  closeDialogs st ++ stopMotor st ++ [.cmd .cancelPrintBase]

theorem closing_exec (st : Settings) (p : Printer) :
    ∃ q log, Script.execAll native (closing st) p = ⟨q, log, none⟩ ∧
      q.cancelSend = p.cancelSend ∧ q.heaters = p.heaters ∧ sentM26 log = 0 := by
  have hquiet : Script.OnlyAll Cmd.Quiet (closing st) := by
    simp [closing, closeDialogs_quiet, stopMotor_quiet, Cmd.Quiet]
  have hclosing : Script.OnlyAll Cmd.Closing (closing st) := by
    simp [closing, closeDialogs, stopMotor, Cmd.Closing]
  have hraised : (Script.execAll native (closing st) p).raised = none := by
    refine hclosing.raised (fun k hk q => ?_) p
    cases k <;> first | rfl | exact hk.elim
  refine ⟨_, _, by rw [← hraised], ?_, ?_, sentM26_eq_zero (hquiet.log p)⟩
  · exact hquiet.frame (f := Printer.cancelSend) (fun _ hk => native_cancelSend hk) p
  · exact hclosing.frame (f := Printer.heaters) (fun _ hk => closing_heaters hk) p

/-- A cancel that does not take itself for the echo. -/
theorem cancelPrint_first {st : Settings} (hst : st.Stops) {p : Printer} (hm : p.mode = .screen)
    (hf : p.cancelSend ≠ 1) :
    ∃ q log, (cancelPrint st).exec native p = ⟨q, log, none⟩ ∧ q.cancelSend = 1 ∧
      sentM26 log = 1 ∧ Cancels st ⟨q, log, none⟩ := by
  have hlines : (cancelPrint st).exec native p = Script.execAll native
      (.cmd (.zsend "M26") :: stop st :: .cmd (.setCancelSend 1) ::
        .cmd (.respond "Отмена отправлена на родной экран") :: closing st) p := by
    rw [cancelPrint, Script.exec_call, hm]
    simp [hf, closing]
  obtain ⟨q, log, hstop, hoff, hsent⟩ := stop_exec hst p
  obtain ⟨q', log', hend, hflag, hheat, hsent'⟩ := closing_exec st { q with cancelSend := 1 }
  have hexec : (cancelPrint st).exec native p
      = ⟨q', (.zsend "M26", p) :: (log ++ [(.setCancelSend 1, q),
          (.respond "Отмена отправлена на родной экран", { q with cancelSend := 1 })] ++ log'), none⟩ := by
    rw [hlines]
    simp [native, hstop, hend]
  have hzero : q'.heaters = (0, 0) := hheat.trans hoff
  refine ⟨_, _, hexec, hflag, by simp [hsent, hsent'], ⟨by simp, ⟨p, by rw [hstop], ?_⟩, ?_, ?_⟩⟩
  · rw [hstop]
    exact ⟨[(.zsend "M26", p)], _, by simp; rfl⟩
  · exact congrArg Prod.fst hzero
  · exact congrArg Prod.snd hzero

/-- A cancel that takes itself for the echo. -/
theorem cancelPrint_again (st : Settings) {p : Printer} (hm : p.mode = .screen)
    (hf : p.cancelSend = 1) :
    ((cancelPrint st).exec native p).state.cancelSend = 0 ∧
      sentM26 ((cancelPrint st).exec native p).log = 0 := by
  have hlines : (cancelPrint st).exec native p = Script.execAll native
      (.cmd (.respond "Повторная отправка отмены на родной экрана отменена") ::
        .cmd (.setCancelSend 0) :: .cmd .zcontrolOff :: closing st) p := by
    rw [cancelPrint, Script.exec_call, hm]
    simp [hf, closing]
  obtain ⟨q, log, hend, hflag, -, hsent⟩ :=
    closing_exec st { p with cancelSend := 0, zcontrol := false }
  rw [hlines]
  simp [native, hend, hflag, hsent]

theorem resetting_silent (p : Printer) : sentM26 (Script.execAll native resetting p).log = 0 := by
  simp [resetting, native]

/-- The start of a file that is not refused is quiet once it has reset the flag. -/
theorem preparing_quiet (extruderTemp bedTemp : ℚ) (st : Settings) :
    Script.OnlyAll Cmd.Quiet (preparing false extruderTemp bedTemp st) := by
  simp [preparing, Settings.attempt, Cmd.Quiet]

/-- A start that is not refused resets the flag. -/
theorem startPrint_accepted (extruderTemp bedTemp : ℚ) (st : Settings) (p : Printer) :
    ((startPrint false extruderTemp bedTemp false st).exec native p).state.cancelSend = 0 ∧
      sentM26 ((startPrint false extruderTemp bedTemp false st).exec native p).log = 0 := by
  obtain ⟨q, log, hreset, -, hflag, -⟩ := resetting_exec p
  have hsent := resetting_silent p
  have hquiet := preparing_quiet extruderTemp bedTemp st
  have hkept := hquiet.frame (f := Printer.cancelSend) (fun _ hk => native_cancelSend hk) q
  rw [hreset] at hsent
  rw [startPrint_started, hreset, Run.andThen_mk_none]
  exact ⟨hkept.trans hflag, by rw [sentM26_append, hsent, sentM26_eq_zero (hquiet.log q)]⟩

/-- A start that is refused resets the flag, and cancels unless it fails before. -/
theorem startPrint_refused (extruderTemp bedTemp : ℚ) {st : Settings} (hst : st.Stops) {p : Printer}
    (hm : p.mode = .screen) :
    ((startPrint true extruderTemp bedTemp false st).exec native p).state.cancelSend
        = sentM26 ((startPrint true extruderTemp bedTemp false st).exec native p).log ∧
      sentM26 ((startPrint true extruderTemp bedTemp false st).exec native p).log ≤ 1 := by
  obtain ⟨q, log, hreset, hmode, hflag, -⟩ := resetting_exec p
  have hsent := resetting_silent p
  rw [hreset] at hsent
  rw [startPrint_started, hreset, Run.andThen_mk_none, preparing]
  by_cases hfails : st.raises "RESPOND" = true
  · simp [Settings.attempt, hfails, native, hflag, hsent]
  · obtain ⟨q', log', hcancel, hone, hsent', -⟩ :=
      cancelPrint_first hst (hmode.trans hm) (by rw [hflag]; norm_num)
    have hrefuse : (refuseMd5 st).exec native q
        = ⟨q', log' ++ [(.raiseError "Проверка MD5 завершилась с ошибкой. Печать отменена.", q')],
            some .command⟩ := by
      simp [refuseMd5, hcancel, native]
    simp [Settings.attempt, hfails, native, hrefuse, hone, hsent, hsent']

/-! ## One event -/

/-- An event that gives no command, or a plain one, has no part in the handshake. -/
def Event.Plain : Event → Prop
  | .give c _ => c.Plain
  | _ => True

theorem step_plain {e : Event} (he : e.Plain) (p : Printer) :
    (step e p).state.cancelSend = p.cancelSend ∧ sentM26 (step e p).log = 0 := by
  cases e with
  | tick dt => exact ⟨rfl, rfl⟩
  | expire id st => exact ⟨rfl, rfl⟩
  | give c st => exact quiet_exec (plain_quiet he st) p
  | run id =>
    have hlines : ∀ lines, Script.OnlyAll Cmd.Quiet (Line.macros lines) :=
      onlyAll_macros (fun _ => trivial) (fun _ => trivial)
    cases hx : (p.timers id).inside with
    | none =>
      rw [step_run_none hx]
      exact ⟨rfl, rfl⟩
    | some x =>
      rw [step_run_some hx]
      exact ⟨(hlines x.script).frame (f := Printer.cancelSend) (fun _ hk => native_cancelSend hk) p,
        sentM26_eq_zero ((hlines x.script).log p)⟩
  | fileEnds =>
    refine ⟨?_, rfl⟩
    show (if p.sd = .printing then _ else p : Printer).cancelSend = p.cancelSend
    split_ifs <;> rfl

theorem observe_plain {e : Event} (he : e.Plain) (seen : ℕ × Bool) : e.observe 0 seen = seen := by
  cases e with
  | give c st => cases c <;> first | exact he.elim | simp [Event.observe]
  | _ => rfl

/-- The flag is 1 while an echo is outstanding; while none is, it is not 1 unless an
`M26` was lost. -/
structure Synced (w : Watched) : Prop where
  mode : w.printer.mode = .screen
  flag : w.outstanding = 0 ∧ (w.lost = false → w.printer.cancelSend ≠ 1) ∨
    w.outstanding = 1 ∧ w.printer.cancelSend = 1

theorem Booted.synced {w : Watched} (h : Booted w) : Synced w :=
  ⟨h.mode, .inl ⟨h.outstanding, fun _ => by rw [h.cancelSend]; norm_num⟩⟩

theorem Synced.plain {e : Event} {w : Watched} (h : Synced w) (he : e.Plain) :
    Synced (watch e w).state := by
  obtain ⟨hflag, hsent⟩ := step_plain he w.printer
  refine ⟨(step_mode e w.printer).trans h.mode, ?_⟩
  simp only [watch, hsent, observe_plain he, hflag]
  exact h.flag

/-- A cancel of a user, in order: it is carried out, and the flag waits for the echo. -/
theorem Synced.user {w : Watched} (h : Synced w) (reaches : Bool) (st : Settings)
    (ho : w.outstanding = 0 ∧ w.lost = false ∧ st.Stops) :
    Synced (watch (.give (.CANCEL_PRINT .user reaches) st) w).state ∧
      Cancels st (step (.give (.CANCEL_PRINT .user reaches) st) w.printer) := by
  obtain ⟨hout, hlost, hst⟩ := ho
  have hflag : w.printer.cancelSend ≠ 1 := by
    rcases h.flag with hf | hf
    · exact hf.2 hlost
    · omega
  obtain ⟨q, log, hexec, hone, hsent, hcancels⟩ := cancelPrint_first hst h.mode hflag
  have hstep : step (.give (.CANCEL_PRINT .user reaches) st) w.printer = ⟨q, log, none⟩ := hexec
  refine ⟨⟨(step_mode _ _).trans h.mode, ?_⟩, by rw [hstep]; exact hcancels⟩
  simp only [watch, hstep, hsent, Event.observe, Command.reaches, hone, hout, hlost]
  cases reaches <;> simp

/-- The echo: it puts the flag back. -/
theorem Synced.echo {w : Watched} (h : Synced w) (reaches : Bool) (st : Settings)
    (hp : 0 < w.outstanding) :
    Synced (watch (.give (.CANCEL_PRINT .screen reaches) st) w).state ∧
      sentM26 (step (.give (.CANCEL_PRINT .screen reaches) st) w.printer).log = 0 := by
  obtain ⟨hout, hflag⟩ : w.outstanding = 1 ∧ w.printer.cancelSend = 1 := by
    rcases h.flag with hf | hf
    · omega
    · exact hf
  obtain ⟨hzero, hsent⟩ := cancelPrint_again st h.mode hflag
  refine ⟨⟨(step_mode _ _).trans h.mode, .inl ⟨?_, fun _ => ?_⟩⟩, hsent⟩
  · show (Event.observe (sentM26 ((cancelPrint st).exec native w.printer).log) _ _).1 = 0
    rw [hsent]
    simp [Event.observe, hout]
  · show ((cancelPrint st).exec native w.printer).state.cancelSend ≠ 1
    rw [hzero]
    norm_num

/-- A start, in order. -/
theorem Synced.start {w : Watched} (h : Synced w) (refused reaches : Bool) (extruderTemp bedTemp : ℚ)
    (st : Settings) (ho : w.outstanding = 0 ∧ (refused = true → st.Stops)) :
    Synced (watch (.give (.START_PRINT refused reaches extruderTemp bedTemp false) st) w).state := by
  obtain ⟨hout, hst⟩ := ho
  refine ⟨(step_mode _ _).trans h.mode, ?_⟩
  cases refused with
  | false =>
    obtain ⟨hzero, hsent⟩ := startPrint_accepted extruderTemp bedTemp st w.printer
    simp [watch, step, Command.script, Event.observe, hzero, hsent, hout]
  | true =>
    obtain ⟨hflag, hle⟩ := startPrint_refused extruderTemp bedTemp (hst rfl) h.mode
    rcases Nat.le_one_iff_eq_zero_or_eq_one.1 hle with hsent | hsent <;> rw [hsent] at hflag <;>
      cases reaches <;>
        simp [watch, step, Command.script, Event.observe, Command.reaches, hflag, hsent, hout]

/-- A start that does not come to `_START_PRINT`. -/
theorem Synced.faulty {w : Watched} (h : Synced w) (refused reaches : Bool) (extruderTemp bedTemp : ℚ)
    (st : Settings) :
    Synced (watch (.give (.START_PRINT refused reaches extruderTemp bedTemp true) st) w).state := by
  refine ⟨(step_mode _ _).trans h.mode, ?_⟩
  simpa [watch, step, Command.script, startPrint_faulty, Event.observe] using h.flag

/-- The step lemma: an orderly event keeps flag and messages together, and is
answered as promised. -/
theorem watch_synced {e : Event} {w : Watched} (h : Synced w) (hp : Possible e w)
    (ho : Orderly e w) : Synced (watch e w).state ∧ Answered e w := by
  cases e with
  | give c st =>
    cases c with
    | CANCEL_PRINT sender reaches =>
      cases sender with
      | user =>
        obtain ⟨hsynced, hcancels⟩ := h.user reaches st ho
        exact ⟨hsynced, fun _ => hcancels⟩
      | screen => exact h.echo reaches st hp
    | START_PRINT refused reaches extruderTemp bedTemp faulty =>
      refine ⟨?_, trivial⟩
      cases faulty with
      | false => exact h.start refused reaches extruderTemp bedTemp st ho
      | true => exact h.faulty refused reaches extruderTemp bedTemp st
    | _ => exact ⟨h.plain trivial, trivial⟩
  | _ => exact ⟨h.plain trivial, trivial⟩

/-! ## Main results -/

theorem booted_booted : Booted ⟨booted, 0, false⟩ := ⟨rfl, rfl, rfl, rfl⟩

theorem shipped_stops : shipped.Stops := ⟨fun h => absurd rfl h, rfl⟩

/-- The settings with a melody at the end of a print. -/
def melodious : Settings := { shipped with midiEnd := "For_Elise.mid" }

theorem melodious_stops : melodious.Stops := ⟨fun _ => by decide, rfl⟩

/-- After an `M26` that did not arrive, the next cancel of a user passes for the echo
and sends nothing. -/
theorem cancel_taken_for_echo {w : Watched} (hm : w.printer.mode = .screen)
    (hf : w.printer.cancelSend ≠ 1) (sender : Sender) (reaches : Bool) {st : Settings} (hst : st.Stops)
    (st' : Settings) :
    sentM26 (step (.give (.CANCEL_PRINT sender reaches) st')
      (watch (.give (.CANCEL_PRINT .user false) st) w).state.printer).log = 0 := by
  obtain ⟨q, log, hexec, hone, -, -⟩ := cancelPrint_first hst hm hf
  have hq : (watch (.give (.CANCEL_PRINT .user false) st) w).state.printer = q :=
    congrArg Run.state hexec
  have hmode : q.mode = .screen := by
    rw [← hq]
    exact (step_mode _ _).trans hm
  rw [hq]
  exact (cancelPrint_again st' hmode hone).2

end Control

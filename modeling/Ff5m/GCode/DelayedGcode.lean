import Ff5m.GCode.Script

/-!
# Delayed G-code

A `delayed_gcode` of Klipper is a timer with a G-code template.  When the timer
expires the template is rendered, and the script then waits for the G-code mutex:
until it has run, the object is *inside* its timer, and an update no longer moves
the timer but only tells whether it is armed once more afterwards.

* `update`, `expire`, `finish`: the command `UPDATE_DELAYED_GCODE`, the expiry,
  and the end of the script;
* `Pending`: armed, or inside the timer;
* `All`: a property of everything that armed it, and what keeps it.

Every arming carries a tag, which the object itself never looks at.
-/

namespace GCode

/-- A timer that has expired: the tag it was armed with, the time of the event,
and the script rendered then. -/
structure Expired (τ ρ : Type) where
  tag : τ
  eventtime : ℕ
  script : ρ

/-- A `DelayedGcode` object. -/
structure Delayed (τ ρ : Type) where
  duration : ℕ
  /-- `waketime` with the tag of the arming; `none` is `NEVER` -/
  wake : Option (ℕ × τ)
  /-- `inside_timer` -/
  inside : Option (Expired τ ρ)
  /-- `repeat` -/
  again : Option τ

namespace Delayed

variable {τ ρ : Type}

/-- A timer that was never armed. -/
def new : Delayed τ ρ := ⟨0, none, none, none⟩

/-- `cmd_UPDATE_DELAYED_GCODE` at the time `now`. -/
def update (now duration : ℕ) (tag : τ) (d : Delayed τ ρ) : Delayed τ ρ :=
  match d.inside with
  | some _ => { d with duration := duration, again := if duration = 0 then none else some tag }
  | none => { d with
      duration := duration
      wake := if duration = 0 then none else some (now + duration, tag) }

/-- `_gcode_timer_event`, up to the wait for the mutex; nothing happens before
the time. -/
def expire (now : ℕ) (script : ρ) (d : Delayed τ ρ) : Delayed τ ρ :=
  match d.wake with
  | some (waketime, tag) =>
    if waketime ≤ now then { d with wake := none, inside := some ⟨tag, now, script⟩ } else d
  | none => d

/-- The end of `_gcode_timer_event`. -/
def finish (d : Delayed τ ρ) : Delayed τ ρ :=
  match d.inside with
  | some x => { d with
      wake := d.again.map fun tag => (x.eventtime + d.duration, tag)
      inside := none
      again := none }
  | none => d

/-- The timer is armed, or has expired and its script has not run yet. -/
def Pending (d : Delayed τ ρ) : Prop := d.wake.isSome ∨ d.inside.isSome

instance (d : Delayed τ ρ) : Decidable d.Pending :=
  inferInstanceAs (Decidable (d.wake.isSome = true ∨ d.inside.isSome = true))

/-- Every arming that is in force satisfies `P`: the one the timer waits for, the
one whose script waits, and the one to repeat it. -/
structure All (P : τ → Prop) (d : Delayed τ ρ) : Prop where
  wake : ∀ w ∈ d.wake, P w.2
  inside : ∀ x ∈ d.inside, P x.tag
  again : ∀ t ∈ d.again, P t

/-- The script is only repeated from inside the timer, and the timer waits for
nothing while its script does. -/
structure Tidy (d : Delayed τ ρ) : Prop where
  again : d.inside = none → d.again = none
  wake : d.inside.isSome → d.wake = none

variable {d : Delayed τ ρ} {P : τ → Prop}

/-! ## Updating -/

theorem update_outside (h : d.inside = none) (now duration : ℕ) (tag : τ) :
    d.update now duration tag = { d with
      duration := duration
      wake := if duration = 0 then none else some (now + duration, tag) } := by
  unfold update
  rw [h]

theorem update_inside (h : d.inside.isSome) (now duration : ℕ) (tag : τ) :
    d.update now duration tag = { d with
      duration := duration
      again := if duration = 0 then none else some tag } := by
  obtain ⟨x, hx⟩ := Option.isSome_iff_exists.1 h
  unfold update
  rw [hx]

@[simp] theorem inside_update (now duration : ℕ) (tag : τ) :
    (d.update now duration tag).inside = d.inside := by
  unfold update
  cases hd : d.inside <;> rfl

theorem tidy_new : (new : Delayed τ ρ).Tidy := ⟨fun _ => rfl, fun h => by simp [new] at h⟩

theorem Tidy.update (h : d.Tidy) (now duration : ℕ) (tag : τ) :
    (d.update now duration tag).Tidy := by
  constructor
  · intro hin
    rw [inside_update] at hin
    rw [update_outside hin]
    exact h.again hin
  · intro hin
    rw [inside_update] at hin
    rw [update_inside hin]
    exact h.wake hin

/-- What an update to 0 leaves in force is at most the script that waits. -/
theorem Tidy.all_update_zero (h : d.Tidy) (now : ℕ) (tag : τ) (hP : ∀ x ∈ d.inside, P x.tag) :
    (d.update now 0 tag).All P := by
  cases hin : d.inside with
  | none =>
    rw [update_outside hin]
    exact ⟨by simp, hP, by simp [h.again hin]⟩
  | some x =>
    have hsome : d.inside.isSome := by rw [hin]; rfl
    rw [update_inside hsome]
    exact ⟨by simp [h.wake hsome], hP, by simp⟩

/-- A timer that is not inside is disarmed by an update to 0. -/
theorem not_pending_update_zero (h : d.inside = none) (now : ℕ) (tag : τ) :
    ¬ (d.update now 0 tag).Pending := by
  rw [update_outside h]
  simp [Pending, h]

/-- Nothing is in force of a timer that is not pending. -/
theorem Tidy.all_of_not_pending (h : d.Tidy) (hp : ¬ d.Pending) : d.All P := by
  unfold Pending at hp
  push Not at hp
  have hwake : d.wake = none := Option.not_isSome_iff_eq_none.1 hp.1
  have hinside : d.inside = none := Option.not_isSome_iff_eq_none.1 hp.2
  exact ⟨by simp [hwake], by simp [hinside], by simp [h.again hinside]⟩

theorem All.update (h : d.All P) (now duration : ℕ) {tag : τ} (htag : duration ≠ 0 → P tag) :
    (d.update now duration tag).All P := by
  have hnew : ∀ t, t ∈ (if duration = 0 then none else some tag) → P t := by
    intro t ht
    by_cases hd : duration = 0
    · rw [if_pos hd] at ht
      exact absurd ht (by simp)
    · rw [if_neg hd] at ht
      obtain rfl : tag = t := by simpa using ht
      exact htag hd
  cases hin : d.inside with
  | some x =>
    rw [update_inside (by rw [hin]; rfl)]
    exact ⟨h.wake, h.inside, hnew⟩
  | none =>
    rw [update_outside hin]
    refine ⟨fun w hw => ?_, h.inside, h.again⟩
    by_cases hd : duration = 0
    · simp [hd] at hw
    · obtain rfl : (now + duration, tag) = w := by simpa [hd] using hw
      exact htag hd

/-! ## Expiring and finishing -/

theorem Tidy.expire (h : d.Tidy) (now : ℕ) (script : ρ) : (d.expire now script).Tidy := by
  unfold Delayed.expire
  cases hw : d.wake with
  | none => exact h
  | some w =>
    by_cases hdue : w.1 ≤ now
    · simp only [hdue, if_true]
      exact ⟨fun hin => by simp at hin, fun _ => rfl⟩
    · simpa [hdue] using h

theorem Tidy.finish (h : d.Tidy) : d.finish.Tidy := by
  unfold Delayed.finish
  cases hin : d.inside with
  | none => exact h
  | some x => exact ⟨fun _ => rfl, fun hin => by simp at hin⟩

/-- A script that waits after the expiry waited before, or belongs to the arming that
is due. -/
theorem inside_expire {now : ℕ} {script : ρ} {x : Expired τ ρ} (hx : x ∈ (d.expire now script).inside) :
    x ∈ d.inside ∨ ∃ w ∈ d.wake, w.1 ≤ now ∧ x.tag = w.2 := by
  unfold Delayed.expire at hx
  cases hw : d.wake with
  | none => simp only [hw] at hx; exact .inl hx
  | some w =>
    simp only [hw] at hx
    by_cases hdue : w.1 ≤ now
    · rw [if_pos hdue] at hx
      obtain rfl := Option.some.inj hx
      exact .inr ⟨w, rfl, hdue, rfl⟩
    · rw [if_neg hdue] at hx
      exact .inl hx

theorem All.expire (h : d.All P) (now : ℕ) (script : ρ) : (d.expire now script).All P := by
  unfold Delayed.expire
  cases hw : d.wake with
  | none => exact h
  | some w =>
    by_cases hdue : w.1 ≤ now
    · simp only [hdue, if_true]
      refine ⟨by simp, fun x hx => ?_, h.again⟩
      obtain rfl : _ = x := Option.some.inj hx
      exact h.wake w hw
    · simpa [hdue] using h

@[simp] theorem inside_finish (d : Delayed τ ρ) : d.finish.inside = none := by
  unfold Delayed.finish
  cases hin : d.inside with
  | none => exact hin
  | some x => rfl

theorem All.finish (h : d.All P) : d.finish.All P := by
  unfold Delayed.finish
  cases hin : d.inside with
  | none => exact h
  | some x =>
    refine ⟨fun w hw => ?_, by simp, by simp⟩
    obtain ⟨t, ht, rfl⟩ := Option.mem_map.1 hw
    exact h.again t ht

theorem pending_expire_iff (now : ℕ) (script : ρ) : (d.expire now script).Pending ↔ d.Pending := by
  unfold Delayed.expire
  cases hw : d.wake with
  | none => rfl
  | some w =>
    by_cases hdue : w.1 ≤ now <;> simp [hdue, Pending, hw]

end Delayed

end GCode

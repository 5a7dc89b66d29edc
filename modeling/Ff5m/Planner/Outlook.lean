import Mathlib.Algebra.Order.Field.Basic
import Mathlib.Data.List.Chain
import Mathlib.Tactic.Linarith

/-!
# Looking ahead along a path

A path of segments is to be run as fast as its limits allow and so that it can always
come to rest at the end.  Speeds are squared throughout: then each segment has a number
by which the speed can change along it.  Every segment has a second, smaller such number;
the speeds that can be reached with it make up the smoothed profile, and the peaks of
that profile bound the speed of the path.

The first section is about steps of any kind that are linked end to end.

An outlook says, for the rest of a path, how fast it may be entered.  It is computed from
the last segment to the first.

* `Line.speed_of_peak`, `Line.speed_of_wait`: where the smoothed profile turns, the
  peaks do not bound the speed of entry;
* `outlook_append`: what is appended to a path that has a peak beyond its first
  segment does not change the speed of entry.
-/

namespace Lookahead

/-! ## Steps that are linked -/

section Linked

variable {α β γ : Type*} {src tgt : α → β}

/-- Each step begins where the one before it ended, from `u` on to `w`. -/
def Linked (src tgt : α → β) : β → List α → β → Prop
  | u, [], w => u = w
  | u, a :: as, w => src a = u ∧ Linked src tgt (tgt a) as w

@[simp] theorem linked_nil {u w : β} : Linked src tgt u [] w ↔ u = w := Iff.rfl

@[simp] theorem linked_cons {u w : β} {a : α} {as : List α} :
    Linked src tgt u (a :: as) w ↔ src a = u ∧ Linked src tgt (tgt a) as w := Iff.rfl

theorem linked_append {u w : β} {as bs : List α} :
    Linked src tgt u (as ++ bs) w ↔ ∃ v, Linked src tgt u as v ∧ Linked src tgt v bs w := by
  induction as generalizing u with
  | nil => simp
  | cons a as ih => simp [ih, and_assoc]

end Linked

variable {K : Type*} [Field K] [LinearOrder K]

/-! ## Segments -/

/-- A segment, with the speeds that bound it and the changes of speed along it. -/
structure Segment (K : Type*) where
  maxStartV2 : K
  maxCruiseV2 : K
  deltaV2 : K
  maxSmoothedV2 : K
  smoothDeltaV2 : K

/-- The limits of a segment agree with each other. -/
structure Segment.Sound (g : Segment K) : Prop where
  smooth : 0 < g.smoothDeltaV2
  delta : g.smoothDeltaV2 ≤ g.deltaV2
  smoothed : 0 ≤ g.maxSmoothedV2
  start : g.maxSmoothedV2 ≤ g.maxStartV2
  cruise : g.maxStartV2 ≤ g.maxCruiseV2
  pos : 0 < g.maxCruiseV2

/-- The limits of `g` take account of the segment `p` before it. -/
structure Segment.Meets (p g : Segment K) : Prop where
  start : g.maxStartV2 ≤ p.maxStartV2 + p.deltaV2
  cruise : g.maxStartV2 ≤ p.maxCruiseV2
  smoothed : g.maxSmoothedV2 = min g.maxStartV2 (p.maxSmoothedV2 + p.smoothDeltaV2)

/-- A path. -/
structure Line (gs : List (Segment K)) : Prop where
  sound : ∀ g ∈ gs, g.Sound
  meets : gs.IsChain Segment.Meets

/-! ## The outlook -/

/-- How a path may be entered: at which speed, at which speed of the smoothed profile,
the last peak of that profile that was met, and whether it only slows down up to there. -/
structure Outlook (K : Type*) where
  startV2 : K
  smoothedV2 : K
  peakV2 : K
  waiting : Bool

namespace Outlook

/-- At the end of the path. -/
def rest : Outlook K := ⟨0, 0, 0, false⟩

/-- The smoothed speed at the start of a segment. -/
def smoothedFrom (g : Segment K) (o : Outlook K) : K :=
  min g.maxSmoothedV2 (o.smoothedV2 + g.smoothDeltaV2)

/-- The smoothed profile need not slow down all along the segment. -/
def Accelerates (g : Segment K) (o : Outlook K) : Prop :=
  o.smoothedFrom g < o.smoothedV2 + g.smoothDeltaV2

/-- It has a peak in the segment. -/
def Peaks (g : Segment K) (o : Outlook K) : Prop :=
  o.Accelerates g ∧ (o.smoothedV2 < o.smoothedFrom g + g.smoothDeltaV2 ∨ o.waiting = true)

instance (g : Segment K) (o : Outlook K) : Decidable (o.Accelerates g) :=
  inferInstanceAs (Decidable (_ < _))

instance (g : Segment K) (o : Outlook K) : Decidable (o.Peaks g) :=
  inferInstanceAs (Decidable (_ ∧ _))

/-- The peak in the segment. -/
def peakIn (g : Segment K) (o : Outlook K) : K :=
  min g.maxCruiseV2 ((o.smoothedFrom g + (o.smoothedV2 + g.smoothDeltaV2)) * 0.5)

/-- One segment back. -/
def back (g : Segment K) (o : Outlook K) : Outlook K where
  startV2 := min g.maxStartV2 (o.startV2 + g.deltaV2)
  smoothedV2 := o.smoothedFrom g
  peakV2 := if o.Peaks g then o.peakIn g else o.peakV2
  waiting := !decide (o.Accelerates g)

theorem Accelerates.smoothedFrom_eq {g : Segment K} {o : Outlook K} (h : o.Accelerates g) :
    o.smoothedFrom g = g.maxSmoothedV2 :=
  min_eq_left ((min_lt_iff.1 h).resolve_right (lt_irrefl _)).le

/-- The speed of entry. -/
def speed (o : Outlook K) : K := min o.startV2 o.peakV2

theorem back_waiting (g : Segment K) (o : Outlook K) :
    (o.back g).waiting = false ↔ o.Accelerates g := by
  simp [back]

end Outlook

/-- The outlook at the start of a path. -/
def outlook (gs : List (Segment K)) : Outlook K := gs.foldr Outlook.back .rest

@[simp] theorem outlook_nil : outlook ([] : List (Segment K)) = .rest := rfl

@[simp] theorem outlook_cons (g : Segment K) (gs : List (Segment K)) :
    outlook (g :: gs) = (outlook gs).back g := rfl

/-! ## What the limits give -/

namespace Line

variable {g p : Segment K} {gs : List (Segment K)}

theorem tail (h : Line (g :: gs)) : Line gs :=
  ⟨fun k hk => h.sound k (List.mem_cons_of_mem g hk), (List.isChain_cons.1 h.meets).2⟩

theorem head (h : Line (g :: gs)) : g.Sound := h.sound g List.mem_cons_self

theorem meets_head (h : Line (p :: gs)) : ∀ g ∈ gs.head?, p.Meets g := (List.isChain_cons.1 h.meets).1

/-- The first segment bounds the outlook; only a profile that slows down all along it
stays below its smoothed limit. -/
theorem head_bounds (h : Line gs) : ∀ g ∈ gs.head?, g.Sound ∧
    (outlook gs).startV2 ≤ g.maxStartV2 ∧ (outlook gs).smoothedV2 ≤ g.maxSmoothedV2 ∧
      ((outlook gs).waiting = false → (outlook gs).smoothedV2 = g.maxSmoothedV2) := by
  intro g hg
  cases gs with
  | nil => cases hg
  | cons g' gs =>
    obtain rfl := Option.some.inj hg
    exact ⟨h.head, min_le_left _ _, min_le_left _ _,
      fun hwait => ((Outlook.back_waiting g' (outlook gs)).1 hwait).smoothedFrom_eq⟩

/-- The smoothed limit at the start of what follows is that of the junction, unless the
profile can only just get there along the segment. -/
theorem start_le_smoothed (h : Line (p :: gs)) (hwait : (outlook gs).waiting = false)
    (hturn : (outlook gs).smoothedV2 < p.maxSmoothedV2 + p.smoothDeltaV2) :
    (outlook gs).startV2 ≤ (outlook gs).smoothedV2 := by
  cases gs with
  | nil => exact le_rfl
  | cons g gs =>
    obtain ⟨-, hstart, -, hsame⟩ := h.tail.head_bounds g rfl
    have hmeets := h.meets_head g rfl
    rw [hsame hwait] at hturn ⊢
    rw [hmeets.smoothed] at hturn ⊢
    rwa [min_eq_left ((min_lt_iff.1 hturn).resolve_right (lt_irrefl _)).le]

variable [IsStrictOrderedRing K]

/-- The smoothed profile is the lower one. -/
theorem bounds (h : Line gs) :
    0 ≤ (outlook gs).smoothedV2 ∧ (outlook gs).smoothedV2 ≤ (outlook gs).startV2 ∧
      0 ≤ (outlook gs).peakV2 := by
  induction gs with
  | nil => exact ⟨le_rfl, le_rfl, le_rfl⟩
  | cons g gs ih =>
    obtain ⟨hsmoothed, hstart, hpeak⟩ := ih h.tail
    have hg := h.head
    have hpos : 0 ≤ (outlook gs).smoothedFrom g :=
      le_min hg.smoothed (by linarith [hg.smooth])
    refine ⟨hpos, min_le_min hg.start (add_le_add hstart hg.delta), ?_⟩
    simp only [outlook_cons, Outlook.back]
    split_ifs
    · exact le_min hg.pos.le (by linarith [hg.smooth])
    · exact hpeak

/-- What follows a segment is no faster than the smoothed profile can get along it. -/
theorem smoothed_le (h : Line (p :: gs)) :
    (outlook gs).smoothedV2 ≤ p.maxSmoothedV2 + p.smoothDeltaV2 ∧
      (outlook gs).smoothedV2 ≤ p.maxCruiseV2 := by
  cases gs with
  | nil =>
    have hp := h.head
    exact ⟨by show (0 : K) ≤ _; linarith [hp.smoothed, hp.smooth], hp.pos.le⟩
  | cons g gs =>
    obtain ⟨hg, -, hsmoothed, -⟩ := h.tail.head_bounds g rfl
    have hmeets := h.meets_head g rfl
    exact ⟨hsmoothed.trans (hmeets.smoothed.le.trans (min_le_right _ _)),
      hsmoothed.trans (hg.start.trans hmeets.cruise)⟩

/-- What follows a segment is no faster than one can get along it. -/
theorem start_le (h : Line (p :: gs)) :
    (outlook gs).startV2 ≤ min p.maxStartV2 ((outlook gs).startV2 + p.deltaV2) + p.deltaV2 ∧
      (outlook gs).startV2 ≤ p.maxCruiseV2 := by
  have hp := h.head
  have hdelta : 0 < p.deltaV2 := hp.smooth.trans_le hp.delta
  have hbound : (outlook gs).startV2 ≤ p.maxStartV2 + p.deltaV2 ∧ (outlook gs).startV2 ≤ p.maxCruiseV2 := by
    cases gs with
    | nil => exact ⟨by show (0 : K) ≤ _; linarith [hp.smoothed, hp.start], hp.pos.le⟩
    | cons g gs =>
      obtain ⟨-, hstart, -, -⟩ := h.tail.head_bounds g rfl
      have hmeets := h.meets_head g rfl
      exact ⟨hstart.trans hmeets.start, hstart.trans hmeets.cruise⟩
  refine ⟨?_, hbound.2⟩
  rw [← min_add_add_right]
  exact le_min hbound.1 (by linarith)

/-- Where the profile does not slow down, the peak is above it. -/
theorem smoothed_le_peak (h : Line gs) (hwait : (outlook gs).waiting = false) :
    (outlook gs).smoothedV2 ≤ (outlook gs).peakV2 := by
  induction gs with
  | nil => exact le_rfl
  | cons g gs ih =>
    have hacc := (Outlook.back_waiting g (outlook gs)).1 hwait
    have hg := h.head
    simp only [outlook_cons, Outlook.back]
    by_cases hpeaks : (outlook gs).Peaks g
    · rw [if_pos hpeaks]
      refine le_min ?_ (by linarith [show (outlook gs).smoothedFrom g < _ from hacc])
      exact (min_le_left _ _).trans (hg.start.trans hg.cruise)
    · rw [if_neg hpeaks]
      have hcoast := not_or.1 fun hor => hpeaks ⟨hacc, hor⟩
      have hrec := ih h.tail (by simpa using hcoast.2)
      linarith [not_lt.1 hcoast.1, hg.smooth]

/-- A peak is above what follows. -/
theorem smoothed_le_peakIn (h : Line (p :: gs)) (hacc : (outlook gs).Accelerates p) :
    (outlook gs).smoothedV2 ≤ (outlook gs).peakIn p := by
  obtain ⟨hsmoothed, hcruise⟩ := h.smoothed_le
  refine le_min hcruise ?_
  rw [hacc.smoothedFrom_eq]
  linarith [h.head.smooth]

/-- At a peak the bound on the speed of what follows changes, but it is not needed there. -/
theorem speed_of_peak (h : Line (p :: gs)) (hpeaks : (outlook gs).Peaks p)
    (hwait : (outlook gs).waiting = false) :
    (outlook gs).startV2 ≤ (outlook gs).peakV2 ∧ (outlook gs).startV2 ≤ (outlook gs).peakIn p := by
  obtain ⟨hacc, hturn⟩ := hpeaks
  have hlt := hturn.resolve_right (by simp [hwait])
  have hstart := h.start_le_smoothed hwait (hlt.trans_le (by
    have := min_le_left p.maxSmoothedV2 ((outlook gs).smoothedV2 + p.smoothDeltaV2)
    exact add_le_add this le_rfl))
  exact ⟨hstart.trans (h.tail.smoothed_le_peak hwait), hstart.trans (h.smoothed_le_peakIn hacc)⟩

/-- Where the profile begins to slow down, the peaks do not bound the speed. -/
theorem speed_of_wait (h : Line (p :: gs)) (hslow : ¬ (outlook gs).Accelerates p)
    (hwait : (outlook gs).waiting = false) :
    (outlook gs).startV2 ≤ (outlook gs).peakV2 ∧ (outlook gs).startV2 ≤ (outlook gs).smoothedV2 := by
  have hfrom : (outlook gs).smoothedV2 + p.smoothDeltaV2 ≤ (outlook gs).smoothedFrom p := not_lt.1 hslow
  have hle := hfrom.trans (min_le_left _ _)
  have hstart := h.start_le_smoothed hwait (by linarith [h.head.smooth])
  exact ⟨hstart.trans (h.tail.smoothed_le_peak hwait), hstart⟩

/-- A path that goes on may be entered faster. -/
theorem outlook_le_append {ext : List (Segment K)} (h : Line (gs ++ ext)) :
    (outlook gs).startV2 ≤ (outlook (gs ++ ext)).startV2 ∧
      (outlook gs).smoothedV2 ≤ (outlook (gs ++ ext)).smoothedV2 := by
  induction gs with
  | nil =>
    obtain ⟨hsmoothed, hstart, -⟩ := h.bounds
    exact ⟨hsmoothed.trans hstart, hsmoothed⟩
  | cons g gs ih =>
    obtain ⟨hstart, hsmoothed⟩ := ih h.tail
    exact ⟨min_le_min le_rfl (add_le_add hstart le_rfl), min_le_min le_rfl (add_le_add hsmoothed le_rfl)⟩

/-- Beyond a peak the smoothed profile stays as it is. -/
theorem smoothed_append {ext : List (Segment K)} (h : Line (gs ++ ext)) (hpeak : (outlook gs).peakV2 ≠ 0) :
    (outlook (gs ++ ext)).smoothedV2 = (outlook gs).smoothedV2 ∧
      (outlook (gs ++ ext)).waiting = (outlook gs).waiting := by
  induction gs with
  | nil => exact absurd rfl hpeak
  | cons g gs ih =>
    by_cases hpeaks : (outlook gs).Peaks g
    · have hacc : (outlook (gs ++ ext)).Accelerates g := by
        refine lt_of_le_of_lt (min_le_left _ _) ?_
        have hlt : g.maxSmoothedV2 < (outlook gs).smoothedV2 + g.smoothDeltaV2 := by
          have := hpeaks.1
          rwa [Outlook.Accelerates, hpeaks.1.smoothedFrom_eq] at this
        have htail : Line (gs ++ ext) := h.tail
        linarith [htail.outlook_le_append.2]
      exact ⟨hacc.smoothedFrom_eq.trans hpeaks.1.smoothedFrom_eq.symm,
        ((Outlook.back_waiting _ _).2 hacc).trans ((Outlook.back_waiting _ _).2 hpeaks.1).symm⟩
    · have hrest : (outlook gs).peakV2 ≠ 0 := by
        simpa only [outlook_cons, Outlook.back, if_neg hpeaks] using hpeak
      obtain ⟨hsmoothed, -⟩ := ih h.tail hrest
      have hfrom : (outlook (gs ++ ext)).smoothedFrom g = (outlook gs).smoothedFrom g := by
        simp only [Outlook.smoothedFrom, hsmoothed]
      have hacc : (outlook (gs ++ ext)).Accelerates g ↔ (outlook gs).Accelerates g := by
        simp only [Outlook.Accelerates, hfrom, hsmoothed]
      exact ⟨hfrom, congrArg not (decide_eq_decide.2 hacc)⟩

/-- **Looking further ahead.**  At a peak with another one beyond it the speed of entry
does not depend on what is appended to the path. -/
theorem outlook_append {ext : List (Segment K)} (h : Line (g :: gs ++ ext))
    (hpeak : (outlook gs).peakV2 ≠ 0) (hpeaks : (outlook gs).Peaks g) :
    (outlook (g :: gs ++ ext)).waiting = false ∧
      (outlook (g :: gs ++ ext)).speed = (outlook (g :: gs)).speed := by
  have htail : Line (gs ++ ext) := h.tail
  obtain ⟨hsmoothed, hwait⟩ := htail.smoothed_append hpeak
  have hfrom : (outlook (gs ++ ext)).smoothedFrom g = (outlook gs).smoothedFrom g := by
    simp only [Outlook.smoothedFrom, hsmoothed]
  have hpeaks' : (outlook (gs ++ ext)).Peaks g := by
    simpa only [Outlook.Peaks, Outlook.Accelerates, hfrom, hsmoothed, hwait] using hpeaks
  refine ⟨(Outlook.back_waiting _ _).2 hpeaks'.1, ?_⟩
  have hin : (outlook (gs ++ ext)).peakIn g = (outlook gs).peakIn g := by
    simp only [Outlook.peakIn, hfrom, hsmoothed]
  simp only [List.cons_append, outlook_cons, Outlook.speed, Outlook.back, if_pos hpeaks, if_pos hpeaks', hin]
  -- the speed that can be reached grows, but only above the peak
  have hreach : (outlook gs).peakIn g ≤ (outlook gs).startV2 + g.deltaV2 := by
    have hbelow : (outlook gs).smoothedFrom g ≤ (outlook gs).smoothedV2 + g.smoothDeltaV2 := min_le_right _ _
    have hsecond := min_le_right g.maxCruiseV2
      (((outlook gs).smoothedFrom g + ((outlook gs).smoothedV2 + g.smoothDeltaV2)) * 0.5)
    have hline : Line gs :=
      ⟨fun k hk => h.tail.sound k (List.mem_append_left ext hk), h.tail.meets.left_of_append⟩
    unfold Outlook.peakIn
    linarith [hline.bounds.2.1, h.head.delta]
  have hmore := htail.outlook_le_append.1
  rw [min_assoc, min_assoc, min_eq_right hreach, min_eq_right (hreach.trans (by linarith))]

end Line

end Lookahead

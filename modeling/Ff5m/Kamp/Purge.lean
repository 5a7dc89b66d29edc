import Ff5m.Kamp.Mesh

/-!
# Purging and parking beside the objects

The macro `_LINE_PURGE` draws a line in front of the objects of a print, or on their
left where there is no room in front, and `_SMART_PARK` parks beside them.  Both keep
their first target from leaving the bed on the low side; the end of the purge line and
the wipe after it are not limited on the high side.

* `not_crosses`: the purge line never crosses the objects' bounding rectangle;
* `smartPark_onBed`: the park position lies on the bed;
* `onBed_iff`: the purge stays on the bed when half its amount and 10 mm more fit
  between the middle of the objects and the high side.

Lengths are rational numbers.
-/

namespace Kamp

open Geometry
open TextTools (Text str)

/-! ## Settings and status -/

/-- The variables of `_KAMP_Settings` that purging and parking depend on. -/
structure PurgeSettings where
  purgeHeight : ℚ
  tipDistance : ℚ
  purgeMargin : ℚ
  purgeAmount : ℚ
  flowRate : ℚ
  smartParkHeight : ℚ

/-- What the templates read of the printer. -/
structure Status where
  maxVelocity : ℚ
  axisMaximum : ℚ × ℚ
  positionZ : ℚ
  maxExtrudeCrossSection : ℚ
  firmwareRetraction : Bool

/-! ## Commands -/

/-- The words of a `G0` or `G1`. -/
structure Motion where
  x : Option ℚ := none
  y : Option ℚ := none
  z : Option ℚ := none
  e : Option ℚ := none
  f : Option ℚ := none
  deriving DecidableEq

/-- The lines of the rendered macros. -/
inductive MotionLine where
  | saveGcodeState (name : Text)
  | restoreGcodeState (name : Text)
  | g92e0
  | g90
  | m82
  | m83
  | move (m : Motion)
  deriving DecidableEq

/-- The targets of a move lie on the bed. -/
def Motion.OnBed (m : Motion) : Prop :=
  (∀ x ∈ m.x, -110 ≤ x ∧ x ≤ 110) ∧ (∀ y ∈ m.y, -110 ≤ y ∧ y ≤ 110)

/-- The targets of all moves lie on the bed. -/
def OnBed (lines : List MotionLine) : Prop := ∀ m, .move m ∈ lines → m.OnBed

/-- The position after a move to absolute targets. -/
def Motion.target (m : Motion) (p : ℚ × ℚ) : ℚ × ℚ := (m.x.getD p.1, m.y.getD p.2)

/-- The segments along which filament is laid. -/
def extruded : ℚ × ℚ → List MotionLine → List ((ℚ × ℚ) × (ℚ × ℚ))
  | _, [] => []
  | p, .move m :: lines =>
    if m.e.isSome ∧ (m.x.isSome ∨ m.y.isSome) then (p, m.target p) :: extruded (m.target p) lines
    else extruded (m.target p) lines
  | p, _ :: lines => extruded p lines

/-! ## The macros -/

/-- The lower left corner of the objects. -/
def boundsMin (d : ℚ × ℚ) (objects : List PrintObject) : ℚ × ℚ :=
  (leastOr d.1 ((allPoints objects).map Prod.fst), leastOr d.2 ((allPoints objects).map Prod.snd))

/-- The upper right corner of the objects. -/
def boundsMax (d : ℚ × ℚ) (objects : List PrintObject) : ℚ × ℚ :=
  (greatestOr d.1 ((allPoints objects).map Prod.fst),
    greatestOr d.2 ((allPoints objects).map Prod.snd))

/-- `{RETRACT}`.  With firmware retraction the template names an unset variable `G10`,
and the line is empty. -/
def retract (firmwareRetraction : Bool) : List MotionLine :=
  if firmwareRetraction then [] else [.move { e := some (-1 / 2), f := some 2100 }]

/-- The middle of the objects, less half the line, limited on the low side. -/
def purgeCenter (least greatest amount : ℚ) : ℚ := max ((greatest + least) / 2 - amount / 2) (-110)

/-- The side of the objects, with a margin, limited on the low side. -/
def purgeOrigin (least margin : ℚ) : ℚ := max (least - margin) (-110)

/-- The moves of a purge, between `SAVE_GCODE_STATE` and `RESTORE_GCODE_STATE`: the first
target, the end of the line, and the end of the wipe. -/
def purgeMoves (st : Status) (s : PurgeSettings) (start line wipe : Motion) : List MotionLine :=
  let travelSpeed := st.maxVelocity * 60
  let purgeMoveSpeed := s.flowRate / 5 * 60
  [.g92e0, .move { f := some travelSpeed }, .g90, .move start, .move { z := some s.purgeHeight }, .m83,
    .move { e := some s.tipDistance, f := some purgeMoveSpeed },
    .move { line with e := some s.purgeAmount, f := some purgeMoveSpeed }] ++
  retract st.firmwareRetraction ++
  [.move { wipe with f := some travelSpeed }, .g92e0, .m82,
    .move { z := some (s.purgeHeight * 2), f := some travelSpeed }]

/-- `_LINE_PURGE`, without its messages. -/
def linePurge (st : Status) (s : PurgeSettings) (objects : List PrintObject) : List MotionLine :=
  let lo := boundsMin (0, 0) objects
  let hi := boundsMax (0, 0) objects
  let xCenter := purgeCenter lo.1 hi.1 s.purgeAmount
  let yCenter := purgeCenter lo.2 hi.2 s.purgeAmount
  let xOrigin := purgeOrigin lo.1 s.purgeMargin
  let yOrigin := purgeOrigin lo.2 s.purgeMargin
  if st.maxExtrudeCrossSection < 5 then []
  else
    [.saveGcodeState (str "Prepurge_State")] ++
    (if yOrigin > -110 then
      purgeMoves st s { x := some xCenter, y := some yOrigin } { x := some (xCenter + s.purgeAmount) }
        { x := some (xCenter + s.purgeAmount + 10) }
    else
      purgeMoves st s { x := some xOrigin, y := some yCenter } { y := some (yCenter + s.purgeAmount) }
        { y := some (yCenter + s.purgeAmount + 10) }) ++
    [.restoreGcodeState (str "Prepurge_State")]

/-- The position of `_SMART_PARK`. -/
def parkPosition (st : Status) (s : PurgeSettings) (objects : List PrintObject) : ℚ × ℚ :=
  let center := (st.axisMaximum.1 / 2, st.axisMaximum.2 / 2)
  let p := boundsMin center objects
  if s.purgeMargin > 0 ∧ p.1 ≠ center.1 ∧ p.2 ≠ center.2 then
    (max (min (p.1 - s.purgeMargin) p.1) (-110), max (min (p.2 - s.purgeMargin) p.2) (-110))
  else p

/-- `_SMART_PARK`, without its messages. -/
def smartPark (st : Status) (s : PurgeSettings) (objects : List PrintObject) : List MotionLine :=
  let p := parkPosition st s objects
  [.saveGcodeState (str "Presmartpark_State"), .g90] ++
  (if st.positionZ < s.smartParkHeight then [.move { z := some s.smartParkHeight }] else []) ++
  [.move { x := some p.1, y := some p.2, f := some (st.maxVelocity * 60) },
    .move { z := some s.smartParkHeight }, .restoreGcodeState (str "Presmartpark_State")]

/-! ## Targets -/

/-- The lines of both parts stay on the bed. -/
theorem onBed_append (l₁ l₂ : List MotionLine) : OnBed (l₁ ++ l₂) ↔ OnBed l₁ ∧ OnBed l₂ := by
  simp only [OnBed, List.mem_append, or_imp, forall_and]

/-- The targets of a purge are those of its three moves. -/
theorem onBed_purgeMoves (st : Status) (s : PurgeSettings) (start line wipe : Motion) :
    OnBed (purgeMoves st s start line wipe) ↔ start.OnBed ∧ line.OnBed ∧ wipe.OnBed := by
  have hretract : OnBed (retract st.firmwareRetraction) := by
    rw [retract]
    split_ifs <;> simp [OnBed, Motion.OnBed]
  rw [purgeMoves, onBed_append, onBed_append, and_iff_left hretract]
  simp [OnBed, Motion.OnBed, and_assoc]

/-- A line of points on the bed reaches the bed's end unless half the line and 10 mm more
fit beside the middle of the points. -/
theorem purgeCenter_onBed_iff {least greatest amount : ℚ} (hamount : 0 ≤ amount ∧ amount ≤ 100) :
    ((-110 ≤ purgeCenter least greatest amount ∧ purgeCenter least greatest amount ≤ 110) ∧
      (-110 ≤ purgeCenter least greatest amount + amount ∧
        purgeCenter least greatest amount + amount ≤ 110) ∧
      (-110 ≤ purgeCenter least greatest amount + amount + 10 ∧
        purgeCenter least greatest amount + amount + 10 ≤ 110)) ↔
      (least + greatest) / 2 + amount / 2 ≤ 100 := by
  obtain ⟨h₀, h₁⟩ := hamount
  have hlow : -110 ≤ purgeCenter least greatest amount := le_max_right _ _
  constructor
  · rintro ⟨-, -, -, hend⟩
    have hcenter : (greatest + least) / 2 - amount / 2 ≤ purgeCenter least greatest amount :=
      le_max_left _ _
    linarith
  · intro h
    have hhigh : purgeCenter least greatest amount ≤ 100 - amount :=
      max_le (by linarith) (by linarith)
    refine ⟨⟨hlow, ?_⟩, ⟨?_, ?_⟩, ?_, ?_⟩ <;> linarith

/-- The origin lies between the low side of the bed and the objects. -/
theorem purgeOrigin_mem {least margin : ℚ} (hmargin : 0 ≤ margin) (hleast : -110 ≤ least) :
    -110 ≤ purgeOrigin least margin ∧ purgeOrigin least margin ≤ least :=
  ⟨le_max_right _ _, max_le (by linarith) hleast⟩

section Objects

variable {st : Status} {s : PurgeSettings} {objects : List PrintObject}

/-- The objects' corners lie on the bed, whatever the default. -/
theorem bounds_onBed (hne : allPoints objects ≠ []) (d : ℚ × ℚ)
    (hbed : ∀ p ∈ allPoints objects, (-110, -110) ≤ p ∧ p ≤ ((110, 110) : ℚ × ℚ)) :
    ((-110, -110) ≤ boundsMin d objects ∧ boundsMin d objects ≤ (110, 110)) ∧
      boundsMax d objects ≤ (110, 110) := by
  have hx : (allPoints objects).map Prod.fst ≠ [] := mt List.map_eq_nil_iff.1 hne
  have hy : (allPoints objects).map Prod.snd ≠ [] := mt List.map_eq_nil_iff.1 hne
  obtain ⟨p, hp, hpx⟩ := List.mem_map.1 (leastOr_mem d.1 hx)
  obtain ⟨q, hq, hqy⟩ := List.mem_map.1 (leastOr_mem d.2 hy)
  obtain ⟨p', hp', hpx'⟩ := List.mem_map.1 (greatestOr_mem d.1 hx)
  obtain ⟨q', hq', hqy'⟩ := List.mem_map.1 (greatestOr_mem d.2 hy)
  simp only [boundsMin, boundsMax, ← hpx, ← hqy, ← hpx', ← hqy', Prod.mk_le_mk]
  exact ⟨⟨⟨(hbed p hp).1.1, (hbed q hq).1.2⟩, (hbed p hp).2.1, (hbed q hq).2.2⟩,
    (hbed p' hp').2.1, (hbed q' hq').2.2⟩

/-- The park position lies on the bed. -/
theorem smartPark_onBed (hne : allPoints objects ≠ [])
    (hbed : ∀ p ∈ allPoints objects, (-110, -110) ≤ p ∧ p ≤ ((110, 110) : ℚ × ℚ)) :
    OnBed (smartPark st s objects) := by
  have hpark : (-110, -110) ≤ parkPosition st s objects ∧ parkPosition st s objects ≤ (110, 110) := by
    obtain ⟨⟨⟨hx, hy⟩, hx', hy'⟩, -⟩ :=
      bounds_onBed hne (st.axisMaximum.1 / 2, st.axisMaximum.2 / 2) hbed
    rw [parkPosition]
    split_ifs
    · refine ⟨⟨le_max_right _ _, le_max_right _ _⟩, max_le (le_trans (min_le_right _ _) hx') (by norm_num),
        max_le (le_trans (min_le_right _ _) hy') (by norm_num)⟩
    · exact ⟨⟨hx, hy⟩, hx', hy'⟩
  obtain ⟨⟨hx, hy⟩, hx', hy'⟩ := hpark
  rw [smartPark, onBed_append, onBed_append]
  refine ⟨⟨by simp [OnBed], ?_⟩, ?_⟩
  · split_ifs <;> simp [OnBed, Motion.OnBed]
  · simp only [OnBed, List.mem_cons]
    rintro m (h | h | h | h)
    · cases h
      exact ⟨by rintro x ⟨⟩; exact ⟨hx, hx'⟩, by rintro y ⟨⟩; exact ⟨hy, hy'⟩⟩
    · cases h
      simp [Motion.OnBed]
    · cases h
    · cases h

/-- When the purge stays on the bed. -/
theorem linePurge_onBed_iff (hne : allPoints objects ≠ [])
    (hbed : ∀ p ∈ allPoints objects, (-110, -110) ≤ p ∧ p ≤ ((110, 110) : ℚ × ℚ))
    (hmargin : 0 ≤ s.purgeMargin) (hamount : 0 ≤ s.purgeAmount ∧ s.purgeAmount ≤ 100) :
    OnBed (linePurge st s objects) ↔
      st.maxExtrudeCrossSection < 5 ∨
        if -110 < (boundsMin (0, 0) objects).2 - s.purgeMargin then
          ((boundsMin (0, 0) objects).1 + (boundsMax (0, 0) objects).1) / 2 + s.purgeAmount / 2 ≤ 100
        else
          ((boundsMin (0, 0) objects).2 + (boundsMax (0, 0) objects).2) / 2 + s.purgeAmount / 2 ≤ 100 := by
  obtain ⟨⟨⟨hx, hy⟩, hx', hy'⟩, -⟩ := bounds_onBed hne (0, 0) hbed
  obtain ⟨hxo, hxo'⟩ := purgeOrigin_mem hmargin hx
  obtain ⟨hyo, hyo'⟩ := purgeOrigin_mem hmargin hy
  have hroom : purgeOrigin (boundsMin (0, 0) objects).2 s.purgeMargin > -110 ↔
      -110 < (boundsMin (0, 0) objects).2 - s.purgeMargin := by
    rw [purgeOrigin, gt_iff_lt, lt_max_iff, or_iff_left (lt_irrefl _)]
  have hsave : OnBed [.saveGcodeState (str "Prepurge_State")] := by simp [OnBed]
  have hrestore : OnBed [.restoreGcodeState (str "Prepurge_State")] := by simp [OnBed]
  rw [linePurge]
  by_cases hsection : st.maxExtrudeCrossSection < 5
  · simp [hsection, OnBed]
  simp only [hsection, if_false, false_or, hroom, onBed_append, and_iff_left hrestore,
    and_iff_right hsave]
  split_ifs with h
  · rw [onBed_purgeMoves, ← purgeCenter_onBed_iff hamount]
    have hyo₂ := le_trans hyo' hy'
    simp [Motion.OnBed, hyo, hyo₂]
  · rw [onBed_purgeMoves, ← purgeCenter_onBed_iff hamount]
    have hxo₂ := le_trans hxo' hx'
    simp [Motion.OnBed, hxo, hxo₂]

/-! ## The purge line -/

/-- The one segment along which a purge lays filament. -/
theorem extruded_purgeMoves (start line wipe : Motion) (p : ℚ × ℚ) (hwipe : wipe.e = none)
    (hstart : start.e = none) (hline : line.x.isSome ∨ line.y.isSome) :
    extruded p (purgeMoves st s start line wipe) =
      [(start.target p, line.target (start.target p))] := by
  cases hr : st.firmwareRetraction <;>
    simp [purgeMoves, retract, extruded, Motion.target, hwipe, hstart, hline, hr]

/-- Saving the state lays no filament. -/
theorem extruded_save (p : ℚ × ℚ) (lines : List MotionLine) (name : Text) :
    extruded p ([.saveGcodeState name] ++ lines) = extruded p lines := rfl

/-- Restoring the state lays no filament. -/
theorem extruded_restore (p : ℚ × ℚ) (lines : List MotionLine) (name : Text) :
    extruded p (lines ++ [.restoreGcodeState name]) = extruded p lines := by
  induction lines generalizing p with
  | nil => rfl
  | cons l lines ih => cases l <;> simp [extruded, ih]

/-- The purge line never crosses the objects' bounding rectangle. -/
theorem not_crosses (hne : allPoints objects ≠ [])
    (hbed : ∀ p ∈ allPoints objects, (-110, -110) ≤ p ∧ p ≤ ((110, 110) : ℚ × ℚ))
    (hmargin : 0 ≤ s.purgeMargin) (p : ℚ × ℚ) :
    ∀ seg ∈ extruded p (linePurge st s objects),
      ¬ Crosses seg.1 seg.2 (boundsMin (0, 0) objects) (boundsMax (0, 0) objects) := by
  obtain ⟨⟨⟨hx, hy⟩, -, -⟩, -⟩ := bounds_onBed hne (0, 0) hbed
  have hxo := (purgeOrigin_mem hmargin hx).2
  have hyo := (purgeOrigin_mem hmargin hy).2
  intro seg hseg
  rw [linePurge] at hseg
  split_ifs at hseg with hsection hroom
  · simp [extruded] at hseg
  · rw [extruded_restore, extruded_save, extruded_purgeMoves _ _ _ _ rfl rfl (by simp)] at hseg
    obtain rfl := List.mem_singleton.1 hseg
    exact not_crosses_of_le_below hyo hyo
  · rw [extruded_restore, extruded_save, extruded_purgeMoves _ _ _ _ rfl rfl (by simp)] at hseg
    obtain rfl := List.mem_singleton.1 hseg
    exact not_crosses_of_le_left hxo hxo

/-- Purging and parking stay on the bed and off the objects exactly when the purge is
skipped, or half its amount and 10 mm more fit beside the middle of the objects on the axis
that is purged along. -/
theorem purge_park_iff (st : Status) (s : PurgeSettings) (objects : List PrintObject)
    (hne : objects ≠ []) (hpoly : ∀ o ∈ objects, o.polygon ≠ [])
    (hbed : ∀ o ∈ objects, ∀ p ∈ o.polygon, (-110, -110) ≤ p ∧ p ≤ ((110, 110) : ℚ × ℚ))
    (hmargin : 0 ≤ s.purgeMargin) (hamount : 0 ≤ s.purgeAmount ∧ s.purgeAmount ≤ 100) :
    (OnBed (linePurge st s objects) ∧ OnBed (smartPark st s objects) ∧
        ∀ p, ∀ seg ∈ extruded p (linePurge st s objects),
          ¬ Crosses seg.1 seg.2 (boundsMin (0, 0) objects) (boundsMax (0, 0) objects)) ↔
      st.maxExtrudeCrossSection < 5 ∨
        if -110 < (boundsMin (0, 0) objects).2 - s.purgeMargin then
          ((boundsMin (0, 0) objects).1 + (boundsMax (0, 0) objects).1) / 2 + s.purgeAmount / 2 ≤ 100
        else
          ((boundsMin (0, 0) objects).2 + (boundsMax (0, 0) objects).2) / 2 + s.purgeAmount / 2 ≤ 100 := by
  have hpoints : allPoints objects ≠ [] := allPoints_ne_nil hne hpoly
  have hall : ∀ p ∈ allPoints objects, (-110, -110) ≤ p ∧ p ≤ ((110, 110) : ℚ × ℚ) := by
    intro p hp
    obtain ⟨o, ho, hpo⟩ := List.mem_flatMap.1 hp
    exact hbed o ho p hpo
  rw [and_iff_left ⟨smartPark_onBed hpoints hall, not_crosses hpoints hall hmargin⟩,
    linePurge_onBed_iff hpoints hall hmargin hamount]

end Objects

/-! ## Objects in the middle and on the side -/

/-- The settings as they are shipped. -/
def shippedPurge : PurgeSettings := ⟨4 / 5, 0, 20, 30, 12, 5⟩

/-- A printer with a bed of 220 mm. -/
def idleStatus : Status := ⟨300, (110, 110), 0, 5, false⟩

/-- A square of 20 mm whose lower left corner is given. -/
def squareAt (x y : ℚ) : PrintObject := ⟨[(x, y), (x + 20, y), (x + 20, y + 20), (x, y + 20)]⟩

/-- The purge beside a square in the middle of the bed stays on the bed. -/
theorem purge_park_middle :
    OnBed (linePurge idleStatus shippedPurge [squareAt (-10) (-10)]) := by
  refine ((purge_park_iff idleStatus shippedPurge [squareAt (-10) (-10)] (by simp) (by simp [squareAt])
    ?_ (by norm_num [shippedPurge]) (by norm_num [shippedPurge])).2 (Or.inr ?_)).1
  · intro o ho p hp
    rw [List.mem_singleton.1 ho] at hp
    simp only [squareAt, List.mem_cons, List.not_mem_nil, or_false] at hp
    rcases hp with rfl | rfl | rfl | rfl <;> norm_num
  · norm_num [squareAt, shippedPurge, boundsMin, boundsMax, allPoints, leastOr, greatestOr]

/-- Beside a square at the right side of the bed, the wipe goes to 125. -/
theorem purge_not_onBed :
    ¬ OnBed (linePurge idleStatus shippedPurge [squareAt 90 0]) := by
  intro h
  have hwipe : MotionLine.move { x := some 125, f := some 18000 } ∈
      linePurge idleStatus shippedPurge [squareAt 90 0] := by
    decide +kernel
  have htarget := ((h _ hwipe).1 125 rfl).2
  norm_num at htarget

end Kamp

import CocoonSit.Lib.Clock
import CocoonSit.Plugins.Cron
import Mathlib.Tactic.Linarith

/-!
# The runs of a cron expression

`next_cron_run` searches the minutes on the wall clock of the user's time zone and hands out the
instant that the zone gives for the minute found.  Where the clock is put back between `after` and
that minute, runs of the repeated hour are passed over, or an instant is handed out that is past;
where it is put forward, the minute may be one that the clock never shows.
-/

namespace CocoonSit

open Clock

namespace Cron

/-! ## Instants that match -/

/-- A reading that begins a minute of the expression. -/
def Named (fields : CronFields) (wall : ℤ) : Prop :=
  wall % minuteMicros = 0 ∧ fields.matches (wall / minuteMicros) = true

instance (fields : CronFields) (wall : ℤ) : Decidable (Named fields wall) :=
  inferInstanceAs (Decidable (_ ∧ _))

/-- An instant at which the zone's clock comes to a minute of the expression. -/
def IsRun (zone : ZoneInfo) (fields : CronFields) (t : Timestamp) : Prop :=
  Named fields (zone.toWall t)

def firstMinute (zone : ZoneInfo) (after : Timestamp) : ℤ := zone.toWall after / minuteMicros + 1

/-- The last one, 366 days later. -/
def lastMinute (zone : ZoneInfo) (after : Timestamp) : ℤ := firstMinute zone after + 366 * 1440

/-- What is asked of `next_cron_run`: the next run, if there is one in the year searched. -/
def NextRun (zone : ZoneInfo) (fields : CronFields) (after : Timestamp) :
    Except PyError Timestamp → Prop
  | .ok run => IsLeast {t | after < t ∧ IsRun zone fields t} run
  | .error _ => ∀ t, after < t → zone.toWall t / minuteMicros ≤ lastMinute zone after →
      ¬ IsRun zone fields t

lemma nextRun_ok_iff {zone : ZoneInfo} {fields : CronFields} {after run : Timestamp} :
    NextRun zone fields after (.ok run) ↔ IsLeast {t | after < t ∧ IsRun zone fields t} run :=
  Iff.rfl

/-! ## When it is found -/

/-- The next reading that begins a minute of the expression, within the year searched. -/
def NextReading (zone : ZoneInfo) (fields : CronFields) (after : Timestamp) (wall : ℤ) : Prop :=
  IsLeast {w | zone.toWall after < w ∧ Named fields w} wall ∧
    wall / minuteMicros ≤ lastMinute zone after

/-- The clock skips the reading, and the instant that the zone gives for it is the next run by
chance. -/
def SkippedOntoRun (zone : ZoneInfo) (fields : CronFields) (after : Timestamp) (wall : ℤ) : Prop :=
  (∀ t, zone.toWall t ≠ wall) ∧ after < zone.toUtc wall ∧ IsRun zone fields (zone.toUtc wall) ∧
    ∀ t, after < t → t < zone.toUtc wall → ¬ IsRun zone fields t

/-- The clock shows the next reading, still has to, and shows none of the expression's again before
it; if there is no next reading, it shows none again at all. -/
def Undisturbed (zone : ZoneInfo) (fields : CronFields) (after : Timestamp) : Prop :=
  (∀ wall, NextReading zone fields after wall →
    ((∃ t, zone.toWall t = wall) ∧ StillToCome zone.toWall (Named fields) after wall) ∨
      SkippedOntoRun zone fields after wall) ∧
  ((∀ wall, ¬ NextReading zone fields after wall) →
    ∀ t, ¬ Again zone.toWall (Named fields) after t)

section Search

variable {zoneInfo : String → Option ZoneInfo} {expression timezone : String} {after : Timestamp}
  {zone : ZoneInfo} {fields : CronFields}

lemma lt_iff_of_begins {wall w : ℤ} (hw : w % minuteMicros = 0) :
    wall < w ↔ wall / minuteMicros < w / minuteMicros := by
  unfold minuteMicros at *
  omega

/-- How many minutes are searched. -/
def searchedMinutes : ℕ := 366 * 1440 + 1

/-- The number of the minute that the search finds. -/
def findMinute (zone : ZoneInfo) (fields : CronFields) (after : Timestamp) : Option ℕ :=
  (List.range searchedMinutes).find? fun k : ℕ => fields.matches (firstMinute zone after + (k : ℤ))

lemma nextCronRun_eq (hparse : parseCronExpression expression = .ok fields)
    (hzone : zoneInfo timezone = some zone) :
    nextCronRun zoneInfo expression after timezone =
      match findMinute zone fields after with
      | some k => .ok (zone.toUtc ((firstMinute zone after + (k : ℤ)) * minuteMicros))
      | none => .error (.valueError "cron expression has no run time in the next year") := by
  have hcoe : ∀ n : ℕ, ((List.range n).flatMap fun k : ℕ => pure (k : ℤ)) =
      (List.range n).map fun k : ℕ => (k : ℤ) := fun n => List.flatMap_pure_eq_map _ _
  unfold nextCronRun
  -- a search of any length, lest its length is computed
  obtain ⟨minutes, hminutes⟩ : ∃ minutes, minutes = 366 * 1440 + 1 := ⟨_, rfl⟩
  rw [findMinute, searchedMinutes, firstMinute, hparse, ← hminutes]
  dsimp only [bind, Except.bind]
  rw [hzone]
  dsimp only
  rw [hcoe, List.find?_map]
  dsimp only [Function.comp_def]
  cases (List.range minutes).find? fun k : ℕ =>
    fields.matches (zone.toWall after / minuteMicros + 1 + (k : ℤ)) <;> rfl

lemma findMinute_eq_some {k : ℕ} : findMinute zone fields after = some k ↔
    fields.matches (firstMinute zone after + (k : ℤ)) = true ∧ k < searchedMinutes ∧
      ∀ j < k, fields.matches (firstMinute zone after + (j : ℤ)) = false := by
  rw [findMinute, List.find?_range_eq_some, List.mem_range]
  simp

lemma findMinute_eq_none : findMinute zone fields after = none ↔
    ∀ k < searchedMinutes, fields.matches (firstMinute zone after + (k : ℤ)) = false := by
  rw [findMinute, List.find?_range_eq_none]
  simp

lemma exists_minute {wall : ℤ} (hlater : zone.toWall after < wall) (hnamed : Named fields wall)
    (hlast : wall / minuteMicros ≤ lastMinute zone after) :
    ∃ k < searchedMinutes, wall = (firstMinute zone after + (k : ℤ)) * minuteMicros ∧
      fields.matches (firstMinute zone after + (k : ℤ)) = true := by
  have hahead := (lt_iff_of_begins hnamed.1).mp hlater
  have hminute : wall / minuteMicros =
      firstMinute zone after + ((wall / minuteMicros - firstMinute zone after).toNat : ℤ) := by
    unfold firstMinute
    omega
  refine ⟨(wall / minuteMicros - firstMinute zone after).toNat, ?_, ?_, ?_⟩
  · unfold lastMinute at hlast
    unfold searchedMinutes
    omega
  · rw [← hminute]
    exact (Int.ediv_mul_cancel (Int.dvd_of_emod_eq_zero hnamed.1)).symm
  · rw [← hminute]
    exact hnamed.2

lemma named_minute {k : ℕ} (hk : k < searchedMinutes)
    (hmatches : fields.matches (firstMinute zone after + (k : ℤ)) = true) :
    zone.toWall after < (firstMinute zone after + (k : ℤ)) * minuteMicros ∧
      Named fields ((firstMinute zone after + (k : ℤ)) * minuteMicros) ∧
        (firstMinute zone after + (k : ℤ)) * minuteMicros / minuteMicros ≤
          lastMinute zone after := by
  have hdiv : (firstMinute zone after + (k : ℤ)) * minuteMicros / minuteMicros =
      firstMinute zone after + (k : ℤ) := Int.mul_ediv_cancel _ (by decide)
  have hmod : (firstMinute zone after + (k : ℤ)) * minuteMicros % minuteMicros = 0 :=
    Int.mul_emod_left _ _
  refine ⟨?_, ⟨hmod, ?_⟩, ?_⟩
  · rw [lt_iff_of_begins hmod, hdiv]
    unfold firstMinute
    omega
  · rwa [hdiv]
  · rw [hdiv]
    unfold lastMinute
    unfold searchedMinutes at hk
    omega

lemma nextReading_of_find {k : ℕ} (h : findMinute zone fields after = some k) :
    NextReading zone fields after ((firstMinute zone after + (k : ℤ)) * minuteMicros) := by
  obtain ⟨hmatches, hk, hbefore⟩ := findMinute_eq_some.mp h
  obtain ⟨hlater, hnamed, hlast⟩ := named_minute hk hmatches
  refine ⟨⟨⟨hlater, hnamed⟩, fun w hw => le_of_not_gt fun hlt => ?_⟩, hlast⟩
  -- an earlier reading would have been found
  obtain ⟨j, -, rfl, hj⟩ := exists_minute hw.1 hw.2
    ((Int.ediv_le_ediv (by decide) hlt.le).trans hlast)
  have hjk : j < k := by
    by_contra hge
    have hle : (firstMinute zone after + (k : ℤ)) * minuteMicros ≤
        (firstMinute zone after + (j : ℤ)) * minuteMicros :=
      Int.mul_le_mul_of_nonneg_right (by omega) (by decide)
    exact absurd hlt (not_lt_of_ge hle)
  rw [hbefore j hjk] at hj
  cases hj

lemma not_named_of_find (h : findMinute zone fields after = none) {wall : ℤ}
    (hlater : zone.toWall after < wall)
    (hlast : wall / minuteMicros ≤ lastMinute zone after) : ¬ Named fields wall := by
  intro hnamed
  obtain ⟨k, hk, -, hmatches⟩ := exists_minute hlater hnamed hlast
  rw [findMinute_eq_none.mp h k hk] at hmatches
  cases hmatches

lemma isLeast_toUtc_iff (hclock : FirstShown zone.toWall zone.toUtc) {wall : ℤ}
    (hnext : NextReading zone fields after wall) :
    IsLeast {t | after < t ∧ IsRun zone fields t} (zone.toUtc wall) ↔
      ((∃ t, zone.toWall t = wall) ∧ StillToCome zone.toWall (Named fields) after wall) ∨
        SkippedOntoRun zone fields after wall := by
  by_cases hshown : ∃ t, zone.toWall t = wall
  · rw [show IsLeast {t | after < t ∧ IsRun zone fields t} (zone.toUtc wall) ↔ _ from
      isLeast_first_iff hclock hshown hnext.1]
    exact ⟨fun h => .inl ⟨hshown, h⟩, fun h => h.elim And.right fun hskip =>
      absurd hshown (not_exists.mpr hskip.1)⟩
  · constructor
    · rintro ⟨⟨hlater, hrun⟩, hleast⟩
      exact .inr ⟨not_exists.mp hshown, hlater, hrun, fun t ht hearly hrun' =>
        absurd (hleast ⟨ht, hrun'⟩) (not_le_of_gt hearly)⟩
    · rintro (⟨h, -⟩ | ⟨-, hlater, hrun, hnone⟩)
      · exact absurd h hshown
      · refine ⟨⟨hlater, hrun⟩, fun t ht => le_of_not_gt fun hearly => ?_⟩
        exact hnone t ht.1 hearly ht.2

/-- `next_cron_run` returns the next run, or fails as there is none in the year, exactly when the
clock is not put forward or back over a minute of the expression at the wrong time. -/
theorem nextRun_iff_undisturbed (hparse : parseCronExpression expression = .ok fields)
    (hzone : zoneInfo timezone = some zone) (hclock : FirstShown zone.toWall zone.toUtc) :
    NextRun zone fields after (nextCronRun zoneInfo expression after timezone) ↔
      Undisturbed zone fields after := by
  rw [nextCronRun_eq hparse hzone]
  cases hfind : findMinute zone fields after with
  | some k =>
    have hnext := nextReading_of_find hfind
    refine (isLeast_toUtc_iff hclock hnext).trans
      ⟨fun h => ⟨fun wall hwall => ?_, fun hnone => ?_⟩,
      fun h => h.1 _ hnext⟩
    · rwa [hwall.1.unique hnext.1]
    · exact absurd hnext (hnone _)
  | none =>
    have hnone : ∀ wall, ¬ NextReading zone fields after wall := fun wall hwall =>
      not_named_of_find hfind hwall.1.1.1 hwall.2 hwall.1.1.2
    constructor
    · intro h
      refine ⟨fun wall hwall => absurd hwall (hnone wall), fun _ t hagain => ?_⟩
      refine h t hagain.1 ?_ hagain.2.2
      have hminute := Int.ediv_le_ediv (c := minuteMicros) (by decide) hagain.2.1
      unfold lastMinute firstMinute
      omega
    · rintro ⟨-, hagain⟩ t ht hlast hrun
      by_cases hpast : zone.toWall t ≤ zone.toWall after
      · exact hagain hnone t ⟨ht, hpast, hrun⟩
      · exact not_named_of_find hfind (lt_of_not_ge hpast) hlast hrun

end Search

/-! ## A zone with one change -/

/-- A zone whose offset changes at one instant; a reading shown twice is taken for its first
showing. -/
def changeAt (change : Timestamp) (before after : ℤ) : ZoneInfo where
  toWall t := t + if t < change then before else after
  toUtc wall := (wall - if wall < change + max before after then before else after).toNat

section Change

variable {change : ℕ} {before after : ℤ}

lemma toWall_changeAt_of_lt {t : ℕ} (ht : t < change) :
    (changeAt change before after).toWall t = t + before := by
  simp [changeAt, ht]

lemma toWall_changeAt_of_le {t : ℕ} (ht : change ≤ t) :
    (changeAt change before after).toWall t = t + after := by
  simp [changeAt, not_lt.mpr ht]

lemma toUtc_changeAt (wall : ℤ) : (changeAt change before after).toUtc wall =
    (wall - if wall < change + max before after then before else after).toNat := rfl

lemma first_changeAt (t : ℕ) :
    (changeAt change before after).toUtc ((changeAt change before after).toWall t) =
      if change ≤ t ∧ (t : ℤ) + after < change + before then (t + after - before).toNat else t := by
  have hleft := le_max_left before after
  have hchoice := max_choice before after
  rcases lt_or_ge t change with ht | ht
  · have hfirst : (t : ℤ) + before < change + max before after := by omega
    rw [toWall_changeAt_of_lt ht, toUtc_changeAt, if_pos hfirst,
      if_neg (not_and_of_not_left _ (not_le.mpr ht)), add_sub_cancel_right]
    exact Int.toNat_natCast t
  · rw [toWall_changeAt_of_le ht, toUtc_changeAt]
    by_cases hagain : (t : ℤ) + after < change + before
    · have hfirst : (t : ℤ) + after < change + max before after := by omega
      rw [if_pos hfirst, if_pos ⟨ht, hagain⟩]
    · have hlater : ¬ (t : ℤ) + after < change + max before after := by
        rcases hchoice with h | h <;> omega
      rw [if_neg hlater, if_neg (not_and_of_not_right _ hagain), add_sub_cancel_right]
      exact Int.toNat_natCast t

lemma firstShown_changeAt (h : before - after ≤ change) :
    FirstShown (changeAt change before after).toWall (changeAt change before after).toUtc := by
  constructor
  · intro t
    rw [first_changeAt]
    split
    · next hagain =>
      have ht : change ≤ t := hagain.1
      have hfirst : (t + after - before).toNat < change := by omega
      rw [toWall_changeAt_of_lt hfirst, toWall_changeAt_of_le hagain.1]
      omega
    · rfl
  · intro t
    rw [first_changeAt]
    split
    · next hagain =>
      have ht : change ≤ t := hagain.1
      have hle : (t + after - before).toNat ≤ t := by omega
      exact hle
    · exact le_rfl
  · intro (s : ℕ) (t : ℕ) hlt
    rw [first_changeAt] at hlt
    -- the clock runs on from its first change to the first showing, which is before the change if
    -- the reading is shown again
    have hearly : t < if change ≤ s ∧ (s : ℤ) + after < change + before then
        (s + after - before).toNat else s := hlt
    have hwall : ∀ t : ℕ, (changeAt change before after).toWall t =
        t + if t < change then before else after := fun _ => rfl
    rw [hwall, hwall]
    split at hearly <;> split <;> split <;> omega

end Change

/-- Eastern time around the end of daylight-saving time on 2024-11-03. -/
def newYork : ZoneInfo :=
  changeAt 1730613600000000 (-14400000000) (-18000000000)

/-- `30 1 * * *`. -/
def halfPastOne : CronFields where
  minutes := [30]
  hours := [1]
  days := (List.range 31).map fun k : ℕ => (k : ℤ) + 1
  months := (List.range 12).map fun k : ℕ => (k : ℤ) + 1
  weekdays := [0, 1, 2, 3, 4, 5, 6, 0]

lemma eq_ok_of_toOption {ε α : Type} {x : Except ε α} {a : α} (h : x.toOption = some a) :
    x = .ok a := by
  cases x with
  | error error => cases h
  | ok b =>
    cases h
    rfl

lemma parse_halfPastOne : parseCronExpression "30 1 * * *" = .ok halfPastOne :=
  eq_ok_of_toOption (by decide +kernel)

theorem halfPastOne_in_newYork :
    NextRun newYork halfPastOne 1730614200000000
        (nextCronRun (fun _ => some newYork) "30 1 * * *" 1730614200000000 "America/New_York") ↔
      Undisturbed newYork halfPastOne 1730614200000000 :=
  nextRun_iff_undisturbed parse_halfPastOne rfl (firstShown_changeAt (by decide))

/-- At ten past one, shown for the second time, the next run at half past one is taken for the one
forty minutes ago. -/
theorem past_run_in_newYork :
    ¬ NextRun newYork halfPastOne 1730614200000000
      (nextCronRun (fun _ => some newYork) "30 1 * * *" 1730614200000000 "America/New_York") := by
  have hfind : findMinute newYork halfPastOne 1730614200000000 = some 19 :=
    findMinute_eq_some.mpr ⟨by decide +kernel, by decide, by decide +kernel⟩
  have hpast : newYork.toUtc ((firstMinute newYork 1730614200000000 + ((19 : ℕ) : ℤ)) *
      minuteMicros) = 1730611800000000 := by decide
  rw [nextCronRun_eq parse_halfPastOne rfl, hfind]
  dsimp only
  rw [hpast, nextRun_ok_iff]
  rintro ⟨⟨hlater, -⟩, -⟩
  exact absurd hlater (by decide)

end Cron

end CocoonSit

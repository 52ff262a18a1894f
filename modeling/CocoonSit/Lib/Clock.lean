import Mathlib.Order.Bounds.Basic

/-!
# Clocks that are put forward and back

A wall clock shows a reading at every instant.  Put back, it shows readings a second time; put
forward, it skips some.  A program that looks for the next instant with a reading of some kind may
look for the next such reading instead, and take the first instant that shows it.  That is right
exactly when the reading is still to come and no other of its kind is shown again before it.
-/

namespace Clock

variable {τ ω : Type*} [LinearOrder τ] [LinearOrder ω]

/-- `first` names the first instant at which a reading is shown, before which the clock is behind
it. -/
structure FirstShown (wall : τ → ω) (first : ω → τ) : Prop where
  wall_first : ∀ t, wall (first (wall t)) = wall t
  first_le : ∀ t, first (wall t) ≤ t
  behind : ∀ s t, t < first (wall s) → wall t < wall s

/-- A reading of this kind that the clock shows later, though it is no later than the present
one. -/
def Again (wall : τ → ω) (kind : ω → Prop) (now t : τ) : Prop :=
  now < t ∧ wall t ≤ wall now ∧ kind (wall t)

/-- The reading is still to come, and no other of its kind is shown again before it. -/
def StillToCome (wall : τ → ω) (kind : ω → Prop) (now : τ) (m : ω) : Prop :=
  (∀ t ≤ now, wall t ≠ m) ∧ ∀ t, Again wall kind now t → ∃ s ≤ t, wall s = m

variable {wall : τ → ω} {first : ω → τ} {kind : ω → Prop} {now : τ} {m : ω}

/-- The next reading of a kind is next shown at the next instant of that kind exactly when it is
still to come, and none of its kind is shown again before it. -/
theorem isLeast_first_iff (h : FirstShown wall first) (hshown : ∃ s, wall s = m)
    (hm : IsLeast {w | wall now < w ∧ kind w} m) :
    IsLeast {t | now < t ∧ kind (wall t)} (first m) ↔ StillToCome wall kind now m := by
  obtain ⟨s, rfl⟩ := hshown
  constructor
  · rintro ⟨⟨hlater, -⟩, hleast⟩
    refine ⟨fun t ht heq => ?_, fun t hagain => ?_⟩
    · have hfirst := h.first_le t
      rw [heq] at hfirst
      exact absurd (hlater.trans_le hfirst) (not_lt_of_ge ht)
    · exact ⟨first (wall s), hleast ⟨hagain.1, hagain.2.2⟩, h.wall_first s⟩
  · rintro ⟨hcome, hagain⟩
    have hlater : now < first (wall s) := lt_of_not_ge fun hle => hcome _ hle (h.wall_first s)
    refine ⟨⟨hlater, ?_⟩, ?_⟩
    · rw [h.wall_first]
      exact hm.1.2
    · rintro t ⟨ht, hkind⟩
      refine le_of_not_gt fun hearly => ?_
      -- before the reading is first shown the clock is behind it, and so no later than now
      have hbehind := h.behind s t hearly
      have hpast : wall t ≤ wall now :=
        le_of_not_gt fun hahead => absurd hbehind (not_lt_of_ge (hm.2 ⟨hahead, hkind⟩))
      obtain ⟨s', hs', heq⟩ := hagain t ⟨ht, hpast, hkind⟩
      have hfirst := h.first_le s'
      rw [heq] at hfirst
      exact absurd (hearly.trans_le hfirst) (not_lt_of_ge hs')

end Clock

import PriceBoard.Predicate.Bounds
import PriceBoard.Proofs.Calendar.Instant

/-!
# Soundness of the time bounds

For trees whose cutoffs all have a known offset, the test, the contradiction check and the bounds all
give an answer, and whatever the tree accepts is neither in a branch seen to be always false nor
outside the bounds. Both facts are carried through one induction over the tree, since each is used in
the proof of the other.
-/
namespace PriceBoard

namespace Bounds

def isAware (bounds : Bounds) : Bool := bounds.low.all (·.isAware) && bounds.high.all (·.isAware)

/-- Both ends are inclusive, and an open end excludes nothing. -/
def Contains (bounds : Bounds) (moment : DateTime) : Prop :=
  (∀ low, bounds.low = some low → low.AtMost moment) ∧
    ∀ high, bounds.high = some high → moment.AtMost high

theorem aware_iff (bounds : Bounds) : bounds.isAware = true ↔
    (∀ low, bounds.low = some low → low.isAware = true) ∧
      ∀ high, bounds.high = some high → high.isAware = true := by
  cases bounds with
  | mk low high => cases low <;> cases high <;> simp [isAware]

theorem unbounded_contains (moment : DateTime) : unbounded.Contains moment := by
  simp [unbounded, Contains]

end Bounds

namespace DateTime

theorem later_aware {first second : DateTime} (firstAware : first.isAware = true)
    (secondAware : second.isAware = true) :
    ∃ last, later first second = .ok last ∧ (last = first ∨ last = second) ∧
      first.instant ≤ last.instant ∧ second.instant ≤ last.instant := by
  simp only [later, compare_aware secondAware firstAware, Except.map]
  by_cases after : Ord.compare second.instant first.instant = .gt
  · have ordered := Int.compare_eq_gt.mp after
    exact ⟨second, by rw [if_pos after], .inr rfl, by omega, by omega⟩
  · have ordered : second.instant ≤ first.instant := by
      simpa only [Int.compare_eq_gt, Int.not_lt] using after
    exact ⟨first, by rw [if_neg after], .inl rfl, by omega, ordered⟩

theorem earlier_aware {first second : DateTime} (firstAware : first.isAware = true)
    (secondAware : second.isAware = true) :
    ∃ least, earlier first second = .ok least ∧ (least = first ∨ least = second) ∧
      least.instant ≤ first.instant ∧ least.instant ≤ second.instant := by
  simp only [earlier, compare_aware secondAware firstAware, Except.map]
  by_cases before : Ord.compare second.instant first.instant = .lt
  · have ordered := Int.compare_eq_lt.mp before
    exact ⟨second, by rw [if_pos before], .inr rfl, by omega, by omega⟩
  · have ordered : first.instant ≤ second.instant := by
      simpa only [Int.compare_eq_lt, Int.not_lt] using before
    exact ⟨first, by rw [if_neg before], .inl rfl, by omega, ordered⟩

theorem latest_from_aware (best : DateTime) (times : List DateTime) (bestAware : best.isAware = true)
    (aware : ∀ time ∈ times, time.isAware = true) :
    ∃ last, latestFrom best times = .ok last ∧ last ∈ best :: times ∧
      ∀ time ∈ best :: times, time.instant ≤ last.instant := by
  induction times generalizing best with
  | nil => exact ⟨best, rfl, by simp, by simp⟩
  | cons next rest induction =>
      obtain ⟨better, betterFound, choice, overBest, overNext⟩ :=
        later_aware bestAware (aware next (by simp))
      have betterAware : better.isAware = true := by
        rcases choice with rfl | rfl
        · exact bestAware
        · exact aware _ (by simp)
      obtain ⟨last, found, member, above⟩ :=
        induction better betterAware fun time inRest => aware time (by simp [inRest])
      refine ⟨last, by simp only [latestFrom, betterFound, found], ?_, ?_⟩
      · rcases List.mem_cons.mp member with rfl | inRest
        · rcases choice with rfl | rfl <;> simp
        · simp [inRest]
      · have overBetter := above better (by simp)
        intro time timeMember
        rcases List.mem_cons.mp timeMember with rfl | timeMember
        · omega
        · rcases List.mem_cons.mp timeMember with rfl | inRest
          · omega
          · exact above time (by simp [inRest])

theorem earliest_from_aware (best : DateTime) (times : List DateTime)
    (bestAware : best.isAware = true) (aware : ∀ time ∈ times, time.isAware = true) :
    ∃ least, earliestFrom best times = .ok least ∧ least ∈ best :: times ∧
      ∀ time ∈ best :: times, least.instant ≤ time.instant := by
  induction times generalizing best with
  | nil => exact ⟨best, rfl, by simp, by simp⟩
  | cons next rest induction =>
      obtain ⟨better, betterFound, choice, underBest, underNext⟩ :=
        earlier_aware bestAware (aware next (by simp))
      have betterAware : better.isAware = true := by
        rcases choice with rfl | rfl
        · exact bestAware
        · exact aware _ (by simp)
      obtain ⟨least, found, member, below⟩ :=
        induction better betterAware fun time inRest => aware time (by simp [inRest])
      refine ⟨least, by simp only [earliestFrom, betterFound, found], ?_, ?_⟩
      · rcases List.mem_cons.mp member with rfl | inRest
        · rcases choice with rfl | rfl <;> simp
        · simp [inRest]
      · have underBetter := below better (by simp)
        intro time timeMember
        rcases List.mem_cons.mp timeMember with rfl | timeMember
        · omega
        · rcases List.mem_cons.mp timeMember with rfl | inRest
          · omega
          · exact below time (by simp [inRest])

/-- There is no latest time only where there are no times. -/
theorem latest_aware (times : List DateTime) (aware : ∀ time ∈ times, time.isAware = true) :
    ∃ last, latest? times = .ok last ∧
      ∀ time, last = some time → time ∈ times ∧ ∀ other ∈ times, other.instant ≤ time.instant := by
  cases times with
  | nil => exact ⟨none, rfl, by simp⟩
  | cons first rest =>
      obtain ⟨last, found, member, above⟩ := latest_from_aware first rest (aware first (by simp))
        fun time inRest => aware time (by simp [inRest])
      refine ⟨some last, by simp only [latest?, found, Except.map], ?_⟩
      intro time same
      cases same
      exact ⟨member, above⟩

theorem earliest_aware (times : List DateTime) (aware : ∀ time ∈ times, time.isAware = true) :
    ∃ least, earliest? times = .ok least ∧
      ∀ time, least = some time → time ∈ times ∧ ∀ other ∈ times, time.instant ≤ other.instant := by
  cases times with
  | nil => exact ⟨none, rfl, by simp⟩
  | cons first rest =>
      obtain ⟨least, found, member, below⟩ := earliest_from_aware first rest (aware first (by simp))
        fun time inRest => aware time (by simp [inRest])
      refine ⟨some least, by simp only [earliest?, found, Except.map], ?_⟩
      intro time same
      cases same
      exact ⟨member, below⟩

end DateTime

namespace Bounds

variable {bounds : List Bounds}

theorem low_aware (aware : ∀ each ∈ bounds, each.isAware = true) :
    ∀ time ∈ bounds.filterMap (·.low), time.isAware = true := by
  intro time member
  obtain ⟨each, inBounds, low⟩ := List.mem_filterMap.mp member
  exact ((aware_iff each).mp (aware each inBounds)).1 time low

theorem high_aware (aware : ∀ each ∈ bounds, each.isAware = true) :
    ∀ time ∈ bounds.filterMap (·.high), time.isAware = true := by
  intro time member
  obtain ⟨each, inBounds, high⟩ := List.mem_filterMap.mp member
  exact ((aware_iff each).mp (aware each inBounds)).2 time high

theorem meet_sound (aware : ∀ each ∈ bounds, each.isAware = true) :
    ∃ met, meet bounds = .ok met ∧ met.isAware = true ∧
      ∀ moment, (∀ each ∈ bounds, each.Contains moment) → met.Contains moment := by
  obtain ⟨low, lowFound, lowSpec⟩ := DateTime.latest_aware _ (low_aware aware)
  obtain ⟨high, highFound, highSpec⟩ := DateTime.earliest_aware _ (high_aware aware)
  refine ⟨⟨low, high⟩, by simp only [meet, lowFound, highFound], ?_, ?_⟩
  · apply (aware_iff _).mpr
    constructor
    · intro time same
      exact low_aware aware time (lowSpec time same).1
    · intro time same
      exact high_aware aware time (highSpec time same).1
  · intro moment inside
    constructor
    · intro time same
      obtain ⟨each, inBounds, source⟩ := List.mem_filterMap.mp (lowSpec time same).1
      exact (inside each inBounds).1 time source
    · intro time same
      obtain ⟨each, inBounds, source⟩ := List.mem_filterMap.mp (highSpec time same).1
      exact (inside each inBounds).2 time source

/-- The lower end of the bounds around all of the bounds; the upper end is `join_high_sound`. -/
theorem join_low_sound (aware : ∀ each ∈ bounds, each.isAware = true) :
    ∃ low, (if bounds.all (·.low.isSome) then DateTime.earliest? (bounds.filterMap (·.low))
        else .ok none) = (.ok low : Except TimeError _) ∧
      ∀ time, low = some time → time.isAware = true ∧
        ∀ each ∈ bounds, ∃ own, each.low = some own ∧ time.instant ≤ own.instant := by
  by_cases closed : bounds.all (·.low.isSome) = true
  · obtain ⟨low, found, spec⟩ := DateTime.earliest_aware _ (low_aware aware)
    refine ⟨low, by rw [if_pos closed, found], ?_⟩
    intro time same
    constructor
    · exact low_aware aware time (spec time same).1
    · intro each inBounds
      obtain ⟨own, source⟩ :=
        Option.isSome_iff_exists.mp (List.all_eq_true.mp closed each inBounds)
      exact ⟨own, source, (spec time same).2 own (List.mem_filterMap.mpr ⟨each, inBounds, source⟩)⟩
  · exact ⟨none, by rw [if_neg closed], by simp⟩

theorem join_high_sound (aware : ∀ each ∈ bounds, each.isAware = true) :
    ∃ high, (if bounds.all (·.high.isSome) then DateTime.latest? (bounds.filterMap (·.high))
        else .ok none) = (.ok high : Except TimeError _) ∧
      ∀ time, high = some time → time.isAware = true ∧
        ∀ each ∈ bounds, ∃ own, each.high = some own ∧ own.instant ≤ time.instant := by
  by_cases closed : bounds.all (·.high.isSome) = true
  · obtain ⟨high, found, spec⟩ := DateTime.latest_aware _ (high_aware aware)
    refine ⟨high, by rw [if_pos closed, found], ?_⟩
    intro time same
    constructor
    · exact high_aware aware time (spec time same).1
    · intro each inBounds
      obtain ⟨own, source⟩ :=
        Option.isSome_iff_exists.mp (List.all_eq_true.mp closed each inBounds)
      exact ⟨own, source, (spec time same).2 own (List.mem_filterMap.mpr ⟨each, inBounds, source⟩)⟩
  · exact ⟨none, by rw [if_neg closed], by simp⟩

theorem join_sound (aware : ∀ each ∈ bounds, each.isAware = true) :
    ∃ joined, join bounds = .ok joined ∧ joined.isAware = true ∧
      ∀ moment : DateTime, moment.isAware = true → (∃ each ∈ bounds, each.Contains moment) →
        joined.Contains moment := by
  obtain ⟨low, lowFound, lowSpec⟩ := join_low_sound aware
  obtain ⟨high, highFound, highSpec⟩ := join_high_sound aware
  refine ⟨⟨low, high⟩, by simp only [join, lowFound, highFound], ?_, ?_⟩
  · apply (aware_iff _).mpr
    constructor
    · intro time same
      exact (lowSpec time same).1
    · intro time same
      exact (highSpec time same).1
  · rintro moment momentAware ⟨each, inBounds, inside⟩
    have eachAware := (aware_iff each).mp (aware each inBounds)
    constructor
    · intro time same
      obtain ⟨timeAware, covers⟩ := lowSpec time same
      obtain ⟨own, source, ordered⟩ := covers each inBounds
      have inner := (DateTime.at_most_iff_instant (eachAware.1 own source) momentAware).mp
        (inside.1 own source)
      exact (DateTime.at_most_iff_instant timeAware momentAware).mpr (by omega)
    · intro time same
      obtain ⟨timeAware, covers⟩ := highSpec time same
      obtain ⟨own, source, ordered⟩ := covers each inBounds
      have inner := (DateTime.at_most_iff_instant momentAware (eachAware.2 own source)).mp
        (inside.2 own source)
      exact (DateTime.at_most_iff_instant momentAware timeAware).mpr (by omega)

/-- Bounds that hold some time do not cross. -/
theorem crossed_sound (bounds : Bounds) (aware : bounds.isAware = true) :
    ∃ cross, bounds.crossed = .ok cross ∧
      ∀ moment : DateTime, moment.isAware = true → bounds.Contains moment → cross = false := by
  obtain ⟨lowAware, highAware⟩ := (aware_iff bounds).mp aware
  cases bounds with
  | mk low high =>
      cases low with
      | none => exact ⟨false, rfl, by simp⟩
      | some low =>
          cases high with
          | none => exact ⟨false, rfl, by simp⟩
          | some high =>
              have lowKnown := lowAware low rfl
              have highKnown := highAware high rfl
              refine ⟨Ord.compare low.instant high.instant == .gt, ?_, ?_⟩
              · simp only [crossed, DateTime.compare_aware lowKnown highKnown, Except.map]
              intro moment momentAware inside
              have after := (DateTime.at_most_iff_instant lowKnown momentAware).mp
                (inside.1 low rfl)
              have before := (DateTime.at_most_iff_instant momentAware highKnown).mp
                (inside.2 high rfl)
              have ordered : ¬ Ord.compare low.instant high.instant = .gt := by
                rw [Int.compare_eq_gt]
                omega
              simpa using ordered

end Bounds
end PriceBoard

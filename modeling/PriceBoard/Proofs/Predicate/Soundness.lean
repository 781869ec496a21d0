import PriceBoard.Proofs.Predicate.Bounds

/-!
# What a predicate accepts

A tree whose cutoffs all have a known offset always answers: whether it holds, whether it is seen to
be always false, and its bounds. One induction over the tree shows this together with the soundness of
the last two, because the contradiction check of a conjunction reads the bounds of its children and
the bounds of a disjunction read the contradiction check of theirs.
-/
namespace PriceBoard.Predicate

mutual

/-- Every cutoff of the tree has a known offset. -/
def isAware : Predicate → Bool
  | .timeAfter cutoff => cutoff.isAware
  | .timeWithinLast cutoff => cutoff.isAware
  | .timeBefore cutoff => cutoff.isAware
  | .all children => allAware children
  | .any children => allAware children
  | _ => true

def allAware : List Predicate → Bool
  | [] => true
  | child :: children => child.isAware && allAware children

end

/-! ### Lists of children -/

section

variable {Error Item : Type} (test : Item → Except Error Bool)

theorem all_m_total (items : List Item) (total : ∀ item ∈ items, ∃ answer, test item = .ok answer) :
    ∃ answer, items.allM test = .ok answer ∧
      (answer = true ↔ ∀ item ∈ items, test item = .ok true) := by
  induction items with
  | nil => exact ⟨true, rfl, by simp⟩
  | cons item items induction =>
      obtain ⟨first, firstFound⟩ := total item (by simp)
      cases first with
      | false => exact ⟨false, by simp [List.allM, firstFound, bind, Except.bind, pure, Except.pure],
          by simp [firstFound]⟩
      | true =>
          obtain ⟨answer, found, spec⟩ :=
            induction fun other member => total other (by simp [member])
          refine ⟨answer, ?_, by simp [firstFound, spec]⟩
          simpa [List.allM, firstFound, bind, Except.bind] using found

theorem any_m_total (items : List Item) (total : ∀ item ∈ items, ∃ answer, test item = .ok answer) :
    ∃ answer, items.anyM test = .ok answer ∧
      (answer = true ↔ ∃ item ∈ items, test item = .ok true) := by
  induction items with
  | nil => exact ⟨false, rfl, by simp⟩
  | cons item items induction =>
      obtain ⟨first, firstFound⟩ := total item (by simp)
      cases first with
      | true => exact ⟨true, by simp [List.anyM, firstFound, bind, Except.bind, pure, Except.pure],
          by simp [firstFound]⟩
      | false =>
          obtain ⟨answer, found, spec⟩ :=
            induction fun other member => total other (by simp [member])
          refine ⟨answer, ?_, by simp [firstFound, spec]⟩
          simpa [List.anyM, firstFound, bind, Except.bind] using found

end

theorem every_holds_eq (snapshot : Snapshot) (children : List Predicate) :
    everyHolds snapshot children = children.allM (holds snapshot) := by
  induction children with
  | nil => rfl
  | cons child children induction =>
      rw [everyHolds, List.allM, induction]
      rcases child.holds snapshot with error | (_ | _) <;> rfl

theorem some_holds_eq (snapshot : Snapshot) (children : List Predicate) :
    someHolds snapshot children = children.anyM (holds snapshot) := by
  induction children with
  | nil => rfl
  | cons child children induction =>
      rw [someHolds, List.anyM, induction]
      rcases child.holds snapshot with error | (_ | _) <;> rfl

theorem every_contradictory_eq (children : List Predicate) :
    everyContradictory children = children.allM contradictory := by
  induction children with
  | nil => rfl
  | cons child children induction =>
      rw [everyContradictory, List.allM, induction]
      rcases child.contradictory with error | (_ | _) <;> rfl

theorem some_contradictory_eq (children : List Predicate) :
    someContradictory children = children.anyM contradictory := by
  induction children with
  | nil => rfl
  | cons child children induction =>
      rw [someContradictory, List.anyM, induction]
      rcases child.contradictory with error | (_ | _) <;> rfl

theorem child_bounds_total (children : List Predicate)
    (total : ∀ child ∈ children, ∃ bounds, child.bounds = .ok bounds) :
    ∃ each, childBounds children = .ok each ∧
      ∀ bounds ∈ each, ∃ child ∈ children, child.bounds = .ok bounds := by
  induction children with
  | nil => exact ⟨[], rfl, by simp⟩
  | cons child children induction =>
      obtain ⟨own, ownFound⟩ := total child (by simp)
      obtain ⟨each, found, source⟩ := induction fun other member => total other (by simp [member])
      refine ⟨own :: each, by simp only [childBounds, ownFound, found, Except.map], ?_⟩
      intro bounds member
      rcases List.mem_cons.mp member with rfl | member
      · exact ⟨child, by simp, ownFound⟩
      · obtain ⟨other, otherMember, same⟩ := source bounds member
        exact ⟨other, by simp [otherMember], same⟩

/-- The bounds of a child that is not seen to be always false are among the live ones. -/
theorem live_bounds_total (children : List Predicate)
    (decided : ∀ child ∈ children, ∃ dead, child.contradictory = .ok dead)
    (total : ∀ child ∈ children, ∃ bounds, child.bounds = .ok bounds) :
    ∃ live, liveBounds children = .ok live ∧
      (∀ bounds ∈ live, ∃ child ∈ children, child.bounds = .ok bounds) ∧
      ∀ child ∈ children, child.contradictory = .ok false →
        ∃ bounds ∈ live, child.bounds = .ok bounds := by
  induction children with
  | nil => exact ⟨[], rfl, by simp, by simp⟩
  | cons child children induction =>
      obtain ⟨dead, deadFound⟩ := decided child (by simp)
      obtain ⟨own, ownFound⟩ := total child (by simp)
      obtain ⟨live, found, source, kept⟩ :=
        induction (fun other member => decided other (by simp [member]))
          fun other member => total other (by simp [member])
      cases dead with
      | true =>
          refine ⟨live, by simp only [liveBounds, deadFound, found], ?_, ?_⟩
          · intro bounds member
            obtain ⟨other, otherMember, same⟩ := source bounds member
            exact ⟨other, by simp [otherMember], same⟩
          · intro other member alive
            rcases List.mem_cons.mp member with rfl | member
            · simp [deadFound] at alive
            · exact kept other member alive
      | false =>
          refine ⟨own :: live, by simp only [liveBounds, deadFound, ownFound, found, Except.map],
            ?_, ?_⟩
          · intro bounds member
            rcases List.mem_cons.mp member with rfl | member
            · exact ⟨child, by simp, ownFound⟩
            · obtain ⟨other, otherMember, same⟩ := source bounds member
              exact ⟨other, by simp [otherMember], same⟩
          · intro other member alive
            rcases List.mem_cons.mp member with rfl | member
            · exact ⟨own, by simp, ownFound⟩
            · obtain ⟨bounds, inLive, same⟩ := kept other member alive
              exact ⟨bounds, by simp [inLive], same⟩

/-! ### The tree -/

/-- The tree answers for the snapshot, and a tree that accepts it is neither contradictory nor
bounded away from it. -/
structure Sound (snapshot : Snapshot) (predicate : Predicate) : Prop where
  decided : ∃ accepted, predicate.holds snapshot = .ok accepted
  checked : ∃ dead, predicate.contradictory = .ok dead
  bounded : ∃ bounds, predicate.bounds = .ok bounds
  aware : ∀ bounds, predicate.bounds = .ok bounds → bounds.isAware = true
  alive : predicate.holds snapshot = .ok true → predicate.contradictory = .ok false
  inside : predicate.holds snapshot = .ok true →
    ∀ bounds, predicate.bounds = .ok bounds → bounds.Contains snapshot.timestamp

theorem timestamp_aware (snapshot : Snapshot) : snapshot.timestamp.isAware = true := rfl

variable {snapshot : Snapshot}

/-- A test that says nothing about time. -/
theorem sound_of_timeless {predicate : Predicate} {accepted : Bool}
    (holdsOk : predicate.holds snapshot = .ok accepted)
    (live : predicate.contradictory = .ok false)
    (open' : predicate.bounds = .ok Bounds.unbounded) : Sound snapshot predicate where
  decided := ⟨accepted, holdsOk⟩
  checked := ⟨false, live⟩
  bounded := ⟨_, open'⟩
  aware := by
    intro bounds found
    cases open'.symm.trans found
    rfl
  alive := fun _ => live
  inside := by
    intro _ bounds found
    cases open'.symm.trans found
    exact Bounds.unbounded_contains _

theorem sound_of_after {predicate : Predicate} {cutoff : DateTime} (known : cutoff.isAware = true)
    (holdsEq : predicate.holds snapshot =
      (snapshot.timestamp.compare cutoff).map (· != .lt))
    (live : predicate.contradictory = .ok false)
    (boundsEq : predicate.bounds = .ok ⟨some cutoff, none⟩) : Sound snapshot predicate := by
  have compared := DateTime.compare_aware (timestamp_aware snapshot) known
  rw [compared] at holdsEq
  refine ⟨⟨_, holdsEq⟩, ⟨false, live⟩, ⟨_, boundsEq⟩, ?_, fun _ => live, ?_⟩
  · intro bounds found
    cases boundsEq.symm.trans found
    simpa [Bounds.isAware] using known
  · intro accepted bounds found
    cases boundsEq.symm.trans found
    have notBefore : Ord.compare snapshot.timestamp.instant cutoff.instant ≠ .lt := by
      simpa [holdsEq, Except.map] using accepted
    constructor
    · intro low same
      cases same
      apply (DateTime.at_most_iff_instant known (timestamp_aware snapshot)).mpr
      rw [Ne, Int.compare_eq_lt] at notBefore
      omega
    · intro high same
      cases same

theorem sound_of_before {cutoff : DateTime} (known : cutoff.isAware = true) :
    Sound snapshot (.timeBefore cutoff) := by
  have compared := DateTime.compare_aware (timestamp_aware snapshot) known
  have holdsEq : (timeBefore cutoff).holds snapshot =
      .ok (Ord.compare snapshot.timestamp.instant cutoff.instant != .gt) := by
    simp only [holds, compared, Except.map]
  refine ⟨⟨_, holdsEq⟩, ⟨false, rfl⟩, ⟨_, rfl⟩, ?_, fun _ => rfl, ?_⟩
  · intro bounds found
    cases found
    simpa [Bounds.isAware] using known
  · intro accepted bounds found
    cases found
    have notAfter : Ord.compare snapshot.timestamp.instant cutoff.instant ≠ .gt := by
      simpa [holdsEq] using accepted
    constructor
    · intro low same
      cases same
    · intro high same
      cases same
      apply (DateTime.at_most_iff_instant (timestamp_aware snapshot) known).mpr
      rw [Ne, Int.compare_eq_gt] at notAfter
      omega

section

variable {children : List Predicate} (sound : ∀ child ∈ children, Sound snapshot child)
include sound

theorem child_bounds_aware {each : List Bounds}
    (source : ∀ bounds ∈ each, ∃ child ∈ children, child.bounds = .ok bounds) :
    ∀ bounds ∈ each, bounds.isAware = true := by
  intro bounds member
  obtain ⟨child, inChildren, same⟩ := source bounds member
  exact (sound child inChildren).aware bounds same

theorem sound_of_all : Sound snapshot (.all children) := by
  obtain ⟨every, everyFound, everySpec⟩ :=
    all_m_total (holds snapshot) children fun child member => (sound child member).decided
  obtain ⟨dead, deadFound, deadSpec⟩ :=
    any_m_total contradictory children fun child member => (sound child member).checked
  obtain ⟨each, eachFound, source⟩ :=
    child_bounds_total children fun child member => (sound child member).bounded
  obtain ⟨met, metFound, metAware, metContains⟩ :=
    Bounds.meet_sound (child_bounds_aware sound source)
  obtain ⟨cross, crossFound, crossSpec⟩ := met.crossed_sound metAware
  have holdsEq : (all children).holds snapshot = .ok every := by
    rw [holds, every_holds_eq, everyFound]
  have boundsEq : (all children).bounds = .ok met := by
    simp only [bounds, eachFound, Except.bind, metFound]
  have deadEq : (all children).contradictory = .ok (dead || cross) := by
    rw [contradictory, some_contradictory_eq, deadFound, eachFound]
    cases dead <;> simp [Except.bind, metFound, crossFound]
  have childrenHold (accepted : (all children).holds snapshot = .ok true) :
      ∀ child ∈ children, child.holds snapshot = .ok true :=
    everySpec.mp (by simpa [holdsEq] using accepted)
  have metInside (accepted : (all children).holds snapshot = .ok true) :
      met.Contains snapshot.timestamp := by
    apply metContains _
    intro bounds member
    obtain ⟨child, inChildren, same⟩ := source bounds member
    exact (sound child inChildren).inside (childrenHold accepted child inChildren) bounds same
  refine ⟨⟨_, holdsEq⟩, ⟨_, deadEq⟩, ⟨_, boundsEq⟩, ?_, ?_, ?_⟩
  · intro bounds found
    cases boundsEq.symm.trans found
    exact metAware
  · intro accepted
    have childrenAlive : dead = false := by
      apply Bool.eq_false_iff.mpr
      intro someDead
      obtain ⟨child, inChildren, isDead⟩ := deadSpec.mp someDead
      have isAlive := (sound child inChildren).alive (childrenHold accepted child inChildren)
      simp [isDead] at isAlive
    have uncrossed := crossSpec _ (timestamp_aware snapshot) (metInside accepted)
    rw [deadEq, childrenAlive, uncrossed]
    rfl
  · intro accepted bounds found
    cases boundsEq.symm.trans found
    exact metInside accepted

theorem sound_of_any : Sound snapshot (.any children) := by
  obtain ⟨some', someFound, someSpec⟩ :=
    any_m_total (holds snapshot) children fun child member => (sound child member).decided
  obtain ⟨dead, deadFound, deadSpec⟩ :=
    all_m_total contradictory children fun child member => (sound child member).checked
  obtain ⟨live, liveFound, source, kept⟩ :=
    live_bounds_total children (fun child member => (sound child member).checked)
      fun child member => (sound child member).bounded
  obtain ⟨joined, joinedFound, joinedAware, joinedContains⟩ :=
    Bounds.join_sound (child_bounds_aware sound source)
  have holdsEq : (any children).holds snapshot = .ok some' := by
    rw [holds, some_holds_eq, someFound]
  have boundsEq : (any children).bounds = .ok joined := by
    simp only [bounds, liveFound, Except.bind, joinedFound]
  have deadEq : (any children).contradictory = .ok dead := by
    rw [contradictory, every_contradictory_eq, deadFound]
  have holdingChild (accepted : (any children).holds snapshot = .ok true) :
      ∃ child ∈ children, child.holds snapshot = .ok true :=
    someSpec.mp (by simpa [holdsEq] using accepted)
  refine ⟨⟨_, holdsEq⟩, ⟨_, deadEq⟩, ⟨_, boundsEq⟩, ?_, ?_, ?_⟩
  · intro bounds found
    cases boundsEq.symm.trans found
    exact joinedAware
  · intro accepted
    obtain ⟨child, inChildren, childHolds⟩ := holdingChild accepted
    have isAlive := (sound child inChildren).alive childHolds
    have notAllDead : dead = false := by
      apply Bool.eq_false_iff.mpr
      intro allDead
      have isDead := deadSpec.mp allDead child inChildren
      simp [isDead] at isAlive
    rw [deadEq, notAllDead]
  · intro accepted bounds found
    cases boundsEq.symm.trans found
    obtain ⟨child, inChildren, childHolds⟩ := holdingChild accepted
    obtain ⟨own, inLive, same⟩ := kept child inChildren ((sound child inChildren).alive childHolds)
    exact joinedContains _ (timestamp_aware snapshot)
      ⟨own, inLive, (sound child inChildren).inside childHolds own same⟩

end

mutual

theorem sound_of_aware : (predicate : Predicate) → predicate.isAware = true → Sound snapshot predicate
  | .comparison field comparator value, _ => by
      cases found : snapshot.value? field with
      | none => exact sound_of_timeless (by simp only [holds, found]; rfl) rfl rfl
      | some current => exact sound_of_timeless (by simp only [holds, found]; rfl) rfl rfl
  | .range field low high, _ => by
      cases found : snapshot.value? field with
      | none => exact sound_of_timeless (by simp only [holds, found]; rfl) rfl rfl
      | some current => exact sound_of_timeless (by simp only [holds, found]; rfl) rfl rfl
  | .timeAfter _, known => sound_of_after known rfl rfl rfl
  | .timeWithinLast _, known => sound_of_after known rfl rfl rfl
  | .timeBefore _, known => sound_of_before known
  | .anyFieldBelow _ _, _ => sound_of_timeless rfl rfl rfl
  | .anyFieldAbove _ _, _ => sound_of_timeless rfl rfl rfl
  | .all children, known => sound_of_all (all_sound_of_aware children known)
  | .any children, known => sound_of_any (all_sound_of_aware children known)

theorem all_sound_of_aware : (children : List Predicate) → allAware children = true →
    ∀ child ∈ children, Sound snapshot child
  | [], _ => by simp
  | child :: children, known => by
      simp only [allAware, Bool.and_eq_true] at known
      intro other member
      rcases List.mem_cons.mp member with same | member
      · exact same ▸ sound_of_aware child known.1
      · exact all_sound_of_aware children known.2 other member

end

/-- The tree always answers. Whatever it accepts is within its bounds, ends included, and a tree seen
to be always false accepts nothing. -/
theorem accepted_within_bounds (predicate : Predicate) (snapshot : Snapshot)
    (aware : predicate.isAware = true) :
    ∃ accepted dead bounds, predicate.holds snapshot = .ok accepted ∧
      predicate.contradictory = .ok dead ∧ predicate.bounds = .ok bounds ∧
      (accepted = true → dead = false ∧ bounds.Contains snapshot.timestamp) ∧
      (dead = true → accepted = false) ∧
      (¬bounds.Contains snapshot.timestamp → accepted = false) := by
  have sound := @sound_of_aware snapshot predicate aware
  obtain ⟨accepted, acceptedFound⟩ := sound.decided
  obtain ⟨dead, deadFound⟩ := sound.checked
  obtain ⟨bounds, boundsFound⟩ := sound.bounded
  refine ⟨accepted, dead, bounds, acceptedFound, deadFound, boundsFound, ?_, ?_, ?_⟩
  · rintro rfl
    have alive := sound.alive acceptedFound
    rw [deadFound, Except.ok.injEq] at alive
    exact ⟨alive, sound.inside acceptedFound bounds boundsFound⟩
  · rintro rfl
    apply Bool.eq_false_iff.mpr
    rintro rfl
    have alive := sound.alive acceptedFound
    simp [deadFound] at alive
  · intro outside
    apply Bool.eq_false_iff.mpr
    rintro rfl
    exact outside (sound.inside acceptedFound bounds boundsFound)

/-- A branch that is always false beside one that holds at a single instant. -/
def atMoment (moment : DateTime) : Predicate :=
  .any [.any [], .all [.timeAfter moment, .timeBefore moment, .anyFieldAbove 1.5 ["bitcoin"]]]

theorem accepted_within_bounds_at_moment :
    (atMoment ⟨⟨1500, by decide⟩, some Offset.utc⟩).isAware = true ∧
      ∃ accepted dead bounds,
        (atMoment ⟨⟨1500, by decide⟩, some Offset.utc⟩).holds
          ⟨⟨1500, by decide⟩, [("bitcoin", 2.5)]⟩ = .ok accepted ∧
        (atMoment ⟨⟨1500, by decide⟩, some Offset.utc⟩).contradictory = .ok dead ∧
        (atMoment ⟨⟨1500, by decide⟩, some Offset.utc⟩).bounds = .ok bounds ∧
        accepted = true ∧ dead = false ∧
        Bounds.Contains bounds ⟨⟨1500, by decide⟩, some Offset.utc⟩ := by
  obtain ⟨accepted, dead, bounds, found, deadFound, boundsFound, sound, _⟩ :=
    accepted_within_bounds (atMoment ⟨⟨1500, by decide⟩, some Offset.utc⟩)
      ⟨⟨1500, by decide⟩, [("bitcoin", 2.5)]⟩ rfl
  have holdsThere : accepted = true := Except.ok.inj (found.symm.trans rfl)
  exact ⟨rfl, accepted, dead, bounds, found, deadFound, boundsFound, holdsThere, sound holdsThere⟩

end PriceBoard.Predicate

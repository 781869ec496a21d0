import PriceBoard.Proofs.Board.Persistence
import PriceBoard.Proofs.Board.Since
import PriceBoard.Proofs.Calendar.Iso

/-!
# Live messages and history

What a tick publishes is read back from the store with the same values, as long as no later tick writes
into its millisecond or leaves it further behind than the retention. The store keeps milliseconds, so
the time that is read back is the published one only where that is a whole millisecond.
-/
namespace PriceBoard

open PriceBoard.DateTime

/-! ### What clients see -/

namespace Snapshot

def members (snapshot : Snapshot) : List (String × Json) :=
  snapshot.values.map fun (feed, value) => (feed, .number value)

theorem wire_eq {snapshot : Snapshot} (distinct : (names snapshot.values).Nodup)
    (noTimestamp : "timestamp" ∉ names snapshot.values) :
    snapshot.wire =
      .object (("timestamp", .string snapshot.timestamp.isoText) :: snapshot.members) := by
  have sameNames : names snapshot.members = names snapshot.values := by
    rw [names, members, List.map_map]
    rfl
  apply congrArg Json.object
  apply @merged_of_new _ [] (("timestamp", .string snapshot.timestamp.isoText) :: snapshot.members)
  change ("timestamp" :: names snapshot.members).Nodup
  rw [sameNames]
  exact List.nodup_cons.mpr ⟨noTimestamp, distinct⟩

/-- A live snapshot as it is kept: the same values, and the time to the millisecond. -/
structure KeptAs (live kept : Snapshot) : Prop where
  wires : ∃ members,
    live.wire = .object (("timestamp", .string live.timestamp.isoText) :: members) ∧
      kept.wire = .object (("timestamp", .string kept.timestamp.isoText) :: members)
  instant : kept.timestamp.instant = instantOfMs live.ms
  sameText : kept.timestamp.isoText = live.timestamp.isoText ↔
    live.timestamp.instant = instantOfMs live.ms

theorem kept_as_floored {snapshot : Snapshot} (distinct : (names snapshot.values).Nodup)
    (noTimestamp : "timestamp" ∉ names snapshot.values) : snapshot.KeptAs snapshot.floored where
  wires := by
    refine ⟨snapshot.members, wire_eq distinct noTimestamp, ?_⟩
    exact @wire_eq snapshot.floored distinct noTimestamp
  instant := (utc_instant _).trans (utc_floor_ms snapshot.wall)
  sameText := by
    have sameSecond : snapshot.wall.floorMs.micros / 1000000 = snapshot.wall.micros / 1000000 := by
      dsimp only [WallTime.floorMs]
      omega
    have floor := utc_floor_ms snapshot.wall
    refine (iso_text_inj_of_same_second sameSecond).trans ?_
    change _ ↔ (DateTime.mk snapshot.wall (some Offset.utc)).instant = _
    rw [utc_instant]
    constructor
    · intro same
      rw [same] at floor
      exact floor
    · intro whole
      exact WallTime.eq_of_micros (Int.ofNat.inj (floor.trans whole.symm))

end Snapshot

namespace Board

/-! ### Keeping through a run -/

def handed? : Except BoardError Reply → Option Snapshot
  | .ok (.tick report _) => report.snapshot
  | _ => none

def handedOn (replies : List (Except BoardError Reply)) : List Snapshot := replies.filterMap handed?

/-- Snapshots of different milliseconds, no two of them further apart than the retention. -/
structure Spaced (retention : ℤ) (snapshots : List Snapshot) : Prop where
  distinct : (snapshots.map Snapshot.ms).Nodup
  near : ∀ first ∈ snapshots, ∀ second ∈ snapshots, second.ms - first.ms ≤ 1000 * retention

theorem spared_of_spaced {retention : ℤ} {earlier later : List Snapshot} {snapshot : Snapshot}
    (spaced : Spaced retention (earlier ++ snapshot :: later)) :
    ∀ newer ∈ later, newer.Spares retention snapshot := by
  have distinct := spaced.distinct
  rw [List.map_append, List.map_cons] at distinct
  have fresh := (List.nodup_cons.mp (List.nodup_append.mp distinct).2.1).1
  intro newer member
  constructor
  · intro same
    apply fresh
    rw [← same]
    exact List.mem_map_of_mem member
  · apply spaced.near snapshot _ newer
    · exact List.mem_append_right _ (List.mem_cons_of_mem _ member)
    · exact List.mem_append_right _ List.mem_cons_self

variable {Time : Type} {feeds : List String} {reported : List (String × Float)}
  {board : Board Time} {step : Step Time} {snapshot : Snapshot} {steps : List (Step Time)}

theorem keeps_tick {before after : Board Time} {report : TickReport}
    (positive : 1 ≤ before.settings.retention) (alive : before.Alive feeds reported)
    (keeps : before.store.Keeps snapshot) (ticked : Ticked feeds reported before after report)
    (spared : ∀ newer, report.snapshot = some newer →
      newer.Spares before.settings.retention snapshot) :
    after.store.Keeps snapshot := by
  cases ticked with
  | incomplete silent rests nothing | refused heard refused rests nothing =>
      rw [rests.store]
      exact keeps
  | written newer heard writes composite rests emits =>
      rw [rests.store]
      exact Store.keeps_spared alive.wellformed positive keeps (spared newer (by rw [emits])) _

variable [Timeline Time]

theorem handed_of_tick {report : TickReport} (answer : board.tick.2 = .ok report) :
    handed? (board.step .tick).2 = report.snapshot := by
  change handed? (board.tick.2.map _) = _
  rw [answer]
  rfl

theorem since_of_keeps (configured : Feed.Configured feeds) (same : names snapshot.values = feeds)
    (wellformed : board.store.Wellformed) (keeps : board.store.Keeps snapshot)
    (indexAnswers : (board.conditions .ascending).failure = none)
    (recordsAnswer : (board.conditions .load).failure = none) :
    ∃ later, (∀ other ∈ later, snapshot.ms < other.ms) ∧
      ∀ cutoff : DateTime, cutoff.epochMs = snapshot.ms →
        (board.since cutoff).2 = .ok (snapshot.floored :: later) := by
  have entry := Store.entry_of_holds wellformed keeps.indexed
  have found := Store.snapshot_at_of_keeps configured same keeps
  have held := Index.filter_from_held wellformed.index.ascending entry
  refine ⟨board.store.snapshotsOf (board.store.index.filter (snapshot.ms < ·.score)), ?_, ?_⟩
  · intro other member
    obtain ⟨later, inside, laterFound⟩ := List.mem_filterMap.mp member
    obtain ⟨indexed, after⟩ := List.mem_filter.mp inside
    rw [(found_instant wellformed indexed laterFound).2]
    exact of_decide_eq_true after
  · intro cutoff atMs
    rw [since_answered wellformed indexAnswers recordsAnswer, atMs, held, Store.snapshotsOf,
      List.filterMap_cons, found]
    rfl

theorem keeps_run (configured : Feed.Configured feeds) (positive : 1 ≤ board.settings.retention)
    (alive : board.Alive feeds reported) (keeps : board.store.Keeps snapshot)
    (live : ∀ step ∈ steps, step.Live)
    (spared : ∀ newer ∈ handedOn (board.run steps).2,
      newer.Spares board.settings.retention snapshot) :
    (board.run steps).1.store.Keeps snapshot := by
  induction steps generalizing board reported with
  | nil => exact keeps
  | cons step steps induction =>
      have settings := step_settings board step
      have next := alive_step configured positive alive (live step List.mem_cons_self)
      have sparedLater : ∀ newer ∈ handedOn ((board.step step).1.run steps).2,
          newer.Spares board.settings.retention snapshot := by
        intro newer member
        obtain ⟨reply, inside, handed⟩ := List.mem_filterMap.mp member
        exact spared newer (List.mem_filterMap.mpr ⟨reply, List.mem_cons_of_mem _ inside, handed⟩)
      have kept : (board.step step).1.store.Keeps snapshot := by
        by_cases writes : step.Writes
        · cases step with
          | tick =>
              obtain ⟨report, answer, ticked⟩ := ticked alive.reflects configured.distinct alive.utc
              apply keeps_tick positive alive keeps ticked
              intro newer given
              apply spared newer
              apply List.mem_filterMap.mpr
              exact ⟨_, List.mem_cons_self, (handed_of_tick answer).trans given⟩
          | insert inserted => exact (live _ List.mem_cons_self).elim
          | forget ms => exact (live _ List.mem_cons_self).elim
          | _ => exact writes.elim
        · rw [step_store board writes]
          exact keeps
      rw [← settings] at positive sparedLater
      exact @induction _ (board.step step).1 positive next kept
        (fun other member => live other (List.mem_cons_of_mem _ member)) sparedLater

/-- What a tick hands on is kept to the end of a run that spares it. -/
theorem keeps_handed {report : TickReport} (configured : Feed.Configured feeds)
    (positive : 1 ≤ board.settings.retention) (alive : board.Alive feeds reported)
    (answer : board.tick.2 = .ok report) (given : report.snapshot = some snapshot)
    (live : ∀ step ∈ steps, step.Live)
    (spared : ∀ newer ∈ handedOn (board.tick.1.run steps).2,
      newer.Spares board.settings.retention snapshot) :
    (board.run (.tick :: steps)).1.store.Keeps snapshot := by
  obtain ⟨found, foundAnswer, ticked⟩ := ticked alive.reflects configured.distinct alive.utc
  cases answer.symm.trans foundAnswer
  have settings := (tick_steady board).settings
  have next := alive_tick configured positive alive ticked
  have persists := persists_of_ticked configured positive alive ticked
  have same := (persists.composite snapshot given).exactly
  have keeps : board.tick.1.store.Keeps snapshot := by
    rw [(persists.written snapshot given).2]
    exact Store.keeps_inserted alive.wellformed alive.uniform positive configured same _
  rw [← settings] at positive spared
  have kept := keeps_run configured positive next keeps live spared
  exact kept

/-! ### Live and kept -/

/-- A message of any tick shows the snapshot that history gives afterwards for the tick's millisecond, up
to the rest of the time below the millisecond. -/
theorem history_keeps_published {settings : BoardSettings} (positive : 1 ≤ settings.retention)
    (configured : Feed.Configured feeds) {now : DateTime} (utc : now.offset = some Offset.utc)
    {before after : List (Step Time)} (live : ∀ step ∈ before ++ .tick :: after, step.Live)
    (spaced : Spaced settings.retention
      (handedOn ((start settings feeds now : Board Time).run (before ++ .tick :: after)).2))
    {running final : Board Time} (reached : running = ((start settings feeds now).run before).1)
    (ended : final = (running.run (.tick :: after)).1)
    (indexAnswers : (final.conditions .ascending).failure = none)
    (recordsAnswer : (final.conditions .load).failure = none) :
    ∃ report, running.tick.2 = .ok report ∧ ∀ message ∈ report.published, ∃ snapshot,
      report.snapshot = some snapshot ∧ snapshot.timestamp = running.now ∧
      message = (Json.object [("event", .string newData), ("data", snapshot.wire)]).text ∧
      ∃ kept later, snapshot.KeptAs kept ∧ (∀ other ∈ later, snapshot.ms < other.ms) ∧
        ∀ cutoff : DateTime, cutoff.epochMs = snapshot.ms →
          (final.since cutoff).2 = .ok (kept :: later) := by
  have started : 1 ≤ (start settings feeds now : Board Time).settings.retention := positive
  have liveBefore : ∀ step ∈ before, step.Live := fun step member =>
    live step (List.mem_append_left _ member)
  have liveRest : ∀ step ∈ .tick :: after, step.Live := fun step member =>
    live step (List.mem_append_right _ member)
  have alive := alive_run configured started (alive_start settings feeds utc) liveBefore
  rw [← reached, List.nil_append] at alive
  have sameSettings : running.settings = settings := by
    rw [reached, run_settings]
    rfl
  rw [run_append_replies, ← reached] at spaced
  rw [← sameSettings] at positive spaced
  obtain ⟨report, answer, ticked⟩ := ticked alive.reflects configured.distinct alive.utc
  have persists := persists_of_ticked configured positive alive ticked
  refine ⟨report, answer, ?_⟩
  intro message member
  rcases persists.published with silent | ⟨snapshot, given, published⟩
  · rw [silent] at member
    exact absurd member List.not_mem_nil
  · rw [published] at member
    have composite := persists.composite snapshot given
    have handed := (handed_of_tick answer).trans given
    have replies : (running.run (.tick :: after)).2 =
        (running.step .tick).2 :: (running.tick.1.run after).2 := rfl
    rw [replies, handedOn, List.filterMap_append, List.filterMap_cons_some handed] at spaced
    have keeps := keeps_handed configured positive alive answer given
      (fun step inside => liveRest step (List.mem_cons_of_mem _ inside)) (spared_of_spaced spaced)
    have wellformed := (alive_run configured positive alive liveRest).wellformed
    rw [← ended] at keeps wellformed
    obtain ⟨later, above, read⟩ := since_of_keeps configured composite.exactly wellformed keeps
      indexAnswers recordsAnswer
    have timestamp : snapshot.timestamp = running.now := by
      rw [Snapshot.timestamp, composite.moment, ← alive.utc]
    refine ⟨snapshot, given, timestamp, List.mem_singleton.mp member, snapshot.floored, later, ?_,
      above, read⟩
    exact Snapshot.kept_as_floored (Store.distinct_of_configured configured composite.exactly)
      (Store.no_timestamp_of_configured configured composite.exactly)

def halfMs : DateTime := ⟨⟨63840000005000500, by decide⟩, some Offset.utc⟩

def halfMsSnapshot : Snapshot := ⟨halfMs.wall, [("bitcoin", 1.5)]⟩

def halfMsBoard : Board Rat :=
  ((start ⟨60, 500, 1000⟩ ["bitcoin"] halfMs).run [.update "bitcoin" 1.5 none]).1

theorem half_ms_alive : halfMsBoard.Alive ["bitcoin"] [("bitcoin", 1.5)] := by
  have configured : Feed.Configured ["bitcoin"] := ⟨by decide, by decide⟩
  have started : 1 ≤ (start ⟨60, 500, 1000⟩ ["bitcoin"] halfMs : Board Rat).settings.retention := by
    decide
  have live : ∀ step ∈ [(.update "bitcoin" 1.5 none : Step Rat)], step.Live := by
    intro step member
    fin_cases member
    trivial
  exact alive_run configured started (alive_start ⟨60, 500, 1000⟩ ["bitcoin"] rfl) live

def secondTick : List (Step Rat) :=
  [.setNow ⟨⟨63840000006000000, by decide⟩, some Offset.utc⟩, .tick]

theorem history_keeps_published_at_half_ms :
    Feed.Configured ["bitcoin"] ∧
      halfMsBoard.tick.2 = .ok ⟨some halfMsSnapshot, [halfMsSnapshot],
        [halfMsSnapshot.message newData]⟩ ∧
      ∃ kept later, halfMsSnapshot.KeptAs kept ∧
        ((halfMsBoard.run (.tick :: secondTick)).1.since
          ⟨⟨63840000005000000, by decide⟩, some Offset.utc⟩).2 = .ok (kept :: later) := by
  have positive : 1 ≤ (BoardSettings.mk 60 500 1000).retention := by decide
  have configured : Feed.Configured ["bitcoin"] := ⟨by decide, by decide⟩
  have utc : halfMs.offset = some Offset.utc := rfl
  have live : ∀ step ∈ [.update "bitcoin" 1.5 none] ++ .tick :: secondTick, step.Live := by
    intro step member
    fin_cases member <;> trivial
  have handed : handedOn ((start ⟨60, 500, 1000⟩ ["bitcoin"] halfMs : Board Rat).run
      ([.update "bitcoin" 1.5 none] ++ .tick :: secondTick)).2 =
      [halfMsSnapshot, ⟨⟨63840000006000000, by decide⟩, [("bitcoin", 1.5)]⟩] := rfl
  have spaced : Spaced 60
      [halfMsSnapshot, ⟨⟨63840000006000000, by decide⟩, [("bitcoin", 1.5)]⟩] := by
    constructor
    · decide
    · intro first firstMember second secondMember
      fin_cases firstMember <;> fin_cases secondMember <;> decide
  rw [← handed] at spaced
  have reached : halfMsBoard =
      ((start ⟨60, 500, 1000⟩ ["bitcoin"] halfMs).run [.update "bitcoin" 1.5 none]).1 := rfl
  have published : halfMsBoard.tick.2 = .ok ⟨some halfMsSnapshot, [halfMsSnapshot],
      [halfMsSnapshot.message newData]⟩ := rfl
  obtain ⟨report, answer, shown⟩ :=
    history_keeps_published positive configured utc live spaced reached rfl rfl rfl
  cases published.symm.trans answer
  obtain ⟨snapshot, given, _, _, kept, later, keptAs, _, read⟩ := shown _ List.mem_cons_self
  cases given
  exact ⟨configured, published, kept, later, keptAs, read _ rfl⟩

/-- A live message can show a time that history has lost. -/
theorem history_loses_micros :
    Feed.Configured ["bitcoin"] ∧ ∃ kept later,
      halfMsBoard.tick.2 = .ok ⟨some halfMsSnapshot, [halfMsSnapshot],
        [(Json.object [("event", .string newData), ("data", halfMsSnapshot.wire)]).text]⟩ ∧
      (halfMsBoard.tick.1.since ⟨⟨63840000005000000, by decide⟩, some Offset.utc⟩).2 =
        .ok (kept :: later) ∧
      kept.wire ≠ halfMsSnapshot.wire := by
  have configured : Feed.Configured ["bitcoin"] := ⟨by decide, by decide⟩
  have positive : 1 ≤ halfMsBoard.settings.retention := by decide
  have answer : halfMsBoard.tick.2 = .ok ⟨some halfMsSnapshot, [halfMsSnapshot],
      [halfMsSnapshot.message newData]⟩ := rfl
  have nothingAfter : ∀ step ∈ ([] : List (Step Rat)), step.Live := by
    intro step member
    exact absurd member List.not_mem_nil
  have liveTick : ∀ step ∈ [(.tick : Step Rat)], step.Live := by
    intro step member
    fin_cases member
    trivial
  have keeps : halfMsBoard.tick.1.store.Keeps halfMsSnapshot := by
    apply keeps_handed configured positive half_ms_alive answer rfl nothingAfter
    intro other member
    exact absurd member List.not_mem_nil
  have wellformed : halfMsBoard.tick.1.store.Wellformed :=
    (alive_run configured positive half_ms_alive liveTick).wellformed
  obtain ⟨later, _, read⟩ := since_of_keeps configured rfl wellformed keeps rfl rfl
  have keptAs := @Snapshot.kept_as_floored halfMsSnapshot (by decide) (by decide)
  refine ⟨configured, halfMsSnapshot.floored, later, answer, read _ rfl, ?_⟩
  obtain ⟨members, live, kept⟩ := keptAs.wires
  rw [live, kept]
  intro same
  simp only [Json.object.injEq, List.cons.injEq, Prod.mk.injEq, Json.string.injEq, true_and,
    and_true] at same
  have whole := keptAs.sameText.mp same
  exact absurd whole (by decide)

end Board
end PriceBoard

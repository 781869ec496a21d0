import PriceBoard.Proofs.Board.StoredForm
import PriceBoard.Proofs.Store.Changes

/-!
# What an inserted snapshot is loaded with

Right after an insert, the record of its millisecond loads to the snapshot and to the feeds that earlier
snapshots of the millisecond have left there. It loads to the snapshot alone exactly if the snapshot names
all of those feeds.
-/
namespace PriceBoard.Board

open PriceBoard.Decimal

variable {Time : Type} [Timeline Time] {board : Board Time} {snapshot : Snapshot}

theorem load_inserted (reachable : board.store.Reachable) (retention : 1 ≤ board.settings.retention)
    (noTimestamp : "timestamp" ∉ names snapshot.values)
    (written : (board.insert snapshot).2 = .ok ()) :
    (board.insert snapshot).1.store.load [intText snapshot.ms] = .ok
      [⟨snapshot.wall.floorMs, Snapshot.valuesOf (board.store.mergedRecord snapshot)⟩] := by
  have writes := insert_writes written
  have inRange : DateTime.MsInRange snapshot.ms := DateTime.utc_epoch_ms_in_range snapshot.wall
  have stored : (board.insert snapshot).1.store.record? snapshot.ms =
      some (board.store.mergedRecord snapshot) := by
    rw [record_of_insert writes, Store.record_write board.store (by omega), if_pos rfl]
  have wellformed : (board.insert snapshot).1.store.Wellformed := by
    rw [(insert_written writes).1.store]
    exact Store.after_insert_wellformed (Store.reachable_wellformed reachable) _ noTimestamp
  obtain ⟨wall, micros, _, found⟩ := Store.snapshot_at_record wellformed inRange stored
  have sameWall : wall = snapshot.wall.floorMs := WallTime.eq_of_micros
    (Int.ofNat.inj (micros.trans (DateTime.utc_floor_ms snapshot.wall).symm))
  have loaded := Store.load_named wellformed [⟨intText snapshot.ms, snapshot.ms⟩]
    fun entry member => by rw [List.mem_singleton.mp member]; exact ⟨rfl, inRange⟩
  rw [List.filterMap_cons, found, sameWall] at loaded
  exact loaded

/-- The snapshot of an insert comes back with what earlier snapshots of its millisecond have left, and
with nothing else. -/
theorem inserted_with_what_is_left (reachable : board.store.Reachable)
    (retention : 1 ≤ board.settings.retention) (distinct : (names snapshot.values).Nodup)
    (noTimestamp : "timestamp" ∉ names snapshot.values)
    (written : (board.insert snapshot).2 = .ok ()) :
    ∃ loaded, (board.insert snapshot).1.store.load [intText snapshot.ms] = .ok [loaded] ∧
      loaded.wall = snapshot.wall.floorMs ∧
      (∀ feed, loaded.value? feed =
        (snapshot.value? feed).or (board.store.value? snapshot.ms feed)) ∧
      (loaded.values.Perm snapshot.values ↔
        ∀ feed ∉ names snapshot.values, board.store.value? snapshot.ms feed = none) ∧
      ∀ changes : List Store.Change, (∀ change ∈ changes, change.Regular) →
        board.store = Store.afterChanges changes → ∀ feed value,
          board.store.value? snapshot.ms feed = some value ↔
            Store.Change.Left changes snapshot.ms feed value := by
  have merges := Store.value_merged distinct noTimestamp board.store
  refine ⟨_, load_inserted reachable retention noTimestamp written, rfl, merges, ?_, ?_⟩
  · exact Snapshot.perm_iff_nothing_left (Store.merged_record_distinct reachable noTimestamp) distinct
      merges
  · intro changes regular came feed value
    rw [came]
    exact Store.value_after_changes regular

def loneFeed (feed : String) (value : Float) : Snapshot :=
  ⟨⟨63840009600000000, by decide⟩, [(feed, value)]⟩

theorem lone_feed_distinct (feed : String) (value : Float) :
    (names (loneFeed feed value).values).Nodup :=
  List.nodup_singleton feed

def changedBoard (changes : List Store.Change) : Board Rat :=
  { start ⟨3600, 500, 1000⟩ ["gold", "silver"] (loneFeed "gold" 1.5).timestamp with
    store := Store.afterChanges changes }

def goldWritten : List Store.Change := [.write 3600 (loneFeed "gold" 1.5)]

theorem gold_written_regular : ∀ change ∈ goldWritten, change.Regular := by
  intro change member
  rw [List.mem_singleton.mp member]
  exact ⟨lone_feed_distinct "gold" 1.5, by decide⟩

def goldExpired : List Store.Change := goldWritten ++ [.dropRecord (loneFeed "gold" 1.5).ms]

theorem gold_expired_regular : ∀ change ∈ goldExpired, change.Regular := by
  intro change member
  rcases List.mem_append.mp member with written | expires
  · exact gold_written_regular change written
  · rw [List.mem_singleton.mp expires]
    trivial

theorem inserted_with_what_is_left_after_expiry :
    (changedBoard goldExpired).store.Reachable ∧
      1 ≤ (changedBoard goldExpired).settings.retention ∧
      (names (loneFeed "silver" 2.5).values).Nodup ∧
      "timestamp" ∉ names (loneFeed "silver" 2.5).values ∧
      ((changedBoard goldExpired).insert (loneFeed "silver" 2.5)).2 = .ok () ∧
      ∃ loaded, ((changedBoard goldExpired).insert (loneFeed "silver" 2.5)).1.store.load
          [intText (loneFeed "silver" 2.5).ms] = .ok [loaded] ∧
        loaded.values.Perm (loneFeed "silver" 2.5).values := by
  have reachable := Store.after_changes_reachable gold_expired_regular
  have retention : 1 ≤ (changedBoard goldExpired).settings.retention := by decide
  have distinct := lone_feed_distinct "silver" 2.5
  have noTimestamp : "timestamp" ∉ names (loneFeed "silver" 2.5).values := by decide
  have written : ((changedBoard goldExpired).insert (loneFeed "silver" 2.5)).2 = .ok () := rfl
  obtain ⟨loaded, found, _, _, whole, left⟩ := @inserted_with_what_is_left _ _
    (changedBoard goldExpired) _ reachable retention distinct noTimestamp written
  refine ⟨reachable, retention, distinct, noTimestamp, written, loaded, found, ?_⟩
  apply whole.mpr
  intro feed _
  -- The deletion is the last change, and it touches every feed.
  apply Option.eq_none_iff_forall_not_mem.mpr
  intro value isLeft
  have given := (left goldExpired gold_expired_regular rfl feed value).mp isLeft
  rw [goldExpired, Store.Change.left_snoc] at given
  rcases given with gives | ⟨untouched, _⟩
  · exact gives
  · exact untouched rfl

/-- A second snapshot of a millisecond comes back with a feed of the first, which it does not have. -/
theorem second_snapshot_mixed :
    (changedBoard goldWritten).store.Reachable ∧
      1 ≤ (changedBoard goldWritten).settings.retention ∧
      "timestamp" ∉ names (loneFeed "silver" 2.5).values ∧
      ((changedBoard goldWritten).insert (loneFeed "silver" 2.5)).2 = .ok () ∧
      ∃ loaded, ((changedBoard goldWritten).insert (loneFeed "silver" 2.5)).1.store.load
          [intText (loneFeed "silver" 2.5).ms] = .ok [loaded] ∧
        loaded.value? "gold" = some 1.5 ∧ (loneFeed "silver" 2.5).value? "gold" = none := by
  have reachable : (changedBoard goldWritten).store.Reachable :=
    Store.after_changes_reachable gold_written_regular
  have retention : 1 ≤ (changedBoard goldWritten).settings.retention := by decide
  have noTimestamp : "timestamp" ∉ names (loneFeed "silver" 2.5).values := by decide
  have gold : (changedBoard goldWritten).store.value? (loneFeed "silver" 2.5).ms "gold" = some 1.5 :=
    (Store.value_after_changes gold_written_regular).mpr
      ⟨[], _, [], rfl, ⟨rfl, by decide, rfl⟩, nofun⟩
  refine ⟨reachable, retention, noTimestamp, rfl, _,
    load_inserted reachable retention noTimestamp rfl, ?_, rfl⟩
  have merges := Store.value_merged (lone_feed_distinct "silver" 2.5) noTimestamp
    (changedBoard goldWritten).store "gold"
  rw [gold] at merges
  exact merges

end PriceBoard.Board

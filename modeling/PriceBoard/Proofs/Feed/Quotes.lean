import PriceBoard.Feed.Current
import PriceBoard.Proofs.Json.Members
import PriceBoard.Proofs.Results
import Mathlib.Data.List.Perm.Subperm

/-!
# Quotes after any reports

The quotes of distinct feeds have one quote for each configured feed that has reported, with the value of
its last report. So they are complete, by their number alone, exactly when every feed has reported.
-/
namespace PriceBoard.Feed

/-! ### Feeds -/

theorem feeds_update (quotes : Quotes) (feed : String) (value : Float) (time : DateTime) :
    (quotes.update feed value time).1.feeds = quotes.feeds := by
  unfold Quotes.update
  split <;> rfl

theorem names_values_of (quotes : Quotes) (feeds : List String) {values : List (String × Float)}
    (found : quotes.valuesOf feeds = .ok values) : values.map Prod.fst = feeds := by
  induction feeds generalizing values with
  | nil =>
    cases found
    rfl
  | cons feed feeds induction =>
    rw [Quotes.valuesOf] at found
    cases quoted : quotes.quote? feed with
    | none => simp [quoted] at found
    | some quote =>
      rw [quoted] at found
      obtain ⟨values, rest, rfl⟩ := ok_of_map found
      rw [List.map_cons, induction rest]

theorem quoted_of_values_of (quotes : Quotes) (feeds : List String)
    {values : List (String × Float)} (found : quotes.valuesOf feeds = .ok values) :
    ∀ entry ∈ values, (quotes.quote? entry.1).map (·.value) = some entry.2 := by
  induction feeds generalizing values with
  | nil =>
    cases found
    exact List.forall_mem_nil _
  | cons feed feeds induction =>
    rw [Quotes.valuesOf] at found
    cases quoted : quotes.quote? feed with
    | none => simp [quoted] at found
    | some quote =>
      rw [quoted] at found
      obtain ⟨values, rest, rfl⟩ := ok_of_map found
      refine List.forall_mem_cons.mpr ⟨?_, induction rest⟩
      rw [quoted]
      rfl

theorem names_complete_values {quotes : Quotes} {values : List (String × Float)}
    (found : quotes.completeValues = .ok (some values)) : values.map Prod.fst = quotes.feeds := by
  unfold Quotes.completeValues at found
  split at found
  · cases found
  · obtain ⟨all, each, same⟩ := ok_of_map found
    cases same
    exact names_values_of quotes quotes.feeds each

/-- The values of a snapshot of the moment are the complete ones. -/
theorem complete_of_take {quotes : Quotes} {clock : Except TimeError DateTime} {snapshot : Snapshot}
    (found : quotes.take clock = .ok (some snapshot)) :
    quotes.completeValues = .ok (some snapshot.values) := by
  unfold Quotes.take at found
  split at found
  · cases found
  · cases found
  · rename_i values complete
    obtain ⟨_, made, same⟩ := ok_of_map found
    cases same
    obtain ⟨now, _, moved⟩ := ok_of_bind (ok_of_map_error made)
    obtain ⟨_, _, rfl⟩ := ok_of_map moved
    exact complete

theorem names_take {quotes : Quotes} {clock : Except TimeError DateTime} {snapshot : Snapshot}
    (found : quotes.take clock = .ok (some snapshot)) :
    snapshot.values.map Prod.fst = quotes.feeds :=
  names_complete_values (complete_of_take found)

/-! ### Updating -/

theorem update_unknown {quotes : Quotes} {feed : String} (unknown : feed ∉ quotes.feeds)
    (value : Float) (time : DateTime) : quotes.update feed value time = (quotes, false) := by
  have notContained : ¬quotes.feeds.contains feed = true := by simpa using unknown
  rw [Quotes.update, if_neg notContained]

theorem update_known {quotes : Quotes} {feed : String} (known : feed ∈ quotes.feeds)
    (value : Float) (time : DateTime) :
    quotes.update feed value time =
      ({ quotes with reported := setMember feed ⟨feed, value, time⟩ quotes.reported }, true) := by
  have contained : quotes.feeds.contains feed = true := by simpa using known
  rw [Quotes.update, if_pos contained]

/-! ### Reports -/

def latest (reports : List (String × Float)) (feed : String) : Option Float :=
  reports.reverse.lookup feed

theorem latest_is_some_iff {reports : List (String × Float)} {feed : String} :
    (latest reports feed).isSome = true ↔ feed ∈ names reports := by
  rw [latest, lookup_is_some_iff, names, names, List.map_reverse, List.mem_reverse]

theorem latest_snoc (reports : List (String × Float)) (feed : String) (value : Float)
    (other : String) :
    latest (reports ++ [(feed, value)]) other =
      if other = feed then some value else latest reports other := by
  rw [latest, List.reverse_append, List.reverse_singleton, List.singleton_append, List.lookup_cons]
  by_cases same : other = feed
  · simp [same]
  · have differ : (other == feed) = false := by simpa using same
    rw [differ, if_neg same]
    rfl

/-- The quotes of the feeds after some reports. -/
structure Quotes.Reflects (quotes : Quotes) (feeds : List String) (reports : List (String × Float)) :
    Prop where
  sameFeeds : quotes.feeds = feeds
  distinct : (names quotes.reported).Nodup
  configured : ∀ feed ∈ names quotes.reported, feed ∈ feeds
  values : ∀ feed ∈ feeds, (quotes.quote? feed).map (·.value) = latest reports feed

section

variable {quotes : Quotes} {feeds : List String} {reports : List (String × Float)}

theorem reflects_empty (feeds : List String) : (Quotes.empty feeds).Reflects feeds [] where
  sameFeeds := rfl
  distinct := List.Pairwise.nil
  configured _ member := absurd member List.not_mem_nil
  values _ _ := rfl

theorem mem_names_set_member {Value : Type} {name other : String} {value : Value}
    {members : List (String × Value)} (member : other ∈ names (setMember name value members)) :
    other = name ∨ other ∈ names members := by
  obtain ⟨entry, inside, rfl⟩ := List.mem_map.mp member
  rcases mem_set_member inside with new | old
  · exact .inl (by rw [new])
  · exact .inr (List.mem_map_of_mem old)

/-- One more report is reflected by an update. -/
theorem reflects_update (reflects : quotes.Reflects feeds reports) (feed : String) (value : Float)
    (time : DateTime) :
    (quotes.update feed value time).1.Reflects feeds (reports ++ [(feed, value)]) := by
  by_cases known : feed ∈ quotes.feeds
  · rw [update_known known]
    constructor
    · exact reflects.sameFeeds
    · exact names_set_member_nodup reflects.distinct
    · intro other member
      rcases mem_names_set_member member with rfl | old
      · rw [← reflects.sameFeeds]
        exact known
      · exact reflects.configured other old
    · intro other configured
      rw [latest_snoc, Quotes.quote?, lookup_set_member]
      by_cases same : other = feed
      · rw [if_pos same, if_pos same]
        rfl
      · rw [if_neg same, if_neg same]
        exact reflects.values other configured
  · rw [update_unknown known]
    constructor
    · exact reflects.sameFeeds
    · exact reflects.distinct
    · exact reflects.configured
    · intro other configured
      have differ : ¬other = feed := by
        rintro rfl
        rw [reflects.sameFeeds] at known
        exact known configured
      rw [latest_snoc, if_neg differ]
      exact reflects.values other configured

/-! ### Completeness -/

theorem quoted_iff (reflects : quotes.Reflects feeds reports) {feed : String}
    (configured : feed ∈ feeds) : (quotes.quote? feed).isSome = true ↔ feed ∈ names reports := by
  rw [← latest_is_some_iff, ← reflects.values feed configured, Option.isSome_map]

theorem missing_eq (reflects : quotes.Reflects feeds reports) :
    quotes.missing = feeds.filter fun feed => feed ∉ names reports := by
  rw [Quotes.missing, reflects.sameFeeds]
  apply List.filter_congr
  intro feed configured
  have quoted := quoted_iff reflects configured
  cases found : quotes.quote? feed with
  | none =>
      rw [found] at quoted
      have unreported : feed ∉ names reports := fun member => Bool.noConfusion (quoted.mpr member)
      simp [unreported]
  | some quote =>
      rw [found] at quoted
      simp [quoted.mp rfl]

/-- The reported names are distinct and configured, so they are too few unless they are all. -/
theorem too_few_iff (reflects : quotes.Reflects feeds reports) (distinct : feeds.Nodup) :
    quotes.reported.length < quotes.feeds.length ↔ ∃ feed ∈ feeds, feed ∉ names reports := by
  have reported : ∀ feed ∈ feeds, feed ∈ names quotes.reported ↔ feed ∈ names reports := by
    intro feed configured
    rw [← quoted_iff reflects configured, Quotes.quote?, lookup_is_some_iff]
  have length : quotes.reported.length = (names quotes.reported).length :=
    (List.length_map _).symm
  rw [length, reflects.sameFeeds]
  constructor
  · intro few
    by_contra all
    push Not at all
    have covered : feeds ⊆ names quotes.reported := fun feed configured =>
      (reported feed configured).mpr (all feed configured)
    have bounded := (List.subperm_of_subset distinct covered).length_le
    omega
  · rintro ⟨feed, configured, unreported⟩
    by_contra many
    have inside := List.subperm_of_subset reflects.distinct reflects.configured
    have all := inside.perm_of_length_le (by omega)
    exact unreported ((reported feed configured).mp (all.mem_iff.mpr configured))

theorem values_of_quoted (quotes : Quotes) (feeds : List String)
    (quoted : ∀ feed ∈ feeds, (quotes.quote? feed).isSome = true) :
    ∃ values, quotes.valuesOf feeds = .ok values ∧
      ∀ feed ∈ feeds, values.lookup feed = (quotes.quote? feed).map (·.value) := by
  induction feeds with
  | nil => exact ⟨[], rfl, fun _ member => absurd member List.not_mem_nil⟩
  | cons first rest induction =>
      obtain ⟨quote, found⟩ := Option.isSome_iff_exists.mp (quoted first List.mem_cons_self)
      obtain ⟨values, each, same⟩ := induction fun feed member =>
        quoted feed (List.mem_cons_of_mem _ member)
      refine ⟨(first, quote.value) :: values, ?_, ?_⟩
      · rw [Quotes.valuesOf, found]
        simp only [each]
        rfl
      · intro feed member
        rw [List.lookup_cons]
        by_cases here : feed = first
        · rw [here, found]
          simp
        · have differ : (feed == first) = false := by simpa using here
          rw [differ]
          exact same feed ((List.mem_cons.mp member).resolve_left here)

structure Quotes.Shows (quotes : Quotes) (feeds : List String) (reports : List (String × Float))
    (complete : Option (List (String × Float))) : Prop where
  answer : quotes.completeValues = .ok complete
  incomplete : complete = none ↔ ∃ feed ∈ feeds, feed ∉ names reports
  someMissing : complete = none ↔ quotes.missing ≠ []
  exactly : ∀ values, complete = some values → names values = feeds
  newest : ∀ values, complete = some values → ∀ feed ∈ feeds, values.lookup feed = latest reports feed
  missing : quotes.missing = feeds.filter fun feed => feed ∉ names reports

theorem missing_ne_nil_iff (reflects : quotes.Reflects feeds reports) :
    quotes.missing ≠ [] ↔ ∃ feed ∈ feeds, feed ∉ names reports := by
  rw [missing_eq reflects, Ne, List.filter_eq_nil_iff]
  push Not
  simp only [decide_eq_true_iff]

theorem exists_shown (reflects : quotes.Reflects feeds reports) (distinct : feeds.Nodup) :
    ∃ complete, quotes.Shows feeds reports complete := by
  by_cases few : quotes.reported.length < quotes.feeds.length
  · have silent := (too_few_iff reflects distinct).mp few
    refine ⟨none, ?_, ?_, ?_, ?_, ?_, missing_eq reflects⟩
    · rw [Quotes.completeValues, if_pos few]
    · simp only [silent]
    · simp only [missing_ne_nil_iff reflects, silent]
    · intro values given
      cases given
    · intro values given
      cases given
  · have heard := (too_few_iff reflects distinct).not.mp few
    obtain ⟨values, each, same⟩ := values_of_quoted quotes quotes.feeds fun feed member => by
      rw [reflects.sameFeeds] at member
      apply (quoted_iff reflects member).mpr
      by_contra unreported
      exact heard ⟨feed, member, unreported⟩
    have found : quotes.completeValues = .ok (some values) := by
      rw [Quotes.completeValues, if_neg few, each]
      rfl
    refine ⟨some values, found, ?_, ?_, ?_, ?_, missing_eq reflects⟩
    · simp only [heard, reduceCtorEq]
    · simp only [missing_ne_nil_iff reflects, heard, reduceCtorEq]
    · intro others given
      cases given
      rw [← reflects.sameFeeds]
      exact names_complete_values found
    · intro others given feed configured
      cases given
      rw [same feed (by rwa [reflects.sameFeeds])]
      exact reflects.values feed configured

end

/-! ### Composites -/

/-- Feeds that can be the fields of a record: each once, and none named like the time. -/
structure Configured (feeds : List String) : Prop where
  distinct : feeds.Nodup
  noTimestamp : "timestamp" ∉ feeds

structure Composite (feeds : List String) (reports : List (String × Float)) (now : DateTime)
    (snapshot : Snapshot) : Prop where
  moment : snapshot.wall = now.wall
  exactly : names snapshot.values = feeds
  newest : ∀ feed ∈ feeds, snapshot.values.lookup feed = latest reports feed

end PriceBoard.Feed

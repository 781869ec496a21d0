import PriceBoard.Proofs.Board.Completeness
import PriceBoard.Proofs.Board.Messages
import PriceBoard.Proofs.Json.Writing
import PriceBoard.Proofs.Store.Record

/-!
# Live messages are JSON texts

A live message is a JSON text exactly when the values of its snapshot are finite. The values are the last
prices of the feeds, so the trades read before a tick decide: one last price that is not finite is enough
to spoil the message, and finite prices alone never do.
-/
namespace PriceBoard

open Feed (Quotes latest)

/-! ### Messages -/

namespace Snapshot

/-- A feed has one value, wherever it stands among the values. -/
def Functional (snapshot : Snapshot) : Prop :=
  ∀ entry ∈ snapshot.values, ∀ other ∈ snapshot.values, entry.1 = other.1 → entry.2 = other.2

end Snapshot

theorem Json.members_finite_iff (members : List (String × Json)) :
    Json.MembersFinite members ↔ ∀ entry ∈ members, entry.2.Finite := by
  induction members with
  | nil => simp [Json.MembersFinite]
  | cons entry members induction =>
      obtain ⟨name, value⟩ := entry
      simp [Json.MembersFinite, induction]

namespace Snapshot

theorem wire_finite_iff {snapshot : Snapshot} (functional : snapshot.Functional) :
    snapshot.wire.Finite ↔ snapshot.FiniteValues := by
  have wire : snapshot.wire = .object (merged [("timestamp", .string snapshot.timestamp.isoText)]
      (snapshot.values.map fun entry => (entry.1, .number entry.2))) := rfl
  rw [wire]
  change Json.MembersFinite _ ↔ _
  rw [Json.members_finite_iff]
  constructor
  · intro finite entry member
    have given : entry.1 ∈ names (snapshot.values.map fun entry => (entry.1, Json.number entry.2)) :=
      List.mem_map.mpr ⟨_, List.mem_map_of_mem member, rfl⟩
    obtain ⟨value, inside, found⟩ := @lookup_merged_of_given _ _
      [("timestamp", .string snapshot.timestamp.isoText)] _ given
    obtain ⟨other, otherMember, same⟩ := List.mem_map.mp inside
    obtain ⟨sameName, rfl⟩ := Prod.mk.inj same
    rw [functional entry member other otherMember sameName.symm]
    exact finite _ (mem_of_lookup found)
  · intro finite entry member
    rcases mem_merged member with inside | first
    · obtain ⟨other, otherMember, rfl⟩ := List.mem_map.mp inside
      exact finite other otherMember
    · rw [List.mem_singleton.mp first]
      trivial

theorem message_is_text_iff {snapshot : Snapshot} (functional : snapshot.Functional) (event : String) :
    Json.IsText (snapshot.message event).toList ↔ snapshot.FiniteValues := by
  rw [message, Json.text, String.toList_ofList, Json.write_is_text_iff, ← wire_finite_iff functional]
  simp [messageJson, Json.Finite, Json.MembersFinite]

end Snapshot

/-! ### Prices -/

def FinitePrices (feeds : List String) (reported : List (String × Float)) : Prop :=
  ∀ feed ∈ feeds, ∀ price, latest reported feed = some price → price.isFinite = true

section

variable {quotes : Quotes} {feeds : List String} {reported : List (String × Float)}
  {clock : Except TimeError DateTime} {snapshot : Snapshot}

/-- The values of a snapshot of the moment are the last prices of the feeds. -/
theorem taken_values (reflects : quotes.Reflects feeds reported)
    (taken : quotes.take clock = .ok (some snapshot)) :
    names snapshot.values = feeds ∧
      ∀ entry ∈ snapshot.values, latest reported entry.1 = some entry.2 := by
  have complete := Feed.complete_of_take taken
  have sameNames : names snapshot.values = feeds :=
    (Feed.names_take taken).trans reflects.sameFeeds
  refine ⟨sameNames, fun entry member => ?_⟩
  unfold Quotes.completeValues at complete
  split at complete
  · cases complete
  · obtain ⟨values, each, same⟩ := ok_of_map complete
    cases same
    have configured : entry.1 ∈ feeds := sameNames ▸ List.mem_map_of_mem member
    rw [← reflects.values entry.1 configured]
    exact Feed.quoted_of_values_of quotes _ each entry member

theorem taken_functional (reflects : quotes.Reflects feeds reported)
    (taken : quotes.take clock = .ok (some snapshot)) : snapshot.Functional := by
  intro entry member other otherMember same
  have first := (taken_values reflects taken).2 entry member
  have second := (taken_values reflects taken).2 other otherMember
  rw [same, second] at first
  exact (Option.some.inj first).symm

theorem finite_taken_iff (reflects : quotes.Reflects feeds reported)
    (taken : quotes.take clock = .ok (some snapshot)) :
    snapshot.FiniteValues ↔ FinitePrices feeds reported := by
  obtain ⟨sameNames, values⟩ := taken_values reflects taken
  constructor
  · intro finite feed configured price last
    rw [← sameNames] at configured
    obtain ⟨entry, member, rfl⟩ := List.mem_map.mp configured
    cases (values entry member).symm.trans last
    exact finite entry member
  · intro finite entry member
    have configured : entry.1 ∈ feeds := sameNames ▸ List.mem_map_of_mem member
    exact finite entry.1 configured entry.2 (values entry member)

end

namespace Board

section

variable {Time : Type} [Timeline Time]

/-- What a tick emits and publishes is as finite as the last prices. -/
structure Honest (feeds : List String) (reported : List (String × Float)) (report : TickReport) :
    Prop where
  emitted : ∀ snapshot ∈ report.emitted, snapshot.FiniteValues ↔ FinitePrices feeds reported
  published : ∀ message ∈ report.published,
    Json.IsText message.toList ↔ FinitePrices feeds reported

theorem tick_honest {board : Board Time} {feeds : List String} {reported : List (String × Float)}
    (reflects : board.quotes.Reflects feeds reported) {report : TickReport}
    (answer : board.tick.2 = .ok report) : Honest feeds reported report := by
  have nothing : Honest feeds reported ⟨none, [], []⟩ :=
    ⟨List.forall_mem_nil _, List.forall_mem_nil _⟩
  cases taken : board.quotes.take (.ok board.now) with
  | error error =>
      simp only [tick, taken] at answer
      cases answer
  | ok found =>
      cases found with
      | none =>
          simp only [tick, taken] at answer
          cases answer
          exact nothing
      | some snapshot =>
          cases failure : (board.conditions .write).failure with
          | some message =>
              cases (tick_refused taken failure).2.symm.trans answer
              exact nothing
          | none =>
              cases (tick_written taken failure).2.symm.trans answer
              have finite := finite_taken_iff reflects taken
              refine ⟨List.forall_mem_singleton.mpr finite, fun message published => ?_⟩
              unfold messages at published
              split at published
              · cases published
              · rw [List.mem_singleton.mp published,
                  Snapshot.message_is_text_iff (taken_functional reflects taken), finite]

/-- After any run from the start, a tick publishes JSON texts exactly where the last prices of the feeds
are finite, as they are when no step has reported another price. -/
theorem live_messages_are_json_iff (settings : BoardSettings) (feeds : List String) (now : DateTime)
    (steps : List (Step Time)) {report : TickReport}
    (answer : ((start settings feeds now).run steps).1.tick.2 = .ok report) :
    (∀ snapshot ∈ report.emitted, snapshot.FiniteValues ↔ FinitePrices feeds (reports steps)) ∧
      (∀ message ∈ report.published,
        Json.IsText message.toList ↔ FinitePrices feeds (reports steps)) ∧
      ((∀ reported ∈ reports steps, reported.2.isFinite = true) →
        ∀ message ∈ report.published, Json.IsText message.toList) := by
  have honest := tick_honest (start_reflects settings feeds now steps) answer
  refine ⟨honest.emitted, honest.published, fun finite message published => ?_⟩
  apply (honest.published message published).mpr
  intro feed configured price last
  exact finite (feed, price) (List.mem_reverse.mp (mem_of_lookup last))

end

/-! ### One trade -/

section

variable {payload : Feed.Payload} {price : Float}

def priced (price : Float) : Snapshot := ⟨bitcoinBoard.now.wall, [("bitcoin", price)]⟩

def oneTrade (payload : Feed.Payload) : List (Step Rat) := [.message "bitcoin" payload]

theorem one_trade_reports (read : Feed.readTrade payload = .ok (some ⟨price, none⟩)) :
    reports (oneTrade payload) = [("bitcoin", price)] := by
  simp only [reports, oneTrade, List.filterMap_cons, Step.report?, read, List.filterMap_nil]

theorem one_trade_published (read : Feed.readTrade payload = .ok (some ⟨price, none⟩)) :
    (bitcoinBoard.run (oneTrade payload)).1.tick.2 =
      .ok ⟨some (priced price), [priced price], [(priced price).message newData]⟩ := by
  have after : (bitcoinBoard.run (oneTrade payload)).1 = ({ bitcoinBoard with
      quotes := ⟨["bitcoin"], [("bitcoin", ⟨"bitcoin", price, bitcoinBoard.now⟩)]⟩ } :
        Board Rat).count [.feedUpdate "bitcoin"] := by
    simp only [oneTrade, run, step, message_of_trade read]
    rfl
  rw [after]
  exact (tick_written (take_complete rfl rfl) rfl).2

end

def zeroTrade : Feed.Payload := .text "\x7b\"p\": \"0\"\x7d"

theorem zero_trade_read : Feed.readTrade zeroTrade = .ok (some ⟨0.0, none⟩) := by
  decide +kernel

theorem live_messages_are_json_iff_zero :
    (bitcoinBoard.run (oneTrade zeroTrade)).1.tick.2 =
        .ok ⟨some (priced 0.0), [priced 0.0], [(priced 0.0).message newData]⟩ ∧
      Json.IsText ((priced 0.0).message newData).toList := by
  have published := one_trade_published zero_trade_read
  obtain ⟨_, _, texts⟩ := live_messages_are_json_iff ⟨3600, 500, 100⟩ ["bitcoin"]
    bitcoinBoard.now (oneTrade zeroTrade) published
  refine ⟨published, texts ?_ _ List.mem_cons_self⟩
  rw [one_trade_reports zero_trade_read]
  exact List.forall_mem_singleton.mpr (by decide)

def nanTrade : Feed.Payload := .text "\x7b\"p\": \"nan\"\x7d"

theorem nan_trade_read : Feed.readTrade nanTrade = .ok (some ⟨Decimal.notANumber, none⟩) := by
  decide +kernel

/-- A trade whose price is not a number leads to a live message that is no JSON text. -/
theorem nan_message_is_no_json : ∃ report,
    (bitcoinBoard.run (oneTrade nanTrade)).1.tick.2 = .ok report ∧
      ∃ message ∈ report.published, ¬Json.IsText message.toList := by
  have published := one_trade_published nan_trade_read
  have honest := tick_honest (start_reflects ⟨3600, 500, 100⟩ ["bitcoin"] bitcoinBoard.now
    (oneTrade nanTrade)) published
  refine ⟨_, published, _, List.mem_cons_self, ?_⟩
  rw [honest.published _ List.mem_cons_self, one_trade_reports nan_trade_read]
  intro finite
  exact absurd (finite "bitcoin" List.mem_cons_self Decimal.notANumber rfl) (by decide)

end Board

end PriceBoard

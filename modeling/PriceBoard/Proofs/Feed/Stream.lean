import PriceBoard.Feed.Stream
import PriceBoard.Proofs.Backoff

/-!
# A stream whose attempts all end

Each attempt is followed by one pause and each pause by the next attempt, so the stream goes on as long as
attempts are given. The length of a pause is fixed by how many there were since a connection last opened.
Messages are received in the order in which they come, of each connection up to the first that ends it.
-/
namespace PriceBoard.Feed

/-! ### What is seen of a stream -/

section Views

variable {Time : Type}

inductive Turn where
  | attempt
  | opening
  | pause
  deriving DecidableEq, Repr

def Activity.turn? : Activity Time → Option Turn
  | .connecting => some .attempt
  | .connected => some .opening
  | .pausing _ => some .pause
  | .received _ => none
  | .disconnected => none

def Activity.payload? : Activity Time → Option Payload
  | .received payload => some payload
  | _ => none

def turns (activities : List (Time × Activity Time)) : List Turn :=
  activities.filterMap (·.2.turn?)

def payloads (activities : List (Time × Activity Time)) : List Payload :=
  activities.filterMap (·.2.payload?)

def sinceOpening (count : ℕ) (activity : Time × Activity Time) : ℕ :=
  match activity.2 with
  | .connected => 0
  | .pausing _ => count + 1
  | _ => count

/-- How many pauses there were since a connection last opened, or else since the start. -/
def pausesSinceOpening (activities : List (Time × Activity Time)) : ℕ := activities.foldl sinceOpening 0

/-! ### What attempts lead to -/

def Attempt.Ends : Attempt Time → Prop
  | .refused => True
  | .opened _ ending => ending ≠ .silent

def Attempt.openings : Attempt Time → List Turn
  | .refused => []
  | .opened _ _ => [.opening]

def Attempt.turns (attempt : Attempt Time) : List Turn := .attempt :: attempt.openings ++ [.pause]

/-- The messages up to the first whose handling ends the connection. -/
def handled : List Payload → List Payload
  | [] => []
  | payload :: payloads =>
    payload :: match readTrade payload with
      | .error _ => []
      | .ok _ => handled payloads

def Attempt.handled : Attempt Time → List Payload
  | .refused => []
  | .opened deliveries _ => Feed.handled (deliveries.map (·.payload))

end Views

namespace Stream

/-! ### One connection -/

section Receive

variable {Time : Type}

theorem turns_of_received {activities : List (Time × Activity Time)}
    (received : ∀ activity ∈ activities, ∃ payload, activity.2 = .received payload) :
    turns activities = [] := by
  apply List.filterMap_eq_nil_iff.mpr
  intro activity member
  obtain ⟨payload, same⟩ := received activity member
  rw [same, Activity.turn?]

theorem since_opening_of_received {activities : List (Time × Activity Time)}
    (received : ∀ activity ∈ activities, ∃ payload, activity.2 = .received payload) (count : ℕ) :
    activities.foldl sinceOpening count = count := by
  induction activities with
  | nil => rfl
  | cons activity activities induction =>
      obtain ⟨payload, same⟩ := received activity List.mem_cons_self
      have unchanged : sinceOpening count activity = count := by rw [sinceOpening, same]
      rw [List.foldl_cons, unchanged]
      exact induction fun other member => received other (List.mem_cons_of_mem _ member)

variable [Timeline Time] {ending : Ending}

theorem receive_over (ends : ending ≠ .silent) (clock : Time) (deliveries : List (Delivery Time)) :
    ∃ lost, (receive ending clock deliveries).2 = some lost := by
  induction deliveries generalizing clock with
  | nil => exact ⟨clock, if_neg ends⟩
  | cons delivery deliveries induction =>
      rw [receive]
      cases readTrade delivery.payload with
      | error error => exact ⟨_, rfl⟩
      | ok trade => exact induction _

theorem receive_only (clock : Time) (deliveries : List (Delivery Time)) :
    ∀ activity ∈ (receive ending clock deliveries).1, ∃ payload, activity.2 = .received payload := by
  induction deliveries generalizing clock with
  | nil => exact fun activity member => absurd member List.not_mem_nil
  | cons delivery deliveries induction =>
      rw [receive]
      cases readTrade delivery.payload with
      | error error =>
          intro activity member
          rw [List.mem_singleton.mp member]
          exact ⟨_, rfl⟩
      | ok trade =>
          intro activity member
          rcases List.mem_cons.mp member with rfl | later
          · exact ⟨_, rfl⟩
          · exact induction _ activity later

theorem receive_payloads (clock : Time) (deliveries : List (Delivery Time)) :
    payloads (receive ending clock deliveries).1 = handled (deliveries.map (·.payload)) := by
  induction deliveries generalizing clock with
  | nil => rfl
  | cons delivery deliveries induction =>
      rw [receive, List.map_cons, handled]
      cases readTrade delivery.payload with
      | error error => rfl
      | ok trade => exact congrArg (delivery.payload :: ·) (induction _)

end Receive

/-! ### One attempt -/

variable {backoff : Backoff ℚ}

structure Visit (attempt : Attempt ℚ) (seen : List (ℚ × Activity ℚ)) : Prop where
  turns : turns seen = attempt.openings
  payloads : payloads seen = attempt.handled

theorem follow_attempt (capped : 0 ≤ backoff.cap) {attempt : Attempt ℚ} (ends : attempt.Ends)
    (clock : ℚ) (count : ℕ) :
    ∃ seen lost, Visit attempt seen ∧ ∀ attempts,
      follow backoff clock (backoff.after count) (attempt :: attempts) =
        (clock, .connecting) :: seen ++
          (lost, .pausing (backoff.after (seen.foldl sinceOpening count))) ::
            follow backoff (Timeline.wait lost (backoff.after (seen.foldl sinceOpening count)))
              (backoff.after (seen.foldl sinceOpening count + 1)) attempts := by
  cases attempt with
  | refused =>
      refine ⟨[], clock, ⟨rfl, rfl⟩, fun attempts => ?_⟩
      rw [List.foldl_nil, follow, Backoff.next_after capped]
      rfl
  | opened deliveries ending =>
      obtain ⟨lost, isOver⟩ := receive_over ends clock deliveries
      have received := @receive_only _ _ ending clock deliveries
      have handled := @receive_payloads _ _ ending clock deliveries
      generalize received? : receive ending clock deliveries = outcome at isOver received handled
      obtain ⟨activities, ending?⟩ := outcome
      cases isOver
      refine ⟨(clock, .connected) :: activities ++ [(lost, .disconnected)], lost, ⟨?_, ?_⟩,
        fun attempts => ?_⟩
      · rw [turns, List.filterMap_append]
        change .opening :: turns activities ++ [] = _
        rw [turns_of_received received]
        rfl
      · rw [payloads, List.filterMap_append]
        change payloads activities ++ [] = _
        rw [handled, List.append_nil]
        rfl
      · have reopened : ((clock, Activity.connected) :: activities ++
            [(lost, Activity.disconnected)]).foldl sinceOpening count = 0 := by
          rw [List.foldl_append, List.foldl_cons]
          exact since_opening_of_received received 0
        rw [reopened, ← Backoff.next_after capped, Backoff.after_zero, follow, received?]
        simp only [List.cons_append, List.append_assoc, List.nil_append]

/-! ### The whole stream -/

theorem follow_begins (backoff : Backoff ℚ) (clock pause : ℚ) (attempts : List (Attempt ℚ)) :
    ∃ rest, follow backoff clock pause attempts = (clock, .connecting) :: rest := by
  cases attempts with
  | nil => exact ⟨_, rfl⟩
  | cons attempt attempts =>
      cases attempt with
      | refused => exact ⟨_, rfl⟩
      | opened deliveries ending =>
          rw [follow]
          obtain ⟨activities, lost⟩ := receive ending clock deliveries
          cases lost <;> exact ⟨_, rfl⟩

/-- Where an item is not in front of another, it is that one or comes later. -/
theorem first_or_later {Item : Type} {front later before rest : List Item} {first found : Item}
    (quiet : found ∉ front) (same : front ++ first :: later = before ++ found :: rest) :
    (before = front ∧ found = first ∧ rest = later) ∨
      ∃ between, before = front ++ first :: between ∧ later = between ++ found :: rest := by
  induction front generalizing before with
  | nil =>
      cases before with
      | nil =>
          cases same
          exact .inl ⟨rfl, rfl, rfl⟩
      | cons item before =>
          cases same
          exact .inr ⟨before, rfl, rfl⟩
  | cons item front induction =>
      cases before with
      | nil =>
          cases same
          exact absurd List.mem_cons_self quiet
      | cons other before =>
          obtain ⟨rfl, others⟩ := List.cons.inj same
          rcases induction (fun inside => quiet (List.mem_cons_of_mem _ inside)) others with
            ⟨rfl, here⟩ | ⟨between, rfl, there⟩
          · exact .inl ⟨rfl, here⟩
          · exact .inr ⟨between, rfl, there⟩

theorem no_pause_in_visit {attempt : Attempt ℚ} {seen : List (ℚ × Activity ℚ)}
    (visit : Visit attempt seen) {activity : ℚ × Activity ℚ}
    (pausing : activity.2.turn? = some .pause) : activity ∉ seen := by
  intro inside
  have isTurn : Turn.pause ∈ turns seen := List.mem_filterMap.mpr ⟨activity, inside, pausing⟩
  rw [visit.turns] at isTurn
  cases attempt <;> simp [Attempt.openings] at isTurn

section

variable {attempts : List (Attempt ℚ)} (initial : 0 ≤ backoff.initial) (capped : 0 ≤ backoff.cap)
  (ended : ∀ attempt ∈ attempts, attempt.Ends)

include capped ended

/-- The attempts are taken in their order, with one pause after each, and then the next one begins. -/
theorem follow_in_order (clock : ℚ) (count : ℕ) :
    turns (follow backoff clock (backoff.after count) attempts) =
        attempts.flatMap (·.turns) ++ [.attempt, .opening] ∧
      payloads (follow backoff clock (backoff.after count) attempts) =
        attempts.flatMap (·.handled) := by
  induction attempts generalizing clock count with
  | nil => exact ⟨rfl, rfl⟩
  | cons attempt attempts induction =>
      obtain ⟨now, later⟩ := List.forall_mem_cons.mp ended
      obtain ⟨seen, lost, visit, follows⟩ := follow_attempt capped now clock count
      obtain ⟨laterTurns, laterPayloads⟩ := induction later
        (Timeline.wait lost (backoff.after (seen.foldl sinceOpening count)))
        (seen.foldl sinceOpening count + 1)
      rw [follows, turns, payloads, List.filterMap_append, List.filterMap_append]
      constructor
      · change .attempt :: turns seen ++ .pause :: turns (follow _ _ _ attempts) = _
        rw [visit.turns, laterTurns, List.flatMap_cons, Attempt.turns]
        simp only [List.cons_append, List.append_assoc, List.nil_append]
      · change payloads seen ++ payloads (follow _ _ _ attempts) = _
        rw [visit.payloads, laterPayloads, List.flatMap_cons]

include initial in
theorem follow_pause (clock : ℚ) (count : ℕ) {before rest : List (ℚ × Activity ℚ)} {time pause : ℚ}
    (found : follow backoff clock (backoff.after count) attempts =
      before ++ (time, .pausing pause) :: rest) :
    pause = backoff.after (before.foldl sinceOpening count) ∧
      ∃ later, rest = (time + pause, .connecting) :: later := by
  induction attempts generalizing clock count before with
  | nil =>
      have inside : (time, Activity.pausing pause) ∈ before ++ (time, .pausing pause) :: rest :=
        List.mem_append_right before List.mem_cons_self
      rw [← found, follow] at inside
      simp at inside
  | cons attempt attempts induction =>
      obtain ⟨now, later⟩ := List.forall_mem_cons.mp ended
      obtain ⟨seen, lost, visit, follows⟩ := follow_attempt capped now clock count
      have quiet : (time, Activity.pausing pause) ∉ (clock, Activity.connecting) :: seen :=
        List.not_mem_cons_of_ne_of_not_mem nofun (no_pause_in_visit visit rfl)
      rw [follows] at found
      rcases first_or_later quiet found with ⟨rfl, here, rfl⟩ | ⟨between, rfl, there⟩
      · cases here
        rw [Timeline.wait_rat (Backoff.after_nonneg initial capped (seen.foldl sinceOpening count))]
        exact ⟨rfl, follow_begins ..⟩
      · have others := induction later _ _ there
        rw [List.foldl_append, List.foldl_cons, List.foldl_cons]
        exact others

/-- What is given after some attempts changes nothing of what is seen until the next one begins. -/
theorem follow_continues (clock : ℚ) (count : ℕ) (more : List (Attempt ℚ)) :
    (follow backoff clock (backoff.after count) attempts).dropLast <+:
      follow backoff clock (backoff.after count) (attempts ++ more) := by
  induction attempts generalizing clock count with
  | nil =>
      obtain ⟨rest, begins⟩ := follow_begins backoff clock (backoff.after count) more
      rw [List.nil_append, begins]
      exact List.cons_prefix_cons.mpr ⟨rfl, List.nil_prefix⟩
  | cons attempt attempts induction =>
      obtain ⟨now, later⟩ := List.forall_mem_cons.mp ended
      obtain ⟨seen, lost, _, follows⟩ := follow_attempt capped now clock count
      rw [List.cons_append, follows, follows, List.dropLast_append_cons, List.dropLast_cons_of_ne_nil]
      · apply List.prefix_append_right_inj _ |>.mpr
        exact List.cons_prefix_cons.mpr ⟨rfl, induction later _ _⟩
      · obtain ⟨rest, begins⟩ := follow_begins backoff _ _ attempts
        rw [begins]
        exact List.cons_ne_nil _ _

end

end Stream
end PriceBoard.Feed

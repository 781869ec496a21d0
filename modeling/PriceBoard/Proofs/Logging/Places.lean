import PriceBoard.Proofs.Json.Members
import PriceBoard.Proofs.Logging.Redaction

/-!
# What redaction leaves in its place

A place in a table is a path of keys through it and the tables in it. Where no key of the path is sensitive,
redaction keeps the table there with its keys, and any other value as it is; under a sensitive key it keeps
nothing. It asks of the patterns only which keys they make sensitive, so redacting with two lists of
patterns is redacting with each of them in turn.
-/
namespace PriceBoard

/-- What stands in a value under a path of keys, each in the table under the one before. -/
def Json.at? (value : Json) : List String → Option Json
  | [] => some value
  | key :: keys => (value.member? key).bind fun inner => inner.at? keys

theorem Json.at_append (value : Json) (path keys : List String) :
    value.at? (path ++ keys) = (value.at? path).bind fun inner => inner.at? keys := by
  induction path generalizing value with
  | nil => rfl
  | cons key path induction =>
      rw [List.cons_append, Json.at?, Json.at?, Option.bind_assoc]
      exact congrArg _ (funext induction)

def Json.IsTable : Json → Prop
  | .object _ => True
  | _ => False

namespace Logging

variable {patterns others : List String}

/-! ### Tables -/

def redactUnder (patterns : List String) (key : String) (value : Json) : Json :=
  if mentions patterns key then redactedValue else redactValue patterns value

theorem redact_under_sensitive {key : String} (sensitive : Sensitive patterns key) (value : Json) :
    redactUnder patterns key value = redactedValue := if_pos (mentions_iff.mpr sensitive)

theorem redact_under_visible {key : String} (visible : ¬Sensitive patterns key) (value : Json) :
    redactUnder patterns key value = redactValue patterns value :=
  if_neg (mentions_iff.not.mpr visible)

theorem redact_eq_map (members : List (String × Json)) :
    redact patterns members =
      members.map fun member => (member.1, redactUnder patterns member.1 member.2) := by
  induction members with
  | nil => rfl
  | cons member members induction => rw [redact, List.map_cons, induction, redactUnder]

theorem names_redact (members : List (String × Json)) :
    names (redact patterns members) = names members := by
  rw [redact_eq_map, names, List.map_map]
  rfl

theorem lookup_redact (members : List (String × Json)) (key : String) :
    (redact patterns members).lookup key = (members.lookup key).map (redactUnder patterns key) := by
  rw [redact_eq_map]
  induction members with
  | nil => rfl
  | cons member members induction =>
      rw [List.map_cons, List.lookup_cons, List.lookup_cons, induction]
      cases same : key == member.1 with
      | false => rfl
      | true => rw [eq_of_beq same]; rfl

theorem member_redact_value (value : Json) (key : String) :
    (redactValue patterns value).member? key =
      (value.member? key).map (redactUnder patterns key) := by
  cases value with
  | object members => exact lookup_redact members key
  | _ => rfl

/-- Only a table is made into a table. -/
theorem redact_value_eq_object_iff {value : Json} {outer : List (String × Json)} :
    redactValue patterns value = .object outer ↔
      ∃ inner, value = .object inner ∧ outer = redact patterns inner := by
  cases value with
  | object members => simp [redactValue, eq_comm]
  | _ => simp [redactValue]

theorem redact_value_eq_iff_of_no_table {value plain : Json} (noTable : ¬plain.IsTable) :
    redactValue patterns value = plain ↔ value = plain := by
  cases value with
  | object members =>
      constructor
      · rintro rfl
        exact absurd trivial noTable
      · rintro rfl
        exact absurd trivial noTable
  | _ => rfl

/-! ### Places -/

def Visible (patterns path : List String) : Prop := ∀ key ∈ path, ¬Sensitive patterns key

theorem at_redact_visible {path : List String} (visible : Visible patterns path) (value : Json) :
    (redactValue patterns value).at? path = (value.at? path).map (redactValue patterns) := by
  induction path generalizing value with
  | nil => rfl
  | cons key path induction =>
      obtain ⟨first, rest⟩ := List.forall_mem_cons.mp visible
      rw [Json.at?, Json.at?, member_redact_value, Option.bind_map, Option.map_bind]
      congr 1
      funext inner
      rw [Function.comp_apply, redact_under_visible first]
      exact induction rest inner

theorem at_redact_sensitive {path : List String} {key : String} (visible : Visible patterns path)
    (sensitive : Sensitive patterns key) (value : Json) (keys : List String) :
    (redactValue patterns value).at? (path ++ key :: keys) =
      (value.at? (path ++ [key])).bind fun _ => redactedValue.at? keys := by
  rw [Json.at_append, Json.at_append, at_redact_visible visible, Option.bind_map, Option.bind_assoc]
  congr 1
  funext inner
  rw [Function.comp_apply, Json.at?, Json.at?, member_redact_value, Option.bind_map, Option.bind_assoc]
  congr 1
  funext hidden
  rw [Function.comp_apply, redact_under_sensitive sensitive]
  rfl

/-- A path is visible, or it runs up to a first sensitive key. -/
theorem visible_or_sensitive (patterns path : List String) :
    Visible patterns path ∨ ∃ before key after, path = before ++ key :: after ∧
      Visible patterns before ∧ Sensitive patterns key := by
  induction path with
  | nil => exact .inl nofun
  | cons first path induction =>
      by_cases sensitive : Sensitive patterns first
      · exact .inr ⟨[], first, path, rfl, nofun, sensitive⟩
      · rcases induction with visible | ⟨before, key, after, rfl, visible, hidden⟩
        · exact .inl (List.forall_mem_cons.mpr ⟨sensitive, visible⟩)
        · exact .inr ⟨first :: before, key, after, rfl,
            List.forall_mem_cons.mpr ⟨sensitive, visible⟩, hidden⟩

/-- What is shown of a value: the tables that stand under visible keys, the mark under sensitive keys,
and everything else. -/
structure Redacted (patterns : List String) (value shown : Json) : Prop where
  kept : ∀ path inner, Visible patterns path → value.at? path = some (.object inner) →
    ∃ outer, shown.at? path = some (.object outer) ∧ names outer = names inner
  only : ∀ path outer, shown.at? path = some (.object outer) →
    Visible patterns path ∧
      ∃ inner, value.at? path = some (.object inner) ∧ names outer = names inner
  hidden : ∀ path key, Visible patterns path → Sensitive patterns key →
    shown.at? (path ++ [key]) = (value.at? (path ++ [key])).map fun _ => redactedValue
  unchanged : ∀ path plain, Visible patterns path → ¬plain.IsTable →
    (shown.at? path = some plain ↔ value.at? path = some plain)

theorem visible_of_table {value : Json} {path : List String} {outer : List (String × Json)}
    (found : (redactValue patterns value).at? path = some (.object outer)) :
    Visible patterns path := by
  rcases visible_or_sensitive patterns path with visible | ⟨before, key, after, rfl, visible, hidden⟩
  · exact visible
  · rw [at_redact_sensitive visible hidden] at found
    obtain ⟨_, _, inMark⟩ := Option.bind_eq_some_iff.mp found
    -- the mark is a text, so no path leads into it and it is no table itself
    cases after with
    | nil => exact nomatch inMark
    | cons next rest => exact nomatch inMark

theorem redacted_redact_value (patterns : List String) (value : Json) :
    Redacted patterns value (redactValue patterns value) where
  kept path inner visible found := by
    rw [at_redact_visible visible, found]
    exact ⟨redact patterns inner, rfl, names_redact inner⟩
  only path outer found := by
    have visible := visible_of_table found
    rw [at_redact_visible visible] at found
    obtain ⟨inside, stands, made⟩ := Option.map_eq_some_iff.mp found
    obtain ⟨inner, rfl, rfl⟩ := redact_value_eq_object_iff.mp made
    exact ⟨visible, inner, stands, names_redact inner⟩
  hidden path key visible sensitive := by
    rw [at_redact_sensitive visible sensitive]
    cases value.at? (path ++ [key]) <;> rfl
  unchanged path plain visible noTable := by
    rw [at_redact_visible visible, Option.map_eq_some_iff]
    simp only [redact_value_eq_iff_of_no_table noTable, exists_eq_right]

/-! ### Several lists of patterns -/

theorem mentions_append (key : String) :
    mentions (patterns ++ others) key = (mentions patterns key || mentions others key) :=
  List.any_append

mutual

/-- Of the patterns redaction asks only which keys are sensitive. -/
theorem redact_value_congr (same : ∀ key, mentions patterns key = mentions others key) (value : Json) :
    redactValue patterns value = redactValue others value := by
  cases value with
  | object members => exact congrArg Json.object (redact_congr same members)
  | _ => rfl

theorem redact_congr (same : ∀ key, mentions patterns key = mentions others key)
    (members : List (String × Json)) : redact patterns members = redact others members := by
  match members with
  | [] => rfl
  | (key, value) :: members =>
      rw [redact, redact, same, redact_value_congr same value, redact_congr same members]

end

mutual

theorem redact_value_append (value : Json) :
    redactValue (patterns ++ others) value = redactValue others (redactValue patterns value) := by
  cases value with
  | object members => exact congrArg Json.object (redact_append members)
  | _ => rfl

theorem redact_append (members : List (String × Json)) :
    redact (patterns ++ others) members = redact others (redact patterns members) := by
  match members with
  | [] => rfl
  | (key, value) :: members =>
      rw [redact, redact, redact, mentions_append, redact_append members, redact_value_append value]
      by_cases first : mentions patterns key = true
      · -- whatever stood there, the second list meets the mark, and leaves it or writes it again
        simp only [first, Bool.true_or, if_true]
        split_ifs <;> rfl
      · simp only [first, Bool.false_or, if_false, Bool.false_eq_true]

end

/-- Redaction replaces what stands under sensitive keys and nothing else; doing it again changes nothing, and
with more patterns it may be done for some of them first. -/
theorem redacts_sensitive_only (patterns others : List String) (members : List (String × Json)) :
    Redacted patterns (.object members) (.object (redact patterns members)) ∧
      redact patterns (redact patterns members) = redact patterns members ∧
      redact (patterns ++ others) members = redact others (redact patterns members) ∧
      redact (patterns ++ others) members = redact patterns (redact others members) := by
  refine ⟨redacted_redact_value patterns (.object members), ?_, redact_append members, ?_⟩
  · rw [← redact_append]
    exact redact_congr (fun key => by rw [mentions_append, Bool.or_self]) members
  · rw [← redact_append]
    exact redact_congr (fun key => by rw [mentions_append, mentions_append, Bool.or_comm]) members

/-- A table under a key that one pattern finds, beside a key that the other finds. -/
def nestedSecrets : List (String × Json) :=
  [("user", .object [("apiToken", .object [("password", .string "1")]), ("Password", .null),
    ("name", .string "token")])]

theorem redacts_sensitive_only_nested :
    Visible ["TOKEN"] ["user"] ∧ Sensitive ["TOKEN"] "apiToken" ∧
      (Json.object (redact ["TOKEN"] nestedSecrets)).at? ["user", "apiToken"] = some redactedValue ∧
      (Json.object (redact ["TOKEN"] nestedSecrets)).at? ["user", "name"] = some (.string "token") ∧
      redact ["TOKEN", "password"] nestedSecrets =
        redact ["password"] (redact ["TOKEN"] nestedSecrets) := by
  have quiet (key : String) : mentions ["TOKEN"] key = false → ¬Sensitive ["TOKEN"] key :=
    fun unmentioned sensitive =>
      Bool.noConfusion (unmentioned.symm.trans (mentions_iff.mpr sensitive))
  have user : ¬Sensitive ["TOKEN"] "user" := quiet "user" (by decide +kernel)
  have name : ¬Sensitive ["TOKEN"] "name" := quiet "name" (by decide +kernel)
  have token : Sensitive ["TOKEN"] "apiToken" := mentions_iff.mp (by decide +kernel)
  have visible : Visible ["TOKEN"] ["user"] := List.forall_mem_singleton.mpr user
  have named : Visible ["TOKEN"] ["user", "name"] :=
    List.forall_mem_cons.mpr ⟨user, List.forall_mem_singleton.mpr name⟩
  obtain ⟨redacted, _, appended, _⟩ := redacts_sensitive_only ["TOKEN"] ["password"] nestedSecrets
  refine ⟨visible, token, ?_, ?_, appended⟩
  · exact redacted.hidden ["user"] "apiToken" visible token
  · exact (redacted.unchanged ["user", "name"] (.string "token") named id).mpr rfl

end Logging

end PriceBoard

import PriceBoard.Json.Value
import Mathlib.Data.List.Nodup
import Mathlib.Data.List.Perm.Basic

/-!
# Members of objects

Setting a member changes what stands under its name and nothing else. Merging entries into members
keeps the members no entry names, and where the names are distinct it leaves exactly those members and
the entries.
-/
namespace PriceBoard

section

variable {Value : Type} {name other : String} {value : Value} {members entries : List (String × Value)}

def names (members : List (String × Value)) : List String := members.map (·.1)

theorem lookup_set_member :
    (setMember name value members).lookup other =
      if other = name then some value else members.lookup other := by
  induction members with
  | nil =>
      by_cases same : other = name
      · simp [setMember, same]
      · have differ : (other == name) = false := by simpa using same
        simp [setMember, List.lookup_cons, same, differ]
  | cons entry rest induction =>
      obtain ⟨first, old⟩ := entry
      rw [setMember]
      by_cases found : first = name
      · rw [if_pos found, List.lookup_cons, List.lookup_cons, found]
        by_cases same : other = name
        · simp [same]
        · have differ : (other == name) = false := by simpa using same
          simp [same, differ]
      · rw [if_neg found, List.lookup_cons, List.lookup_cons, induction]
        by_cases same : other = first
        · simp [same, found]
        · have differ : (other == first) = false := by simpa using same
          simp [differ]

theorem lookup_is_some_iff : (members.lookup name).isSome = true ↔ name ∈ names members := by
  induction members with
  | nil => simp [names]
  | cons entry rest induction =>
      obtain ⟨first, value⟩ := entry
      rw [List.lookup_cons, names, List.map_cons, List.mem_cons]
      by_cases same : name = first
      · simp [same]
      · have differ : (name == first) = false := by simpa using same
        rw [differ]
        simp only [same, false_or]
        exact induction

theorem mem_of_lookup (found : members.lookup name = some value) : (name, value) ∈ members := by
  obtain ⟨before, after, rfl, _⟩ := List.lookup_eq_some_iff.mp found
  exact List.mem_append_right before List.mem_cons_self

theorem mem_iff_lookup (distinct : (names members).Nodup) :
    (name, value) ∈ members ↔ members.lookup name = some value := by
  refine ⟨fun member => ?_, mem_of_lookup⟩
  induction members with
  | nil => exact absurd member List.not_mem_nil
  | cons entry rest induction =>
      rw [names, List.map_cons, List.nodup_cons] at distinct
      rcases List.mem_cons.mp member with rfl | inside
      · exact List.lookup_cons_self
      · have differ : (name == entry.1) = false := by
          apply beq_false_of_ne
          intro same
          apply distinct.1
          rw [← same]
          exact List.mem_map_of_mem inside
        rw [List.lookup_cons, differ]
        exact induction distinct.2 inside

/-- Members with distinct names are told apart by what stands under a name. -/
theorem perm_iff_lookup {others : List (String × Value)} (distinct : (names members).Nodup)
    (othersDistinct : (names others).Nodup) :
    members.Perm others ↔ ∀ name, members.lookup name = others.lookup name := by
  have perm := List.perm_ext_iff_of_nodup (List.Nodup.of_map _ distinct)
    (List.Nodup.of_map _ othersDistinct)
  rw [perm]
  constructor
  · intro same name
    apply Option.ext
    intro value
    rw [← mem_iff_lookup distinct, ← mem_iff_lookup othersDistinct]
    exact same (name, value)
  · rintro same ⟨name, value⟩
    rw [mem_iff_lookup distinct, mem_iff_lookup othersDistinct, same]

theorem mem_set_member {entry : String × Value} (member : entry ∈ setMember name value members) :
    entry = (name, value) ∨ entry ∈ members := by
  induction members with
  | nil => exact .inl (List.mem_singleton.mp member)
  | cons first rest induction =>
      rw [setMember] at member
      split_ifs at member
      · rcases List.mem_cons.mp member with new | inside
        · exact .inl new
        · exact .inr (List.mem_cons_of_mem _ inside)
      · rcases List.mem_cons.mp member with same | inside
        · exact .inr (by rw [same]; exact List.mem_cons_self)
        · exact (induction inside).imp_right (List.mem_cons_of_mem _)

theorem set_member_of_new (new : name ∉ names members) :
    setMember name value members = members ++ [(name, value)] := by
  induction members with
  | nil => rfl
  | cons first rest induction =>
      rw [names, List.map_cons, List.mem_cons, not_or] at new
      rw [setMember, if_neg (Ne.symm new.1), induction new.2, List.cons_append]

/-- A known member is replaced where it stands. -/
theorem set_member_perm (distinct : (names members).Nodup) :
    (setMember name value members).Perm ((name, value) :: members.filter (·.1 ≠ name)) := by
  induction members with
  | nil => exact List.Perm.refl _
  | cons first rest induction =>
      rw [names, List.map_cons, List.nodup_cons] at distinct
      rw [setMember]
      by_cases found : first.1 = name
      · have others : rest.filter (·.1 ≠ name) = rest := by
          apply List.filter_eq_self.mpr
          intro entry member
          rw [decide_eq_true_iff]
          intro same
          apply distinct.1
          rw [found, ← same]
          exact List.mem_map_of_mem member
        rw [if_pos found, List.filter_cons, if_neg (by simp [found]), others]
      · rw [if_neg found, List.filter_cons, if_pos (by simp [found])]
        exact ((induction distinct.2).cons first).trans (List.Perm.swap _ _ _)

theorem names_set_member_nodup (distinct : (names members).Nodup) :
    (names (setMember name value members)).Nodup := by
  have perm : (names (setMember name value members)).Perm
      (name :: names (members.filter (·.1 ≠ name))) := (set_member_perm distinct).map _
  apply perm.nodup_iff.mpr
  apply List.nodup_cons.mpr
  constructor
  · intro member
    obtain ⟨entry, inside, same⟩ := List.mem_map.mp member
    simp [same] at inside
  · exact distinct.sublist (List.filter_sublist.map _)

/-! ### Merging -/

def merged (members entries : List (String × Value)) : List (String × Value) :=
  entries.foldl (fun members entry => setMember entry.1 entry.2 members) members

theorem lookup_merged_of_untouched (untouched : name ∉ names entries) :
    (merged members entries).lookup name = members.lookup name := by
  induction entries generalizing members with
  | nil => rfl
  | cons entry rest induction =>
      rw [names, List.map_cons, List.mem_cons, not_or] at untouched
      change (merged (setMember entry.1 entry.2 members) rest).lookup name = _
      rw [induction untouched.2, lookup_set_member, if_neg untouched.1]

theorem mem_merged {entry : String × Value} (member : entry ∈ merged members entries) :
    entry ∈ entries ∨ entry ∈ members := by
  induction entries generalizing members with
  | nil => exact .inr member
  | cons first rest induction =>
      rcases induction member with inRest | inMembers
      · exact .inl (List.mem_cons_of_mem _ inRest)
      · rcases mem_set_member inMembers with new | old
        · exact .inl (by rw [new]; exact List.mem_cons_self)
        · exact .inr old

/-- A name that is given gets one of the values it was given. -/
theorem lookup_merged_of_given (given : name ∈ names entries) :
    ∃ value, (name, value) ∈ entries ∧ (merged members entries).lookup name = some value := by
  induction entries generalizing members with
  | nil => exact absurd given List.not_mem_nil
  | cons entry rest induction =>
      by_cases later : name ∈ names rest
      · obtain ⟨value, inside, found⟩ := @induction (setMember entry.1 entry.2 members) later
        exact ⟨value, List.mem_cons_of_mem _ inside, found⟩
      · have last : name = entry.1 := (List.mem_cons.mp given).resolve_right later
        refine ⟨entry.2, ?_, (lookup_merged_of_untouched later).trans ?_⟩
        · rw [last]
          exact List.mem_cons_self
        · rw [lookup_set_member, if_pos last]

theorem lookup_merged (distinct : (names entries).Nodup) :
    (merged members entries).lookup name = (entries.lookup name).or (members.lookup name) := by
  by_cases given : name ∈ names entries
  · obtain ⟨value, inside, found⟩ := @lookup_merged_of_given _ _ members entries given
    rw [found, (mem_iff_lookup distinct).mp inside]
    rfl
  · have absent : entries.lookup name = none := by
      rw [← Option.not_isSome_iff_eq_none, lookup_is_some_iff]
      exact given
    rw [lookup_merged_of_untouched given, absent]
    rfl

theorem names_merged_nodup (distinct : (names members).Nodup) :
    (names (merged members entries)).Nodup := by
  induction entries generalizing members with
  | nil => exact distinct
  | cons entry rest induction => exact induction (names_set_member_nodup distinct)

theorem merged_cons_of_untouched (untouched : name ∉ names entries) :
    merged ((name, value) :: members) entries = (name, value) :: merged members entries := by
  induction entries generalizing members with
  | nil => rfl
  | cons entry rest induction =>
      rw [names, List.map_cons, List.mem_cons, not_or] at untouched
      change merged (setMember entry.1 entry.2 ((name, value) :: members)) rest = _
      rw [setMember, if_neg untouched.1, induction untouched.2]
      rfl

theorem merged_of_new (distinct : (names (members ++ entries)).Nodup) :
    merged members entries = members ++ entries := by
  induction entries generalizing members with
  | nil => exact (List.append_nil members).symm
  | cons entry rest induction =>
      have new : entry.1 ∉ names members := by
        rw [names, List.map_append, List.map_cons] at distinct
        exact fun member => (List.nodup_append.mp distinct).2.2 _ member _ List.mem_cons_self rfl
      have moved : members ++ entry :: rest = members ++ [(entry.1, entry.2)] ++ rest := by
        rw [List.append_assoc, List.singleton_append]
      change merged (setMember entry.1 entry.2 members) rest = _
      rw [set_member_of_new new, moved]
      rw [moved] at distinct
      exact induction distinct

/-- Entries with the names of the members, in the same order, take their places. -/
theorem merged_of_same_names (same : names members = names entries) (distinct : (names entries).Nodup) :
    merged members entries = entries := by
  induction entries generalizing members with
  | nil => exact List.map_eq_nil_iff.mp same
  | cons entry rest induction =>
      cases members with
      | nil => simp [names] at same
      | cons member others =>
          rw [names, List.map_cons, List.nodup_cons] at distinct
          rw [names, names, List.map_cons, List.map_cons, List.cons.injEq] at same
          change merged (setMember entry.1 entry.2 (member :: others)) rest = _
          rw [setMember, if_pos same.1, merged_cons_of_untouched distinct.1,
            induction same.2 distinct.2]

theorem merged_perm (membersDistinct : (names members).Nodup)
    (entriesDistinct : (names entries).Nodup) :
    (merged members entries).Perm (entries ++ members.filter (·.1 ∉ names entries)) := by
  induction entries generalizing members with
  | nil => simp [merged, names]
  | cons entry rest induction =>
      rw [names, List.map_cons, List.nodup_cons] at entriesDistinct
      change (merged (setMember entry.1 entry.2 members) rest).Perm _
      apply (induction (names_set_member_nodup membersDistinct) entriesDistinct.2).trans
      have kept := (@set_member_perm _ entry.1 entry.2 members membersDistinct).filter
        (·.1 ∉ names rest)
      apply (kept.append_left rest).trans
      have fresh : decide (entry.1 ∉ names rest) = true := by
        rw [decide_eq_true_iff]
        exact entriesDistinct.1
      rw [List.filter_cons, if_pos fresh, List.filter_filter]
      have same : members.filter (fun other => decide (other.1 ∉ names rest) && decide (other.1 ≠ entry.1)) =
          members.filter (·.1 ∉ names (entry :: rest)) := by
        apply List.filter_congr
        intro other _
        have split : other.1 ∉ names rest ∧ other.1 ≠ entry.1 ↔ other.1 ∉ names (entry :: rest) := by
          rw [and_comm, ← not_or, ← List.mem_cons]
          rfl
        rw [← Bool.decide_and]
        exact decide_eq_decide.mpr split
      rw [same]
      exact List.perm_middle

/-- Where the entries name every member, only the entries are left. -/
theorem merged_perm_of_covered (membersDistinct : (names members).Nodup)
    (entriesDistinct : (names entries).Nodup) (covered : ∀ name ∈ names members, name ∈ names entries) :
    (merged members entries).Perm entries := by
  have none : members.filter (·.1 ∉ names entries) = [] := by
    apply List.filter_eq_nil_iff.mpr
    intro entry member
    rw [decide_eq_true_iff, not_not]
    exact covered entry.1 (List.mem_map_of_mem member)
  have perm := merged_perm membersDistinct entriesDistinct
  rwa [none, List.append_nil] at perm

end

end PriceBoard

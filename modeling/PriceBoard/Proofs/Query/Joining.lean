import PriceBoard.Proofs.Query.Seam
import PriceBoard.Proofs.Text.Word

/-!
# Splitting and joining undo each other

What a query is split into are texts without blanks around them in which no connective stands alone. Any
such texts, grouped in any way, are found again when they are joined and split, since neither cutting a
text at its connectives nor taking blanks off its ends puts a word next to anything but its own
characters.
-/
namespace PriceBoard.Query

open PriceBoard.Text

/-- A text that splitting leaves as it is. -/
def IsClause (text : List Char) : Prop :=
  trim text = text ∧ ¬HoldsLone orWord text ∧ ¬HoldsLone andWord text

/-- Groups of clauses, neither no groups nor an empty one. -/
def IsSplit (groups : List (List (List Char))) : Prop :=
  groups ≠ [] ∧ ∀ group ∈ groups, group ≠ [] ∧ ∀ clause ∈ group, IsClause clause

def joinGroups (groups : List (List (List Char))) : List Char :=
  joined orWord (groups.map (joined andWord))

/-! ### Splitting what was joined -/

theorem joined_pair {connective part : List Char} {rest : List (List Char)} (nonempty : rest ≠ []) :
    joined connective (part :: rest) = joined connective [part, joined connective rest] :=
  joined_cons nonempty

theorem clauses_joined {group : List (List Char)} (nonempty : group ≠ [])
    (clean : ∀ clause ∈ group, IsClause clause) : clauses (joined andWord group) = group := by
  induction group with
  | nil => exact absurd rfl nonempty
  | cons clause rest induction =>
      obtain ⟨trimmed, _, absent⟩ := clean clause List.mem_cons_self
      have single : clauses clause = [clause] := by
        rw [clauses, (cut_eq_singleton_iff (by decide)).mpr absent, List.map_singleton, trimmed]
      by_cases last : rest = []
      · rw [last]
        exact single
      · rw [joined_pair last, clauses_pair, single,
          induction last fun other member => clean other (List.mem_cons_of_mem _ member)]
        rfl

theorem or_absent_joined {group : List (List Char)}
    (clean : ∀ clause ∈ group, IsClause clause) : ¬HoldsLone orWord (joined andWord group) := by
  induction group with
  | nil => exact (cut_eq_singleton_iff (by decide)).mp rfl
  | cons clause rest induction =>
      have absent := (clean clause List.mem_cons_self).2.1
      by_cases last : rest = []
      · rw [last]
        exact absent
      · rw [joined_pair last]
        exact or_absent_of_and_pair absent
          (induction fun other member => clean other (List.mem_cons_of_mem _ member))

theorem split_join_groups {groups : List (List (List Char))} (isSplit : IsSplit groups) :
    split (joinGroups groups) = groups := by
  obtain ⟨nonempty, each⟩ := isSplit
  induction groups with
  | nil => exact absurd rfl nonempty
  | cons group rest induction =>
      obtain ⟨groupNonempty, clean⟩ := each group List.mem_cons_self
      have single : split (joined andWord group) = [group] := by
        rw [split_without_or (or_absent_joined clean), clauses_joined groupNonempty clean]
      by_cases last : rest = []
      · rw [last]
        exact single
      · have mapped : rest.map (joined andWord) ≠ [] := fun empty =>
          last (List.map_eq_nil_iff.mp empty)
        have later := induction last fun other member => each other (List.mem_cons_of_mem _ member)
        rw [joinGroups, List.map_cons, joined_pair mapped, split_pair, single]
        exact congrArg (group :: ·) later

theorem split_clause {text : List Char} (isClause : IsClause text) : split text = [[text]] := by
  apply @split_join_groups [[text]]
  simpa [IsSplit] using isClause

/-! ### Seams inside a text -/

/-- No word runs across the seam between the two texts. -/
def Parted (left right : List Char) : Prop :=
  startsWord left.reverse = false ∨ startsWord right = false

theorem starts_word_append {left : List Char} (nonempty : left ≠ []) (right : List Char) :
    startsWord (left ++ right) = startsWord left := by
  cases left with
  | nil => exact absurd rfl nonempty
  | cons char left => rfl

theorem ends_word_append {right : List Char} (nonempty : right ≠ []) (left : List Char) :
    startsWord (left ++ right).reverse = startsWord right.reverse := by
  rw [List.reverse_append]
  exact starts_word_append (List.reverse_ne_nil_iff.mpr nonempty) left.reverse

/-- The part lies in the text with no word running across its ends. -/
def Apart (part text : List Char) : Prop :=
  ∃ before after, text = before ++ part ++ after ∧ Parted before part ∧ Parted part after

def IsConnective (word : List Char) : Prop :=
  startsWord word = true ∧ startsWord word.reverse = true

instance (word : List Char) : Decidable (IsConnective word) := inferInstanceAs (Decidable (_ ∧ _))

theorem or_connective : IsConnective orWord := by decide

theorem and_connective : IsConnective andWord := by decide

theorem ne_nil_of_connective {word : List Char} (connective : IsConnective word) : word ≠ [] := by
  rintro rfl
  exact Bool.false_ne_true connective.1

section

variable {word part text : List Char} (connective : IsConnective word)
include connective

theorem lone_of_apart (apart : Apart part text) (lone : HoldsLone word part) :
    HoldsLone word text := by
  have letters := ne_nil_of_connective connective
  obtain ⟨before, after, rfl, beforeParted, afterParted⟩ := apart
  obtain ⟨inFront, behind, rfl, begins, ends⟩ := lone
  refine ⟨before ++ inFront, behind ++ after, by simp only [List.append_assoc], ?_, ?_⟩
  · by_cases atStart : inFront = []
    · subst atStart
      rw [List.append_nil]
      apply beforeParted.resolve_right
      rw [List.nil_append, starts_word_append letters, connective.1]
      decide
    · rwa [ends_word_append atStart]
  · by_cases atEnd : behind = []
    · subst atEnd
      apply afterParted.resolve_left
      rw [List.append_nil, ends_word_append letters, connective.2]
      decide
    · rwa [starts_word_append atEnd]

/-- After a connective that stands alone the search starts afresh. -/
theorem cut_from_fresh (afterWord : Bool) (fresh : startsWord text = false) :
    cutFrom word afterWord 0 text = cut word text := by
  cases text with
  | nil => rfl
  | cons char text =>
      cases word with
      | nil => exact absurd rfl (ne_nil_of_connective connective)
      | cons first letters =>
          have other : char ≠ first := by
            rintro rfl
            exact Bool.false_ne_true (fresh.symm.trans connective.1)
          rw [cut, cut_other afterWord other, cut_other false other]

/-- What follows the first part, if anything, is a connective that stands alone, and the parts of the
text after it. -/
theorem cut_from_first {rest : List (List Char)} (text seen : List Char)
    (parts : cutFrom word (startsWord seen.reverse) 0 text = part :: rest) :
    part = text ∧ rest = [] ∨
      ∃ after, text = part ++ word ++ after ∧ startsWord (seen ++ part).reverse = false ∧
        startsWord after = false ∧ rest = cut word after := by
  induction text generalizing seen part with
  | nil =>
      obtain ⟨rfl, rfl⟩ := List.cons.inj parts
      exact .inl ⟨rfl, rfl⟩
  | cons char text induction =>
      by_cases alone : standsAlone word (startsWord seen.reverse) (char :: text) = true
      · rw [cutFrom, if_pos alone] at parts
        obtain ⟨rfl, rfl⟩ := List.cons.inj parts
        rw [standsAlone, Bool.and_eq_true, Bool.not_eq_true'] at alone
        obtain ⟨separate, ends⟩ := alone
        cases found : after? word (char :: text) with
        | none => simp [found] at ends
        | some after =>
            simp only [found, Bool.not_eq_true'] at ends
            have whole := eq_of_after found
            refine .inr ⟨after, whole, by rwa [List.append_nil], ends, ?_⟩
            cases word with
            | nil => exact absurd rfl (ne_nil_of_connective connective)
            | cons first letters =>
                rw [List.cons_append] at whole
                obtain ⟨rfl, rfl⟩ := List.cons.inj whole
                obtain ⟨flag, passed⟩ := cut_skip (char :: letters) (isWord char) letters after
                rw [List.length_cons, Nat.add_sub_cancel, passed, cut_from_fresh connective flag ends]
      · rw [cutFrom, if_neg alone] at parts
        obtain ⟨next, more, nextParts⟩ :=
          List.exists_cons_of_ne_nil (cut_from_ne_nil word (isWord char) 0 text)
        rw [nextParts] at parts
        obtain ⟨rfl, rfl⟩ := List.cons.inj parts
        have later := induction (seen ++ [char]) (by rwa [List.reverse_append])
        rcases later with ⟨rfl, rfl⟩ | ⟨after, rfl, separate, ends, others⟩
        · exact .inl ⟨rfl, rfl⟩
        · exact .inr ⟨after, rfl, by rwa [List.append_assoc] at separate, ends, others⟩

/-- The first part does not hold the word, and no word runs across its end. -/
theorem first_part {rest : List (List Char)} (parts : cut word text = part :: rest) :
    ¬HoldsLone word part ∧ Apart part text := by
  have letters := ne_nil_of_connective connective
  rcases cut_from_first connective text [] parts with ⟨rfl, rfl⟩ | ⟨after, whole, separate, ends, _⟩
  · exact ⟨(cut_eq_singleton_iff letters).mp parts, [], [], by simp, .inl rfl, .inr rfl⟩
  · rw [List.nil_append] at separate
    constructor
    · rintro ⟨inFront, behind, same, begins, behindEnds⟩
      have behindNonempty : behind ≠ [] := by
        rintro rfl
        rw [same, List.append_nil, ends_word_append letters, connective.2] at separate
        exact Bool.noConfusion separate
      have stops := @first_part_stops _ _ letters _ text [] parts inFront (behind ++ (word ++ after))
        (by rw [whole, same]; simp only [List.append_assoc]) begins
        (by rwa [starts_word_append behindNonempty])
      rw [same, List.length_append, List.length_append] at stops
      have positive := List.length_pos_of_ne_nil letters
      omega
    · exact ⟨[], word ++ after, by rw [whole]; simp only [List.nil_append, List.append_assoc],
        .inl rfl, .inl separate⟩

theorem parts_apart : ∀ part ∈ cut word text, ¬HoldsLone word part ∧ Apart part text := by
  have letters := ne_nil_of_connective connective
  induction length : text.length using Nat.strong_induction_on generalizing text with
  | _ size induction =>
      obtain ⟨first, rest, parts⟩ := List.exists_cons_of_ne_nil (cut_ne_nil word text)
      intro part member
      rw [parts] at member
      rcases List.mem_cons.mp member with rfl | later
      · exact first_part connective parts
      · rcases cut_from_first connective text [] parts with ⟨_, rfl⟩ | ⟨after, whole, _, ends, rfl⟩
        · exact absurd later List.not_mem_nil
        · have positive := List.length_pos_of_ne_nil letters
          have shorter : after.length < size := by
            rw [← length, whole, List.length_append, List.length_append]
            omega
          obtain ⟨absent, before, behind, split, beforeParted, behindParted⟩ :=
            induction after.length shorter rfl part later
          refine ⟨absent, first ++ word ++ before, behind, ?_, ?_, behindParted⟩
          · rw [whole, split]
            simp only [List.append_assoc]
          · by_cases atStart : before = []
            · subst atStart
              right
              cases part with
              | nil => rfl
              | cons char part =>
                  rw [split] at ends
                  exact ends
            · rwa [Parted, ends_word_append atStart]

end

/-! ### The clauses of a query -/

theorem no_word_of_blanks {text : List Char} (blank : ∀ char ∈ text, isBlank char = true) :
    startsWord text = false := by
  cases text with
  | nil => rfl
  | cons char text => exact blank_not_word (blank char List.mem_cons_self)

theorem trim_apart (text : List Char) : Apart (trim text) text := by
  obtain ⟨before, after, whole, beforeBlank, afterBlank⟩ := trim_with_split isBlank text
  refine ⟨before, after, whole, .inl ?_, .inr (no_word_of_blanks afterBlank)⟩
  apply no_word_of_blanks
  intro char member
  exact beforeBlank char (List.mem_reverse.mp member)

theorem clause_of_part {group part : List Char} (absent : ¬HoldsLone orWord group)
    (member : part ∈ cut andWord group) : IsClause (trim part) := by
  obtain ⟨andAbsent, apart⟩ := parts_apart and_connective part member
  refine ⟨trim_with_trim_with isBlank part, ?_, ?_⟩
  · intro lone
    exact absent (lone_of_apart or_connective apart
      (lone_of_apart or_connective (trim_apart part) lone))
  · intro lone
    exact andAbsent (lone_of_apart and_connective (trim_apart part) lone)

theorem is_split_split (query : List Char) : IsSplit (split query) := by
  rw [split_eq]
  constructor
  · intro empty
    exact cut_ne_nil orWord query (List.map_eq_nil_iff.mp empty)
  · intro group member
    obtain ⟨part, isPart, rfl⟩ := List.mem_map.mp member
    constructor
    · intro empty
      exact cut_ne_nil andWord part (List.map_eq_nil_iff.mp empty)
    · intro clause isClause
      obtain ⟨piece, isPiece, rfl⟩ := List.mem_map.mp isClause
      exact clause_of_part (parts_apart or_connective part isPart).1 isPiece

/-- Joined clauses are split where they were joined, and what a query is split into can be joined and
split again. -/
theorem splitting_undoes_joining :
    (∀ groups, IsSplit groups → split (joinGroups groups) = groups) ∧
      ∀ query, IsSplit (split query) ∧ split (joinGroups (split query)) = split query :=
  ⟨fun _ isSplit => split_join_groups isSplit,
    fun query => ⟨is_split_split query, split_join_groups (is_split_split query)⟩⟩

/-- An empty clause, a connective inside a longer word and one that a letter of another script
follows. -/
theorem splitting_undoes_joining_around_empty_clause :
    IsSplit [[[], "xOR".toList], ["ANDé".toList]] ∧
      split " AND xOR OR ANDé".toList = [[[], "xOR".toList], ["ANDé".toList]] := by
  have absent {word text : List Char} (letters : word ≠ []) (whole : cut word text = [text]) :
      ¬HoldsLone word text := (cut_eq_singleton_iff letters).mp whole
  have isSplit : IsSplit [[[], "xOR".toList], ["ANDé".toList]] := by
    refine ⟨by decide, ?_⟩
    simp only [List.forall_mem_cons, List.not_mem_nil, false_implies, implies_true, and_true]
    refine ⟨⟨by decide, ⟨rfl, ?_, ?_⟩, rfl, ?_, ?_⟩, by decide, rfl, ?_, ?_⟩
    all_goals exact absent (by decide) rfl
  exact ⟨isSplit, splitting_undoes_joining.1 _ isSplit⟩

end PriceBoard.Query

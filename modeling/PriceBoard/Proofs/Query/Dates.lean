import PriceBoard.Proofs.Calendar.IsoReader
import PriceBoard.Proofs.Query.Connectives
import PriceBoard.Proofs.Query.Joining
import PriceBoard.Proofs.Query.Recognise
import PriceBoard.Proofs.Text.Case

/-!
# Written dates in clauses

A clause with a written time asks for the times after it, or before it, in any letter case and with
quotation marks anywhere in the time. No earlier rule finds anything in such a clause, and neither the
lower case that clauses are read in nor the quotation marks reach the reader of dates.
-/
namespace PriceBoard

open PriceBoard.Decimal PriceBoard.Text

/-- The cutoff that a written time stands for, in UTC where no offset is read. -/
def DateTime.asRead (moment : DateTime) : DateTime :=
  ⟨moment.wall, some ((moment.offset.map Offset.asRead).getD Offset.utc)⟩

theorem DateTime.as_read_eq {moment : DateTime}
    (kept : ∀ offset ∈ moment.offset, offset = Offset.utc ∨ 1000000 ≤ offset.micros.natAbs) :
    moment.asRead = moment.assumeUtc := by
  rw [asRead, assumeUtc]
  cases known : moment.offset with
  | none => rfl
  | some offset =>
      have same : offset.asRead = offset := by
        rcases kept offset known with rfl | large
        · rfl
        · exact if_neg (Nat.not_lt.mpr large)
      rw [Option.map_some, same]

namespace Query

def Edge.word : Edge → List Char
  | .after => "after".toList
  | .before => "before".toList

def Edge.predicate : Edge → DateTime → Predicate
  | .after => .timeAfter
  | .before => .timeBefore

def dateClause (edge : Edge) (literal : List Char) : List Char :=
  spaced ["timestamp".toList, edge.word, literal]

/-! ### The characters of a written time -/

theorem iso_table : ∀ point < 128, DateTime.IsIsoChar (Char.ofNat point) →
    IsQuiet (Char.ofNat point).toLower ∧ isQuote (Char.ofNat point) = false ∧
      upperImage (Char.ofNat point).toLower = [Char.ofNat point] := by decide +kernel

theorem iso_facts {char : Char} (iso : DateTime.IsIsoChar char) :
    IsQuiet char.toLower ∧ isQuote char = false ∧ upperImage char.toLower = [char] := by
  have ascii : char.toNat < 128 := by
    rcases iso with digit | mark
    · obtain ⟨low, high⟩ := ascii_digit_iff.mp digit
      omega
    · simp only [List.mem_cons, List.not_mem_nil, or_false] at mark
      rcases mark with rfl | rfl | rfl | rfl | rfl <;> decide
  have facts := iso_table char.toNat ascii
  rw [Char.ofNat_toNat] at facts
  exact facts iso

theorem digit_lower {char : Char} (ascii : isAsciiDigit char = true) : char.toLower = char := by
  obtain ⟨_, high⟩ := ascii_digit_iff.mp ascii
  exact lower_of_not_upper (.inl (by omega))

theorem quote_cases {char : Char} (quote : isQuote char = true) : char = '\'' ∨ char = '"' := by
  rw [isQuote, Bool.or_eq_true] at quote
  exact quote.imp of_decide_eq_true of_decide_eq_true

theorem quote_lower (char : Char) : isQuote char.toLower = isQuote char :=
  of_lower_ascii (by decide) char

/-! ### A written time with quotation marks -/

section

variable {moment : DateTime} {literal : List Char}
  (unquoted : literal.filter (!isQuote ·) = moment.isoDigits)
include unquoted

theorem literal_char {char : Char} (member : char ∈ literal) :
    isQuote char = true ∨ DateTime.IsIsoChar char := by
  cases quote : isQuote char with
  | true => exact .inl rfl
  | false =>
      right
      apply moment.iso_digits_chars
      rw [← unquoted]
      exact List.mem_filter.mpr ⟨member, by rw [quote]; rfl⟩

theorem literal_start : ∃ char rest, literal = char :: rest ∧
    (isQuote char = true ∨ isAsciiDigit char = true) := by
  obtain ⟨digit, others, digits, ascii⟩ := moment.iso_digits_start
  cases literal with
  | nil =>
      rw [digits] at unquoted
      exact absurd unquoted (List.cons_ne_nil _ _).symm
  | cons char rest =>
      refine ⟨char, rest, rfl, ?_⟩
      cases quote : isQuote char with
      | true => exact .inl rfl
      | false =>
          have kept : (!isQuote char) = true := by rw [quote]; rfl
          rw [@List.filter_cons_of_pos _ (!isQuote ·) _ _ kept, digits] at unquoted
          rw [(List.cons.inj unquoted).1]
          exact .inr ascii

theorem literal_lower_quiet : IsQuietWord (literal.map Char.toLower) := by
  constructor
  · obtain ⟨char, rest, chars, _⟩ := literal_start unquoted
    rw [chars]
    exact List.cons_ne_nil _ _
  · intro lower member
    obtain ⟨char, inside, rfl⟩ := List.mem_map.mp member
    rcases literal_char unquoted inside with quote | iso
    · rcases quote_cases quote with rfl | rfl <;> decide
    · exact (iso_facts iso).1

theorem date_clause_quiet (edge : Edge) :
    ∀ word ∈ ["timestamp".toList, edge.word, literal.map Char.toLower], IsQuietWord word := by
  have timestamp : IsQuietWord "timestamp".toList := by decide
  have edgeQuiet : IsQuietWord edge.word := by cases edge <;> decide
  simp only [List.forall_mem_cons, timestamp, edgeQuiet, literal_lower_quiet unquoted,
    List.not_mem_nil, false_implies, implies_true, and_self]

/-! ### Recognition -/

theorem literal_not_awaited (rule : Rule) : ¬rule.Awaits (literal.map Char.toLower) := by
  obtain ⟨char, rest, chars, start⟩ := literal_start unquoted
  have low : char.toLower.toNat < 0x61 := by
    rcases start with quote | digit
    · rcases quote_cases quote with rfl | rfl <;> decide
    · obtain ⟨_, high⟩ := ascii_digit_iff.mp digit
      rw [digit_lower digit]
      omega
  rw [chars, List.map_cons]
  intro awaits
  have letter := awaits_letter awaits
  omega

theorem dated_found (edge : Edge) :
    Phrase.dated? (dateClause edge (literal.map Char.toLower)) =
      some (.dated edge (literal.map Char.toLower)) := by
  have quiet := literal_lower_quiet unquoted
  have edgePlain : IsPlainWord edge.word := by cases edge <;> decide
  have word : Phrase.oneOf? [("after".toList, Edge.after), ("before".toList, Edge.before)]
      (edge.word ++ ' ' :: literal.map Char.toLower) =
        some (edge, ' ' :: literal.map Char.toLower) := by
    cases edge with
    | after => exact one_of_here (after_append "after".toList _)
    | before =>
        rw [one_of_later rfl]
        exact one_of_here (after_append "before".toList _)
  have oneLine : (literal.map Char.toLower).contains '\n' = false := by
    rw [List.contains_eq_mem, decide_eq_false_iff_not]
    intro member
    exact absurd (quiet.2 '\n' member) (by decide)
  have nonempty : (literal.map Char.toLower).isEmpty = false := List.isEmpty_eq_false_iff.mpr quiet.1
  change Phrase.dated? ("timestamp".toList ++ ' ' :: (edge.word ++ ' ' :: literal.map Char.toLower)) = _
  simp only [Phrase.dated?, after_append, Option.bind_eq_bind, Option.bind_some,
    blanks_space (head_of_plain edgePlain _), word,
    blanks_space (head_unblank (plain_of_quiet quiet).2), nonempty, oneLine, Bool.or_self,
    Bool.false_eq_true, if_false]

theorem recognise_date_clause (edge : Edge) :
    recognise? Rule.all (dateClause edge (literal.map Char.toLower)) =
      some (.dated edge (literal.map Char.toLower)) := by
  apply @recognise_first .afterBefore
  · apply silent_of_awaits (by decide) (plain_of_all_quiet (date_clause_quiet unquoted edge))
    have edges : ∀ rule, ¬Rule.Awaits rule edge.word := by
      intro rule
      cases edge <;> cases rule <;> decide
    intro rule _
    simp only [List.tail_cons, List.forall_mem_cons, List.not_mem_nil, false_implies, implies_true,
      and_true]
    exact ⟨edges rule, literal_not_awaited unquoted rule⟩
  · exact dated_found unquoted edge

/-! ### Reading -/

theorem unquoted_lower :
    (literal.map Char.toLower).filter (!isQuote ·) = moment.isoDigits.map Char.toLower := by
  have same : (fun char => !isQuote char) ∘ Char.toLower = fun char => !isQuote char := by
    funext char
    exact congrArg not (quote_lower char)
  rw [List.filter_map, same, unquoted]

end

theorem iso_unquoted (moment : DateTime) :
    moment.isoDigits.filter (!isQuote ·) = moment.isoDigits := by
  apply List.filter_eq_self.mpr
  intro char member
  rw [(iso_facts (moment.iso_digits_chars char member)).2.1]
  rfl

theorem iso_lower_quiet (moment : DateTime) :
    ∀ word ∈ [moment.isoDigits.map Char.toLower], IsQuietWord word :=
  List.forall_mem_singleton.mpr (literal_lower_quiet (iso_unquoted moment))

theorem uppercase_iso_lower (moment : DateTime) :
    uppercase (moment.isoDigits.map Char.toLower) = moment.isoDigits := by
  have single : ∀ char ∈ moment.isoDigits, upperImage char.toLower = [char] :=
    fun char member => (iso_facts (moment.iso_digits_chars char member)).2.2
  rw [uppercase, List.flatMap_map, List.flatMap_congr single, List.flatMap_singleton']

/-- The names of times begin with letters. -/
theorem no_named_time (moment : DateTime) :
    NamedTime.ofText? (moment.isoDigits.map Char.toLower) = none := by
  obtain ⟨digit, rest, digits, ascii⟩ := moment.iso_digits_start
  have letters : ∀ named ∈ NamedTime.all,
      named.keyword.toList.head?.map isAsciiDigit = some false := by decide +kernel
  have lower : lowercase (trim (moment.isoDigits.map Char.toLower)) =
      moment.isoDigits.map Char.toLower :=
    @lowercase_trim_quiet [moment.isoDigits.map Char.toLower] (iso_lower_quiet moment)
  rw [NamedTime.ofText?, lower]
  apply List.find?_eq_none.mpr
  intro named member same
  have letter := letters named member
  rw [of_decide_eq_true same, String.toList_ofList, digits, List.map_cons, digit_lower ascii,
    List.head?_cons, Option.map_some, ascii] at letter
  exact Bool.noConfusion (Option.some.inj letter)

section

variable {moment : DateTime} {literal : List Char}
  (unquoted : literal.filter (!isQuote ·) = moment.isoDigits)
include unquoted

theorem read_literal (now : DateTime) :
    readDate (literal.map Char.toLower) now = .ok (some moment.asRead) := by
  have trimmed : trim (moment.isoDigits.map Char.toLower) = moment.isoDigits.map Char.toLower :=
    @trim_spaced [moment.isoDigits.map Char.toLower] (plain_of_all_quiet (iso_lower_quiet moment))
  simp only [readDate, unquoted_lower unquoted, trimmed, no_named_time, uppercase_iso_lower,
    moment.read_iso_digits]
  rfl

theorem read_date_clause (context : Context) (edge : Edge) {clause : List Char}
    (spelled : clause.map Char.toLower = (dateClause edge literal).map Char.toLower) :
    readClause Rule.all context clause = .ok (some (edge.predicate moment.asRead)) := by
  have quiet := date_clause_quiet unquoted edge
  have plain := plain_of_all_quiet quiet
  have lower : (dateClause edge literal).map Char.toLower =
      dateClause edge (literal.map Char.toLower) := by
    simp only [dateClause, spaced, List.map_append, List.map_cons]
    cases edge <;> rfl
  have clauseLower : lowercase (trim clause) = dateClause edge (literal.map Char.toLower) := by
    apply lowercase_trim_of_lower (spelled.trans lower)
    · intro char member
      rcases quiet_chars quiet char member with space | quietChar
      · rw [space]
        decide
      · exact quietChar.2.1
    · exact spaced_head_unblank plain
    · exact spaced_last_unblank plain
  rw [readClause, clauseLower, recognise_date_clause unquoted]
  simp only [Phrase.predicate, read_literal unquoted]
  cases edge <;> rfl

end

/-! ### A query of one date -/

theorem iso_plain (moment : DateTime) : IsPlainWord moment.isoDigits := by
  obtain ⟨digit, rest, digits, _⟩ := moment.iso_digits_start
  refine ⟨by rw [digits]; exact List.cons_ne_nil _ _, ?_⟩
  intro char member
  obtain ⟨low, high, _⟩ := (iso_facts (moment.iso_digits_chars char member)).1
  rw [← blank_lower]
  exact not_blank_of_printable low high

/-- The `T` of a written time is its only capital, and begins no connective. -/
theorem iso_no_connective {moment : DateTime} {char : Char} (member : char ∈ moment.isoDigits) :
    char ≠ 'A' ∧ char ≠ 'O' := by
  have iso := moment.iso_digits_chars char member
  constructor
  · rintro rfl
    exact absurd iso (by decide)
  · rintro rfl
    exact absurd iso (by decide)

theorem date_clause_alone (edge : Edge) (moment : DateTime) :
    IsClause (dateClause edge moment.isoDigits) := by
  have timestamp : IsQuietWord "timestamp".toList := by decide
  have edgeQuiet : IsQuietWord edge.word := by cases edge <;> decide
  have plain : ∀ word ∈ ["timestamp".toList, edge.word, moment.isoDigits], IsPlainWord word := by
    simp only [List.forall_mem_cons, plain_of_quiet timestamp, plain_of_quiet edgeQuiet,
      iso_plain moment, List.not_mem_nil, false_implies, implies_true, and_self]
  have letters {char : Char} (member : char ∈ dateClause edge moment.isoDigits) :
      char ≠ 'A' ∧ char ≠ 'O' := by
    rcases mem_spaced member with space | ⟨word, inside, charMember⟩
    · exact no_connective (.inl space)
    · simp only [List.mem_cons, List.not_mem_nil, or_false] at inside
      rcases inside with rfl | rfl | rfl
      · exact no_connective (.inr (timestamp.2 char charMember))
      · exact no_connective (.inr (edgeQuiet.2 char charMember))
      · exact iso_no_connective charMember
  have absent {first : Char} {others : List Char}
      (other : ∀ char ∈ dateClause edge moment.isoDigits, char ≠ first) :
      ¬HoldsLone (first :: others) (dateClause edge moment.isoDigits) :=
    (cut_eq_singleton_iff (List.cons_ne_nil _ _)).mp (cut_plain false other)
  exact ⟨trim_spaced plain, absent fun char member => (letters member).2,
    absent fun char member => (letters member).1⟩

/-- A written time is the cutoff of its clause, in any letter case and with quotation marks anywhere in
it, and the clause as it is written may be a query of its own. -/
theorem written_cutoff_read_back (context : Context) (edge : Edge) (moment : DateTime)
    {literal clause : List Char} (unquoted : literal.filter (!isQuote ·) = moment.isoDigits)
    (spelled : clause.map Char.toLower = (dateClause edge literal).map Char.toLower) :
    readClause Rule.all context clause = .ok (some (edge.predicate moment.asRead)) ∧
      compile context (dateClause edge moment.isoDigits) =
        .ok (.any [edge.predicate moment.asRead]) := by
  refine ⟨read_date_clause unquoted context edge spelled, ?_⟩
  apply compile_clause (split_clause (date_clause_alone edge moment))
  exact read_date_clause (iso_unquoted moment) context edge rfl

/-- An hour ahead of UTC, in capitals and with the time in quotation marks. -/
theorem written_cutoff_read_back_from_capitals :
    readClause Rule.all secondNoon "TIMESTAMP After '0001-01-02t12:00:00+01:00'".toList =
      .ok (some (.timeAfter ⟨secondNoon.now.wall, some ⟨3600000000, by decide⟩⟩)) := by
  let moment : DateTime := ⟨secondNoon.now.wall, some ⟨3600000000, by decide⟩⟩
  have unquoted : "'0001-01-02T12:00:00+01:00'".toList.filter (!isQuote ·) = moment.isoDigits := by
    decide +kernel
  exact (written_cutoff_read_back secondNoon .after moment unquoted (by decide +kernel)).1

def lastOfMarch : WallTime := ⟨63847495800000000, by decide⟩

/-- An offset of half a second is lost. -/
theorem half_second_offset_lost :
    let ahead : DateTime := ⟨lastOfMarch, some ⟨500000, by decide⟩⟩
    ahead.isoDigits = "2024-03-31T15:30:00+00:00:00.500000".toList ∧
      readClause Rule.all ⟨⟨lastOfMarch, some Offset.utc⟩, ["bitcoin"]⟩
          "timestamp after 2024-03-31T15:30:00+00:00:00.500000".toList =
        .ok (some (.timeAfter ⟨lastOfMarch, some Offset.utc⟩)) ∧
      (⟨lastOfMarch, some Offset.utc⟩ : DateTime) ≠ ahead := by
  intro ahead
  have digits : ahead.isoDigits = "2024-03-31T15:30:00+00:00:00.500000".toList := by decide +kernel
  have read := read_date_clause (iso_unquoted ahead) ⟨⟨lastOfMarch, some Offset.utc⟩, ["bitcoin"]⟩
    .after rfl
  rw [digits] at read
  have moved : (⟨lastOfMarch, some Offset.utc⟩ : DateTime) ≠ ahead := by
    intro same
    have offsets := Option.some.inj (congrArg DateTime.offset same)
    exact absurd (congrArg Offset.micros offsets) (by decide)
  exact ⟨digits, read, moved⟩

end Query
end PriceBoard

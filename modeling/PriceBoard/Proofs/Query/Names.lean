import PriceBoard.Proofs.Query.Connectives
import PriceBoard.Proofs.Query.Joining
import PriceBoard.Proofs.Query.RoundTrip
import PriceBoard.Proofs.Text.Case

/-!
# A field is asked for by its lower-case name

A clause is read in lower case, so that a name followed by `above` or `below` and a number asks for the
field of the name's lower case. The connectives are no names, and a name that ends in a verb of an earlier
rule is not asked for: the rule finds its verb in it.
-/
namespace PriceBoard.Query

open PriceBoard.Decimal PriceBoard.Text

/-! ### The lower case of a name -/

def Name.lower (name : Name) (undotted : 'İ' ∉ name.chars) : Name :=
  ⟨lowercase name.chars, lowercase_after_ne_nil [] name.nonempty,
    lowercase_after_word [] name.word undotted⟩

theorem name_plain (name : Name) : IsPlainWord name.chars := by
  refine ⟨name.nonempty, ?_⟩
  intro char member
  by_contra blank
  rw [Bool.not_eq_false] at blank
  have word := name.word char member
  rw [blank_not_word blank] at word
  exact Bool.false_ne_true word

/-! ### A clause of its own -/

theorem nil_of_words {text : List Char} (word : ∀ char ∈ text, isWord char = true)
    (starts : startsWord text = false) : text = [] := by
  cases text with
  | nil => rfl
  | cons char others =>
      rw [startsWord, word char List.mem_cons_self] at starts
      exact Bool.noConfusion starts

/-- A connective stands alone in a name only if it is the whole name. -/
theorem name_of_lone {name : Name} {word : List Char} (lone : HoldsLone word name.chars) :
    name.chars = word := by
  obtain ⟨before, after, same, begins, ends⟩ := lone
  have words := name.word
  rw [same] at words
  have atStart : before.reverse = [] := nil_of_words
    (fun char member => words char (by simp [List.mem_reverse.mp member])) begins
  have atEnd : after = [] := nil_of_words
    (fun char member => words char (by simp [member])) ends
  rw [same, List.reverse_eq_nil_iff.mp atStart, atEnd, List.nil_append, List.append_nil]

theorem absent_of_name {first : Char} {letters : List Char} {name : Name}
    (spaceless : ∀ char ∈ first :: letters, char ≠ ' ') (other : name.chars ≠ first :: letters)
    {rest : List Char} (absent : ∀ char ∈ rest, char ≠ first) :
    ¬HoldsLone (first :: letters) (name.chars ++ ' ' :: rest) := by
  have letterless : (first :: letters) ≠ [] := List.cons_ne_nil _ _
  have nameWhole : cut (first :: letters) name.chars = [name.chars] :=
    (cut_eq_singleton_iff letterless).mpr fun lone => other (name_of_lone lone)
  have restWhole : cut (first :: letters) rest = [rest] := cut_plain false absent
  apply (cut_eq_singleton_iff letterless).mp
  rw [cut_before_space spaceless, cut_after_space spaceless, nameWhole, restWhole]
  rfl

/-! ### The question -/

def Side.asks (side : Side) (bound current : Float) : Bool :=
  match side with
  | .above => bound < current
  | .below => current < bound

section

variable (name : Name) (side : Side) (value : Numeral)

def question : List Char := spaced [name.chars, side.word, value.text]

theorem side_quiet : IsQuietWord side.word := by cases side <;> decide

theorem question_tail_quiet : ∀ word ∈ [side.word, value.text], IsQuietWord word := by
  simp only [List.forall_mem_cons, side_quiet, numeral_quiet, List.not_mem_nil, false_implies,
    implies_true, and_self]

theorem question_plain : ∀ word ∈ [name.chars, side.word, value.text], IsPlainWord word :=
  List.forall_mem_cons.mpr ⟨name_plain name, plain_of_all_quiet (question_tail_quiet side value)⟩

variable {name}

theorem question_clause (notOr : name.chars ≠ orWord) (notAnd : name.chars ≠ andWord) :
    IsClause (question name side value) := by
  have tail : ∀ char ∈ spaced [side.word, value.text], char ≠ 'A' ∧ char ≠ 'O' := fun char member =>
    no_connective (quiet_chars (question_tail_quiet side value) char member)
  refine ⟨trim_spaced (question_plain name side value), ?_, ?_⟩
  · exact absent_of_name or_spaceless notOr fun char member => (tail char member).2
  · exact absent_of_name and_spaceless notAnd fun char member => (tail char member).1

theorem lowercase_question (undotted : 'İ' ∉ name.chars) :
    lowercase (question name side value) = question (name.lower undotted) side value := by
  have tail := lowercase_after_quiet (question_tail_quiet side value)
  change lowercaseAfter [] (name.chars ++ ' ' :: spaced [side.word, value.text]) = _
  rw [lowercase_after_space, tail]
  rfl

theorem recognise_question (free : ∀ verb ∈ side.verbs, ¬verb <:+ name.chars) :
    recognise? Rule.all (question name side value) = some (.sided name.chars side value.text) := by
  apply @recognise_first .aboveBelow
  · apply silent_of_apart (by decide) (question_plain name side value)
    exact fun rule earlier => side_apart earlier free
  · exact search_at_start (sided_found name side value.figure)

end

/-- A name asks for the field of its lower case: the clause is accepted where the snapshot has a value
for it on the side of the number that is asked for. -/
theorem name_asks_lower_case_field (context : Context) (snapshot : Snapshot) {name : Name} {side : Side}
    (value : Numeral) (undotted : 'İ' ∉ name.chars) (notOr : name.chars ≠ orWord)
    (notAnd : name.chars ≠ andWord)
    (free : ∀ verb ∈ side.verbs, ¬verb <:+ lowercase name.chars) :
    Answers context snapshot (question name side value)
      ((snapshot.value? (String.ofList (lowercase name.chars))).any (side.asks value.value)) := by
  have isClause := question_clause side value notOr notAnd
  have read : readClause Rule.all context (question name side value) =
      .ok (some (.comparison (String.ofList (lowercase name.chars))
        (if side = .above then .greater else .less) value.value)) := by
    rw [readClause, isClause.1, lowercase_question side value undotted,
      recognise_question side value free]
    simp only [Phrase.predicate, number_text]
    rfl
  apply answers_clause (split_clause isClause) read
  rw [Predicate.holds]
  cases snapshot.value? (String.ofList (lowercase name.chars)) with
  | none => rfl
  | some current => cases side <;> rfl

def five : Numeral := ⟨⟨['5'], by decide, List.all_eq_true.mp rfl⟩, none⟩

def capitals : Name := ⟨"BTC".toList, by decide, List.all_eq_true.mp rfl⟩

/-- `BTC above 5` asks for the field `btc`. -/
theorem name_asks_lower_case_field_of_capitals :
    Answers secondNoon ⟨secondNoon.now.wall, [("btc", nearest 6 0)]⟩ "BTC above 5".toList true := by
  let snapshot : Snapshot := ⟨secondNoon.now.wall, [("btc", nearest 6 0)]⟩
  have free : ∀ verb ∈ Side.above.verbs, ¬verb <:+ lowercase capitals.chars := by
    have lower : lowercase capitals.chars = "btc".toList := rfl
    rw [lower]
    decide
  have asked : Option.any (Side.above.asks five.value)
      (snapshot.value? (String.ofList (lowercase capitals.chars))) = true := by decide +kernel
  have text : question capitals .above five = "BTC above 5".toList := rfl
  have answers := @name_asks_lower_case_field secondNoon snapshot capitals .above five
    (by decide) (by decide) (by decide) free
  rw [asked, text] at answers
  exact answers

/-- So the value of a field with capitals in its name is never looked at. -/
theorem capital_field_never_asked :
    let snapshot : Snapshot := ⟨secondNoon.now.wall, [("BTC", nearest 6 0)]⟩
    snapshot.value? "BTC" = some (nearest 6 0) ∧ nearest 5 0 < nearest 6 0 ∧
      Answers ⟨secondNoon.now, ["BTC"]⟩ snapshot "BTC above 5".toList false := by
  intro snapshot
  have recognised : recognise? Rule.all (lowercase (trim "BTC above 5".toList)) =
      some (.sided "btc".toList .above five.text) := rfl
  have read : readClause Rule.all ⟨secondNoon.now, ["BTC"]⟩ "BTC above 5".toList =
      .ok (some (.comparison (String.ofList "btc".toList) .greater five.value)) := by
    rw [readClause, recognised]
    simp only [Phrase.predicate, number_text]
    rfl
  have absent : snapshot.value? (String.ofList "btc".toList) = none := rfl
  refine ⟨rfl, by decide +kernel, answers_clause rfl read ?_⟩
  rw [Predicate.holds, absent]

/-! ### Names that end in a verb -/

theorem eq_of_verb_suffix {side : Side} {verb other : List Char} (isVerb : verb ∈ side.verbs)
    (isOther : other ∈ side.verbs) (ends : verb <:+ other) : verb = other := by
  have apart : ∀ verb ∈ side.verbs, ∀ other ∈ side.verbs, verb <:+ other → verb = other := by
    cases side <;> decide
  exact apart verb isVerb other isOther ends

section

variable {side : Side} {verb letters : List Char} (isVerb : verb ∈ side.verbs)
  (unblank : Unblank (letters ++ verb))
include isVerb unblank

/-- No rule with a verb begins in the letters before the verb. -/
theorem rule_after_letters {rule : Rule} (earlier : rule ∈ [Rule.drop, .rise, .fall])
    {rest : List (List Char)} (plain : ∀ word ∈ side.word :: rest, IsPlainWord word) :
    rule.recognise? (letters ++ verb ++ ' ' :: spaced (side.word :: rest)) =
      rule.recognise? (verb ++ ' ' :: spaced (side.word :: rest)) := by
  have searching : ∀ rule ∈ [Rule.drop, .rise, .fall], rule.keys ≠ [] := by decide
  obtain ⟨scan?, isSearch, opened⟩ := rule_opened (searching rule earlier)
  have keyed := keyed_of_opened (keys_unblank rule) opened
  rw [isSearch, isSearch]
  induction letters with
  | nil => rfl
  | cons letter letters induction =>
      have laterUnblank : Unblank (letters ++ verb) :=
        fun char member => unblank char (List.mem_cons_of_mem letter member)
      rw [List.cons_append, List.cons_append, search_cons, induction laterUnblank]
      by_contra found
      obtain ⟨key, member, first, second⟩ :=
        keyed.next (letter :: (letters ++ verb)) _ unblank (spaced_head_unblank plain) found
      have begins := prefix_of_spaced (keyed.unblank key member) second
      obtain ⟨other, isOther, given⟩ := verb_of_key earlier member begins
      have whole := first other given
      have same := eq_of_verb_suffix isVerb isOther ⟨letter :: letters, whole.symm⟩
      have longer := congrArg List.length whole
      rw [same, List.length_cons, List.length_append] at longer
      omega

end

/-- A verb of a side, the word of the side and a number are a phrase of an earlier rule. -/
theorem verb_said {side : Side} {verb : List Char} (isVerb : verb ∈ side.verbs) (value : Figure) :
    ∃ saying : Saying, saying.words = [verb, side.word, value.chars] ∧
      saying.rule ∈ [Rule.drop, .rise, .fall] := by
  cases side with
  | above =>
      simp only [Side.verbs, List.mem_cons, List.not_mem_nil, or_false] at isVerb
      rcases isVerb with rfl | rfl
      · exact ⟨.rose .rose value, rfl, by simp [Saying.rule]⟩
      · exact ⟨.rose .increased value, rfl, by simp [Saying.rule]⟩
  | below =>
      simp only [Side.verbs, List.mem_cons, List.not_mem_nil, or_false] at isVerb
      rcases isVerb with rfl | rfl
      · exact ⟨.dropped value, rfl, by simp [Saying.rule]⟩
      · exact ⟨.fell .wentBelow value, rfl, by simp [Saying.rule]⟩

/-- The letters before a verb at the end of a name change nothing, so that such a name asks for no field
of its own. -/
theorem verb_takes_name (context : Context) {name : Name} {side : Side} {verb : List Char}
    (value : Numeral) (undotted : 'İ' ∉ name.chars) (isVerb : verb ∈ side.verbs)
    (ends : verb <:+ lowercase name.chars) :
    readClause Rule.all context (question name side value) =
      readClause Rule.all context (spaced [verb, side.word, value.text]) := by
  obtain ⟨saying, words, earlier⟩ := verb_said isVerb value.figure
  have quiet := saying_quiet saying
  have found := saying_found saying
  rw [words] at quiet found
  have verbLower : lowercase (trim (spaced [verb, side.word, value.text])) =
      spaced [verb, side.word, value.text] := lowercase_trim_quiet quiet
  have nameLower : lowercase (trim (question name side value)) =
      lowercase name.chars ++ ' ' :: spaced [side.word, value.text] := by
    rw [question, trim_spaced (question_plain name side value)]
    exact lowercase_question side value undotted
  have lowerUnblank := (name_plain (name.lower undotted)).2
  have tail := plain_of_all_quiet (question_tail_quiet side value)
  obtain ⟨letters, whole⟩ := ends
  rw [readClause, readClause, verbLower, nameLower, ← whole]
  have same : recognise? Rule.all (letters ++ verb ++ ' ' :: spaced [side.word, value.text]) =
      recognise? Rule.all (verb ++ ' ' :: spaced [side.word, value.text]) := by
    apply @recognise_congr [.drop, .rise, .fall] [.aboveBelow, .between, .withinLast, .afterBefore,
      .symbolic] rfl
    · intro rule member
      apply rule_after_letters isVerb _ member tail
      rw [whole]
      exact lowerUnblank
    · exact earlier
    · exact ne_of_eq_of_ne found (Option.some_ne_none _)
  rw [same]
  rfl

end PriceBoard.Query

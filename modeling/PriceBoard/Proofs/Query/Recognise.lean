import PriceBoard.Proofs.Query.Words

/-!
# Each wording is recognised

The rules before the rule of a wording find nothing in its words, and its own rule takes all of them.
-/
namespace PriceBoard.Query

open PriceBoard.Decimal PriceBoard.Text

namespace Saying

def rule : Saying → Rule
  | .sided .. => .aboveBelow
  | .between .. => .between
  | .rose .. => .rise
  | .fell .. => .fall
  | .dropped .. | .droppedAgo .. => .drop
  | .withinLast .. => .withinLast

def phrase : Saying → Phrase
  | .sided field side value => .sided field.chars side value.chars
  | .between field low high => .between field.chars low.chars high.chars
  | .rose _ value => .rose value.chars
  | .fell _ value => .fell value.chars
  | .dropped value => .dropped value.chars none
  | .droppedAgo value amount unit => .dropped value.chars (some (amount.chars, unit.unit))
  | .withinLast amount unit => .withinLast amount.chars unit.unit

end Saying

namespace Wording

def rule : Wording → Rule
  | .sided .. => .aboveBelow
  | .between .. => .between
  | .compared .. => .symbolic
  | .rose .. => .rise
  | .fell .. => .fall
  | .dropped .. | .droppedAgo .. => .drop
  | .withinLast .. => .withinLast

def phrase : Wording → Phrase
  | .sided field side value _ => .sided field.chars side value.text
  | .between field low high => .between field.chars low.text high.text
  | .compared field comparator value => .compared field.chars comparator value.text
  | .rose _ value => .rose value.text
  | .fell _ value => .fell value.text
  | .dropped value => .dropped value.text none
  | .droppedAgo value ago => .dropped value.text (some (ago.amount.chars, ago.unit.unit))
  | .withinLast span => .withinLast span.amount.chars span.unit.unit

end Wording

/-! ### Earlier rules -/

/-- Whether some second word of the rule begins the word. -/
def Rule.Awaits (rule : Rule) (word : List Char) : Prop := ∃ key ∈ rule.keys, key.second <+: word

instance (rule : Rule) (word : List Char) : Decidable (rule.Awaits word) :=
  inferInstanceAs (Decidable (∃ key ∈ rule.keys, key.second <+: word))

instance (key : Key) (word next : List Char) : Decidable (key.Meets word next) :=
  inferInstanceAs (Decidable (_ ∧ _))

/-- The second words of the rules begin with letters. -/
theorem awaits_letter {rule : Rule} {char : Char} {rest : List Char}
    (awaits : rule.Awaits (char :: rest)) : 0x61 ≤ char.toNat := by
  obtain ⟨key, member, begins⟩ := awaits
  have letters : ∀ key ∈ rule.keys,
      key.second.head?.map (fun letter => decide (0x61 ≤ letter.toNat)) = some true := by
    cases rule <;> decide
  have letter := letters key member
  cases second : key.second with
  | nil =>
      rw [second] at letter
      cases letter
  | cons first others =>
      rw [second] at letter begins
      rw [List.head?_cons, (List.cons_prefix_cons.mp begins).1] at letter
      exact of_decide_eq_true (Option.some.inj letter)

theorem awaits_no_digit (rule : Rule) {word : List Char} (start : StartsWithDigit word) :
    ¬rule.Awaits word := by
  obtain ⟨digit, rest, chars, ascii⟩ := start
  obtain ⟨_, high⟩ := ascii_digit_iff.mp ascii
  rw [chars]
  intro awaits
  have letter := awaits_letter awaits
  omega

theorem free_of_awaits {rule : Rule} {words : List (List Char)}
    (awaits : ∀ word ∈ words.tail, ¬rule.Awaits word) : Free rule.keys words := by
  induction words with
  | nil => trivial
  | cons word rest induction =>
      cases rest with
      | nil => trivial
      | cons next rest =>
          constructor
          · intro key member meets
            exact awaits next List.mem_cons_self ⟨key, member, meets.2⟩
          · apply induction
            intro other member
            exact awaits other (List.mem_cons_of_mem _ member)

/-- Of three words the last of which is a number only the first two can begin a rule. -/
theorem free_of_number {rule : Rule} {first second : List Char} (value : Numeral)
    (apart : ∀ key ∈ rule.keys, ¬key.Meets first second) :
    Free rule.keys [first, second, value.text] := by
  constructor
  · exact apart
  · apply free_of_awaits
    intro word member
    rw [List.mem_singleton.mp member]
    exact awaits_no_digit rule (numeral_start value)

/-- A key of an earlier rule that the word of a side begins has one of the side's verbs before it. -/
theorem verb_of_key {rule : Rule} (earlier : rule ∈ [Rule.drop, .rise, .fall]) {side : Side} {key : Key}
    (member : key ∈ rule.keys) (second : key.second <+: side.word) :
    ∃ verb ∈ side.verbs, key.first = some verb := by
  have verbs : ∀ rule ∈ [Rule.drop, .rise, .fall], ∀ key ∈ rule.keys, key.second <+: side.word →
      ∃ verb ∈ side.verbs, key.first = some verb := by
    cases side <;> decide
  exact verbs rule earlier key member second

/-- The word of a side begins another rule after one of its verbs only. -/
theorem side_apart {rule : Rule} (earlier : rule ∈ [Rule.drop, .rise, .fall]) {word : List Char}
    {side : Side} (free : ∀ verb ∈ side.verbs, ¬verb <:+ word) :
    ∀ key ∈ rule.keys, ¬key.Meets word side.word := by
  rintro key member ⟨first, second⟩
  obtain ⟨verb, isVerb, given⟩ := verb_of_key earlier member second
  exact free verb isVerb (first verb given)

section

variable {rules : List Rule} (searches : ∀ rule ∈ rules, rule.keys ≠ [])

include searches

theorem silent_of_awaits {words : List (List Char)} (plain : ∀ word ∈ words, IsPlainWord word)
    (awaits : ∀ rule ∈ rules, ∀ word ∈ words.tail, ¬rule.Awaits word) :
    ∀ rule ∈ rules, rule.recognise? (spaced words) = none := by
  intro rule member
  apply silent_of_free (searches rule member) plain
  exact free_of_awaits (awaits rule member)

theorem silent_of_apart {first second : List Char} {value : Numeral}
    (plain : ∀ word ∈ [first, second, value.text], IsPlainWord word)
    (apart : ∀ rule ∈ rules, ∀ key ∈ rule.keys, ¬key.Meets first second) :
    ∀ rule ∈ rules, rule.recognise? (spaced [first, second, value.text]) = none := by
  intro rule member
  apply silent_of_free (searches rule member) plain
  exact free_of_number value (apart rule member)

end

/-- The amount may have any number of digits. -/
theorem silent_before_within_last (amount : Digits) (unit : UnitWord) :
    ∀ rule ∈ [Rule.drop, .rise, .fall, .aboveBelow, .between],
      rule.recognise? (spaced (Saying.withinLast amount unit).words) = none := by
  apply silent_of_awaits (by decide) (plain_of_all_quiet (saying_quiet _))
  have fixed : ∀ rule ∈ [Rule.drop, .rise, .fall, .aboveBelow, .between],
      ¬rule.Awaits "within".toList ∧ ¬rule.Awaits "last".toList ∧ ¬rule.Awaits unit.text := by
    cases unit <;> decide
  intro rule earlier
  obtain ⟨notWithin, notLast, notUnit⟩ := fixed rule earlier
  simp only [Saying.words, List.tail_cons, List.forall_mem_cons, List.not_mem_nil, false_implies,
    implies_true, and_true]
  exact ⟨notWithin, notLast, awaits_no_digit rule (digits_start amount), notUnit⟩

theorem name_found (name : Name) (rest : List Char) :
    word? (name.chars ++ ' ' :: rest) = some (name.chars, ' ' :: rest) := by
  apply run_append name.nonempty name.word
  · intro char member
    rw [← Option.some.inj member]
    exact not_word_of_blank

/-- Of the words for a unit those that only begin its word are passed over, as `ago` has to follow. -/
theorem amount_ago (amount : Digits) (unit : UnitWord) :
    Phrase.amount? Phrase.endsAgo (amount.chars ++ ' ' :: (unit.text ++ " ago".toList)) =
      some (amount.chars, unit.unit) := by
  rw [Phrase.amount?, amount_found]
  cases unit <;> rfl

theorem amount_last (amount : Digits) (unit : UnitWord) :
    Phrase.amount? (fun _ => true) (amount.chars ++ ' ' :: unit.text) =
      some (amount.chars, unit.unit) := by
  rw [Phrase.amount?, amount_found]
  cases unit <;> rfl

theorem dropped_found (value : Figure) :
    Phrase.dropped? ("dropped below".toList ++ ' ' :: value.chars) =
      some (.dropped value.chars none) := by
  simp only [Phrase.dropped?, after_append, Option.bind_eq_bind, Option.bind_some, value_last]
  rfl

theorem dropped_ago_found (value : Figure) (amount : Digits) (unit : UnitWord) :
    Phrase.dropped? ("dropped below".toList ++ ' ' :: (value.chars ++
      ' ' :: (amount.chars ++ ' ' :: (unit.text ++ " ago".toList)))) =
      some (.dropped value.chars (some (amount.chars, unit.unit))) := by
  have first := head_of_plain (plain_of_quiet (digits_quiet amount))
    (' ' :: (unit.text ++ " ago".toList))
  simp only [Phrase.dropped?, after_append, Option.bind_eq_bind, Option.bind_some,
    value_before_space, blanks_space first, amount_ago]

theorem rose_found (rise : Rise) (value : Figure) :
    Phrase.rose? (rise.verb ++ " above".toList ++ ' ' :: value.chars) = some (.rose value.chars) := by
  have verb : Phrase.oneOf? [("rose above".toList, ()), ("increased above".toList, ())]
      (rise.verb ++ " above".toList ++ ' ' :: value.chars) = some ((), ' ' :: value.chars) := by
    cases rise with
    | rose => exact one_of_here (after_append "rose above".toList _)
    | increased =>
        rw [one_of_later rfl]
        exact one_of_here (after_append "increased above".toList _)
  simp only [Phrase.rose?, verb, Option.bind_eq_bind, Option.bind_some, value_last]

theorem fell_found (fall : Fall) (value : Figure) :
    Phrase.fell? (spaced fall.words ++ ' ' :: value.chars) = some (.fell value.chars) := by
  have verb : Phrase.oneOf? [("fell under".toList, ()), ("went below".toList, ())]
      (spaced fall.words ++ ' ' :: value.chars) = some ((), ' ' :: value.chars) := by
    cases fall with
    | fellUnder => exact one_of_here (after_append "fell under".toList _)
    | wentBelow =>
        rw [one_of_later rfl]
        exact one_of_here (after_append "went below".toList _)
  simp only [Phrase.fell?, verb, Option.bind_eq_bind, Option.bind_some, value_last]

theorem sided_found (name : Name) (side : Side) (value : Figure) :
    Phrase.sided? (name.chars ++ ' ' :: (side.word ++ ' ' :: value.chars)) =
      some (.sided name.chars side value.chars) := by
  have sidePlain : IsPlainWord side.word := by cases side <;> decide
  have word : Phrase.oneOf? [("above".toList, Side.above), ("below".toList, Side.below)]
      (side.word ++ ' ' :: value.chars) = some (side, ' ' :: value.chars) := by
    cases side with
    | above => exact one_of_here (after_append "above".toList _)
    | below =>
        rw [one_of_later rfl]
        exact one_of_here (after_append "below".toList _)
  simp only [Phrase.sided?, name_found, Option.bind_eq_bind, Option.bind_some,
    blanks_space (head_of_plain sidePlain _), word, value_last]

theorem between_found (name : Name) (low high : Figure) :
    Phrase.between? (name.chars ++ ' ' :: ("between".toList ++ ' ' :: (low.chars ++
      ' ' :: ("and".toList ++ ' ' :: high.chars)))) =
      some (.between name.chars low.chars high.chars) := by
  have between : IsPlainWord "between".toList := by decide
  have conjunction : IsPlainWord "and".toList := by decide
  simp only [Phrase.between?, name_found, Option.bind_eq_bind, Option.bind_some,
    blanks_space (head_of_plain between _), after_append, value_before_space,
    blanks_space (head_of_plain conjunction _), value_last]

theorem within_last_found (amount : Digits) (unit : UnitWord) :
    Phrase.withinLast? ("timestamp within last".toList ++ ' ' :: (amount.chars ++
      ' ' :: unit.text)) = some (.withinLast amount.chars unit.unit) := by
  have first := head_of_plain (plain_of_quiet (digits_quiet amount)) (' ' :: unit.text)
  simp only [Phrase.withinLast?, after_append, Option.bind_eq_bind, Option.bind_some,
    blanks_space first, amount_last]

theorem saying_found (saying : Saying) :
    saying.rule.recognise? (spaced saying.words) = some saying.phrase := by
  cases saying with
  | sided field side value => exact search_at_start (sided_found field.name side value)
  | between field low high => exact search_at_start (between_found field.name low high)
  | rose rise value =>
      apply search_at_start
      have found := rose_found rise value
      rwa [List.append_assoc] at found
  | fell fall value =>
      apply search_at_start
      cases fall with
      | fellUnder => exact fell_found .fellUnder value
      | wentBelow => exact fell_found .wentBelow value
  | dropped value => exact search_at_start (dropped_found value)
  | droppedAgo value amount unit => exact search_at_start (dropped_ago_found value amount unit)
  | withinLast amount unit => exact search_at_start (within_last_found amount unit)

/-- The first rule that finds something decides. -/
theorem recognise_first {rule : Rule} {clause : List Char} {phrase : Phrase}
    (silent : ∀ earlier ∈ Rule.all.takeWhile (· ≠ rule), earlier.recognise? clause = none)
    (found : rule.recognise? clause = some phrase) : recognise? Rule.all clause = some phrase := by
  have order : Rule.all = Rule.all.takeWhile (· ≠ rule) ++
      rule :: (Rule.all.dropWhile (· ≠ rule)).tail := by
    cases rule <;> decide
  have earlier : (Rule.all.takeWhile (· ≠ rule)).findSome? (·.recognise? clause) = none :=
    List.findSome?_eq_none_iff.mpr silent
  rw [recognise?, order, List.findSome?_append, earlier, List.findSome?_cons, found]
  rfl

/-- Where one of the first rules finds something, the others are not tried. -/
theorem recognise_congr {first others : List Rule} (order : Rule.all = first ++ others)
    {clause other : List Char} {rule : Rule}
    (same : ∀ rule ∈ first, rule.recognise? clause = rule.recognise? other) (member : rule ∈ first)
    (found : rule.recognise? other ≠ none) :
    recognise? Rule.all clause = recognise? Rule.all other := by
  have firstSame : first.findSome? (·.recognise? clause) = first.findSome? (·.recognise? other) := by
    rw [← List.head?_filterMap, ← List.head?_filterMap, List.filterMap_congr same]
  have recognised : first.findSome? (·.recognise? other) ≠ none := by
    intro silent
    exact found (List.findSome?_eq_none_iff.mp silent rule member)
  obtain ⟨phrase, isPhrase⟩ := Option.ne_none_iff_exists'.mp recognised
  rw [recognise?, recognise?, order, List.findSome?_append, List.findSome?_append, firstSame, isPhrase,
    Option.some_or, Option.some_or]

end PriceBoard.Query

import PriceBoard.Proofs.Query.Recognise

/-!
# Words in front of a phrase

A rule that looks anywhere in a clause needs one of five words after its first one, and after that a
number or `last`. So words that are none of the five may stand in front of a phrase: no rule begins in
them, nor where the last of them meets the phrase, and what the clause says is what the phrase says.
-/
namespace PriceBoard.Query

open PriceBoard.Decimal PriceBoard.Text

def markers : List (List Char) :=
  ["above".toList, "below".toList, "under".toList, "between".toList, "within".toList]

/-- The rules that look anywhere in a clause, all tried before the others. -/
def searchingRules : List Rule := [.drop, .rise, .fall, .aboveBelow, .between, .withinLast]

theorem keys_marked (rule : Rule) : ∀ key ∈ rule.keys, key.second ∈ markers := by
  cases rule <;> decide

/-! ### Where no rule begins -/

theorem no_marker_begins {char : Char} (other : isNumeralPart char = true ∨ char = 'l')
    (rest : List Char) : ∀ marker ∈ markers, ¬marker <+: char :: rest := by
  have letters : ∀ marker ∈ markers, marker ≠ [] ∧
      marker.head?.all (fun letter => !isNumeralPart letter && letter != 'l') = true := by decide
  intro marker member begins
  obtain ⟨nonempty, first⟩ := letters marker member
  obtain ⟨letter, word, spelled⟩ := List.exists_cons_of_ne_nil nonempty
  rw [spelled] at begins first
  rw [(List.cons_prefix_cons.mp begins).1, List.head?_cons, Option.all_some, Bool.and_eq_true,
    Bool.not_eq_true', bne_iff_ne] at first
  obtain ⟨notNumeral, notLast⟩ := first
  rcases other with numeral | isLast
  · rw [numeral] at notNumeral
    exact Bool.noConfusion notNumeral
  · exact notLast isLast

/-- What a rule needs after its first word is a whole word, and no marker comes next. -/
theorem second_of_continues {next rest second more : List Char} (nextUnblank : Unblank next)
    (secondUnblank : Unblank second) (head : ∀ char ∈ rest.head?, isBlank char = false)
    (same : next ++ ' ' :: rest = second ++ more) (continues : Continues more) :
    next = second ∧ ∀ marker ∈ markers, ¬marker <+: rest := by
  rcases continues with value | ⟨beyond, whole⟩
  · obtain ⟨left, blanks, number⟩ := found_of_bind value
    obtain ⟨blank, others, split, isBlank⟩ := head_of_blanks blanks
    rw [split] at same blanks
    obtain ⟨sameWord, rests⟩ := first_word_ends nextUnblank secondUnblank isBlank same
    rw [← rests, blanks_space head] at blanks
    rw [← Option.some.inj blanks] at number
    obtain ⟨char, digits, spelled, part⟩ := head_of_run number
    rw [spelled]
    exact ⟨sameWord, no_marker_begins (.inl part) digits⟩
  · rw [← whole] at same
    obtain ⟨sameWord, rests⟩ := first_word_unique nextUnblank secondUnblank same
    rw [rests]
    exact ⟨sameWord, no_marker_begins (.inr rfl) _⟩

section

variable {Found : Type} {scan? : List Char → Option Found} {keys : List Key}
  (unblank : ∀ key ∈ keys, Unblank key.second ∧ ∀ first ∈ key.first, Unblank first)
  (marked : ∀ key ∈ keys, key.second ∈ markers) (opened : Opened scan? keys)
include unblank marked opened

theorem marker_of_opened {word next rest : List Char} (wordUnblank : Unblank word)
    (plain : IsPlainWord next) (head : ∀ char ∈ rest.head?, isBlank char = false)
    (found : scan? (word ++ ' ' :: (next ++ ' ' :: rest)) ≠ none) :
    next ∈ markers ∧ ∀ marker ∈ markers, ¬marker <+: rest := by
  obtain ⟨key, member, more, opens, continues⟩ := opened _ found
  obtain ⟨secondUnblank, firstUnblank⟩ := unblank key member
  obtain ⟨_, same⟩ := next_of_opens firstUnblank wordUnblank (head_of_plain plain _) opens
  obtain ⟨isSecond, absent⟩ :=
    second_of_continues plain.2 secondUnblank head same continues
  rw [isSecond]
  exact ⟨marked key member, absent⟩

/-- Words that are no markers are passed over in front of a word and a marker. -/
theorem search_after_noise {noise rest : List (List Char)} {first marker : List Char}
    (plain : ∀ word ∈ noise ++ first :: marker :: rest, IsPlainWord word)
    (unmarked : ∀ word ∈ noise, word ∉ markers) (isMarker : marker ∈ markers)
    (more : rest ≠ []) :
    search? scan? (spaced (noise ++ first :: marker :: rest)) =
      search? scan? (spaced (first :: marker :: rest)) := by
  induction noise with
  | nil => rfl
  | cons word noise induction =>
      have laterPlain : ∀ other ∈ noise ++ first :: marker :: rest, IsPlainWord other :=
        fun other member => plain other (List.mem_cons_of_mem _ member)
      have later : noise ++ first :: marker :: rest ≠ [] := by simp
      rw [List.cons_append, spaced_cons later, search_word]
      · exact induction laterPlain fun other member => unmarked other (List.mem_cons_of_mem _ member)
      · intro suffix isSuffix
        by_contra found
        have wordPlain := plain word List.mem_cons_self
        have suffixUnblank := unblank_of_suffix wordPlain.2 isSuffix
        cases noise with
        | nil =>
            -- The next word may be a marker itself, but then a marker follows it.
            have markerNext : marker :: rest ≠ [] := List.cons_ne_nil _ _
            have firstPlain := laterPlain first List.mem_cons_self
            have head := spaced_head_unblank fun other member =>
              laterPlain other (List.mem_cons_of_mem first member)
            rw [List.nil_append, spaced_cons markerNext] at found
            obtain ⟨_, absent⟩ :=
              marker_of_opened unblank marked opened suffixUnblank firstPlain head found
            apply absent marker isMarker
            rw [spaced_cons more]
            exact List.prefix_append _ _
        | cons next noise =>
            have nextLater : noise ++ first :: marker :: rest ≠ [] := by simp
            have nextPlain := laterPlain next List.mem_cons_self
            have head := spaced_head_unblank fun other member =>
              laterPlain other (List.mem_cons_of_mem next member)
            rw [List.cons_append, spaced_cons nextLater] at found
            obtain ⟨isMarked, _⟩ :=
              marker_of_opened unblank marked opened suffixUnblank nextPlain head found
            exact unmarked next (List.mem_cons_of_mem _ List.mem_cons_self) isMarked

end

section

variable {noise rest : List (List Char)} {first marker : List Char}
  (plain : ∀ word ∈ noise ++ first :: marker :: rest, IsPlainWord word)
  (unmarked : ∀ word ∈ noise, word ∉ markers) (isMarker : marker ∈ markers) (more : rest ≠ [])
include plain unmarked isMarker more

theorem rule_after_noise {rule : Rule} (searches : rule.keys ≠ []) :
    rule.recognise? (spaced (noise ++ first :: marker :: rest)) =
      rule.recognise? (spaced (first :: marker :: rest)) := by
  obtain ⟨scan?, isSearch, opened⟩ := rule_opened searches
  rw [isSearch, isSearch]
  exact search_after_noise (keys_unblank rule) (keys_marked rule) opened plain unmarked isMarker more

/-- Where a rule that looks anywhere finds something, no rule for whole clauses is tried. -/
theorem recognise_after_noise {rule : Rule} (searches : rule.keys ≠ [])
    (found : rule.recognise? (spaced (first :: marker :: rest)) ≠ none) :
    recognise? Rule.all (spaced (noise ++ first :: marker :: rest)) =
      recognise? Rule.all (spaced (first :: marker :: rest)) := by
  have keyed : ∀ rule ∈ searchingRules, rule.keys ≠ [] := by decide
  have member : rule ∈ searchingRules := by
    cases rule <;> first | decide | exact absurd rfl searches
  apply @recognise_congr searchingRules [.afterBefore, .symbolic] rfl
  · exact fun other inside => rule_after_noise plain unmarked isMarker more (keyed other inside)
  · exact member
  · exact found

end

/-! ### Sayings -/

structure NoiseWord extends FieldName where
  unmarked : chars ∉ markers

theorem saying_searches (saying : Saying) : saying.rule.keys ≠ [] := by
  cases saying <;> exact List.cons_ne_nil _ _

theorem saying_marked (saying : Saying) :
    ∃ first marker rest, saying.words = first :: marker :: rest ∧ marker ∈ markers ∧ rest ≠ [] := by
  cases saying with
  | sided field side value =>
      exact ⟨_, _, _, rfl, by cases side <;> decide, List.cons_ne_nil _ _⟩
  | fell fall value =>
      cases fall with
      | fellUnder => exact ⟨_, _, _, rfl, by decide, List.cons_ne_nil _ _⟩
      | wentBelow => exact ⟨_, _, _, rfl, by decide, List.cons_ne_nil _ _⟩
  | between | rose | dropped | droppedAgo | withinLast =>
      exact ⟨_, _, _, rfl, by decide, List.cons_ne_nil _ _⟩

theorem noise_quiet (noise : List NoiseWord) (saying : Saying) :
    ∀ word ∈ noise.map (·.chars) ++ saying.words, IsQuietWord word := by
  intro word member
  rcases List.mem_append.mp member with inNoise | inSaying
  · obtain ⟨noiseWord, _, rfl⟩ := List.mem_map.mp inNoise
    exact field_quiet noiseWord.toFieldName
  · exact saying_quiet saying word inSaying

/-- Words in front of a saying do not change what is read, be it a predicate or an error. -/
theorem noise_changes_nothing (context : Context) (noise : List NoiseWord) (saying : Saying) :
    readClause Rule.all context (spaced (noise.map (·.chars) ++ saying.words)) =
      readClause Rule.all context (spaced saying.words) := by
  have quiet := noise_quiet noise saying
  obtain ⟨first, marker, rest, words, isMarker, more⟩ := saying_marked saying
  have unmarked : ∀ word ∈ noise.map (·.chars), word ∉ markers := by
    intro word member
    obtain ⟨noiseWord, _, rfl⟩ := List.mem_map.mp member
    exact noiseWord.unmarked
  have found : saying.rule.recognise? (spaced saying.words) ≠ none := by
    rw [saying_found]
    exact nofun
  rw [readClause, readClause, lowercase_trim_quiet quiet, lowercase_trim_quiet (saying_quiet saying)]
  rw [words] at quiet found ⊢
  rw [recognise_after_noise (plain_of_all_quiet quiet) unmarked isMarker more
    (saying_searches saying) found]

end PriceBoard.Query

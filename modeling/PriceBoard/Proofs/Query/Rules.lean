import PriceBoard.Query.Phrase
import PriceBoard.Proofs.Text.Scan

/-!
# Where the rules can begin

Each rule that looks anywhere in a clause begins with one of few words, or with any word, and goes on
with one of few words and then with a number or one word more. Where no two neighbouring words are such
a pair the rule finds nothing.
-/
namespace PriceBoard.Query

open PriceBoard.Text

/-! ### Scanners in steps -/

theorem found_of_bind {Next Found : Type} {first : Option Next} {later : Next → Option Found}
    (found : first.bind later ≠ none) : ∃ next, first = some next ∧ later next ≠ none := by
  cases first with
  | none => exact absurd rfl found
  | some next => exact ⟨next, rfl, found⟩

section

variable {Meaning : Type} {word text rest : List Char} {meaning : Meaning}
  {alternatives : List (List Char × Meaning)}

theorem one_of_here (found : after? word text = some rest) :
    Phrase.oneOf? ((word, meaning) :: alternatives) text = some (meaning, rest) := by
  simp only [Phrase.oneOf?, List.findSome?_cons, found, Option.map_some]

theorem one_of_later (missed : after? word text = none) :
    Phrase.oneOf? ((word, meaning) :: alternatives) text = Phrase.oneOf? alternatives text := by
  simp only [Phrase.oneOf?, List.findSome?_cons, missed, Option.map_none]

theorem eq_of_one_of (found : Phrase.oneOf? alternatives text = some (meaning, rest)) :
    ∃ word ∈ alternatives.map (·.1), text = word ++ rest := by
  obtain ⟨⟨word, _⟩, member, here⟩ := List.exists_of_findSome?_eq_some found
  obtain ⟨_, after, same⟩ := Option.map_eq_some_iff.mp here
  rw [(Prod.mk.inj same).2] at after
  exact ⟨word, List.mem_map_of_mem member, eq_of_after after⟩

end

theorem not_word_of_blank : isWord ' ' = false := by decide

theorem after_word {text found after : List Char} (isFound : word? text = some (found, after)) :
    after = text.dropWhile isWord := by
  rw [word?, run?] at isFound
  split at isFound
  · exact absurd isFound (by simp)
  · exact (Prod.mk.inj (Option.some.inj isFound)).2.symm

/-- After a word, a scanner that goes on with blanks is at the next word. -/
theorem word_then_blanks {word rest found after more : List Char} (unblank : Unblank word)
    (first : ∀ char ∈ rest.head?, isBlank char = false)
    (isFound : word? (word ++ ' ' :: rest) = some (found, after))
    (blanks : blanks? after = some more) : more = rest := by
  have dropped : after = word.dropWhile isWord ++ ' ' :: rest := by
    rw [after_word isFound, List.dropWhile_append]
    split_ifs with all
    · rw [List.isEmpty_iff.mp all, List.dropWhile_cons_of_neg (by decide), List.nil_append]
    · rfl
  cases left : word.dropWhile isWord with
  | nil =>
      rw [dropped, left, List.nil_append, blanks_space first] at blanks
      exact (Option.some.inj blanks).symm
  | cons char others =>
      have charUnblank : isBlank char = false := by
        apply unblank
        apply (List.dropWhile_suffix isWord).mem
        rw [left]
        exact List.mem_cons_self
      have none := @blanks_none (char :: others ++ ' ' :: rest) fun other member => by
        cases member
        exact charUnblank
      rw [dropped, left, none] at blanks
      exact absurd blanks (by simp)

/-! ### Keys -/

/-- What a rule goes on with after the second word of its key: a number, or `last`. -/
def Continues (more : List Char) : Prop := Phrase.value? more ≠ none ∨ " last".toList <+: more

/-- The two words of the key begin the text, and `more` follows them. -/
def Opens (key : Key) (text more : List Char) : Prop :=
  match key.first with
  | some first => text = first ++ ' ' :: (key.second ++ more)
  | none => ∃ word after, word? text = some (word, after) ∧ blanks? after = some (key.second ++ more)

/-- Whatever the scanner accepts begins with one of the keys. -/
def Opened {Found : Type} (scan? : List Char → Option Found) (keys : List Key) : Prop :=
  ∀ text, scan? text ≠ none → ∃ key ∈ keys, ∃ more, Opens key text more ∧ Continues more

section

variable {key : Key} {text more : List Char}

theorem blank_of_opens (opens : Opens key text more) : ¬Unblank text := by
  intro unblank
  unfold Opens at opens
  split at opens
  · have blank := unblank ' ' (by rw [opens]; simp)
    rw [space_blank] at blank
    exact Bool.noConfusion blank
  · obtain ⟨_, after, isWord, blanks⟩ := opens
    have afterUnblank : Unblank after := by
      rw [after_word isWord]
      exact unblank_of_suffix unblank (List.dropWhile_suffix _)
    rw [blanks_none (head_unblank afterUnblank)] at blanks
    exact nomatch blanks

theorem next_of_opens {word rest : List Char} (keyUnblank : ∀ first ∈ key.first, Unblank first)
    (unblank : Unblank word) (head : ∀ char ∈ rest.head?, isBlank char = false)
    (opens : Opens key (word ++ ' ' :: rest) more) :
    (∀ first ∈ key.first, first = word) ∧ rest = key.second ++ more := by
  unfold Opens at opens
  split at opens
  · rename_i first given
    obtain ⟨sameWord, sameRest⟩ := first_word_unique unblank (keyUnblank first given) opens
    refine ⟨?_, sameRest⟩
    intro other otherGiven
    rw [sameWord]
    exact Option.mem_unique otherGiven given
  · rename_i given
    obtain ⟨_, after, isWord, blanks⟩ := opens
    refine ⟨?_, (word_then_blanks unblank head isWord blanks).symm⟩
    intro first isFirst
    rw [given] at isFirst
    exact nomatch isFirst

end

theorem keyed_of_opened {Found : Type} {scan? : List Char → Option Found} {keys : List Key}
    (unblank : ∀ key ∈ keys, Unblank key.second ∧ ∀ first ∈ key.first, Unblank first)
    (opened : Opened scan? keys) : Keyed scan? keys where
  unblank key member := (unblank key member).1
  ends word wordUnblank := by
    by_contra found
    obtain ⟨key, _, more, opens, _⟩ := opened word found
    exact blank_of_opens opens wordUnblank
  next word rest wordUnblank head found := by
    obtain ⟨key, member, more, opens, _⟩ := opened _ found
    obtain ⟨first, second⟩ := next_of_opens (unblank key member).2 wordUnblank head opens
    exact ⟨key, member, first, more, second.symm⟩

/-! ### The key of each rule -/

def droppedKeys : List Key := [⟨some "dropped".toList, "below".toList⟩]

def roseKeys : List Key :=
  [⟨some "rose".toList, "above".toList⟩, ⟨some "increased".toList, "above".toList⟩]

def fellKeys : List Key :=
  [⟨some "fell".toList, "under".toList⟩, ⟨some "went".toList, "below".toList⟩]

def withinLastKeys : List Key := [⟨some "timestamp".toList, "within".toList⟩]

def sidedKeys : List Key := [⟨none, "above".toList⟩, ⟨none, "below".toList⟩]

def betweenKeys : List Key := [⟨none, "between".toList⟩]

/-- A scanner that begins with one of given phrases, each of them the two words of a key, and goes on
with a number. -/
theorem opened_of_phrases {Meaning Found : Type} {alternatives : List (List Char × Meaning)}
    {scan? : List Char → Option Found} {keys : List Key}
    (spelled : ∀ phrase ∈ alternatives.map (·.1), ∃ key ∈ keys, ∃ first, key.first = some first ∧
      phrase = first ++ ' ' :: key.second)
    (begins : ∀ text, scan? text ≠ none → ∃ meaning rest,
      Phrase.oneOf? alternatives text = some (meaning, rest) ∧ Phrase.value? rest ≠ none) :
    Opened scan? keys := by
  intro text found
  obtain ⟨_, rest, one, value⟩ := begins text found
  obtain ⟨phrase, member, whole⟩ := eq_of_one_of one
  obtain ⟨key, keyMember, first, given, words⟩ := spelled phrase member
  refine ⟨key, keyMember, rest, ?_, .inl value⟩
  rw [Opens, given, whole, words, List.append_assoc]
  rfl

theorem dropped_opened : Opened Phrase.dropped? droppedKeys := by
  intro text found
  obtain ⟨rest, after, found⟩ := found_of_bind found
  obtain ⟨value, isValue, _⟩ := found_of_bind found
  have whole := eq_of_after after
  exact ⟨_, List.mem_cons_self, rest, whole, .inl (by rw [isValue]; exact nofun)⟩

theorem rose_opened : Opened Phrase.rose? roseKeys := by
  apply @opened_of_phrases _ _ [("rose above".toList, ()), ("increased above".toList, ())]
  · decide
  · intro text found
    obtain ⟨⟨meaning, rest⟩, one, found⟩ := found_of_bind found
    obtain ⟨value, isValue, _⟩ := found_of_bind found
    exact ⟨meaning, rest, one, by rw [isValue]; exact nofun⟩

theorem fell_opened : Opened Phrase.fell? fellKeys := by
  apply @opened_of_phrases _ _ [("fell under".toList, ()), ("went below".toList, ())]
  · decide
  · intro text found
    obtain ⟨⟨meaning, rest⟩, one, found⟩ := found_of_bind found
    obtain ⟨value, isValue, _⟩ := found_of_bind found
    exact ⟨meaning, rest, one, by rw [isValue]; exact nofun⟩

theorem within_last_opened : Opened Phrase.withinLast? withinLastKeys := by
  intro text found
  obtain ⟨rest, after, _⟩ := found_of_bind found
  have whole := eq_of_after after
  exact ⟨_, List.mem_cons_self, " last".toList ++ rest, whole, .inr (List.prefix_append _ rest)⟩

theorem sided_opened : Opened Phrase.sided? sidedKeys := by
  intro text found
  obtain ⟨⟨word, after⟩, isWord, found⟩ := found_of_bind found
  obtain ⟨more, blanks, found⟩ := found_of_bind found
  obtain ⟨⟨side, rest⟩, one, found⟩ := found_of_bind found
  obtain ⟨value, isValue, _⟩ := found_of_bind found
  have sides : ∀ side ∈ ["above".toList, "below".toList],
      (⟨none, side⟩ : Key) ∈ sidedKeys := by
    simp [sidedKeys]
  obtain ⟨second, member, whole⟩ := eq_of_one_of one
  refine ⟨⟨none, second⟩, sides second member, rest, ⟨word, after, isWord, ?_⟩,
    .inl (by rw [isValue]; exact nofun)⟩
  rw [blanks, whole]

theorem between_opened : Opened Phrase.between? betweenKeys := by
  intro text found
  obtain ⟨⟨word, after⟩, isWord, found⟩ := found_of_bind found
  obtain ⟨more, blanks, found⟩ := found_of_bind found
  obtain ⟨rest, isRest, found⟩ := found_of_bind found
  obtain ⟨value, isValue, _⟩ := found_of_bind found
  refine ⟨_, List.mem_cons_self, rest, ⟨word, after, isWord, ?_⟩,
    .inl (by rw [isValue]; exact nofun)⟩
  rw [blanks, eq_of_after isRest]

/-! ### Silent rules -/

/-- Where a rule that looks anywhere in a clause can begin. -/
def Rule.keys : Rule → List Key
  | .drop => droppedKeys
  | .rise => roseKeys
  | .fall => fellKeys
  | .aboveBelow => sidedKeys
  | .between => betweenKeys
  | .withinLast => withinLastKeys
  | .afterBefore | .symbolic => []

theorem keys_unblank (rule : Rule) :
    ∀ key ∈ rule.keys, Unblank key.second ∧ ∀ first ∈ key.first, Unblank first := by
  cases rule <;> decide

/-- A rule with keys searches the clause for a place that one of them begins. -/
theorem rule_opened {rule : Rule} (searches : rule.keys ≠ []) :
    ∃ scan? : List Char → Option Phrase,
      (∀ clause, rule.recognise? clause = search? scan? clause) ∧ Opened scan? rule.keys := by
  cases rule with
  | drop => exact ⟨_, fun _ => rfl, dropped_opened⟩
  | rise => exact ⟨_, fun _ => rfl, rose_opened⟩
  | fall => exact ⟨_, fun _ => rfl, fell_opened⟩
  | aboveBelow => exact ⟨_, fun _ => rfl, sided_opened⟩
  | between => exact ⟨_, fun _ => rfl, between_opened⟩
  | withinLast => exact ⟨_, fun _ => rfl, within_last_opened⟩
  | afterBefore => exact absurd rfl searches
  | symbolic => exact absurd rfl searches

/-- A rule that none of the words can begin finds nothing. -/
theorem silent_of_free {rule : Rule} (searches : rule.keys ≠ []) {words : List (List Char)}
    (plain : ∀ word ∈ words, IsPlainWord word) (free : Free rule.keys words) :
    rule.recognise? (spaced words) = none := by
  obtain ⟨scan?, isSearch, opened⟩ := rule_opened searches
  rw [isSearch]
  exact search_none (keyed_of_opened (keys_unblank rule) opened) plain free

end PriceBoard.Query

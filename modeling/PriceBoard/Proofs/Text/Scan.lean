import PriceBoard.Text.Scan
import PriceBoard.Proofs.Text.Plain
import Mathlib.Data.List.Infix

/-!
# Scanning words with single spaces between them

A text of words with one space between any two is scanned word by word. A scanner that begins with two
words can only find something where a word ends like the first of them and the next word begins like
the second.
-/
namespace PriceBoard.Text

/-! ### Scanners at the front -/

section

variable {word text rest : List Char} {inside : Char → Bool}

theorem after_append (word rest : List Char) : after? word (word ++ rest) = some rest := by
  induction word with
  | nil => rfl
  | cons char word induction =>
      rw [List.cons_append, after?, if_pos rfl]
      exact induction

theorem eq_of_after (found : after? word text = some rest) : text = word ++ rest := by
  induction word generalizing text with
  | nil => exact Option.some.inj found
  | cons expected word induction =>
      cases text with
      | nil => simp [after?] at found
      | cons char text =>
          rw [after?] at found
          split_ifs at found with same
          rw [induction found, same, List.cons_append]

theorem after_is_some_iff : (after? word text).isSome = true ↔ word <+: text := by
  constructor
  · intro found
    obtain ⟨rest, isRest⟩ := Option.isSome_iff_exists.mp found
    exact ⟨rest, (eq_of_after isRest).symm⟩
  · rintro ⟨rest, rfl⟩
    rw [after_append]
    rfl

theorem run_append (nonempty : word ≠ []) (all : ∀ char ∈ word, inside char = true)
    (stop : ∀ char ∈ rest.head?, inside char = false) :
    run? inside (word ++ rest) = some (word, rest) := by
  obtain ⟨taken, dropped⟩ := scan_append all stop
  rw [run?, taken, dropped]
  cases word with
  | nil => exact absurd rfl nonempty
  | cons char word => rfl

theorem run_none (stop : ∀ char ∈ text.head?, inside char = false) : run? inside text = none := by
  cases text with
  | nil => rfl
  | cons char text =>
      have stops : inside char = false := stop char rfl
      simp only [run?, List.takeWhile, stops]

theorem head_of_run (found : run? inside text ≠ none) :
    ∃ char rest, text = char :: rest ∧ inside char = true := by
  cases text with
  | nil => exact absurd rfl found
  | cons char text =>
      refine ⟨char, text, rfl, ?_⟩
      by_contra other
      rw [Bool.not_eq_true] at other
      exact found (run_none fun next member => by rw [← Option.some.inj member]; exact other)

end

/-! ### Words -/

def Unblank (word : List Char) : Prop := ∀ char ∈ word, isBlank char = false

instance (word : List Char) : Decidable (Unblank word) :=
  List.decidableBAll (fun char => isBlank char = false) word

theorem space_blank : isBlank ' ' = true := by decide

theorem head_unblank {word : List Char} (unblank : Unblank word) :
    ∀ char ∈ word.head?, isBlank char = false := by
  intro char member
  exact unblank char (List.mem_of_mem_head? member)

theorem blanks_none {text : List Char} (first : ∀ char ∈ text.head?, isBlank char = false) :
    blanks? text = none := by
  rw [blanks?, run_none first]
  rfl

theorem head_of_blanks {text rest : List Char} (found : blanks? text = some rest) :
    ∃ blank more, text = blank :: more ∧ isBlank blank = true := by
  apply head_of_run
  intro none
  rw [blanks?, none] at found
  exact nomatch found

theorem blanks_space {text : List Char} (first : ∀ char ∈ text.head?, isBlank char = false) :
    blanks? (' ' :: text) = some text := by
  have all : ∀ char ∈ [' '], isBlank char = true := by
    intro char member
    rw [List.mem_singleton.mp member]
    exact space_blank
  have found := run_append (List.cons_ne_nil ' ' []) all first
  rw [List.singleton_append] at found
  rw [blanks?, found]
  rfl

/-- The first blank of a text ends its first word. -/
theorem first_word_ends {first second firstRest secondRest : List Char} {blank : Char}
    (firstUnblank : Unblank first) (secondUnblank : Unblank second) (isBlank : isBlank blank = true)
    (same : first ++ ' ' :: firstRest = second ++ blank :: secondRest) :
    first = second ∧ ' ' :: firstRest = blank :: secondRest := by
  induction first generalizing second with
  | nil =>
      cases second with
      | nil => exact ⟨rfl, same⟩
      | cons char second =>
          have unblank := secondUnblank char List.mem_cons_self
          rw [← (List.cons.inj same).1, space_blank] at unblank
          exact Bool.noConfusion unblank
  | cons char first induction =>
      cases second with
      | nil =>
          have unblank := firstUnblank char List.mem_cons_self
          rw [(List.cons.inj same).1, isBlank] at unblank
          exact Bool.noConfusion unblank
      | cons other second =>
          obtain ⟨sameChar, sameRest⟩ := List.cons.inj same
          obtain ⟨sameWord, rests⟩ := induction
            (fun char member => firstUnblank char (List.mem_cons_of_mem _ member))
            (fun char member => secondUnblank char (List.mem_cons_of_mem _ member)) sameRest
          exact ⟨by rw [sameChar, sameWord], rests⟩

theorem first_word_unique {first second firstRest secondRest : List Char} (firstUnblank : Unblank first)
    (secondUnblank : Unblank second) (same : first ++ ' ' :: firstRest = second ++ ' ' :: secondRest) :
    first = second ∧ firstRest = secondRest := by
  obtain ⟨sameWord, rests⟩ := first_word_ends firstUnblank secondUnblank space_blank same
  exact ⟨sameWord, (List.cons.inj rests).2⟩

def spaced : List (List Char) → List Char
  | [] => []
  | [word] => word
  | word :: rest => word ++ ' ' :: spaced rest

/-- A word is neither empty nor does it hold a blank. -/
def IsPlainWord (word : List Char) : Prop := word ≠ [] ∧ Unblank word

instance (word : List Char) : Decidable (IsPlainWord word) :=
  inferInstanceAs (Decidable (_ ∧ Unblank word))

theorem head_of_plain {word : List Char} (plain : IsPlainWord word) (rest : List Char) :
    ∀ char ∈ (word ++ rest).head?, isBlank char = false := by
  rw [List.head?_append_of_ne_nil _ plain.1]
  exact head_unblank plain.2

theorem spaced_cons {word : List Char} {rest : List (List Char)} (nonempty : rest ≠ []) :
    spaced (word :: rest) = word ++ ' ' :: spaced rest := by
  cases rest with
  | nil => exact absurd rfl nonempty
  | cons next rest => rfl

theorem spaced_head {word : List Char} (rest : List (List Char)) (plain : word ≠ []) :
    (spaced (word :: rest)).head? = word.head? := by
  cases word with
  | nil => exact absurd rfl plain
  | cons char word =>
      cases rest with
      | nil => rfl
      | cons next rest => rfl

theorem spaced_ne_nil {word : List Char} (rest : List (List Char)) (plain : word ≠ []) :
    spaced (word :: rest) ≠ [] := by
  intro empty
  have head := spaced_head rest plain
  rw [empty] at head
  exact plain (List.head?_eq_none_iff.mp head.symm)

theorem spaced_head_unblank {words : List (List Char)} (plain : ∀ word ∈ words, IsPlainWord word) :
    ∀ char ∈ (spaced words).head?, isBlank char = false := by
  cases words with
  | nil =>
      intro char member
      cases member
  | cons word rest =>
      obtain ⟨nonempty, unblank⟩ := plain word List.mem_cons_self
      rw [spaced_head rest nonempty]
      exact head_unblank unblank

theorem spaced_last_unblank {words : List (List Char)} (plain : ∀ word ∈ words, IsPlainWord word) :
    ∀ char ∈ (spaced words).getLast?, isBlank char = false := by
  induction words with
  | nil =>
      intro char member
      cases member
  | cons word rest induction =>
      cases rest with
      | nil =>
          intro char member
          exact (plain word List.mem_cons_self).2 char (List.mem_of_getLast? member)
      | cons next rest =>
          have later := induction fun other member => plain other (List.mem_cons_of_mem _ member)
          have nextPlain := plain next (List.mem_cons_of_mem _ List.mem_cons_self)
          intro char member
          rw [spaced_cons (List.cons_ne_nil next rest), List.getLast?_append_cons,
            List.getLast?_cons_of_ne_nil (spaced_ne_nil rest nextPlain.1)] at member
          exact later char member

theorem trim_spaced {words : List (List Char)} (plain : ∀ word ∈ words, IsPlainWord word) :
    trim (spaced words) = spaced words :=
  trim_with_of_ends (spaced_head_unblank plain) (spaced_last_unblank plain)

theorem mem_spaced {words : List (List Char)} {char : Char} (member : char ∈ spaced words) :
    char = ' ' ∨ ∃ word ∈ words, char ∈ word := by
  induction words with
  | nil => exact absurd member List.not_mem_nil
  | cons word rest induction =>
      cases rest with
      | nil => exact .inr ⟨word, List.mem_cons_self, member⟩
      | cons next rest =>
          rw [spaced_cons (List.cons_ne_nil next rest)] at member
          rcases List.mem_append.mp member with inWord | later
          · exact .inr ⟨word, List.mem_cons_self, inWord⟩
          · rcases List.mem_cons.mp later with space | inRest
            · exact .inl space
            · apply (induction inRest).imp_right
              rintro ⟨other, inside, charMember⟩
              exact ⟨other, List.mem_cons_of_mem _ inside, charMember⟩

/-! ### Searching -/

section

variable {Found : Type} {scan? : List Char → Option Found}

theorem search_at_start {text : List Char} {found : Found} (here : scan? text = some found) :
    search? scan? text = some found := by
  cases text with
  | nil => exact here
  | cons char text => simp only [search?, here]

theorem search_cons {char : Char} {text : List Char} (notHere : scan? (char :: text) = none) :
    search? scan? (char :: text) = search? scan? text := by
  simp only [search?, notHere]

/-- A search finds something exactly where the scanner finds something in a part that ends the text. -/
theorem search_is_some_iff {text : List Char} :
    (search? scan? text).isSome = true ↔ ∃ suffix, suffix <:+ text ∧ (scan? suffix).isSome = true := by
  induction text with
  | nil =>
      simp only [List.suffix_nil, exists_eq_left]
      rfl
  | cons char text induction =>
      cases here : scan? (char :: text) with
      | some found =>
          rw [search_at_start here]
          exact ⟨fun _ => ⟨char :: text, List.suffix_rfl, by rw [here]; rfl⟩, fun _ => rfl⟩
      | none =>
          rw [search_cons here, induction]
          constructor
          · rintro ⟨suffix, isSuffix, found⟩
            exact ⟨suffix, isSuffix.trans (List.suffix_cons char text), found⟩
          · rintro ⟨suffix, isSuffix, found⟩
            rcases List.suffix_cons_iff.mp isSuffix with rfl | inside
            · rw [here] at found
              exact Bool.noConfusion found
            · exact ⟨suffix, inside, found⟩

/-- Two words that a scanner begins with: the whole of the first one, if it is given, and the beginning
of the second. -/
structure Key where
  first : Option (List Char)
  second : List Char

def Key.Meets (key : Key) (word next : List Char) : Prop :=
  (∀ first ∈ key.first, first <:+ word) ∧ key.second <+: next

structure Keyed (scan? : List Char → Option Found) (keys : List Key) : Prop where
  unblank : ∀ key ∈ keys, Unblank key.second
  ends : ∀ word, Unblank word → scan? word = none
  next : ∀ word rest, Unblank word → (∀ char ∈ rest.head?, isBlank char = false) →
    scan? (word ++ ' ' :: rest) ≠ none →
      ∃ key ∈ keys, (∀ first ∈ key.first, first = word) ∧ key.second <+: rest

def Free (keys : List Key) : List (List Char) → Prop
  | [] => True
  | [_] => True
  | word :: next :: rest => (∀ key ∈ keys, ¬key.Meets word next) ∧ Free keys (next :: rest)

theorem prefix_of_spaced {second word : List Char} {rest : List (List Char)} (unblank : Unblank second)
    (begins : second <+: spaced (word :: rest)) : second <+: word := by
  cases rest with
  | nil => exact begins
  | cons next rest =>
      rw [spaced_cons (List.cons_ne_nil next rest)] at begins
      rcases List.prefix_or_prefix_of_prefix begins (List.prefix_append word _) with inWord | beyond
      · exact inWord
      · obtain ⟨more, split⟩ := beyond
        cases more with
        | nil =>
            rw [List.append_nil] at split
            rw [split]
        | cons char more =>
            obtain ⟨_, whole⟩ := begins
            rw [← split, List.append_assoc] at whole
            have space := (List.cons.inj (List.append_cancel_left whole)).1
            have blank := unblank char (by rw [← split]; simp)
            rw [space, space_blank] at blank
            exact Bool.noConfusion blank

theorem search_word {word text : List Char} (nowhere : ∀ suffix, suffix <:+ word →
    scan? (suffix ++ ' ' :: text) = none) :
    search? scan? (word ++ ' ' :: text) = search? scan? text := by
  induction word with
  | nil => exact search_cons (nowhere [] List.nil_suffix)
  | cons char word induction =>
      have here := nowhere (char :: word) List.suffix_rfl
      rw [List.cons_append] at here ⊢
      rw [search_cons here]
      apply induction
      intro suffix isSuffix
      exact nowhere suffix (isSuffix.trans (List.suffix_cons char word))

theorem search_last {word : List Char} (nowhere : ∀ suffix, suffix <:+ word → scan? suffix = none) :
    search? scan? word = none := by
  induction word with
  | nil => exact nowhere [] List.nil_suffix
  | cons char word induction =>
      rw [search_cons (nowhere (char :: word) List.suffix_rfl)]
      apply induction
      intro suffix isSuffix
      exact nowhere suffix (isSuffix.trans (List.suffix_cons char word))

theorem unblank_of_suffix {word suffix : List Char} (unblank : Unblank word)
    (isSuffix : suffix <:+ word) : Unblank suffix := by
  intro char member
  exact unblank char (isSuffix.mem member)

/-- A scanner finds nothing in words that none of its keys meets. -/
theorem search_none {keys : List Key} (keyed : Keyed scan? keys) {words : List (List Char)}
    (plain : ∀ word ∈ words, IsPlainWord word) (free : Free keys words) :
    search? scan? (spaced words) = none := by
  induction words with
  | nil => exact keyed.ends [] fun _ member => absurd member List.not_mem_nil
  | cons word rest induction =>
      have unblank := (plain word List.mem_cons_self).2
      cases rest with
      | nil =>
          apply search_last
          intro suffix isSuffix
          exact keyed.ends suffix (unblank_of_suffix unblank isSuffix)
      | cons next rest =>
          have restPlain : ∀ other ∈ next :: rest, IsPlainWord other :=
            fun other member => plain other (List.mem_cons_of_mem _ member)
          rw [spaced_cons (List.cons_ne_nil next rest), search_word]
          · exact induction restPlain free.2
          · intro suffix isSuffix
            by_contra found
            obtain ⟨key, member, first, second⟩ := keyed.next suffix _
              (unblank_of_suffix unblank isSuffix) (spaced_head_unblank restPlain) found
            apply free.1 key member
            constructor
            · intro start given
              rw [first start given]
              exact isSuffix
            · exact prefix_of_spaced (keyed.unblank key member) second

end

end PriceBoard.Text

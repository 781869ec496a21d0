import PriceBoard.Proofs.Text.Plain
import PriceBoard.Proofs.Text.Word

/-!
# The lower case of a word

The lower case of a word is a word: the case table maps word characters to word characters, except that
the dotted capital I becomes two characters, the second of which is a mark. A space ends what the final
sigma rule looks at, so the lower case of a word does not depend on what follows the space.
-/
namespace PriceBoard.Text

/-! ### The tables -/

theorem alphanumeric_ranges_valid : ∀ range ∈ alphanumericRanges,
    128 ≤ range.1 ∧ (range.2 < 0xd800 ∨ 0xdfff < range.1 ∧ range.2 < 0x110000) := by decide +kernel

-- `Nat.ble` and `Nat.blt` rather than propositions: the whole tables are compared below.

def CaseRun.imagesIn (run : CaseRun) (range : ℕ × ℕ) : Bool :=
  range.1.ble run.image && (run.image + (run.last - run.first)).ble range.2

def CaseRun.apartFrom (run : CaseRun) (range : ℕ × ℕ) : Bool :=
  run.last.blt range.1 || range.2.blt run.first

/-- The images of a run of capitals lie in one range of word characters, or the run is no word
characters, or it is the one character beyond ASCII that becomes an ASCII letter. -/
theorem lower_runs_keep_words : lowerRuns.all (fun run =>
    alphanumericRanges.any run.imagesIn || alphanumericRanges.all run.apartFrom ||
      run.first.beq run.last && isWord (Char.ofNat run.image)) = true := by decide +kernel

theorem ascii_lower_word : ∀ point < 128, isWord (Char.ofNat point) = true →
    isWord (Char.ofNat point).toLower = true := by decide +kernel

theorem word_of_alphanumeric {point : ℕ} (inside : inRanges alphanumericRanges point = true) :
    isWord (Char.ofNat point) = true := by
  obtain ⟨range, member, low, high⟩ := in_ranges_iff.mp inside
  obtain ⟨beyondAscii, valid⟩ := alphanumeric_ranges_valid range member
  have isValid : point.isValidChar := by
    unfold Nat.isValidChar
    omega
  have notAscii : ¬point < 128 := by omega
  have code : (Char.ofNat point).toNat = point := by
    rw [Char.ofNat, dif_pos isValid]
    rfl
  rw [isWord, code, if_neg notAscii]
  exact inside

/-! ### ASCII -/

/-- Only capitals have another ASCII lower case, so what the lower case does not change is seen from the
ASCII characters. -/
theorem of_lower_ascii {Meaning : Type} {meaning : Char → Meaning}
    (same : ∀ point < 128, meaning (Char.ofNat point).toLower = meaning (Char.ofNat point))
    (char : Char) : meaning char.toLower = meaning char := by
  by_cases ascii : char.toNat < 128
  · have here := same char.toNat ascii
    rwa [Char.ofNat_toNat] at here
  · rw [lower_of_not_upper (.inr (by omega))]

theorem blank_lower (char : Char) : isBlank char.toLower = isBlank char :=
  of_lower_ascii (by decide) char

theorem ascii_lower (char : Char) :
    decide (char.toLower.toNat < 128) = decide (char.toNat < 128) :=
  @of_lower_ascii _ (fun char => decide (char.toNat < 128)) (by decide) char

/-- A text with the ASCII lower case of another one is read as that lower case, whatever letters in it are
capitals. -/
theorem lowercase_trim_of_lower {text lower : List Char} (same : text.map Char.toLower = lower)
    (ascii : ∀ char ∈ lower, char.toNat < 128)
    (first : ∀ char ∈ lower.head?, isBlank char = false)
    (last : ∀ char ∈ lower.getLast?, isBlank char = false) : lowercase (trim text) = lower := by
  have trimmed : trim text = text := by
    apply trim_with_of_ends
    · intro char member
      rw [← blank_lower]
      apply first
      rw [← same, List.head?_map, Option.mem_def.mp member]
      rfl
    · intro char member
      rw [← blank_lower]
      apply last
      rw [← same, List.getLast?_map, Option.mem_def.mp member]
      rfl
  have textAscii : ∀ char ∈ text, char.toNat < 128 := by
    intro char member
    have lowerAscii := ascii char.toLower (by rw [← same]; exact List.mem_map_of_mem member)
    have flags := ascii_lower char
    rw [decide_eq_true lowerAscii] at flags
    exact of_decide_eq_true flags.symm
  rw [trimmed, lowercase, lowercase_after_of_ascii [] textAscii, same]

/-! ### Words -/

theorem image_word {run : CaseRun} (isRun : run ∈ lowerRuns) {point image : ℕ}
    (inside : inRanges alphanumericRanges point = true) (mapped : run.map? point = some image) :
    isWord (Char.ofNat image) = true := by
  unfold CaseRun.map? at mapped
  split_ifs at mapped with inRun
  obtain ⟨source, isSource, low, high⟩ := in_ranges_iff.mp inside
  rw [← Option.some.inj mapped]
  have kept := List.all_eq_true.mp lower_runs_keep_words run isRun
  rw [Bool.or_eq_true, Bool.or_eq_true, List.any_eq_true, List.all_eq_true, Bool.and_eq_true] at kept
  rcases kept with (⟨range, isRange, holds⟩ | apart) | ⟨single, isWord⟩
  · rw [CaseRun.imagesIn, Bool.and_eq_true, Nat.ble_eq, Nat.ble_eq] at holds
    apply word_of_alphanumeric
    exact in_ranges_iff.mpr ⟨range, isRange, by omega, by omega⟩
  · have outside := apart source isSource
    rw [CaseRun.apartFrom, Bool.or_eq_true, Nat.blt_eq, Nat.blt_eq] at outside
    omega
  · rw [Nat.beq_eq] at single
    have same : run.image + (point - run.first) = run.image := by omega
    rwa [same]

theorem lower_char_word {char : Char} (word : isWord char = true) :
    isWord (lowerChar char) = true := by
  unfold lowerChar
  by_cases ascii : char.toNat < 128
  · have lower := ascii_lower_word char.toNat ascii
    rw [Char.ofNat_toNat] at lower
    rw [if_pos ascii]
    exact lower word
  · rw [if_neg ascii]
    cases found : lowerRuns.findSome? (·.map? char.toNat) with
    | none => exact word
    | some image =>
        obtain ⟨run, isRun, mapped⟩ := List.exists_of_findSome?_eq_some found
        rw [isWord, if_neg ascii] at word
        exact image_word isRun word mapped

/-- The lower case of a word without the dotted capital I is a word. -/
theorem lowercase_after_word (before : List Char) {text : List Char}
    (word : ∀ char ∈ text, isWord char = true) (undotted : 'İ' ∉ text) :
    ∀ char ∈ lowercaseAfter before text, isWord char = true := by
  induction text generalizing before with
  | nil => exact fun _ member => absurd member List.not_mem_nil
  | cons char rest induction =>
      have restUndotted : 'İ' ∉ rest := fun member => undotted (List.mem_cons_of_mem _ member)
      have notDotted : char ≠ 'İ' := by
        rintro rfl
        exact undotted List.mem_cons_self
      have later := induction (char :: before)
        (fun next member => word next (List.mem_cons_of_mem _ member)) restUndotted
      intro image member
      rw [lowercaseAfter, if_neg notDotted] at member
      rcases List.mem_append.mp member with here | inRest
      · split_ifs at here
        · rw [List.mem_singleton.mp here]
          decide
        · rw [List.mem_singleton.mp here]
          decide
        · rw [List.mem_singleton.mp here]
          exact lower_char_word (word char List.mem_cons_self)
      · exact later image inRest

theorem lowercase_after_ne_nil (before : List Char) {text : List Char} (nonempty : text ≠ []) :
    lowercaseAfter before text ≠ [] := by
  cases text with
  | nil => exact absurd rfl nonempty
  | cons char rest =>
      rw [lowercaseAfter]
      apply List.append_ne_nil_of_left_ne_nil
      split_ifs <;> exact List.cons_ne_nil _ _

/-! ### Spaces -/

/-- A space is a neighbour without case. -/
theorem meets_cased_before_space (text rest : List Char) :
    meetsCased (text ++ ' ' :: rest) = meetsCased text := by
  have stops : (' ' :: rest).dropWhile (fun char => inRanges caseIgnorableRanges char.toNat) =
      ' ' :: rest := by
    apply List.dropWhile_cons_of_neg
    decide +kernel
  rw [meetsCased, meetsCased, List.dropWhile_append, stops]
  split_ifs with all
  · rw [List.isEmpty_iff.mp all]
    rfl
  · cases left : text.dropWhile fun char => inRanges caseIgnorableRanges char.toNat with
    | nil => exact absurd (by rw [left]; rfl) all
    | cons char others => rfl

theorem lowercase_after_space (before left right : List Char) :
    lowercaseAfter before (left ++ ' ' :: right) =
      lowercaseAfter before left ++ ' ' :: lowercaseAfter (' ' :: (left.reverse ++ before)) right := by
  induction left generalizing before with
  | nil =>
      have notSigma : ' ' ≠ 'Σ' := by decide
      have notDotted : ' ' ≠ 'İ' := by decide
      rw [List.nil_append, lowercaseAfter.eq_2, if_neg notSigma, if_neg notDotted]
      rfl
  | cons char left induction =>
      rw [List.cons_append, lowercaseAfter.eq_2, lowercaseAfter.eq_2, meets_cased_before_space,
        induction, List.append_assoc, List.reverse_cons, List.append_assoc]
      rfl

end PriceBoard.Text

import PriceBoard.Text.Blank
import PriceBoard.Text.Word

/-!
# Word characters

No blank is a word character.
-/
namespace PriceBoard.Text

theorem blank_ranges_apart : ∀ range ∈ blankRanges, ∀ other ∈ alphanumericRanges,
    range.2 < other.1 ∨ other.2 < range.1 := by decide +kernel

theorem in_ranges_iff {ranges : List (Nat × Nat)} {point : Nat} :
    inRanges ranges point = true ↔ ∃ range ∈ ranges, range.1 ≤ point ∧ point ≤ range.2 := by
  simp only [inRanges, List.any_eq_true, Bool.and_eq_true, decide_eq_true_iff]

theorem ascii_blank_not_word : ∀ point < 128, inRanges blankRanges point = true →
    ((Char.ofNat point).isAlphanum || Char.ofNat point == '_') = false := by decide

theorem blank_not_word {char : Char} (blank : isBlank char = true) : isWord char = false := by
  unfold isWord
  by_cases ascii : char.toNat < 128
  · have apart := ascii_blank_not_word char.toNat ascii blank
    rw [if_pos ascii]
    rwa [Char.ofNat_toNat] at apart
  · rw [if_neg ascii]
    apply Bool.eq_false_iff.mpr
    intro inside
    obtain ⟨range, isBlankRange, low, high⟩ := in_ranges_iff.mp blank
    obtain ⟨other, isOther, otherLow, otherHigh⟩ := in_ranges_iff.mp inside
    have apart := blank_ranges_apart range isBlankRange other isOther
    omega

end PriceBoard.Text

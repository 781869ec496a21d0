import PriceBoard.Decimal.Layout
import PriceBoard.Proofs.Decimal.Digits
import Mathlib.Tactic.FinCases

/-!
# No double is written as an integer

Integers are read from digits, a sign, underscores and surrounding white space. Every double's text has a
point, an exponent's mark or a letter of a word besides, so none is read as an integer.
-/
namespace PriceBoard.Decimal

open PriceBoard.Text

/-! ### What stands in no integer -/

/-- Neither a digit nor anything else that an integer is written with. -/
structure Foreign (char : Char) : Prop where
  notDigit : digit? char = none
  notMark : char ≠ '_'
  notMinus : char ≠ '-'
  notPlus : char ≠ '+'
  notSpace : isSpace char = false

section

variable {text : List Char} {char : Char}

theorem map_digit_none (member : char ∈ text) (notDigit : digit? char = none) :
    text.mapM digit? = none := by
  induction text with
  | nil => exact absurd member List.not_mem_nil
  | cons first rest induction =>
      rw [List.mapM_cons]
      rcases List.mem_cons.mp member with same | inside
      · rw [← same, notDigit]
        rfl
      · rw [induction inside]
        cases digit? first <;> rfl

theorem mem_drop_underscores {isInner : Char → Bool} {kept : List Char}
    (dropped : dropUnderscores? isInner text = some kept) (member : char ∈ text)
    (notMark : char ≠ '_') : char ∈ kept := by
  induction text using dropUnderscores?.induct isInner generalizing kept with
  | case1 => exact absurd member List.not_mem_nil
  | case2 rest => cases dropped
  | case3 first next rest notUnderscore inner induction =>
      rw [dropUnderscores?, if_pos inner] at dropped
      · obtain ⟨others, droppedRest, rfl⟩ := Option.map_eq_some_iff.mp dropped
        rcases List.mem_cons.mp member with rfl | inside
        · exact List.mem_cons_self
        · have afterMark := (List.mem_cons.mp inside).resolve_left notMark
          exact List.mem_cons_of_mem first (induction droppedRest afterMark)
      · exact notUnderscore
  | case4 first next rest notUnderscore outer =>
      rw [dropUnderscores?, if_neg outer] at dropped
      · cases dropped
      · exact notUnderscore
  | case5 first rest notUnderscore noPair induction =>
      rw [dropUnderscores?] at dropped
      · obtain ⟨others, droppedRest, rfl⟩ := Option.map_eq_some_iff.mp dropped
        rcases List.mem_cons.mp member with rfl | inside
        · exact List.mem_cons_self
        · exact List.mem_cons_of_mem first (induction droppedRest inside)
      all_goals assumption

theorem mem_split_sign (member : char ∈ text) (notMinus : char ≠ '-') (notPlus : char ≠ '+') :
    char ∈ (splitSign text).2 := by
  unfold splitSign
  split
  · exact (List.mem_cons.mp member).resolve_left notMinus
  · exact (List.mem_cons.mp member).resolve_left notPlus
  · exact member

theorem read_integer_of_foreign (member : char ∈ text) (foreign : Foreign char) :
    readInteger text = .error .malformed := by
  have signed := mem_split_sign (mem_trim_with member foreign.notSpace) foreign.notMinus
    foreign.notPlus
  unfold readInteger
  cases sign : splitSign (trimWith isSpace text) with
  | mk negative digits =>
      rw [sign] at signed
      dsimp only
      cases dropped : dropUnderscores? isDigit digits with
      | none => rfl
      | some kept =>
          have inside := mem_drop_underscores dropped signed foreign.notMark
          dsimp only
          rw [readDigits, map_digit_none inside foreign.notDigit]
          rfl

end

/-! ### What stands in every double -/

/-- The point, the exponent's mark, and the letters that begin the words. -/
def floatMarks : List Char := ['.', 'e', 'i', 'n']

theorem foreign_of_mark {char : Char} (mark : char ∈ floatMarks) : Foreign char := by
  unfold floatMarks at mark
  fin_cases mark <;> exact ⟨by decide, by decide, by decide, by decide, by decide⟩

theorem point_in_positional (digits : List Char) (point : ℤ) : '.' ∈ positional digits point := by
  unfold positional
  split_ifs <;> simp

theorem mark_in_scientific (style : Style) {digits : List Char} (nonempty : digits ≠ [])
    (exponent : ℤ) : 'e' ∈ scientific style digits exponent := by
  have mark : 'e' ∈ exponentText style.exponentWidth exponent := by simp [exponentText]
  match digits with
  | [] => exact absurd rfl nonempty
  | [leading] => exact List.mem_cons_of_mem leading mark
  | leading :: second :: rest =>
      exact List.mem_append_right (leading :: '.' :: second :: rest) mark

theorem mark_in_layout (style : Style) (value : Scientific) :
    ∃ char ∈ layout style value, char ∈ floatMarks := by
  unfold layout
  dsimp only
  split_ifs
  · exact ⟨'.', point_in_positional _ _, by decide⟩
  · exact ⟨'e', mark_in_scientific style (nat_digits_ne_nil _) _, by decide⟩

theorem mark_in_float_digits (value : Float) :
    ∃ char ∈ floatDigits plainStyle value, char ∈ floatMarks := by
  have signed {text : List Char} (found : ∃ char ∈ text, char ∈ floatMarks) :
      ∃ char ∈ (if isMinus value then ['-'] else []) ++ text, char ∈ floatMarks := by
    obtain ⟨char, member, mark⟩ := found
    exact ⟨char, List.mem_append_right _ member, mark⟩
  unfold floatDigits
  dsimp only
  by_cases number : value.isNaN = true
  · rw [if_pos number]
    exact ⟨'n', by decide, by decide⟩
  rw [if_neg number]
  by_cases infinite : value.isInf = true
  · rw [if_pos infinite]
    exact signed ⟨'i', by decide, by decide⟩
  rw [if_neg infinite]
  by_cases zero : magnitudeBits value = 0
  · rw [if_pos zero]
    exact signed ⟨'.', by decide, by decide⟩
  · rw [if_neg zero]
    exact signed (mark_in_layout _ _)

theorem read_integer_float_text (value : Float) :
    readInteger (floatText plainStyle value).toList = .error .malformed := by
  obtain ⟨char, member, mark⟩ := mark_in_float_digits value
  rw [floatText, String.toList_ofList]
  exact read_integer_of_foreign member (foreign_of_mark mark)

end PriceBoard.Decimal

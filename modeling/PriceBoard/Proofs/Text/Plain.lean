import PriceBoard.Text.Blank
import PriceBoard.Text.Case
import PriceBoard.Text.Digit
import Mathlib.Data.List.DropRight

/-!
# Plain text

A text that neither begins nor ends in a dropped character is its own trimming, and any trimming is such
a text. Printable ASCII characters are no blanks, the ASCII digits are digits with the expected values,
and of the ASCII characters only capitals have another lower case.
-/
namespace PriceBoard.Text

theorem drop_while_of_head {drop : Char → Bool} {text : List Char}
    (first : ∀ char ∈ text.head?, drop char = false) : text.dropWhile drop = text := by
  cases text with
  | nil => rfl
  | cons char rest =>
      have kept : drop char = false := first char rfl
      simp only [List.dropWhile, kept]

/-- Where a run of characters ends a scan stops. -/
theorem scan_append {inside : Char → Bool} {run rest : List Char}
    (all : ∀ char ∈ run, inside char = true) (stop : ∀ char ∈ rest.head?, inside char = false) :
    (run ++ rest).takeWhile inside = run ∧ (run ++ rest).dropWhile inside = rest := by
  rw [List.takeWhile_append_of_pos all, List.dropWhile_append_of_pos all]
  constructor
  · cases rest with
    | nil => exact List.append_nil run
    | cons char rest =>
        have stops : inside char = false := stop char rfl
        simp only [List.takeWhile, stops, List.append_nil]
  · exact drop_while_of_head stop

theorem trim_with_of_ends {drop : Char → Bool} {text : List Char}
    (first : ∀ char ∈ text.head?, drop char = false)
    (last : ∀ char ∈ text.getLast?, drop char = false) : trimWith drop text = text := by
  have backwards : text.reverse.dropWhile drop = text.reverse := by
    apply drop_while_of_head
    simpa only [List.head?_reverse] using last
  rw [trimWith, drop_while_of_head first, backwards, List.reverse_reverse]

theorem trim_with_of_none {drop : Char → Bool} {text : List Char}
    (kept : ∀ char ∈ text, drop char = false) : trimWith drop text = text :=
  trim_with_of_ends (fun char member => kept char (List.mem_of_mem_head? member))
    (fun char member => kept char (List.mem_of_getLast? member))

/-- What trimming takes off the ends is dropped characters only. -/
theorem trim_with_split (drop : Char → Bool) (text : List Char) :
    ∃ before after, text = before ++ trimWith drop text ++ after ∧
      (∀ char ∈ before, drop char = true) ∧ ∀ char ∈ after, drop char = true := by
  refine ⟨text.takeWhile drop, (text.dropWhile drop).rtakeWhile drop, ?_, ?_, ?_⟩
  · change text = _ ++ (text.dropWhile drop).rdropWhile drop ++ _
    rw [List.append_assoc, List.rdropWhile_append_rtakeWhile, List.takeWhile_append_dropWhile]
  · intro char member
    exact List.mem_takeWhile_imp member
  · intro char member
    exact List.mem_rtakeWhile_imp member

theorem mem_trim_with {drop : Char → Bool} {text : List Char} {char : Char} (member : char ∈ text)
    (kept : drop char = false) : char ∈ trimWith drop text := by
  obtain ⟨before, after, split, beforeDropped, afterDropped⟩ := trim_with_split drop text
  have absent {ends : List Char} (dropped : ∀ other ∈ ends, drop other = true) : char ∉ ends := by
    intro inside
    rw [dropped char inside] at kept
    exact nomatch kept
  rw [split] at member
  rcases List.mem_append.mp member with inside | last
  · exact (List.mem_append.mp inside).resolve_left (absent beforeDropped)
  · exact absurd last (absent afterDropped)

theorem trim_with_head (drop : Char → Bool) (text : List Char) :
    ∀ char ∈ (trimWith drop text).head?, drop char = false := by
  intro char member
  have kept := List.head?_dropWhile_not drop text
  have whole : trimWith drop text ++ (text.dropWhile drop).rtakeWhile drop = text.dropWhile drop :=
    List.rdropWhile_append_rtakeWhile
  have first : (text.dropWhile drop).head? = some char := by
    rw [← whole, List.head?_append, Option.mem_def.mp member]
    rfl
  rw [first] at kept
  exact kept

theorem trim_with_last (drop : Char → Bool) (text : List Char) :
    ∀ char ∈ (trimWith drop text).getLast?, drop char = false := by
  intro char member
  have kept := List.head?_dropWhile_not drop (text.dropWhile drop).reverse
  rw [trimWith, List.getLast?_reverse] at member
  rw [member] at kept
  exact kept

theorem trim_with_trim_with (drop : Char → Bool) (text : List Char) :
    trimWith drop (trimWith drop text) = trimWith drop text :=
  trim_with_of_ends (trim_with_head drop text) (trim_with_last drop text)

/-- Among the first 128 characters only controls and the space are blank. -/
theorem not_blank_of_printable {char : Char} (low : 0x20 < char.toNat) (high : char.toNat < 0x80) :
    isBlank char = false := by
  simp only [isBlank, inRanges, blankRanges, List.any_cons, List.any_nil, Bool.or_false,
    Bool.or_eq_false_iff, Bool.and_eq_false_iff, decide_eq_false_iff_not]
  omega

theorem not_space_of_printable {char : Char} (low : 0x20 < char.toNat) (high : char.toNat < 0x80) :
    isSpace char = false := by
  rw [isSpace, not_blank_of_printable low high, Bool.false_and]

theorem digit_of_code {char : Char} (low : 0x30 ≤ char.toNat) (high : char.toNat ≤ 0x39) :
    digit? char = some (char.toNat - 0x30) := by
  have ascii : char.toNat < 128 := by omega
  have inside : 0x30 ≤ char.toNat ∧ char.toNat < 0x30 + 10 := by omega
  rw [digit?, if_pos ascii, digitFrom?, if_pos inside]

theorem lower_of_not_upper {char : Char} (other : char.toNat < 0x41 ∨ 0x5a < char.toNat) :
    char.toLower = char := by
  have notUpper : ¬(char.val ≥ 'A'.val ∧ char.val ≤ 'Z'.val) := by
    rintro ⟨low, high⟩
    have atLeast : 0x41 ≤ char.toNat := UInt32.le_iff_toNat_le.mp low
    have atMost : char.toNat ≤ 0x5a := UInt32.le_iff_toNat_le.mp high
    omega
  exact dif_neg notUpper

/-- The lower case of an ASCII text does not depend on the characters around it. -/
theorem lowercase_after_of_ascii (before : List Char) {text : List Char}
    (ascii : ∀ char ∈ text, char.toNat < 128) :
    lowercaseAfter before text = text.map Char.toLower := by
  induction text generalizing before with
  | nil => rfl
  | cons char rest induction =>
      have charAscii := ascii char List.mem_cons_self
      have notSigma : char ≠ 'Σ' := by
        rintro rfl
        exact absurd charAscii (by decide)
      have notDotted : char ≠ 'İ' := by
        rintro rfl
        exact absurd charAscii (by decide)
      rw [lowercaseAfter, if_neg notSigma, if_neg notDotted, lowerChar, if_pos charAscii,
        induction _ fun next member => ascii next (List.mem_cons_of_mem _ member)]
      rfl

/-- An ASCII text without capitals is its own lower case. -/
theorem lowercase_after_of_not_upper (before : List Char) {text : List Char}
    (ascii : ∀ char ∈ text, char.toNat < 128)
    (other : ∀ char ∈ text, char.toNat < 0x41 ∨ 0x5a < char.toNat) :
    lowercaseAfter before text = text := by
  have unchanged : ∀ char ∈ text, char.toLower = id char :=
    fun char member => lower_of_not_upper (other char member)
  rw [lowercase_after_of_ascii before ascii, List.map_congr_left unchanged, List.map_id]

end PriceBoard.Text

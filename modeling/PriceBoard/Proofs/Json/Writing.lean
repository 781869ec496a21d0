import PriceBoard.Json.Writer
import PriceBoard.Proofs.Decimal.RoundTrip
import PriceBoard.Proofs.Json.Grammar

/-!
# What is written as JSON

A written value is a JSON text exactly when all its numbers are finite: numbers and strings keep to their
rules, and the words for the other doubles stand outside the strings, where no rule has them.
-/
namespace PriceBoard.Json

open PriceBoard.Decimal

/-! ### Whole numbers -/

theorem nat_digits_leading {value : ℕ} (nonzero : value ≠ 0) :
    ∃ first rest, natDigits value = first :: rest ∧ isAsciiDigit first = true ∧ first ≠ '0' ∧
      AllDigits rest := by
  induction value using natDigits.induct with
  | case1 value small =>
      refine ⟨digitChar value, [], ?_, digit_char_ascii small, ?_, List.forall_mem_nil _⟩
      · rw [natDigits, if_pos small]
      · intro zero
        have code := digit_char_code small
        rw [zero] at code
        exact nonzero (Nat.add_left_cancel code.symm)
  | case2 value large induction =>
      obtain ⟨first, rest, digits, ascii, notZero, others⟩ := induction (by omega)
      refine ⟨first, rest ++ [digitChar (value % 10)], ?_, ascii, notZero, ?_⟩
      · rw [natDigits, if_neg large, digits, List.cons_append]
      · intro char member
        rcases List.mem_append.mp member with inside | last
        · exact others char inside
        · rw [List.mem_singleton.mp last]
          exact digit_char_ascii (Nat.mod_lt value (by decide))

theorem nat_digits_whole (value : ℕ) : IsWhole (natDigits value) := by
  by_cases zero : value = 0
  · rw [zero, natDigits]
    exact .zero
  · obtain ⟨first, rest, digits, ascii, notZero, others⟩ := nat_digits_leading zero
    rw [digits]
    exact .leading first rest ascii notZero others

theorem unsigned_of_whole {whole : List Char} (isWhole : IsWhole whole) : IsUnsigned whole := by
  have parts := IsUnsigned.parts whole [] [] isWhole .none .none
  rwa [List.append_nil, List.append_nil] at parts

theorem int_digits_number (value : ℤ) : IsNumber (intDigits value) := by
  cases value with
  | ofNat value => exact .plain _ (unsigned_of_whole (nat_digits_whole value))
  | negSucc value => exact .minus _ (unsigned_of_whole (nat_digits_whole (value + 1)))

/-! ### Doubles -/

theorem exponent_text_exponent (width : ℕ) (exponent : ℤ) :
    IsExponent (exponentText width exponent) := by
  unfold exponentText
  refine .marked 'e' [if exponent < 0 then '-' else '+'] _ (.inl rfl) ?_
    (List.append_ne_nil_of_right_ne_nil _ (nat_digits_ne_nil exponent.natAbs)) ?_
  · split_ifs
    · exact .inr (.inr rfl)
    · exact .inr (.inl rfl)
  · intro char member
    rcases List.mem_append.mp member with zero | digit
    · exact zeros_ascii _ char zero
    · exact nat_digits_ascii _ char digit

theorem unsigned_of_point {whole fraction : List Char} (isWhole : IsWhole whole)
    (nonempty : fraction ≠ []) (digits : AllDigits fraction) :
    IsUnsigned (whole ++ '.' :: fraction) := by
  have parts := IsUnsigned.parts whole _ [] isWhole (.point fraction nonempty digits) .none
  rwa [List.append_nil] at parts

theorem all_digits_append {first second : List Char} (one : AllDigits first)
    (other : AllDigits second) : AllDigits (first ++ second) :=
  List.forall_mem_append.mpr ⟨one, other⟩

section

variable {first : Char} {rest : List Char}

theorem positional_unsigned (digit : isAsciiDigit first = true) (nonzero : first ≠ '0')
    (digits : AllDigits rest) (point : ℤ) : IsUnsigned (positional (first :: rest) point) := by
  have all : AllDigits (first :: rest) := List.forall_mem_cons.mpr ⟨digit, digits⟩
  unfold positional
  split_ifs with small
  · exact unsigned_of_point .zero (List.append_ne_nil_of_right_ne_nil _ (List.cons_ne_nil first rest))
      (all_digits_append (zeros_ascii _) all)
  · obtain ⟨place, placeIs⟩ := Nat.exists_eq_add_one_of_ne_zero (by omega : point.toNat ≠ 0)
    have taken : AllDigits (rest.take place) := fun char member =>
      digits char (List.mem_of_mem_take member)
    have whole (zeros : ℕ) : IsWhole (first :: (rest.take place ++ List.replicate zeros '0')) :=
      .leading first _ digit nonzero (all_digits_append taken (zeros_ascii zeros))
    have fraction : (if (rest.drop place).isEmpty then ['0'] else rest.drop place) ≠ [] ∧
        AllDigits (if (rest.drop place).isEmpty then ['0'] else rest.drop place) := by
      split_ifs with empty
      · exact ⟨List.cons_ne_nil _ _, zeros_ascii 1⟩
      · exact ⟨fun none => empty (List.isEmpty_iff.mpr none),
          fun char member => digits char (List.mem_of_mem_drop member)⟩
    rw [placeIs]
    have point := unsigned_of_point
      (whole (place + 1 - (List.take (place + 1) (first :: rest)).length)) fraction.1 fraction.2
    simpa only [List.take_succ_cons, List.drop_succ_cons, List.append_assoc, List.cons_append,
      List.nil_append] using point

theorem scientific_unsigned (style : Style) (digit : isAsciiDigit first = true)
    (nonzero : first ≠ '0') (digits : AllDigits rest) (exponent : ℤ) :
    IsUnsigned (scientific style (first :: rest) exponent) := by
  have leading : IsWhole [first] := .leading first [] digit nonzero (List.forall_mem_nil _)
  have marked := exponent_text_exponent style.exponentWidth exponent
  cases rest with
  | nil => exact .parts [first] [] _ leading .none marked
  | cons second rest =>
      exact .parts [first] ('.' :: second :: rest) _ leading
        (.point _ (List.cons_ne_nil second rest) digits) marked

end

theorem layout_unsigned (style : Style) {decimal : Scientific} (nonzero : decimal.digits ≠ 0) :
    IsUnsigned (layout style decimal) := by
  have kept : (dropTrailingZeros decimal 20).digits ≠ 0 := by
    intro zero
    have value := drop_trailing_zeros_value decimal 20
    have power : (10 : ℚ) ^ decimal.exponent ≠ 0 := zpow_ne_zero _ (by norm_num)
    rw [Scientific.value, zero, Nat.cast_zero, zero_mul, Scientific.value] at value
    exact mul_ne_zero (Nat.cast_ne_zero.mpr nonzero) power value.symm
  unfold layout
  simp only
  obtain ⟨first, rest, written, digit, notZero, digits⟩ := nat_digits_leading kept
  rw [written]
  split_ifs
  · exact positional_unsigned digit notZero digits _
  · exact scientific_unsigned style digit notZero digits _

theorem finite_iff (value : Float) :
    value.isFinite = true ↔ value.isNaN = false ∧ value.isInf = false := by
  change value.toModel.unpack.isFinite = true ↔
    value.toModel.unpack.isNaN = false ∧ value.toModel.unpack.isInf = false
  cases value.toModel.unpack with
  | zero | finite => exact iff_of_true rfl ⟨rfl, rfl⟩
  | infinity => exact iff_of_false nofun fun infinite => nomatch infinite.2
  | notANumber => exact iff_of_false nofun fun noNumber => nomatch noNumber.1

theorem float_digits_number {value : Float} (finite : value.isFinite = true) :
    IsNumber (floatDigits messageStyle value) := by
  obtain ⟨number, bounded⟩ := (finite_iff value).mp finite
  have signed {text : List Char} (unsigned : IsUnsigned text) :
      IsNumber ((if isMinus value then ['-'] else []) ++ text) := by
    split_ifs
    · exact .minus text unsigned
    · exact .plain text unsigned
  unfold floatDigits
  simp only [number, bounded, Bool.false_eq_true, if_false]
  by_cases zero : magnitudeBits value = 0
  · rw [if_pos zero]
    exact signed (unsigned_of_point .zero (List.cons_ne_nil '0' []) (zeros_ascii 1))
  · rw [if_neg zero]
    exact signed (layout_unsigned messageStyle
      (shortest_around (magnitude_canonical number bounded zero)).1)

/-- The words for the doubles that are not finite. -/
theorem float_digits_word {value : Float} (infinite : ¬value.isFinite = true) :
    Shows (floatDigits messageStyle value) (floatDigits messageStyle value) ∧
      ('N' ∈ floatDigits messageStyle value ∨ 'I' ∈ floatDigits messageStyle value) := by
  unfold floatDigits
  by_cases number : value.isNaN = true
  · rw [if_pos number]
    exact ⟨shows_of_no_quote (by decide), .inl (by decide)⟩
  · have unbounded : value.isInf = true := by
      by_contra bounded
      exact infinite ((finite_iff value).mpr ⟨eq_false_of_ne_true number, eq_false_of_ne_true bounded⟩)
    rw [if_neg number, if_pos unbounded]
    split_ifs
    · exact ⟨shows_of_no_quote (by decide), .inr (by decide)⟩
    · exact ⟨shows_of_no_quote (by decide), .inr (by decide)⟩

/-! ### Strings -/

theorem hex_digit_readable {value : ℕ} (small : value < 16) :
    (hexValue? (Text.hexDigit value)).isSome = true := by
  have each : ∀ digit : Fin 16, (hexValue? (Text.hexDigit digit)).isSome = true := by decide
  exact each ⟨value, small⟩

theorem escape_unit_quoted (unit : ℕ) {rest : List Char} (others : IsQuoted rest) :
    IsQuoted (escapeUnit unit ++ rest) := by
  refine .unit _ _ _ _ rest ?_ others
  have digit (value : ℕ) : ∃ read, hexValue? (Text.hexDigit (value % 16)) = some read :=
    Option.isSome_iff_exists.mp (hex_digit_readable (Nat.mod_lt value (by decide)))
  obtain ⟨_, first⟩ := digit (unit / 16 / 16 / 16)
  obtain ⟨_, second⟩ := digit (unit / 16 / 16)
  obtain ⟨_, third⟩ := digit (unit / 16)
  obtain ⟨_, fourth⟩ := digit unit
  rw [hexUnit?, first, second, third, fourth]
  rfl

theorem escape_char_quoted (char : Char) {rest : List Char} (others : IsQuoted rest) :
    IsQuoted (escapeChar char ++ rest) := by
  unfold escapeChar
  dsimp only
  split_ifs with quote backslash newline carriage tab form backspace printable basic
  · exact .escape '"' rest (by decide) others
  · exact .escape '\\' rest (by decide) others
  · exact .escape 'n' rest (by decide) others
  · exact .escape 'r' rest (by decide) others
  · exact .escape 't' rest (by decide) others
  · exact .escape 'f' rest (by decide) others
  · exact .escape 'b' rest (by decide) others
  · exact .plain char rest printable.1 quote backslash others
  · exact escape_unit_quoted _ others
  · rw [List.append_assoc]
    exact escape_unit_quoted _ (escape_unit_quoted _ others)

theorem escaped_quoted (text : List Char) : IsQuoted (text.flatMap escapeChar) := by
  induction text with
  | nil => exact .empty
  | cons char text induction =>
      rw [List.flatMap_cons]
      exact escape_char_quoted char induction

/-! ### Finite values -/

mutual

def Finite : Json → Prop
  | .number value => value.isFinite = true
  | .array items => ItemsFinite items
  | .object members => MembersFinite members
  | _ => True

def ItemsFinite : List Json → Prop
  | [] => True
  | item :: items => item.Finite ∧ ItemsFinite items

def MembersFinite : List (String × Json) → Prop
  | [] => True
  | (_, value) :: members => value.Finite ∧ MembersFinite members

end

theorem item_derives {before value : List Char} (blank : AllBlank before)
    (derives : Derives .value value) : Derives .items (before ++ value) := by
  have item := Derives.item before value [] blank derives (List.forall_mem_nil _)
  rwa [List.append_nil] at item

theorem member_derives {before value : List Char} (blank : AllBlank before) (name : String)
    (derives : Derives .value value) :
    Derives .members (before ++ writeString name ++ [':', ' '] ++ value) := by
  have member := Derives.member before _ [] [' '] value [] blank (escaped_quoted name.toList)
    (List.forall_mem_nil _) (List.forall_mem_singleton.mpr rfl) derives (List.forall_mem_nil _)
  rwa [List.append_nil, List.append_nil] at member

mutual

theorem write_derives (value : Json) (finite : value.Finite) : Derives .value (write value) := by
  match value with
  | .null => exact .null
  | .bool .true => exact .true
  | .bool .false => exact .false
  | .integer value => exact .number _ (int_digits_number value)
  | .number value => exact .number _ (float_digits_number finite)
  | .string text => exact .string _ (escaped_quoted text.toList)
  | .array [] => exact .emptyArray [] (List.forall_mem_nil _)
  | .array (item :: items) =>
      obtain ⟨inside, derives, closed⟩ := write_items_derives items finite.2
        (item_derives (List.forall_mem_nil _) (write_derives item finite.1))
      rw [write, List.cons_append]
      rw [List.nil_append] at closed
      rw [closed]
      exact .array inside derives
  | .object [] => exact .emptyObject [] (List.forall_mem_nil _)
  | .object ((name, value) :: members) =>
      obtain ⟨inside, derives, closed⟩ := write_members_derives members finite.2
        (member_derives (List.forall_mem_nil _) name (write_derives value finite.1))
      rw [write]
      rw [List.nil_append] at closed
      simp only [List.cons_append]
      rw [closed]
      exact .object inside derives

/-- The items that follow some others, up to the closing bracket. -/
theorem write_items_derives (items : List Json) (finite : ItemsFinite items) {before : List Char}
    (earlier : Derives .items before) :
    ∃ inside, Derives .items inside ∧ before ++ writeItems items = inside ++ [']'] := by
  match items with
  | [] => exact ⟨before, earlier, rfl⟩
  | item :: items =>
      have next : Derives .items ([' '] ++ write item) :=
        item_derives (List.forall_mem_singleton.mpr rfl) (write_derives item finite.1)
      obtain ⟨inside, derives, closed⟩ := write_items_derives items finite.2 (.items _ _ earlier next)
      refine ⟨inside, derives, ?_⟩
      rw [← closed, writeItems]
      simp only [List.append_assoc, List.cons_append, List.nil_append]

/-- The members that follow some others, up to the closing brace. -/
theorem write_members_derives (members : List (String × Json)) (finite : MembersFinite members)
    {before : List Char} (earlier : Derives .members before) :
    ∃ inside, Derives .members inside ∧ before ++ writeMembers members = inside ++ ['\x7d'] := by
  match members with
  | [] => exact ⟨before, earlier, rfl⟩
  | (name, value) :: members =>
      have next : Derives .members ([' '] ++ writeString name ++ [':', ' '] ++ write value) :=
        member_derives (List.forall_mem_singleton.mpr rfl) name (write_derives value finite.1)
      obtain ⟨inside, derives, closed⟩ := write_members_derives members finite.2 (.members _ _ earlier next)
      refine ⟨inside, derives, ?_⟩
      rw [← closed, writeMembers]
      simp only [List.append_assoc, List.cons_append, List.nil_append]

end

/-! ### Values that are not finite -/

def ShowsWord (text : List Char) (finite : Prop) : Prop :=
  ∃ shown, Shows text shown ∧ (¬finite → 'N' ∈ shown ∨ 'I' ∈ shown)

theorem shows_word_of_wordless {text : List Char} {finite : Prop} (wordless : Wordless text)
    (isFinite : finite) : ShowsWord text finite := by
  obtain ⟨shown, shows, _⟩ := wordless
  exact ⟨shown, shows, absurd isFinite⟩

theorem shows_word_append {first second : List Char} {firstFinite secondFinite : Prop}
    (one : ShowsWord first firstFinite) (other : ShowsWord second secondFinite) :
    ShowsWord (first ++ second) (firstFinite ∧ secondFinite) := by
  obtain ⟨firstShown, firstShows, firstWord⟩ := one
  obtain ⟨secondShown, secondShows, secondWord⟩ := other
  refine ⟨firstShown ++ secondShown, shows_append firstShows secondShows, fun infinite => ?_⟩
  simp only [List.mem_append]
  rcases not_and_or.mp infinite with one | other
  · rcases firstWord one with word | word
    · exact .inl (.inl word)
    · exact .inr (.inl word)
  · rcases secondWord other with word | word
    · exact .inl (.inr word)
    · exact .inr (.inr word)

theorem shows_word_after {before text : List Char} {finite : Prop} (wordless : Wordless before)
    (word : ShowsWord text finite) : ShowsWord (before ++ text) finite := by
  have both := shows_word_append (shows_word_of_wordless wordless trivial) word
  rwa [true_and] at both

theorem wordless_name (name : String) : Wordless (writeString name ++ [':', ' ']) :=
  wordless_append (wordless_string (escaped_quoted name.toList))
    (wordless_of_chars (by decide) (by decide) (by decide))

mutual

theorem write_shows (value : Json) : ShowsWord (write value) value.Finite := by
  match value with
  | .null => exact shows_word_of_wordless (wordless_of_derives .null) trivial
  | .bool .true => exact shows_word_of_wordless (wordless_of_derives .true) trivial
  | .bool .false => exact shows_word_of_wordless (wordless_of_derives .false) trivial
  | .integer value => exact shows_word_of_wordless (wordless_number (int_digits_number value)) trivial
  | .number value =>
      by_cases finite : value.isFinite = true
      · exact shows_word_of_wordless (wordless_number (float_digits_number finite)) finite
      · obtain ⟨shows, word⟩ := float_digits_word finite
        exact ⟨_, shows, fun _ => word⟩
  | .string text => exact shows_word_of_wordless (wordless_string (escaped_quoted text.toList)) trivial
  | .array [] =>
      exact shows_word_of_wordless (wordless_of_chars (by decide) (by decide) (by decide)) trivial
  | .array (item :: items) =>
      exact shows_word_append (shows_word_after (wordless_char (by decide)) (write_shows item))
        (write_items_shows items)
  | .object [] =>
      exact shows_word_of_wordless (wordless_of_chars (by decide) (by decide) (by decide)) trivial
  | .object ((name, value) :: members) =>
      have opening : Wordless ('\x7b' :: writeString name ++ [':', ' ']) :=
        wordless_cons (by decide) (wordless_name name)
      exact shows_word_append (shows_word_after opening (write_shows value))
        (write_members_shows members)

theorem write_items_shows (items : List Json) : ShowsWord (writeItems items) (ItemsFinite items) := by
  match items with
  | [] => exact shows_word_of_wordless (wordless_char (by decide)) trivial
  | item :: items =>
      have separator : Wordless [',', ' '] := wordless_of_chars (by decide) (by decide) (by decide)
      exact shows_word_append (shows_word_after separator (write_shows item)) (write_items_shows items)

theorem write_members_shows (members : List (String × Json)) :
    ShowsWord (writeMembers members) (MembersFinite members) := by
  match members with
  | [] => exact shows_word_of_wordless (wordless_char (by decide)) trivial
  | (name, value) :: members =>
      have separator : Wordless [',', ' '] := wordless_of_chars (by decide) (by decide) (by decide)
      have first := shows_word_after (wordless_append separator (wordless_name name)) (write_shows value)
      rw [writeMembers, List.append_assoc [',', ' ']]
      exact shows_word_append first (write_members_shows members)

end

/-- The numbers decide whether a written value is a JSON text. -/
theorem write_is_text_iff (value : Json) : IsText (write value) ↔ value.Finite := by
  constructor
  · intro isText
    obtain ⟨shown, shows, noNumber, noInfinity⟩ := wordless_of_is_text isText
    obtain ⟨other, others, word⟩ := write_shows value
    rw [shows_unique others shows] at word
    by_contra infinite
    exact (word infinite).elim noNumber noInfinity
  · intro finite
    have text := IsText.around [] (write value) [] (List.forall_mem_nil _)
      (write_derives value finite) (List.forall_mem_nil _)
    rwa [List.append_nil] at text

end PriceBoard.Json

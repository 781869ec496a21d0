import PriceBoard.Json.Reader
import Mathlib.Tactic.FinCases

/-!
# The grammar of JSON

The rules of RFC 8259 on characters, without the words that the reader adds to them. What a text shows
outside its strings tells it from a text with such a word: no rule has a capital `N` or `I` there.
-/
namespace PriceBoard.Json

open PriceBoard.Decimal

def AllBlank (text : List Char) : Prop := ∀ char ∈ text, isBreak char = true

def AllDigits (text : List Char) : Prop := ∀ char ∈ text, isAsciiDigit char = true

/-! ### Numbers -/

/-- A lone zero, or digits that start with none. -/
inductive IsWhole : List Char → Prop where
  | zero : IsWhole ['0']
  | leading (first : Char) (rest : List Char) (digit : isAsciiDigit first = true)
      (nonzero : first ≠ '0') (digits : AllDigits rest) : IsWhole (first :: rest)

inductive IsFraction : List Char → Prop where
  | none : IsFraction []
  | point (digits : List Char) (nonempty : digits ≠ []) (all : AllDigits digits) :
      IsFraction ('.' :: digits)

inductive IsExponent : List Char → Prop where
  | none : IsExponent []
  | marked (mark : Char) (sign digits : List Char) (isMark : mark = 'e' ∨ mark = 'E')
      (isSign : sign = [] ∨ sign = ['+'] ∨ sign = ['-']) (nonempty : digits ≠ [])
      (all : AllDigits digits) : IsExponent (mark :: sign ++ digits)

inductive IsUnsigned : List Char → Prop where
  | parts (whole fraction exponent : List Char) (isWhole : IsWhole whole)
      (isFraction : IsFraction fraction) (isExponent : IsExponent exponent) :
      IsUnsigned (whole ++ fraction ++ exponent)

inductive IsNumber : List Char → Prop where
  | plain (text : List Char) (unsigned : IsUnsigned text) : IsNumber text
  | minus (text : List Char) (unsigned : IsUnsigned text) : IsNumber ('-' :: text)

/-! ### Strings -/

inductive IsQuoted : List Char → Prop where
  | empty : IsQuoted []
  | plain (char : Char) (rest : List Char) (printable : 0x20 ≤ char.toNat) (notQuote : char ≠ '"')
      (notEscape : char ≠ '\\') (others : IsQuoted rest) : IsQuoted (char :: rest)
  | escape (mark : Char) (rest : List Char)
      (known : mark ∈ ['"', '\\', '/', 'b', 'f', 'n', 'r', 't']) (others : IsQuoted rest) :
      IsQuoted ('\\' :: mark :: rest)
  | unit (a b c d : Char) (rest : List Char) (hexadecimal : (hexUnit? a b c d).isSome = true)
      (others : IsQuoted rest) : IsQuoted ('\\' :: 'u' :: a :: b :: c :: d :: rest)

/-! ### Values -/

inductive Rule where
  | value
  | items
  | members

/-- The texts of the rules: a value, and the inside of an array or object that is not empty. -/
inductive Derives : Rule → List Char → Prop where
  | null : Derives .value ['n', 'u', 'l', 'l']
  | true : Derives .value ['t', 'r', 'u', 'e']
  | false : Derives .value ['f', 'a', 'l', 's', 'e']
  | number (text : List Char) (isNumber : IsNumber text) : Derives .value text
  | string (body : List Char) (quoted : IsQuoted body) : Derives .value ('"' :: body ++ ['"'])
  | emptyArray (blanks : List Char) (blank : AllBlank blanks) :
      Derives .value ('[' :: blanks ++ [']'])
  | array (items : List Char) (inside : Derives .items items) : Derives .value ('[' :: items ++ [']'])
  | emptyObject (blanks : List Char) (blank : AllBlank blanks) :
      Derives .value ('\x7b' :: blanks ++ ['\x7d'])
  | object (members : List Char) (inside : Derives .members members) :
      Derives .value ('\x7b' :: members ++ ['\x7d'])
  | item (before value after : List Char) (blankBefore : AllBlank before)
      (isValue : Derives .value value) (blankAfter : AllBlank after) :
      Derives .items (before ++ value ++ after)
  | items (first rest : List Char) (isFirst : Derives .items first) (isRest : Derives .items rest) :
      Derives .items (first ++ ',' :: rest)
  | member (before name between colon value after : List Char) (blankBefore : AllBlank before)
      (quoted : IsQuoted name) (blankBetween : AllBlank between) (blankColon : AllBlank colon)
      (isValue : Derives .value value) (blankAfter : AllBlank after) :
      Derives .members
        (before ++ ('"' :: name ++ ['"']) ++ between ++ ':' :: colon ++ value ++ after)
  | members (first rest : List Char) (isFirst : Derives .members first)
      (isRest : Derives .members rest) : Derives .members (first ++ ',' :: rest)

inductive IsText : List Char → Prop where
  | around (before value after : List Char) (blankBefore : AllBlank before)
      (isValue : Derives .value value) (blankAfter : AllBlank after) :
      IsText (before ++ value ++ after)

/-! ### Outside strings -/

/-- The characters outside strings of a text that starts inside one or not. -/
def outside : Bool → List Char → List Char
  | _, [] => []
  | .true, '\\' :: _ :: rest => outside .true rest
  | .true, char :: rest => if char = '"' then outside .false rest else outside .true rest
  | .false, char :: rest => if char = '"' then outside .true rest else char :: outside .false rest

/-- Whatever follows the text, these are its characters outside strings, and it leaves no string open. -/
def Shows (text shown : List Char) : Prop :=
  ∀ rest, outside false (text ++ rest) = shown ++ outside false rest

theorem shows_unique {text first second : List Char} (one : Shows text first)
    (other : Shows text second) : first = second := by
  have same := (one []).symm.trans (other [])
  exact List.append_cancel_right same

theorem shows_nil : Shows [] [] := fun _ => rfl

theorem shows_append {first second firstShown secondShown : List Char}
    (one : Shows first firstShown) (other : Shows second secondShown) :
    Shows (first ++ second) (firstShown ++ secondShown) := by
  intro rest
  rw [List.append_assoc, one, other, List.append_assoc]

/-- A text without quotes shows itself. -/
theorem shows_of_no_quote {text : List Char} (noQuote : '"' ∉ text) : Shows text text := by
  induction text with
  | nil => exact shows_nil
  | cons char text induction =>
      intro rest
      have differs : char ≠ '"' := fun same => noQuote (same ▸ List.mem_cons_self)
      have others := induction (fun member => noQuote (List.mem_cons_of_mem _ member)) rest
      rw [List.cons_append, outside, if_neg differs, others, List.cons_append]

theorem outside_of_plain {char : Char} (notQuote : char ≠ '"') (notEscape : char ≠ '\\')
    (rest : List Char) : outside true (char :: rest) = outside true rest := by
  rw [outside, if_neg notQuote]
  exact fun _ _ same => absurd same notEscape

theorem hex_units_plain {a b c d : Char} (hexadecimal : (hexUnit? a b c d).isSome = true) :
    ∀ char ∈ [a, b, c, d], char ≠ '"' ∧ char ≠ '\\' := by
  have plain {char : Char} (value : (hexValue? char).isSome = true) : char ≠ '"' ∧ char ≠ '\\' := by
    constructor
    · rintro rfl
      exact absurd value (by decide)
    · rintro rfl
      exact absurd value (by decide)
  obtain ⟨unit, found⟩ := Option.isSome_iff_exists.mp hexadecimal
  simp only [hexUnit?, Option.bind_eq_bind, Option.bind_eq_some_iff] at found
  obtain ⟨_, first, _, second, _, third, _, fourth, _⟩ := found
  intro char member
  fin_cases member
  · exact plain (by rw [first]; rfl)
  · exact plain (by rw [second]; rfl)
  · exact plain (by rw [third]; rfl)
  · exact plain (by rw [fourth]; rfl)

theorem outside_of_quoted {body : List Char} (quoted : IsQuoted body) (rest : List Char) :
    outside true (body ++ '"' :: rest) = outside false rest := by
  induction quoted with
  | empty =>
      rw [List.nil_append, outside, if_pos rfl]
      exact fun _ _ same => absurd same (by decide)
  | plain char body printable notQuote notEscape others induction =>
      rw [List.cons_append, outside_of_plain notQuote notEscape, induction]
  | escape mark body known others induction =>
      rw [List.cons_append, List.cons_append, outside, induction]
  | unit a b c d body hexadecimal others induction =>
      have plain := hex_units_plain hexadecimal
      simp only [List.mem_cons, List.not_mem_nil, or_false, forall_eq_or_imp, forall_eq] at plain
      obtain ⟨first, second, third, fourth⟩ := plain
      simp only [List.cons_append]
      rw [outside, outside_of_plain first.1 first.2, outside_of_plain second.1 second.2,
        outside_of_plain third.1 third.2, outside_of_plain fourth.1 fourth.2, induction]

theorem shows_string {body : List Char} (quoted : IsQuoted body) :
    Shows ('"' :: body ++ ['"']) [] := by
  intro rest
  rw [List.cons_append, List.cons_append, outside, if_pos rfl, List.append_assoc,
    List.singleton_append, outside_of_quoted quoted, List.nil_append]

/-! ### No words for numbers -/

/-- Outside its strings the text has neither of the capitals with which `NaN` and `Infinity` start. -/
def Wordless (text : List Char) : Prop := ∃ shown, Shows text shown ∧ 'N' ∉ shown ∧ 'I' ∉ shown

theorem wordless_append {first second : List Char} (one : Wordless first) (other : Wordless second) :
    Wordless (first ++ second) := by
  obtain ⟨firstShown, firstShows, firstNot, firstInfinite⟩ := one
  obtain ⟨secondShown, secondShows, secondNot, secondInfinite⟩ := other
  exact ⟨_, shows_append firstShows secondShows, by simp [firstNot, secondNot],
    by simp [firstInfinite, secondInfinite]⟩

theorem wordless_of_chars {text : List Char} (plain : '"' ∉ text) (notNumber : 'N' ∉ text)
    (infinite : 'I' ∉ text) : Wordless text :=
  ⟨text, shows_of_no_quote plain, notNumber, infinite⟩

theorem wordless_char {char : Char} (plain : char ∉ ['"', 'N', 'I']) : Wordless [char] := by
  simp only [List.mem_cons, List.not_mem_nil, or_false, not_or] at plain
  obtain ⟨quote, notNumber, infinite⟩ := plain
  exact wordless_of_chars (List.mem_singleton.not.mpr (Ne.symm quote))
    (List.mem_singleton.not.mpr (Ne.symm notNumber)) (List.mem_singleton.not.mpr (Ne.symm infinite))

theorem wordless_cons {char : Char} {text : List Char} (plain : char ∉ ['"', 'N', 'I'])
    (rest : Wordless text) : Wordless (char :: text) :=
  wordless_append (wordless_char plain) rest

theorem wordless_blank {text : List Char} (blank : AllBlank text) : Wordless text := by
  have absent (char : Char) (solid : isBreak char = false) : char ∉ text := by
    intro member
    cases (blank char member).symm.trans solid
  exact wordless_of_chars (absent _ rfl) (absent _ rfl) (absent _ rfl)

theorem wordless_digits {text : List Char} (digits : AllDigits text) : Wordless text := by
  have absent (char : Char) (other : isAsciiDigit char = false) : char ∉ text := by
    intro member
    cases (digits char member).symm.trans other
  exact wordless_of_chars (absent _ rfl) (absent _ rfl) (absent _ rfl)

theorem wordless_whole {text : List Char} (whole : IsWhole text) : Wordless text := by
  apply wordless_digits
  cases whole with
  | zero => exact List.forall_mem_singleton.mpr rfl
  | leading first rest digit nonzero digits => exact List.forall_mem_cons.mpr ⟨digit, digits⟩

theorem wordless_fraction {text : List Char} (fraction : IsFraction text) : Wordless text := by
  cases fraction with
  | none => exact ⟨[], shows_nil, List.not_mem_nil, List.not_mem_nil⟩
  | point digits nonempty all => exact wordless_cons (by decide) (wordless_digits all)

theorem wordless_exponent {text : List Char} (exponent : IsExponent text) : Wordless text := by
  cases exponent with
  | none => exact ⟨[], shows_nil, List.not_mem_nil, List.not_mem_nil⟩
  | marked mark sign digits isMark isSign nonempty all =>
      rw [List.cons_append]
      have signed : Wordless (sign ++ digits) := by
        rcases isSign with rfl | rfl | rfl
        · exact wordless_digits all
        · exact wordless_cons (by decide) (wordless_digits all)
        · exact wordless_cons (by decide) (wordless_digits all)
      rcases isMark with rfl | rfl
      · exact wordless_cons (by decide) signed
      · exact wordless_cons (by decide) signed

theorem wordless_unsigned {text : List Char} (unsigned : IsUnsigned text) : Wordless text := by
  obtain ⟨whole, fraction, exponent, isWhole, isFraction, isExponent⟩ := unsigned
  exact wordless_append (wordless_append (wordless_whole isWhole) (wordless_fraction isFraction))
    (wordless_exponent isExponent)

theorem wordless_number {text : List Char} (number : IsNumber text) : Wordless text := by
  cases number with
  | plain text unsigned => exact wordless_unsigned unsigned
  | minus text unsigned => exact wordless_cons (by decide) (wordless_unsigned unsigned)

theorem wordless_string {body : List Char} (quoted : IsQuoted body) :
    Wordless ('"' :: body ++ ['"']) :=
  ⟨[], shows_string quoted, List.not_mem_nil, List.not_mem_nil⟩

theorem wordless_of_derives {rule : Rule} {text : List Char} (derives : Derives rule text) :
    Wordless text := by
  induction derives with
  | null => exact wordless_of_chars (by decide) (by decide) (by decide)
  | true => exact wordless_of_chars (by decide) (by decide) (by decide)
  | false => exact wordless_of_chars (by decide) (by decide) (by decide)
  | number text isNumber => exact wordless_number isNumber
  | string body quoted => exact wordless_string quoted
  | emptyArray blanks blank =>
      exact wordless_append (wordless_cons (by decide) (wordless_blank blank)) (wordless_char (by decide))
  | array items inside induction =>
      exact wordless_append (wordless_cons (by decide) induction) (wordless_char (by decide))
  | emptyObject blanks blank =>
      exact wordless_append (wordless_cons (by decide) (wordless_blank blank)) (wordless_char (by decide))
  | object members inside induction =>
      exact wordless_append (wordless_cons (by decide) induction) (wordless_char (by decide))
  | item before value after blankBefore isValue blankAfter induction =>
      exact wordless_append (wordless_append (wordless_blank blankBefore) induction)
        (wordless_blank blankAfter)
  | items first rest isFirst isRest wordlessFirst wordlessRest =>
      exact wordless_append wordlessFirst (wordless_cons (by decide) wordlessRest)
  | member before name between colon value after blankBefore quoted blankBetween blankColon isValue
      blankAfter induction =>
      have named := wordless_append (wordless_append (wordless_blank blankBefore)
        (wordless_string quoted)) (wordless_blank blankBetween)
      have valued : Wordless (':' :: colon ++ value) :=
        wordless_append (wordless_cons (by decide) (wordless_blank blankColon)) induction
      rw [List.append_assoc, List.append_assoc, ← List.append_assoc (':' :: colon)]
      exact wordless_append named (wordless_append valued (wordless_blank blankAfter))
  | members first rest isFirst isRest wordlessFirst wordlessRest =>
      exact wordless_append wordlessFirst (wordless_cons (by decide) wordlessRest)

theorem wordless_of_is_text {text : List Char} (isText : IsText text) : Wordless text := by
  obtain ⟨before, value, after, blankBefore, isValue, blankAfter⟩ := isText
  exact wordless_append (wordless_append (wordless_blank blankBefore) (wordless_of_derives isValue))
    (wordless_blank blankAfter)

end PriceBoard.Json

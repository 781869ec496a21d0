import PriceBoard.Calendar.IsoReader
import PriceBoard.Proofs.Calendar.Day
import PriceBoard.Proofs.Calendar.Instant
import PriceBoard.Proofs.Decimal.Digits

/-!
# Written times are read back

A written date and time is read as the time it was written for, with one exception: an offset of less
than a second is read as UTC. Every field is written with as many digits as it is read with, and the sign
of the offset ends the clock's fields.
-/
namespace PriceBoard

open PriceBoard.Decimal PriceBoard.Text

def Offset.asRead (offset : Offset) : Offset :=
  if offset.micros.natAbs < 1000000 then Offset.utc else offset

namespace Iso

/-! ### Digits -/

theorem take_padded {count value : ℕ} (small : value < 10 ^ count) (rest : List Char) :
    takeDigits? count (paddedDigits count value ++ rest) = some (value, rest) := by
  have length := padded_digits_length count value
  have taken : (paddedDigits count value ++ rest).take count = paddedDigits count value :=
    List.take_left' length
  have dropped : (paddedDigits count value ++ rest).drop count = rest := List.drop_left' length
  have digits : (paddedDigits count value).all isAsciiDigit = true :=
    List.all_eq_true.mpr (padded_digits_ascii count value)
  simp only [takeDigits?, taken, dropped, length, digits, of_digits_padded_digits,
    Nat.mod_eq_of_lt small, and_self, if_true]

theorem take_padded_last {count value : ℕ} (small : value < 10 ^ count) :
    takeDigits? count (paddedDigits count value) = some (value, []) := by
  have taken := take_padded small []
  rwa [List.append_nil] at taken

theorem pair_ne_nil (value : ℕ) (rest : List Char) : paddedDigits 2 value ++ rest ≠ [] :=
  List.cons_ne_nil _ _

theorem digit_ne {value : ℕ} {other : Char} (notDigit : isAsciiDigit other = false) :
    digitChar (value % 10) ≠ other :=
  ne_of_ascii_digit (digit_char_ascii (Nat.mod_lt value (by decide))) notDigit

/-! ### Dates -/

theorem read_date_digits {date : Date} (valid : date.Valid) : readDate? (dateDigits date) = some date := by
  have year : date.year < 10 ^ 4 := Nat.lt_succ_of_le valid.2.1
  have month : date.month < 10 ^ 2 := Nat.lt_of_le_of_lt valid.2.2.2.1 (by decide)
  have day : date.day < 10 ^ 2 := by
    have longest := Date.month_length_le date.year date.month
    have inMonth := valid.2.2.2.2.2
    omega
  have text : dateDigits date = paddedDigits 4 date.year ++
      '-' :: (paddedDigits 2 date.month ++ '-' :: paddedDigits 2 date.day) := by
    simp only [dateDigits, List.append_assoc, List.cons_append]
  rw [readDate?, text, take_padded year]
  simp only [Option.bind_eq_bind, Option.bind_some, List.head?_cons, decide_true, if_true,
    List.drop_succ_cons, List.drop_zero]
  split
  · rename_i isWeek
    exact absurd (List.cons.inj isWeek).1 (digit_ne (by decide))
  · rw [take_padded month, Option.bind_some, skipDash?, if_pos rfl, Option.bind_some,
      take_padded_last day, Option.bind_some, Date.make?, if_pos valid]

/-- After a date with dashes and a day the separator is the eleventh character. -/
theorem date_length_digits (date : Date) (separator : Char) (rest : List Char) :
    dateLength? (dateDigits date ++ separator :: rest) = some 10 := by
  have length : (dateDigits date ++ separator :: rest).length = rest.length + 11 := by
    simp only [dateDigits, List.length_append, List.length_cons, padded_digits_length]
    omega
  have notShort : ¬rest.length + 11 < 7 := by omega
  have notWeekLong : ¬rest.length + 11 = 7 := by omega
  have dash : (dateDigits date ++ separator :: rest)[4]? = some '-' := rfl
  have month : (dateDigits date ++ separator :: rest)[5]? =
      some (digitChar (date.month / 10 % 10)) := rfl
  have notWeek : some (digitChar (date.month / 10 % 10)) ≠ some 'W' := fun same =>
    digit_ne (by decide) (Option.some.inj same)
  rw [dateLength?, length, if_neg notShort, if_neg notWeekLong, if_pos dash, month, if_neg notWeek]

/-! ### Clocks -/

theorem read_field {fields : ℕ} {colons : Option Bool} (known : colons.getD true = true) {value : ℕ}
    (small : value < 100) {rest : List Char} (more : rest ≠ []) :
    readFields? (fields + 1) colons (paddedDigits 2 value ++ ':' :: rest) =
      (readFields? fields (some true) rest).map fun (values, micros, ending) =>
        (value :: values, micros, ending) := by
  obtain ⟨first, others, spelled⟩ := List.exists_cons_of_ne_nil more
  rw [readFields?, take_padded small, spelled]
  simp only [decide_true, known, Bool.and_self, if_true]

theorem read_last_field {fields : ℕ} {colons : Option Bool} {value : ℕ} (small : value < 100) :
    readFields? (fields + 1) colons (paddedDigits 2 value) = some ([value], 0, .complete) := by
  rw [readFields?, take_padded_last small]

theorem read_fraction_digits {micros : ℕ} (small : micros < 10 ^ 6) :
    readFraction? (paddedDigits 6 micros) = some (micros, .complete) := by
  have six : min (paddedDigits 6 micros).length 6 = 6 := rfl
  rw [readFraction?, six, take_padded_last small]
  exact congrArg (fun value => some (value, ClockEnd.complete)) (Nat.mul_one micros)

/-- The seconds come last, with a fraction or without. -/
theorem read_seconds {fields : ℕ} {value : ℕ} (small : value < 100) (micros : ℕ) :
    readFields? (fields + 1) (some true) (paddedDigits 2 value ++ fractionDigits micros) =
      some ([value], micros % 1000000, .complete) := by
  unfold fractionDigits
  split_ifs with whole
  · rw [List.append_nil, read_last_field small, whole]
  · have fraction := read_fraction_digits (Nat.mod_lt micros (by decide : 0 < 10 ^ 6))
    obtain ⟨first, others, spelled⟩ : ∃ first others, paddedDigits 6 (micros % 10 ^ 6) = first :: others :=
      ⟨_, _, rfl⟩
    have sixDigits : paddedDigits 6 (micros % 1000000) = first :: others := spelled
    rw [spelled] at fraction
    rw [sixDigits, readFields?, take_padded small]
    simp only [fraction]
    rfl

def clockFields (micros : ℕ) : ClockFields :=
  ⟨micros / 3600000000, micros / 60000000 % 60, micros / 1000000 % 60, micros % 1000000⟩

section

variable {micros : ℕ} (bounded : micros < microsPerDay)
include bounded

theorem read_clock_digits : readClock? (clockDigits micros) = some (clockFields micros, .complete) := by
  have hour : micros / 3600000000 < 100 := by
    unfold microsPerDay at bounded
    omega
  have minute : micros / 60000000 % 60 < 100 := by omega
  have second : micros / 1000000 % 60 < 100 := by omega
  have text : clockDigits micros = paddedDigits 2 (micros / 3600000000) ++
      ':' :: (paddedDigits 2 (micros / 60000000 % 60) ++
        ':' :: (paddedDigits 2 (micros / 1000000 % 60) ++ fractionDigits micros)) := by
    simp only [clockDigits, minuteDigits, secondDigits, List.append_assoc, List.cons_append]
  rw [readClock?, text, read_field rfl hour (pair_ne_nil _ _), read_field rfl minute (pair_ne_nil _ _),
    read_seconds second]
  rfl

/-- The fields that an offset leaves out are zero. -/
theorem read_minute_digits (whole : micros % 60000000 = 0) :
    readClock? (minuteDigits micros) = some (clockFields micros, .complete) := by
  have hour : micros / 3600000000 < 100 := by
    unfold microsPerDay at bounded
    omega
  have minute : micros / 60000000 % 60 < 100 := by omega
  have noSeconds : micros / 1000000 % 60 = 0 := by omega
  have noFraction : micros % 1000000 = 0 := by omega
  have more := pair_ne_nil (micros / 60000000 % 60) []
  rw [List.append_nil] at more
  rw [readClock?, minuteDigits, read_field rfl hour more, read_last_field minute, clockFields,
    noSeconds, noFraction]
  rfl

theorem time_of_day_fields : timeOfDay? (clockFields micros) = some micros := by
  have inside : micros / 3600000000 < 24 ∧ micros / 60000000 % 60 < 60 ∧ micros / 1000000 % 60 < 60 := by
    unfold microsPerDay at bounded
    omega
  have total : (micros / 3600000000 * 3600 + micros / 60000000 % 60 * 60 + micros / 1000000 % 60) *
      1000000 + micros % 1000000 = micros := by omega
  rw [timeOfDay?, clockFields, if_pos inside, total]

end

/-! ### Offsets -/

theorem size_bounded (offset : Offset) : offset.micros.natAbs < microsPerDay := by
  obtain ⟨low, high⟩ := offset.bounded
  omega

theorem offset_of_fields (offset : Offset) :
    offsetOf? (decide (offset.micros < 0)) (clockFields offset.micros.natAbs) =
      some offset.asRead := by
  have seconds : offset.micros.natAbs / 3600000000 * 3600 +
      offset.micros.natAbs / 60000000 % 60 * 60 + offset.micros.natAbs / 1000000 % 60 =
        offset.micros.natAbs / 1000000 := by omega
  rw [offsetOf?, clockFields, seconds, Offset.asRead]
  by_cases small : offset.micros.natAbs < 1000000
  · have none : offset.micros.natAbs / 1000000 = 0 := by omega
    rw [if_pos none, if_pos small]
  · have some : offset.micros.natAbs / 1000000 ≠ 0 := by omega
    rw [if_neg some, if_neg small]
    have micros : (if decide (offset.micros < 0) = true then
        -((offset.micros.natAbs / 1000000 : ℕ) * 1000000 + (offset.micros.natAbs % 1000000 : ℕ) : ℤ)
        else (offset.micros.natAbs / 1000000 : ℕ) * 1000000 + (offset.micros.natAbs % 1000000 : ℕ)) =
        offset.micros := by
      simp only [decide_eq_true_eq]
      split_ifs <;> omega
    simp only [micros, Offset.ofMicros?, dif_pos offset.bounded]

def offsetClock (size : ℕ) : List Char :=
  minuteDigits size ++ if size % 60000000 = 0 then [] else secondDigits size ++ fractionDigits size

theorem offset_digits_signed (offset : Offset) : ∃ sign, (sign = '+' ∨ sign = '-') ∧
    decide (sign = '-') = decide (offset.micros < 0) ∧
      offsetDigits offset = sign :: offsetClock offset.micros.natAbs := by
  by_cases negative : offset.micros < 0
  · refine ⟨'-', .inr rfl, (decide_eq_true negative).symm, ?_⟩
    rw [offsetDigits, if_pos negative]
    rfl
  · refine ⟨'+', .inl rfl, (decide_eq_false negative).symm, ?_⟩
    rw [offsetDigits, if_neg negative]
    rfl

theorem read_offset_clock {size : ℕ} (bounded : size < microsPerDay) :
    readClock? (offsetClock size) = some (clockFields size, .complete) := by
  unfold offsetClock
  split_ifs with whole
  · rw [List.append_nil, read_minute_digits bounded whole]
  · rw [← List.append_assoc]
    exact read_clock_digits bounded

/-! ### Characters -/

def IsClockChar (char : Char) : Prop := isAsciiDigit char = true ∨ char = ':' ∨ char = '.'

theorem padded_chars (width value : ℕ) : ∀ char ∈ paddedDigits width value, IsClockChar char :=
  fun char member => .inl (padded_digits_ascii width value char member)

theorem minute_chars (micros : ℕ) : ∀ char ∈ minuteDigits micros, IsClockChar char := by
  simp only [minuteDigits, List.forall_mem_append, List.forall_mem_cons]
  exact ⟨padded_chars 2 _, .inr (.inl rfl), padded_chars 2 _⟩

theorem second_chars (micros : ℕ) : ∀ char ∈ secondDigits micros, IsClockChar char :=
  List.forall_mem_cons.mpr ⟨.inr (.inl rfl), padded_chars 2 _⟩

theorem fraction_chars (micros : ℕ) : ∀ char ∈ fractionDigits micros, IsClockChar char := by
  unfold fractionDigits
  split_ifs
  · exact fun _ member => absurd member List.not_mem_nil
  · exact List.forall_mem_cons.mpr ⟨.inr (.inr rfl), padded_chars 6 _⟩

theorem clock_chars (micros : ℕ) : ∀ char ∈ clockDigits micros, IsClockChar char := by
  simp only [clockDigits, List.forall_mem_append]
  exact ⟨⟨minute_chars micros, second_chars micros⟩, fraction_chars micros⟩

theorem offset_clock_chars (size : ℕ) : ∀ char ∈ offsetClock size, IsClockChar char := by
  simp only [offsetClock, List.forall_mem_append]
  refine ⟨minute_chars size, ?_⟩
  split_ifs
  · exact fun _ member => absurd member List.not_mem_nil
  · exact List.forall_mem_append.mpr ⟨second_chars size, fraction_chars size⟩

/-- Only the sign of an offset marks it. -/
theorem clock_unmarked (micros : ℕ) :
    ∀ char ∈ clockDigits micros, (!isOffsetMark char) = true := by
  intro char member
  rcases clock_chars micros char member with digit | rfl | rfl
  · have notPlus := ne_of_ascii_digit digit (by decide : isAsciiDigit '+' = false)
    have notMinus := ne_of_ascii_digit digit (by decide : isAsciiDigit '-' = false)
    have notZulu := ne_of_ascii_digit digit (by decide : isAsciiDigit 'Z' = false)
    simp only [isOffsetMark, notPlus, notMinus, notZulu, decide_false, Bool.or_self, Bool.not_false]
  · rfl
  · rfl

/-! ### Times -/

theorem read_time_digits {micros : ℕ} (bounded : micros < microsPerDay) :
    readTime? (clockDigits micros) = some (micros, none) := by
  obtain ⟨taken, dropped⟩ := @scan_append _ (clockDigits micros) [] (clock_unmarked micros)
    fun _ member => nomatch member
  rw [List.append_nil] at taken dropped
  simp only [readTime?, taken, dropped, read_clock_digits bounded, time_of_day_fields bounded,
    Option.bind_eq_bind, Option.bind_some, if_true]

theorem read_time_offset {micros : ℕ} (bounded : micros < microsPerDay) (offset : Offset) :
    readTime? (clockDigits micros ++ offsetDigits offset) = some (micros, some offset.asRead) := by
  obtain ⟨sign, isSign, negative, spelled⟩ := offset_digits_signed offset
  have mark : isOffsetMark sign = true := by rcases isSign with rfl | rfl <;> rfl
  have notZulu : sign ≠ 'Z' := by rcases isSign with rfl | rfl <;> decide
  have ends : ∀ char ∈ (offsetDigits offset).head?, (!isOffsetMark char) = false := by
    rw [spelled]
    intro char member
    rw [← Option.some.inj member, mark]
    rfl
  obtain ⟨taken, dropped⟩ := scan_append (clock_unmarked micros) ends
  rw [readTime?, taken, dropped, spelled]
  simp only [read_clock_digits bounded, time_of_day_fields bounded, Option.bind_eq_bind,
    Option.bind_some, read_offset_clock (size_bounded offset), negative, offset_of_fields,
    Option.map_some]

def offsetText : Option Offset → List Char
  | none => []
  | some offset => offsetDigits offset

theorem read_time_text {micros : ℕ} (bounded : micros < microsPerDay) (offset : Option Offset) :
    readTime? (clockDigits micros ++ offsetText offset) =
      some (micros, offset.map Offset.asRead) := by
  cases offset with
  | none =>
      rw [offsetText, List.append_nil]
      exact read_time_digits bounded
  | some offset => exact read_time_offset bounded offset

end Iso

namespace DateTime

theorem iso_digits_eq (moment : DateTime) :
    moment.isoDigits = Iso.dateDigits moment.wall.date ++
      'T' :: (Iso.clockDigits moment.wall.sinceMidnight ++ Iso.offsetText moment.offset) := by
  rw [isoDigits, isoWith, List.append_assoc, List.cons_append]
  cases moment.offset <;> rfl

def IsIsoChar (char : Char) : Prop := isAsciiDigit char = true ∨ char ∈ [':', '.', '-', '+', 'T']

instance (char : Char) : Decidable (IsIsoChar char) := inferInstanceAs (Decidable (_ ∨ _))

theorem iso_of_clock {char : Char} (isClock : Iso.IsClockChar char) : IsIsoChar char := by
  rcases isClock with digit | rfl | rfl
  · exact .inl digit
  · decide
  · decide

theorem iso_digits_chars (moment : DateTime) : ∀ char ∈ moment.isoDigits, IsIsoChar char := by
  have padded (width value : ℕ) : ∀ char ∈ paddedDigits width value, IsIsoChar char :=
    fun char member => .inl (padded_digits_ascii width value char member)
  have dash : IsIsoChar '-' := by decide
  simp only [iso_digits_eq, Iso.dateDigits, List.forall_mem_append, List.forall_mem_cons]
  refine ⟨⟨⟨padded 4 _, dash, padded 2 _⟩, dash, padded 2 _⟩, by decide, ?_, ?_⟩
  · exact fun char member => iso_of_clock (Iso.clock_chars _ char member)
  · cases moment.offset with
    | none => exact fun _ member => absurd member List.not_mem_nil
    | some offset =>
        obtain ⟨sign, isSign, _, spelled⟩ := Iso.offset_digits_signed offset
        have signed : IsIsoChar sign := by rcases isSign with rfl | rfl <;> decide
        rw [Iso.offsetText, spelled, List.forall_mem_cons]
        exact ⟨signed, fun char member => iso_of_clock (Iso.offset_clock_chars _ char member)⟩

theorem iso_digits_start (moment : DateTime) :
    ∃ digit rest, moment.isoDigits = digit :: rest ∧ isAsciiDigit digit = true :=
  ⟨_, _, rfl, digit_char_ascii (Nat.mod_lt _ (by decide))⟩

theorem date_of_wall (wall : WallTime) :
    wall.date.Valid ∧ WallTime.ofDate? wall.date wall.sinceMidnight = some wall := by
  obtain ⟨valid, total⟩ := wall.date_spec
  refine ⟨valid, ?_⟩
  rw [WallTime.ofDate?, total]
  exact WallTime.of_micros_iff.mpr rfl

/-- A written time is read as it was written, apart from an offset below a second. -/
theorem read_iso_digits (moment : DateTime) :
    Iso.readDateTime? moment.isoDigits = some ⟨moment.wall, moment.offset.map Offset.asRead⟩ := by
  obtain ⟨valid, wall⟩ := date_of_wall moment.wall
  have bounded : moment.wall.sinceMidnight < microsPerDay := Nat.mod_lt _ (by decide)
  have ten : (Iso.dateDigits moment.wall.date).length = 10 := by
    simp only [Iso.dateDigits, List.length_append, List.length_cons, padded_digits_length]
  rw [iso_digits_eq, Iso.readDateTime?, Iso.date_length_digits]
  simp only [Option.bind_eq_bind, Option.bind_some, List.take_left' ten, List.drop_left' ten,
    Iso.read_date_digits valid]
  rw [Iso.read_time_text bounded, Option.bind_some, wall, Option.map_some]

end DateTime
end PriceBoard

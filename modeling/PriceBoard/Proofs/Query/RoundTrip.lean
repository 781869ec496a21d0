import PriceBoard.Proofs.Calendar.Instant
import PriceBoard.Proofs.Query.Recognise
import PriceBoard.Proofs.Results

/-!
# Queries of the grammar are read back

The compiler gives for the text of a query the predicates of its wordings, group by group, as long as the
calendar reaches back as far as they look.
-/
namespace PriceBoard.Query

open PriceBoard.Decimal PriceBoard.Text

/-! ### Numbers and times -/

theorem read_decimal_numeral (numeral : Numeral) :
    readDecimal? numeral.text = some numeral.value := by
  unfold Numeral.text Numeral.value
  cases numeral.fraction with
  | none =>
      have read := @read_decimal_whole _ [] 0 numeral.whole.nonempty numeral.whole.ascii
        (fun _ member => nomatch member) rfl
      rwa [List.append_nil] at read
  | some fraction =>
      have read := @read_decimal_fraction _ fraction.chars [] 0 numeral.whole.nonempty
        numeral.whole.ascii fraction.ascii (fun _ member => nomatch member) rfl
      rwa [List.append_nil, zero_sub] at read

theorem number_text (numeral : Numeral) : number numeral.text = .ok numeral.value := by
  have plain : ∀ char ∈ numeral.text, IsNumeralChar char := by
    intro char member
    rcases numeral_chars numeral char member with digit | point
    · exact .inl digit
    · right
      rw [point]
      exact List.mem_cons_self
  have read := read_decimal_numeral numeral
  obtain ⟨digit, rest, chars, ascii⟩ := numeral_start numeral
  have sign : splitSign numeral.text = (false, numeral.text) := by
    apply split_sign_of_digit
    intro char member
    rw [chars] at member
    cases member
    exact ascii
  have noWord : readWord? numeral.text = none := by
    rw [chars]
    exact read_word_of_digit ascii rest
  rw [number, read_float_of_numeral plain, readSigned?, sign]
  simp only [noWord, read]
  rfl

theorem cutoff_ago {context : Context} {amount : List Char} {unit : SpanUnit} {value : ℕ}
    (read : readDigits amount = .ok value)
    (reaches : value * unit.ms * 1000 ≤ context.now.wall.micros) :
    cutoff context amount unit = .ok (ago context.now (value * unit.ms * 1000)) := by
  obtain ⟨earlier, found, micros, offset⟩ := DateTime.minus_micros_of_fits reaches
  have wall : earlier.wall = (ago context.now (value * unit.ms * 1000)).wall := by
    apply WallTime.eq_of_micros
    change earlier.wall.micros = context.now.wall.micros - value * unit.ms * 1000
    omega
  have same : earlier = ago context.now (value * unit.ms * 1000) := by
    cases earlier
    cases wall
    cases offset
    rfl
  rw [cutoff, span, read]
  change ((Span.ofMicros _).mapError _).bind _ = _
  rw [bind_map_error, found, same]
  rfl

end PriceBoard.Query

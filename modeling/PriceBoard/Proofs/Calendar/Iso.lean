import PriceBoard.Calendar.Iso
import PriceBoard.Proofs.Calendar.Instant
import PriceBoard.Proofs.Decimal.Digits

/-!
# Written times within one second

Times of the same second have the same text up to the fraction, and the fraction has the text of its
six digits. So they have the same text only if they are the same.
-/
namespace PriceBoard

open PriceBoard.Decimal

namespace Iso

theorem fraction_digits_injective {left right : ℕ}
    (same : fractionDigits left = fractionDigits right) : left % 1000000 = right % 1000000 := by
  unfold fractionDigits at same
  split_ifs at same with leftWhole rightWhole rightWhole
  · rw [leftWhole, rightWhole]
  · have padded := padded_digits_injective (List.cons.inj same).2
    norm_num at padded
    exact padded

end Iso

namespace DateTime

theorem iso_text_inj_of_same_second {left right : WallTime}
    (sameSecond : left.micros / 1000000 = right.micros / 1000000) :
    (DateTime.mk left (some Offset.utc)).isoText = (DateTime.mk right (some Offset.utc)).isoText ↔
      left = right := by
  constructor
  · intro sameText
    have sameDay : left.micros / microsPerDay = right.micros / microsPerDay := by
      unfold microsPerDay
      omega
    have sameDate : left.date = right.date := by
      rw [WallTime.date, WallTime.date, sameDay]
    have sameMinutes : Iso.minuteDigits left.sinceMidnight = Iso.minuteDigits right.sinceMidnight := by
      have hours : left.sinceMidnight / 3600000000 = right.sinceMidnight / 3600000000 := by
        unfold WallTime.sinceMidnight microsPerDay
        omega
      have minutes : left.sinceMidnight / 60000000 % 60 = right.sinceMidnight / 60000000 % 60 := by
        unfold WallTime.sinceMidnight microsPerDay
        omega
      rw [Iso.minuteDigits, Iso.minuteDigits, hours, minutes]
    have sameSeconds : Iso.secondDigits left.sinceMidnight = Iso.secondDigits right.sinceMidnight := by
      have seconds : left.sinceMidnight / 1000000 % 60 = right.sinceMidnight / 1000000 % 60 := by
        unfold WallTime.sinceMidnight microsPerDay
        omega
      rw [Iso.secondDigits, Iso.secondDigits, seconds]
    have digits := String.ofList_injective sameText
    rw [isoDigits, isoDigits, isoWith, isoWith, sameDate, Iso.clockDigits, Iso.clockDigits, sameMinutes,
      sameSeconds] at digits
    have clocks := List.append_cancel_left (List.append_cancel_right digits)
    have fractions := List.append_cancel_left (List.cons.inj clocks).2
    have micros : left.sinceMidnight % 1000000 = right.sinceMidnight % 1000000 :=
      Iso.fraction_digits_injective fractions
    apply WallTime.eq_of_micros
    unfold WallTime.sinceMidnight microsPerDay at micros
    omega
  · rintro rfl
    rfl

end DateTime
end PriceBoard

import PriceBoard.Query.Split
import PriceBoard.Proofs.Text.Scan

/-!
# Joined queries are split where they were joined

A connective is cut out where it stands between two spaces, and nowhere in a part that does not hold its
first letter. The spaces stay with the parts until these are trimmed.
-/
namespace PriceBoard.Query

open PriceBoard.Text

def joined (connective : List Char) : List (List Char) → List Char
  | [] => []
  | [part] => part
  | part :: rest => part ++ ' ' :: (connective ++ ' ' :: joined connective rest)

theorem joined_cons {connective part : List Char} {rest : List (List Char)} (nonempty : rest ≠ []) :
    joined connective (part :: rest) =
      part ++ ' ' :: (connective ++ ' ' :: joined connective rest) := by
  cases rest with
  | nil => exact absurd rfl nonempty
  | cons next rest => rfl

section

variable {first : Char} {letters : List Char}

theorem cut_other (afterWord : Bool) {char : Char} (other : char ≠ first) (rest : List Char) :
    cutFrom (first :: letters) afterWord 0 (char :: rest) =
      consFirst char (cutFrom (first :: letters) (isWord char) 0 rest) := by
  have notAlone : standsAlone (first :: letters) afterWord (char :: rest) = false := by
    rw [standsAlone, after?, if_neg other, Bool.and_false]
  rw [cutFrom, notAlone]
  exact if_neg Bool.false_ne_true

theorem cut_plain (afterWord : Bool) {part : List Char} (absent : ∀ char ∈ part, char ≠ first) :
    cutFrom (first :: letters) afterWord 0 part = [part] := by
  induction part generalizing afterWord with
  | nil => rfl
  | cons char rest induction =>
      rw [cut_other afterWord (absent char List.mem_cons_self),
        induction _ fun other member => absent other (List.mem_cons_of_mem _ member)]
      rfl

theorem cut_skip (connective : List Char) (afterWord : Bool) (skipped rest : List Char) :
    ∃ flag, cutFrom connective afterWord skipped.length (skipped ++ rest) =
      cutFrom connective flag 0 rest := by
  induction skipped generalizing afterWord with
  | nil => exact ⟨afterWord, rfl⟩
  | cons char skipped induction => exact induction (isWord char)

/-- What comes before a lone connective is the first part, and the search goes on at the space after
it. -/
theorem cut_at_connective (afterWord : Bool) {part : List Char}
    (absent : ∀ char ∈ part, char ≠ first) (notSpace : ' ' ≠ first) (rest : List Char) :
    cutFrom (first :: letters) afterWord 0 (part ++ ' ' :: (first :: letters ++ ' ' :: rest)) =
      (part ++ [' ']) :: cut (first :: letters) (' ' :: rest) := by
  induction part generalizing afterWord with
  | nil =>
      have alone : standsAlone (first :: letters) (isWord ' ') (first :: letters ++ ' ' :: rest) =
          true := by
        rw [standsAlone, after_append]
        rfl
      rw [List.nil_append, cut_other afterWord notSpace, List.cons_append, cutFrom,
        ← List.cons_append, alone, if_pos rfl, List.length_cons, Nat.add_sub_cancel]
      obtain ⟨flag, passed⟩ := cut_skip (first :: letters) (isWord first) letters (' ' :: rest)
      rw [passed, cut, cut_other flag notSpace, cut_other false notSpace]
      rfl
  | cons char part induction =>
      rw [List.cons_append, cut_other afterWord (absent char List.mem_cons_self),
        induction _ fun other member => absent other (List.mem_cons_of_mem _ member)]
      rfl

end

/-! ### The two levels -/

end PriceBoard.Query

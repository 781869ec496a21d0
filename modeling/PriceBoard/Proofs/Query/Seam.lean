import PriceBoard.Proofs.Query.Split

/-!
# Any two queries joined by a connective

Whether a word stands alone is seen from the characters next to it, and a space is as good a neighbour
as the end of a text. So a text is cut in front of a space as if it ended there, and two queries with
a connective between them are split into the parts of the one and the parts of the other, whatever
words they begin and end with.
-/
namespace PriceBoard.Query

open PriceBoard.Text

/-! ### Seams -/

/-- The last part of `left` and the first of `right` become one part. -/
def weld : List (List Char) → List (List Char) → List (List Char)
  | [], right => right
  | [part], [] => [part]
  | [part], next :: right => (part ++ next) :: right
  | part :: next :: left, right => part :: weld (next :: left) right

theorem weld_cons {part : List Char} {left : List (List Char)} (nonempty : left ≠ [])
    (right : List (List Char)) : weld (part :: left) right = part :: weld left right := by
  cases left with
  | nil => exact absurd rfl nonempty
  | cons next left => rfl

theorem weld_cons_first (char : Char) (left right : List (List Char)) :
    weld (consFirst char left) right = consFirst char (weld left right) := by
  match left, right with
  | [], [] => rfl
  | [], _ :: _ => rfl
  | [_], [] => rfl
  | [_], _ :: _ => rfl
  | _ :: _ :: _, _ => rfl

theorem cons_first_ne_nil (char : Char) (parts : List (List Char)) : consFirst char parts ≠ [] := by
  cases parts <;> exact List.cons_ne_nil _ _

theorem cut_from_ne_nil (word : List Char) (afterWord : Bool) (skip : Nat) (text : List Char) :
    cutFrom word afterWord skip text ≠ [] := by
  induction text generalizing afterWord skip with
  | nil => exact List.cons_ne_nil _ _
  | cons char text induction =>
      cases skip with
      | succ skip => exact induction (isWord char) skip
      | zero =>
          rw [cutFrom]
          split_ifs
          · exact List.cons_ne_nil _ _
          · exact cons_first_ne_nil char _

theorem cut_ne_nil (word text : List Char) : cut word text ≠ [] := cut_from_ne_nil word false 0 text

section

variable {word text : List Char} (spaceless : ∀ char ∈ word, char ≠ ' ')
include spaceless

theorem after_before_space (rest : List Char) :
    after? word (text ++ ' ' :: rest) = (after? word text).map (· ++ ' ' :: rest) := by
  induction word generalizing text with
  | nil => rfl
  | cons expected word induction =>
      cases text with
      | nil =>
          have differs : ' ' ≠ expected := fun same =>
            spaceless expected List.mem_cons_self same.symm
          exact if_neg differs
      | cons char text =>
          rw [List.cons_append, after?, after?]
          split_ifs
          · exact induction fun other member => spaceless other (List.mem_cons_of_mem _ member)
          · rfl

theorem stands_alone_before_space (afterWord : Bool) (rest : List Char) :
    standsAlone word afterWord (text ++ ' ' :: rest) = standsAlone word afterWord text := by
  rw [standsAlone, standsAlone, after_before_space spaceless]
  cases after? word text with
  | none => rfl
  | some remaining =>
      cases remaining with
      | nil => rfl
      | cons char remaining => rfl

end

theorem length_of_stands_alone {word text : List Char} {afterWord : Bool}
    (alone : standsAlone word afterWord text = true) : word.length ≤ text.length := by
  rw [standsAlone, Bool.and_eq_true] at alone
  cases found : after? word text with
  | none => simp [found] at alone
  | some remaining =>
      rw [eq_of_after found, List.length_append]
      omega

section

variable {first : Char} {letters : List Char} (spaceless : ∀ char ∈ first :: letters, char ≠ ' ')
include spaceless

theorem cut_space (afterWord : Bool) (rest : List Char) :
    cutFrom (first :: letters) afterWord 0 (' ' :: rest) =
      consFirst ' ' (cut (first :: letters) rest) :=
  cut_other afterWord (fun same => spaceless first List.mem_cons_self same.symm) rest

theorem cut_after_space (rest : List Char) :
    cut (first :: letters) (' ' :: rest) = consFirst ' ' (cut (first :: letters) rest) :=
  cut_space spaceless false rest

/-- Letters that are still to be passed over lie in front of the space. -/
theorem cut_from_before_space {text : List Char} (afterWord : Bool) {skip : Nat}
    (inside : skip ≤ text.length) (rest : List Char) :
    cutFrom (first :: letters) afterWord skip (text ++ ' ' :: rest) =
      weld (cutFrom (first :: letters) afterWord skip text)
        (cut (first :: letters) (' ' :: rest)) := by
  induction text generalizing afterWord skip with
  | nil =>
      cases skip with
      | succ skip => exact absurd inside (Nat.not_succ_le_zero skip)
      | zero =>
          rw [List.nil_append, cut_space spaceless, cut_after_space spaceless]
          cases cut (first :: letters) rest <;> rfl
  | cons char text induction =>
      cases skip with
      | succ skip => exact induction (isWord char) (Nat.le_of_succ_le_succ inside)
      | zero =>
          have same := @stands_alone_before_space _ (char :: text) spaceless afterWord rest
          rw [List.cons_append] at same ⊢
          rw [cutFrom, cutFrom, same]
          split_ifs with alone
          · have shorter : (first :: letters).length - 1 ≤ text.length := by
              have bound := length_of_stands_alone alone
              simp only [List.length_cons] at bound ⊢
              omega
            rw [induction (isWord char) shorter, weld_cons (cut_from_ne_nil _ _ _ _)]
          · rw [induction (isWord char) (Nat.zero_le _), weld_cons_first]

theorem cut_before_space (text rest : List Char) :
    cut (first :: letters) (text ++ ' ' :: rest) =
      weld (cut (first :: letters) text) (cut (first :: letters) (' ' :: rest)) :=
  cut_from_before_space spaceless false (Nat.zero_le _) rest

theorem cut_pair (left right : List Char) :
    cut (first :: letters) (joined (first :: letters) [left, right]) =
      weld (cut (first :: letters) left)
        ([' '] :: consFirst ' ' (cut (first :: letters) right)) := by
  have notSpace : ' ' ≠ first := fun same => spaceless first List.mem_cons_self same.symm
  have atSeam := @cut_at_connective first letters false []
    (fun _ member => absurd member List.not_mem_nil) notSpace right
  rw [List.nil_append, List.nil_append, cut_after_space spaceless] at atSeam
  change cut _ (left ++ ' ' :: (first :: letters ++ ' ' :: right)) = _
  rw [cut_before_space spaceless]
  exact congrArg (weld _) atSeam

end

/-! ### What spaces at the seams stand for -/

section

variable {Meaning : Type} {meaning : List Char → Meaning}
  (before : ∀ part, meaning (' ' :: part) = meaning part)
  (after : ∀ part, meaning (part ++ [' ']) = meaning part)

include before in
theorem map_cons_first_space {parts : List (List Char)} (nonempty : parts ≠ []) :
    (consFirst ' ' parts).map meaning = parts.map meaning := by
  cases parts with
  | nil => exact absurd rfl nonempty
  | cons part parts => rw [consFirst, List.map_cons, before, List.map_cons]

include after in
theorem map_weld_space {left : List (List Char)} (nonempty : left ≠ [])
    (right : List (List Char)) :
    (weld left ([' '] :: right)).map meaning = left.map meaning ++ right.map meaning := by
  induction left with
  | nil => exact absurd rfl nonempty
  | cons part left induction =>
      by_cases last : left = []
      · subst last
        rw [weld, List.map_cons, after]
        rfl
      · rw [weld_cons last, List.map_cons, induction last, List.map_cons, List.cons_append]

include before after in
theorem map_cut_pair {first : Char} {letters : List Char}
    (spaceless : ∀ char ∈ first :: letters, char ≠ ' ') (left right : List Char) :
    (cut (first :: letters) (joined (first :: letters) [left, right])).map meaning =
      (cut (first :: letters) left).map meaning ++ (cut (first :: letters) right).map meaning := by
  rw [cut_pair spaceless, map_weld_space after (cut_ne_nil _ _),
    map_cons_first_space before (cut_ne_nil _ _)]

end

theorem trim_after_space (text : List Char) : trim (' ' :: text) = trim text := by
  rw [trim, trimWith, List.dropWhile_cons_of_pos space_blank]
  rfl

theorem trim_before_space (text : List Char) : trim (text ++ [' ']) = trim text := by
  have blank : [' '].dropWhile isBlank = [] := List.dropWhile_cons_of_pos space_blank
  rw [trim, trim, trimWith, trimWith, List.dropWhile_append, blank]
  split_ifs with allBlank
  · rw [List.isEmpty_iff.mp allBlank]
  · rw [List.reverse_append, List.reverse_singleton, List.singleton_append,
      List.dropWhile_cons_of_pos space_blank]

/-! ### Clauses and groups -/

def clauses (group : List Char) : List (List Char) := (cut andWord group).map trim

theorem split_eq (query : List Char) : split query = (cut orWord query).map clauses := rfl

theorem and_spaceless : ∀ char ∈ andWord, char ≠ ' ' := by simp [andWord]

theorem or_spaceless : ∀ char ∈ orWord, char ≠ ' ' := by simp [orWord]

theorem clauses_after_space (group : List Char) : clauses (' ' :: group) = clauses group := by
  rw [clauses, andWord, cut_after_space and_spaceless,
    map_cons_first_space trim_after_space (cut_ne_nil _ _)]
  rfl

theorem clauses_before_space (group : List Char) : clauses (group ++ [' ']) = clauses group := by
  have welded := map_weld_space trim_before_space (cut_ne_nil andWord group) []
  rw [List.map_nil, List.append_nil] at welded
  rw [clauses, andWord, cut_before_space and_spaceless, cut_after_space and_spaceless]
  exact welded

theorem clauses_pair (left right : List Char) :
    clauses (joined andWord [left, right]) = clauses left ++ clauses right :=
  map_cut_pair trim_after_space trim_before_space and_spaceless left right

theorem split_pair (left right : List Char) :
    split (joined orWord [left, right]) = split left ++ split right :=
  map_cut_pair clauses_after_space clauses_before_space or_spaceless left right

/-! ### Texts without a lone word -/

/-- The word stands somewhere in the text with no word character on either side. -/
def HoldsLone (word text : List Char) : Prop :=
  ∃ before after, text = before ++ word ++ after ∧ startsWord before.reverse = false ∧
    startsWord after = false

/-- `seen` is what stands in front of the text that is still to be cut. -/
theorem cut_from_without_lone {word : List Char} (text seen : List Char)
    (absent : ¬HoldsLone word (seen ++ text)) :
    cutFrom word (startsWord seen.reverse) 0 text = [text] := by
  induction text generalizing seen with
  | nil => rfl
  | cons char text induction =>
      have notAlone : standsAlone word (startsWord seen.reverse) (char :: text) = false := by
        apply Bool.eq_false_iff.mpr
        intro alone
        rw [standsAlone, Bool.and_eq_true, Bool.not_eq_true'] at alone
        obtain ⟨separate, ends⟩ := alone
        cases found : after? word (char :: text) with
        | none => simp [found] at ends
        | some rest =>
            simp only [found, Bool.not_eq_true'] at ends
            exact absent ⟨seen, rest, by rw [eq_of_after found, List.append_assoc], separate, ends⟩
      have later := induction (seen ++ [char]) (by rwa [List.append_assoc])
      rw [List.reverse_append] at later
      rw [cutFrom, notAlone, if_neg Bool.false_ne_true]
      change consFirst char (cutFrom word (startsWord ([char].reverse ++ seen.reverse)) 0 text) = _
      rw [later]
      rfl

/-- The first part ends where the word first stands alone, if not before. -/
theorem first_part_stops {word part : List Char} (letters : word ≠ []) {rest : List (List Char)}
    (text seen : List Char) (parts : cutFrom word (startsWord seen.reverse) 0 text = part :: rest)
    {before after : List Char} (same : text = before ++ word ++ after)
    (begins : startsWord (seen ++ before).reverse = false) (ends : startsWord after = false) :
    part.length ≤ before.length := by
  -- On the way to where the word is found nothing is cut; `seen` is what has been passed.
  induction text generalizing seen before part rest with
  | nil =>
      rw [List.append_assoc] at same
      exact absurd (List.append_eq_nil_iff.mp (List.append_eq_nil_iff.mp same.symm).2).1 letters
  | cons char text induction =>
      by_cases alone : standsAlone word (startsWord seen.reverse) (char :: text) = true
      · rw [cutFrom, if_pos alone] at parts
        rw [← (List.cons.inj parts).1]
        exact Nat.zero_le _
      · cases before with
        | nil =>
            rw [List.nil_append] at same
            rw [List.append_nil] at begins
            rw [standsAlone, same, after_append, begins] at alone
            simp only [ends, Bool.not_false, Bool.and_self, not_true_eq_false] at alone
        | cons first before =>
            rw [List.cons_append, List.cons_append] at same
            obtain ⟨rfl, sameRest⟩ := List.cons.inj same
            rw [cutFrom, if_neg alone] at parts
            obtain ⟨next, more, nextParts⟩ :=
              List.exists_cons_of_ne_nil (cut_from_ne_nil word (isWord char) 0 text)
            rw [nextParts] at parts
            have later := induction (seen ++ [char]) (by rwa [List.reverse_append]) sameRest
              (by rwa [List.append_assoc])
            rw [← (List.cons.inj parts).1]
            exact Nat.succ_le_succ later

/-- A text stays whole exactly if the word does not stand alone in it. -/
theorem cut_eq_singleton_iff {word text : List Char} (letters : word ≠ []) :
    cut word text = [text] ↔ ¬HoldsLone word text := by
  constructor
  · rintro whole ⟨before, after, same, begins, ends⟩
    have stops := first_part_stops letters text [] whole same begins ends
    rw [same, List.length_append, List.length_append] at stops
    have positive := List.length_pos_of_ne_nil letters
    omega
  · exact cut_from_without_lone text []

theorem cut_or_without_lone {text : List Char} (absent : ¬HoldsLone orWord text) :
    cut orWord text = [text] :=
  (cut_eq_singleton_iff (by decide)).mpr absent

variable {left right : List Char}

theorem split_without_or (absent : ¬HoldsLone orWord left) : split left = [clauses left] := by
  rw [split_eq, cut_or_without_lone absent]
  rfl

theorem cut_or_after_and (absent : ¬HoldsLone orWord right) :
    cut orWord (andWord ++ ' ' :: right) = [andWord ++ ' ' :: right] := by
  change cutFrom ['O', 'R'] false 0 ('A' :: 'N' :: 'D' :: ' ' :: right) = _
  rw [cut_other false (by decide), cut_other _ (by decide), cut_other _ (by decide),
    cut_space or_spaceless]
  change consFirst 'A' (consFirst 'N' (consFirst 'D' (consFirst ' ' (cut orWord right)))) = _
  rw [cut_or_without_lone absent]
  rfl

/-- `AND` brings no `OR` with it. -/
theorem cut_or_and_pair (leftAbsent : ¬HoldsLone orWord left) (rightAbsent : ¬HoldsLone orWord right) :
    cut orWord (joined andWord [left, right]) = [joined andWord [left, right]] := by
  change cut orWord (left ++ ' ' :: (andWord ++ ' ' :: right)) = _
  have seam := cut_before_space or_spaceless left (andWord ++ ' ' :: right)
  rw [cut_after_space or_spaceless] at seam
  change cut orWord _ = weld (cut orWord left) (consFirst ' ' (cut orWord _)) at seam
  rw [seam, cut_or_without_lone leftAbsent, cut_or_after_and rightAbsent]
  rfl

theorem or_absent_of_and_pair (leftAbsent : ¬HoldsLone orWord left)
    (rightAbsent : ¬HoldsLone orWord right) : ¬HoldsLone orWord (joined andWord [left, right]) :=
  (cut_eq_singleton_iff (by decide)).mp (cut_or_and_pair leftAbsent rightAbsent)

theorem split_and_pair (leftAbsent : ¬HoldsLone orWord left) (rightAbsent : ¬HoldsLone orWord right) :
    split (joined andWord [left, right]) = [clauses left ++ clauses right] := by
  rw [split_eq, cut_or_and_pair leftAbsent rightAbsent, List.map_singleton, clauses_pair]

end PriceBoard.Query

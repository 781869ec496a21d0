import PriceBoard.Store.Index
import PriceBoard.Proofs.Store.Record

/-!
# An index of milliseconds

Every member of the index is the text of its score and the scores ascend strictly. Adding a
millisecond keeps this, and adds that one score.
-/
namespace PriceBoard

open PriceBoard.Decimal PriceBoard.DateTime

/-- The member is the text of the score, and the score a millisecond of the calendar. -/
structure IndexEntry.Named (entry : IndexEntry) : Prop where
  text : entry.member = intText entry.score
  inRange : MsInRange entry.score

namespace Index

def Ascending (index : Index) : Prop :=
  index.Pairwise fun left right => left.score < right.score

structure Wellformed (index : Index) : Prop where
  ascending : index.Ascending
  named : ∀ entry ∈ index, entry.member = intText entry.score
  inRange : ∀ entry ∈ index, MsInRange entry.score

theorem Wellformed.entry_named {index : Index} (wellformed : index.Wellformed) {entry : IndexEntry}
    (member : entry ∈ index) : entry.Named :=
  ⟨wellformed.named entry member, wellformed.inRange entry member⟩

def Holds (index : Index) (ms : ℤ) : Prop := ∃ entry ∈ index, entry.score = ms

theorem before_iff_of_ne {left right : IndexEntry} (differ : left.score ≠ right.score) :
    left.before right = true ↔ left.score < right.score := by
  simp [IndexEntry.before, differ]

theorem mem_place (entry other : IndexEntry) (index : Index) :
    other ∈ place entry index ↔ other = entry ∨ other ∈ index := by
  induction index with
  | nil => simp [place]
  | cons first rest induction =>
      rw [place]
      split_ifs
      · exact List.mem_cons
      · rw [List.mem_cons, induction, List.mem_cons]
        exact or_left_comm

theorem place_ascending {entry : IndexEntry} {index : Index} (ascending : index.Ascending)
    (fresh : ∀ other ∈ index, entry.score ≠ other.score) : (place entry index).Ascending := by
  induction index with
  | nil => exact List.pairwise_singleton _ _
  | cons first rest induction =>
      obtain ⟨above, restAscending⟩ := List.pairwise_cons.mp ascending
      have differ := fresh first List.mem_cons_self
      rw [place]
      split_ifs with before
      · have below := (before_iff_of_ne differ).mp before
        refine List.pairwise_cons.mpr ⟨fun other member => ?_, ascending⟩
        rcases List.mem_cons.mp member with rfl | inside
        · exact below
        · exact below.trans (above other inside)
      · have notBelow := (before_iff_of_ne differ).not.mp before
        refine List.pairwise_cons.mpr ⟨fun other member => ?_, ?_⟩
        · rcases (mem_place entry other rest).mp member with rfl | inside
          · omega
          · exact above other inside
        · exact induction restAscending fun other member =>
            fresh other (List.mem_cons_of_mem _ member)

theorem add_wellformed {index : Index} {ms : ℤ} (wellformed : index.Wellformed)
    (inRange : MsInRange ms) : (index.add (intText ms) ms).Wellformed := by
  have others : ∀ entry ∈ index.filter (·.member ≠ intText ms), entry ∈ index ∧ ms ≠ entry.score := by
    intro entry member
    obtain ⟨inside, differ⟩ := List.mem_filter.mp member
    refine ⟨inside, ?_⟩
    rintro rfl
    exact of_decide_eq_true differ (wellformed.named entry inside)
  constructor
  · exact place_ascending (wellformed.ascending.sublist List.filter_sublist) fun other member =>
      (others other member).2
  · intro entry member
    rcases (mem_place _ _ _).mp member with rfl | inside
    · rfl
    · exact wellformed.named entry (others entry inside).1
  · intro entry member
    rcases (mem_place _ _ _).mp member with rfl | inside
    · exact inRange
    · exact wellformed.inRange entry (others entry inside).1

theorem filter_wellformed {index : Index} (keep : IndexEntry → Bool)
    (wellformed : index.Wellformed) : Wellformed (index.filter keep) where
  ascending := wellformed.ascending.sublist List.filter_sublist
  named entry member := wellformed.named entry (List.mem_of_mem_filter member)
  inRange entry member := wellformed.inRange entry (List.mem_of_mem_filter member)

theorem holds_add {index : Index} {ms other : ℤ} (wellformed : index.Wellformed) :
    (index.add (intText ms) ms).Holds other ↔ other = ms ∨ index.Holds other := by
  constructor
  · rintro ⟨entry, member, rfl⟩
    rcases (mem_place _ _ _).mp member with rfl | inside
    · exact .inl rfl
    · exact .inr ⟨entry, List.mem_of_mem_filter inside, rfl⟩
  · rintro (rfl | ⟨entry, inside, rfl⟩)
    · exact ⟨⟨intText other, other⟩, (mem_place _ _ _).mpr (.inl rfl), rfl⟩
    · by_cases same : entry.score = ms
      · exact ⟨⟨intText ms, ms⟩, (mem_place _ _ _).mpr (.inl rfl), same.symm⟩
      · refine ⟨entry, (mem_place _ _ _).mpr (.inr (List.mem_filter.mpr ⟨inside, ?_⟩)), rfl⟩
        rw [decide_eq_true_iff, wellformed.named entry inside]
        exact fun text => same (int_text_injective text)

theorem holds_drop_below {index : Index} {low ms : ℤ} :
    (index.dropBelow low).Holds ms ↔ low ≤ ms ∧ index.Holds ms := by
  constructor
  · rintro ⟨entry, member, rfl⟩
    obtain ⟨inside, high⟩ := List.mem_filter.mp member
    exact ⟨of_decide_eq_true high, entry, inside, rfl⟩
  · rintro ⟨high, entry, inside, rfl⟩
    exact ⟨entry, List.mem_filter.mpr ⟨inside, decide_eq_true high⟩, rfl⟩

/-! ### Cuts -/

/-- Of ascending entries, those before a cut come first. -/
theorem filter_cut {entries : List IndexEntry} (ascending : Ascending entries)
    {early : IndexEntry → Bool}
    (closed : ∀ older newer : IndexEntry, older.score < newer.score → early newer = true →
      early older = true) :
    entries.filter early ++ entries.filter (fun entry => !early entry) = entries := by
  induction entries with
  | nil => rfl
  | cons first rest induction =>
      obtain ⟨above, restAscending⟩ := List.pairwise_cons.mp ascending
      by_cases before : early first = true
      · rw [List.filter_cons_of_pos before, List.filter_cons_of_neg (by simp [before]),
          List.cons_append, induction restAscending]
      · have noneBefore : ∀ entry ∈ first :: rest, ¬early entry = true := by
          intro entry member isEarly
          rcases List.mem_cons.mp member with rfl | inside
          · exact before isEarly
          · exact before (closed first entry (above entry inside) isEarly)
        have allAfter : (first :: rest).filter (fun entry => !early entry) = first :: rest := by
          apply List.filter_eq_self.mpr
          intro entry member
          simp [noneBefore entry member]
        rw [List.filter_eq_nil_iff.mpr noneBefore, allAfter, List.nil_append]

/-- From a score that is held, the entries are its own and then those above it. -/
theorem filter_from_held {index : Index} (ascending : index.Ascending) {entry : IndexEntry}
    (member : entry ∈ index) :
    index.filter (entry.score ≤ ·.score) = entry :: index.filter (entry.score < ·.score) := by
  induction index with
  | nil => exact absurd member List.not_mem_nil
  | cons first rest induction =>
      obtain ⟨above, restAscending⟩ := List.pairwise_cons.mp ascending
      rcases List.mem_cons.mp member with rfl | inside
      · have later : rest.filter (entry.score ≤ ·.score) = rest.filter (entry.score < ·.score) := by
          apply List.filter_congr
          intro other otherMember
          have before := above other otherMember
          simp [before, before.le]
        rw [List.filter_cons_of_pos (by simp), List.filter_cons_of_neg (by simp), later]
      · have before := above entry inside
        rw [List.filter_cons_of_neg (by simpa using before),
          List.filter_cons_of_neg (by simpa using before.le), induction restAscending inside]

end Index
end PriceBoard

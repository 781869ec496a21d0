import PriceBoard.Query.Compile
import PriceBoard.Proofs.Predicate.Soundness
import PriceBoard.Proofs.Results

/-!
# Compiled cutoffs have a known offset

A query that is read at a time with a known offset gives only cutoffs with a known offset, so its
predicate can be tested on every snapshot.
-/
namespace PriceBoard

namespace DateTime

variable {moment found : DateTime}

theorem at_wall_offset {micros : Int} (isFound : moment.atWall micros = .ok found) :
    found.offset = moment.offset := by
  unfold atWall at isFound
  cases wall : WallTime.ofMicros? micros with
  | none => simp [wall] at isFound
  | some wall' =>
      simp only [wall, Except.ok.injEq] at isFound
      rw [← isFound]

theorem month_before_offset (isFound : moment.monthBefore = .ok found) :
    found.offset = moment.offset := by
  simp only [monthBefore] at isFound
  by_cases beginning : (if moment.wall.date.month = 1 then (moment.wall.date.year - 1, 12)
    else (moment.wall.date.year, moment.wall.date.month - 1)).1 = 0
  · rw [if_pos beginning] at isFound
    cases isFound
  · rw [if_neg beginning] at isFound
    exact at_wall_offset isFound

theorem aware_of_offset (same : found.offset = moment.offset) (aware : moment.isAware = true) :
    found.isAware = true := by
  rw [isAware, same]
  exact aware

end DateTime

namespace Query

open DateTime

variable {context : Context} (aware : context.now.isAware = true)
include aware

theorem cutoff_aware {amount : List Char} {unit : SpanUnit} {found : DateTime}
    (isFound : cutoff context amount unit = .ok found) : found.isAware = true := by
  obtain ⟨span, _, subtracted⟩ := ok_of_bind isFound
  exact aware_of_offset (at_wall_offset (ok_of_map_error subtracted)) aware

theorem drop_cutoff_aware {ago : Option (List Char × SpanUnit)} {found : DateTime}
    (isFound : dropCutoff context ago = .ok found) : found.isAware = true := by
  cases ago with
  | none => exact cutoff_aware aware isFound
  | some span => exact cutoff_aware aware isFound

theorem named_time_aware {named : NamedTime} {found : DateTime}
    (isFound : named.resolve context.now = .ok found) : found.isAware = true := by
  unfold NamedTime.resolve at isFound
  cases named with
  | today =>
      rw [← Except.ok.inj isFound]
      exact aware
  | yesterday =>
      obtain ⟨span, _, subtracted⟩ := ok_of_bind isFound
      exact aware_of_offset (at_wall_offset subtracted) aware
  | lastWeek =>
      obtain ⟨span, _, subtracted⟩ := ok_of_bind isFound
      exact aware_of_offset (at_wall_offset subtracted) aware
  | lastMonth => exact aware_of_offset (month_before_offset isFound) aware

theorem read_date_aware {date : List Char} {found : DateTime}
    (isFound : readDate date context.now = .ok (some found)) : found.isAware = true := by
  simp only [readDate] at isFound
  split at isFound
  · obtain ⟨moment, resolved, same⟩ := ok_of_map isFound
    rw [← Option.some.inj same]
    exact named_time_aware aware resolved
  · obtain ⟨written, _, same⟩ := Option.map_eq_some_iff.mp (Except.ok.inj isFound)
    rw [← same]
    rfl

theorem phrase_aware {phrase : Phrase} {predicate : Predicate}
    (isFound : phrase.predicate context = .ok (some predicate)) : predicate.isAware = true := by
  cases phrase with
  | dropped value ago =>
      obtain ⟨found, isCutoff, rest⟩ := ok_of_bind isFound
      obtain ⟨value, _, same⟩ := ok_of_map rest
      rw [← Option.some.inj same]
      simpa [Predicate.isAware, Predicate.allAware] using drop_cutoff_aware aware isCutoff
  | rose value | fell value | sided _ _ value | compared _ _ value =>
      obtain ⟨value, _, same⟩ := ok_of_map isFound
      rw [← Option.some.inj same]
      rfl
  | between field low high =>
      obtain ⟨low, _, rest⟩ := ok_of_bind isFound
      obtain ⟨high, _, same⟩ := ok_of_map rest
      rw [← Option.some.inj same]
      rfl
  | withinLast amount unit =>
      obtain ⟨found, isCutoff, same⟩ := ok_of_map isFound
      rw [← Option.some.inj same]
      exact cutoff_aware aware isCutoff
  | dated edge date =>
      obtain ⟨found, isDate, same⟩ := ok_of_map isFound
      obtain ⟨moment, rfl, rfl⟩ := Option.map_eq_some_iff.mp same
      have known := read_date_aware aware (ok_of_map_error isDate)
      cases edge <;> exact known

variable {rules : List Rule}

theorem read_clause_aware {clause : List Char} {predicate : Predicate}
    (isFound : readClause rules context clause = .ok (some predicate)) :
    predicate.isAware = true := by
  unfold readClause at isFound
  split at isFound
  · exact nomatch isFound
  · exact phrase_aware aware isFound

theorem read_clauses_aware {clauses : List (List Char)} {predicates : List Predicate}
    (isFound : readClauses rules context clauses = .ok predicates) :
    ∀ predicate ∈ predicates, predicate.isAware = true := by
  induction clauses generalizing predicates with
  | nil =>
      cases isFound
      exact fun _ member => nomatch member
  | cons clause clauses induction =>
      cases first : readClause rules context clause with
      | error error => simp [readClauses, first] at isFound
      | ok given =>
          cases given with
          | none =>
              simp only [readClauses, first] at isFound
              exact induction isFound
          | some predicate =>
              simp only [readClauses, first] at isFound
              obtain ⟨rest, restFound, rfl⟩ := ok_of_map isFound
              intro other member
              rcases List.mem_cons.mp member with rfl | member
              · exact read_clause_aware aware first
              · exact induction restFound other member

omit aware in
theorem all_aware_of_each {predicates : List Predicate}
    (each : ∀ predicate ∈ predicates, predicate.isAware = true) :
    Predicate.allAware predicates = true := by
  induction predicates with
  | nil => rfl
  | cons first rest induction =>
      rw [Predicate.allAware, each first List.mem_cons_self, Bool.true_and]
      exact induction fun predicate member => each predicate (List.mem_cons_of_mem _ member)

omit aware in
theorem group_aware {predicates : List Predicate} {predicate : Predicate}
    (each : ∀ predicate ∈ predicates, predicate.isAware = true)
    (isGroup : groupPredicate? predicates = some predicate) : predicate.isAware = true := by
  match predicates with
  | [] => cases isGroup
  | [single] =>
      cases isGroup
      exact each predicate List.mem_cons_self
  | first :: second :: rest =>
      cases isGroup
      exact all_aware_of_each each

theorem read_groups_aware {groups : List (List (List Char))} {predicates : List Predicate}
    (isFound : readGroups rules context groups = .ok predicates) :
    ∀ predicate ∈ predicates, predicate.isAware = true := by
  induction groups generalizing predicates with
  | nil =>
      cases isFound
      exact fun _ member => nomatch member
  | cons group groups induction =>
      cases clauses : readClauses rules context group with
      | error error => simp [readGroups, clauses] at isFound
      | ok given =>
          simp only [readGroups, clauses] at isFound
          obtain ⟨rest, restFound, rfl⟩ := ok_of_map isFound
          cases isGroup : groupPredicate? given with
          | none => exact induction restFound
          | some predicate =>
              intro other member
              rcases List.mem_cons.mp member with rfl | member
              · exact group_aware (read_clauses_aware aware clauses) isGroup
              · exact induction restFound other member

theorem compile_aware {query : List Char} {predicate : Predicate}
    (compiled : compile context query = .ok predicate) : predicate.isAware = true := by
  unfold compile at compiled
  cases groups : readGroups Rule.all context (split query) with
  | error cause => simp [groups] at compiled
  | ok predicates =>
      simp only [groups] at compiled
      cases compiled
      exact all_aware_of_each (read_groups_aware aware groups)

omit aware in
/-- The error of a query holds the query as it was given. -/
theorem compile_error_query {query : List Char} {error : QueryError}
    (refused : compile context query = .error error) : error.query = query := by
  unfold compile at refused
  split at refused
  · cases refused
    rfl
  · cases refused

end Query
end PriceBoard

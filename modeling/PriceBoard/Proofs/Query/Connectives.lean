import PriceBoard.Proofs.Query.Awareness
import PriceBoard.Proofs.Query.Seam

/-!
# `OR` and `AND` mean disjunction and conjunction

Two texts joined by `OR` are refused if one of them is, and otherwise accept what one of them accepts.
Two texts without a lone `OR` that are joined by `AND` accept what both accept, where each has a clause
that gives a predicate; a text whose clauses all give nothing leaves no trace in the joined query.
-/
namespace PriceBoard.Query

open PriceBoard.Text

def Refuses (context : Context) (query : List Char) : Prop :=
  ∃ error, compile context query = .error error

def Answers (context : Context) (snapshot : Snapshot) (query : List Char) (accepted : Bool) : Prop :=
  ∃ predicate, compile context query = .ok predicate ∧ predicate.holds snapshot = .ok accepted

def Recognised (context : Context) (query : List Char) : Prop :=
  ∃ group ∈ split query, ∃ clause ∈ group, ∃ predicate,
    readClause Rule.all context clause = .ok (some predicate)

/-! ### Reading joined lists -/

section

variable {rules : List Rule} {context : Context}

theorem read_clauses_append (left right : List (List Char)) :
    readClauses rules context (left ++ right) =
      (readClauses rules context left).bind fun first =>
        (readClauses rules context right).map (first ++ ·) := by
  induction left with
  | nil => rw [List.nil_append]; cases readClauses rules context right <;> rfl
  | cons clause left induction =>
      rw [List.cons_append, readClauses, readClauses, induction]
      rcases readClause rules context clause with error | given
      · rfl
      · cases given with
        | none => rfl
        | some predicate =>
            cases readClauses rules context left with
            | error error => rfl
            | ok first => cases readClauses rules context right <;> rfl

def withGroup (predicates rest : List Predicate) : List Predicate :=
  match groupPredicate? predicates with
  | none => rest
  | some predicate => predicate :: rest

theorem read_groups_cons (group : List (List Char)) (groups : List (List (List Char))) :
    readGroups rules context (group :: groups) =
      (readClauses rules context group).bind fun predicates =>
        (readGroups rules context groups).map (withGroup predicates) := by
  rw [readGroups]
  cases readClauses rules context group <;> rfl

theorem with_group_append (predicates left right : List Predicate) :
    withGroup predicates (left ++ right) = withGroup predicates left ++ right := by
  unfold withGroup
  cases groupPredicate? predicates <;> rfl

theorem read_groups_append (left right : List (List (List Char))) :
    readGroups rules context (left ++ right) =
      (readGroups rules context left).bind fun first =>
        (readGroups rules context right).map (first ++ ·) := by
  induction left with
  | nil => rw [List.nil_append]; cases readGroups rules context right <;> rfl
  | cons group left induction =>
      rw [List.cons_append, read_groups_cons, read_groups_cons, induction]
      cases readClauses rules context group with
      | error error => rfl
      | ok predicates =>
          cases readGroups rules context left with
          | error error => rfl
          | ok first =>
              cases readGroups rules context right with
              | error error => rfl
              | ok second =>
                  exact congrArg Except.ok (with_group_append predicates first second)

theorem read_clauses_nil_iff {clauses : List (List Char)} {predicates : List Predicate}
    (read : readClauses rules context clauses = .ok predicates) :
    predicates ≠ [] ↔
      ∃ clause ∈ clauses, ∃ predicate, readClause rules context clause = .ok (some predicate) := by
  induction clauses generalizing predicates with
  | nil =>
      cases read
      simp
  | cons clause clauses induction =>
      cases first : readClause rules context clause with
      | error error => simp [readClauses, first] at read
      | ok given =>
          cases given with
          | none =>
              simp only [readClauses, first] at read
              simp [induction read, first]
          | some predicate =>
              simp only [readClauses, first] at read
              obtain ⟨rest, _, rfl⟩ := ok_of_map read
              simp [first]

end

/-! ### What groups accept -/

section

variable {snapshot : Snapshot} {left right predicates : List Predicate} {first second : Bool}

theorem some_holds_append (leftFound : Predicate.someHolds snapshot left = .ok first)
    (rightFound : Predicate.someHolds snapshot right = .ok second) :
    Predicate.someHolds snapshot (left ++ right) = .ok (first || second) := by
  induction left with
  | nil =>
      cases leftFound
      exact rightFound
  | cons child left induction =>
      revert leftFound
      rw [List.cons_append, Predicate.someHolds, Predicate.someHolds]
      rcases child.holds snapshot with error | (_ | _) <;> intro leftFound
      · cases leftFound
      · exact induction leftFound
      · cases leftFound
        rfl

theorem every_holds_append (leftFound : Predicate.everyHolds snapshot left = .ok first)
    (rightFound : Predicate.everyHolds snapshot right = .ok second) :
    Predicate.everyHolds snapshot (left ++ right) = .ok (first && second) := by
  induction left with
  | nil =>
      cases leftFound
      exact rightFound
  | cons child left induction =>
      revert leftFound
      rw [List.cons_append, Predicate.everyHolds, Predicate.everyHolds]
      rcases child.holds snapshot with error | (_ | _) <;> intro leftFound
      · cases leftFound
      · cases leftFound
        rfl
      · exact induction leftFound

theorem some_holds_singleton (predicate : Predicate) :
    Predicate.someHolds snapshot [predicate] = predicate.holds snapshot := by
  rw [Predicate.someHolds]
  rcases predicate.holds snapshot with error | (_ | _) <;> rfl

theorem every_holds_singleton (predicate : Predicate) :
    Predicate.everyHolds snapshot [predicate] = predicate.holds snapshot := by
  rw [Predicate.everyHolds]
  rcases predicate.holds snapshot with error | (_ | _) <;> rfl

/-- A group with predicates holds where they all do. -/
theorem with_group_holds (nonempty : predicates ≠ []) :
    Predicate.someHolds snapshot (withGroup predicates []) =
      Predicate.everyHolds snapshot predicates := by
  match predicates, nonempty with
  | [predicate], _ =>
      rw [every_holds_singleton]
      exact some_holds_singleton predicate
  | first :: second :: rest, _ => exact some_holds_singleton (.all (first :: second :: rest))

end

section

variable {rules : List Rule} {context : Context} (aware : context.now.isAware = true)
  (snapshot : Snapshot)
include aware

theorem every_holds_answers {clauses : List (List Char)} {predicates : List Predicate}
    (read : readClauses rules context clauses = .ok predicates) :
    ∃ accepted, Predicate.everyHolds snapshot predicates = .ok accepted := by
  rw [Predicate.every_holds_eq]
  obtain ⟨accepted, found, _⟩ := Predicate.all_m_total (Predicate.holds snapshot) predicates
    fun predicate member =>
      (Predicate.sound_of_aware predicate (read_clauses_aware aware read predicate member)).decided
  exact ⟨accepted, found⟩

theorem some_holds_answers {groups : List (List (List Char))} {predicates : List Predicate}
    (read : readGroups rules context groups = .ok predicates) :
    ∃ accepted, Predicate.someHolds snapshot predicates = .ok accepted := by
  induction groups generalizing predicates with
  | nil =>
      cases read
      exact ⟨false, rfl⟩
  | cons group groups induction =>
      rw [read_groups_cons] at read
      obtain ⟨given, givenFound, later⟩ := ok_of_bind read
      obtain ⟨rest, restFound, rfl⟩ := ok_of_map later
      obtain ⟨second, secondFound⟩ := induction restFound
      by_cases empty : given = []
      · subst empty
        exact ⟨second, secondFound⟩
      · obtain ⟨first, firstFound⟩ := every_holds_answers aware snapshot givenFound
        rw [← with_group_holds empty] at firstFound
        have whole := with_group_append given [] rest
        rw [List.nil_append] at whole
        rw [whole]
        exact ⟨first || second, some_holds_append firstFound secondFound⟩

end

/-! ### What queries accept -/

section

variable {context : Context} {snapshot : Snapshot} {query left right : List Char} {accepted : Bool}

theorem refuses_iff :
    Refuses context query ↔ ∃ cause, readGroups Rule.all context (split query) = .error cause := by
  rw [Refuses, compile]
  cases readGroups Rule.all context (split query) <;> simp

theorem answers_iff :
    Answers context snapshot query accepted ↔
      ∃ groups, readGroups Rule.all context (split query) = .ok groups ∧
        Predicate.someHolds snapshot groups = .ok accepted := by
  rw [Answers, compile]
  cases readGroups Rule.all context (split query) <;> simp [Predicate.holds]

theorem refuses_or_pair :
    Refuses context (joined orWord [left, right]) ↔ Refuses context left ∨ Refuses context right := by
  rw [refuses_iff, refuses_iff, refuses_iff, split_pair, read_groups_append]
  cases readGroups Rule.all context (split left) with
  | error cause => simp [Except.bind]
  | ok first =>
      cases readGroups Rule.all context (split right) <;> simp [Except.bind, Except.map]

theorem answers_or_pair {first second : Bool} (leftAnswers : Answers context snapshot left first)
    (rightAnswers : Answers context snapshot right second) :
    Answers context snapshot (joined orWord [left, right]) (first || second) := by
  obtain ⟨leftGroups, leftRead, leftHolds⟩ := answers_iff.mp leftAnswers
  obtain ⟨rightGroups, rightRead, rightHolds⟩ := answers_iff.mp rightAnswers
  apply answers_iff.mpr
  refine ⟨leftGroups ++ rightGroups, ?_, some_holds_append leftHolds rightHolds⟩
  rw [split_pair, read_groups_append, leftRead, rightRead]
  rfl

/-- A query of one clause asks what the clause asks. -/
theorem compile_clause {predicate : Predicate} (whole : split query = [[query]])
    (read : readClause Rule.all context query = .ok (some predicate)) :
    compile context query = .ok (.any [predicate]) := by
  simp only [compile, whole, readGroups, readClauses, read]
  rfl

theorem answers_clause {predicate : Predicate} (whole : split query = [[query]])
    (read : readClause Rule.all context query = .ok (some predicate))
    (holds : predicate.holds snapshot = .ok accepted) : Answers context snapshot query accepted := by
  refine ⟨_, compile_clause whole read, ?_⟩
  rw [Predicate.holds, some_holds_singleton]
  exact holds

/-- Of a text without a lone `OR` there is one group. -/
theorem read_single (absent : ¬HoldsLone orWord query) :
    readGroups Rule.all context (split query) =
      (readClauses Rule.all context (clauses query)).map (withGroup · []) := by
  rw [split_without_or absent, read_groups_cons]
  cases readClauses Rule.all context (clauses query) <;> rfl

theorem recognised_iff (absent : ¬HoldsLone orWord query) {predicates : List Predicate}
    (read : readClauses Rule.all context (clauses query) = .ok predicates) :
    Recognised context query ↔ predicates ≠ [] := by
  rw [read_clauses_nil_iff read, Recognised, split_without_or absent]
  simp

/-- What a text without a lone `OR` is read as, if it is not refused. -/
theorem read_of_not_refused (absent : ¬HoldsLone orWord query) (accepted : ¬Refuses context query) :
    ∃ predicates, readClauses Rule.all context (clauses query) = .ok predicates ∧
      readGroups Rule.all context (split query) = .ok (withGroup predicates []) := by
  rw [refuses_iff, read_single absent] at accepted
  rw [read_single absent]
  cases read : readClauses Rule.all context (clauses query) with
  | error cause => exact absurd ⟨cause, by rw [read]; rfl⟩ accepted
  | ok predicates => exact ⟨predicates, rfl, rfl⟩

theorem read_and_pair {first second : List Predicate} (leftAbsent : ¬HoldsLone orWord left)
    (rightAbsent : ¬HoldsLone orWord right)
    (leftRead : readClauses Rule.all context (clauses left) = .ok first)
    (rightRead : readClauses Rule.all context (clauses right) = .ok second) :
    readGroups Rule.all context (split (joined andWord [left, right])) =
      .ok (withGroup (first ++ second) []) := by
  rw [split_and_pair leftAbsent rightAbsent, read_groups_cons, read_clauses_append, leftRead,
    rightRead]
  rfl

theorem answers_of_not_refused (aware : context.now.isAware = true)
    (accepted : ¬Refuses context query) : ∃ answer, Answers context snapshot query answer := by
  cases read : readGroups Rule.all context (split query) with
  | error cause => exact absurd (refuses_iff.mpr ⟨cause, read⟩) accepted
  | ok groups =>
      obtain ⟨answer, found⟩ := some_holds_answers aware snapshot read
      exact ⟨answer, answers_iff.mpr ⟨groups, read, found⟩⟩

theorem answers_and_pair {first second : Bool} (leftAbsent : ¬HoldsLone orWord left)
    (rightAbsent : ¬HoldsLone orWord right) (leftRecognised : Recognised context left)
    (rightRecognised : Recognised context right) (leftAnswers : Answers context snapshot left first)
    (rightAnswers : Answers context snapshot right second) :
    Answers context snapshot (joined andWord [left, right]) (first && second) := by
  have every {text : List Char} {answer : Bool} (absent : ¬HoldsLone orWord text)
      (recognised : Recognised context text) (answers : Answers context snapshot text answer) :
      ∃ predicates, readClauses Rule.all context (clauses text) = .ok predicates ∧
        predicates ≠ [] ∧ Predicate.everyHolds snapshot predicates = .ok answer := by
    obtain ⟨groups, groupsRead, holds⟩ := answers_iff.mp answers
    rw [read_single absent] at groupsRead
    obtain ⟨predicates, read, rfl⟩ := ok_of_map groupsRead
    have nonempty := (recognised_iff absent read).mp recognised
    exact ⟨predicates, read, nonempty, (with_group_holds nonempty).symm.trans holds⟩
  obtain ⟨leftPredicates, leftRead, nonempty, leftHold⟩ :=
    every leftAbsent leftRecognised leftAnswers
  obtain ⟨rightPredicates, rightRead, _, rightHold⟩ :=
    every rightAbsent rightRecognised rightAnswers
  apply answers_iff.mpr
  refine ⟨_, read_and_pair leftAbsent rightAbsent leftRead rightRead, ?_⟩
  rw [with_group_holds fun empty => nonempty (List.append_eq_nil_iff.mp empty).1]
  exact every_holds_append leftHold rightHold

theorem compile_and_pair_unrecognised (leftAbsent : ¬HoldsLone orWord left)
    (rightAbsent : ¬HoldsLone orWord right) (leftAccepted : ¬Refuses context left)
    (rightAccepted : ¬Refuses context right) (unrecognised : ¬Recognised context left) :
    ∃ predicate, compile context right = .ok predicate ∧
      compile context (joined andWord [left, right]) = .ok predicate := by
  obtain ⟨first, leftRead, _⟩ := read_of_not_refused leftAbsent leftAccepted
  obtain ⟨second, rightRead, wholeRead⟩ := read_of_not_refused rightAbsent rightAccepted
  have empty : first = [] := by
    by_contra nonempty
    exact unrecognised ((recognised_iff leftAbsent leftRead).mpr nonempty)
  subst empty
  refine ⟨.any (withGroup second []), ?_, ?_⟩
  · rw [compile, wholeRead]
  · rw [compile, read_and_pair leftAbsent rightAbsent leftRead rightRead]
    rfl

end

/-- What `OR` and `AND` between any two texts mean. Clauses count as recognised if they give a
predicate; an unreadable date gives none. -/
theorem connectives_join_meanings (context : Context) (aware : context.now.isAware = true)
    (snapshot : Snapshot) (left right : List Char) :
    (Refuses context (joined orWord [left, right]) ↔
      Refuses context left ∨ Refuses context right) ∧
    (¬Refuses context left → ¬Refuses context right →
      ∃ first second, Answers context snapshot left first ∧ Answers context snapshot right second ∧
        Answers context snapshot (joined orWord [left, right]) (first || second) ∧
        (¬HoldsLone orWord left → ¬HoldsLone orWord right →
          (Recognised context left → Recognised context right →
            Answers context snapshot (joined andWord [left, right]) (first && second)) ∧
          (¬Recognised context left →
            ∃ predicate, compile context right = .ok predicate ∧
              compile context (joined andWord [left, right]) = .ok predicate))) := by
  refine ⟨refuses_or_pair, ?_⟩
  intro leftAccepted rightAccepted
  obtain ⟨first, leftAnswers⟩ := @answers_of_not_refused _ snapshot _ aware leftAccepted
  obtain ⟨second, rightAnswers⟩ := @answers_of_not_refused _ snapshot _ aware rightAccepted
  refine ⟨first, second, leftAnswers, rightAnswers, answers_or_pair leftAnswers rightAnswers, ?_⟩
  intro leftAbsent rightAbsent
  constructor
  · intro leftRecognised rightRecognised
    exact answers_and_pair leftAbsent rightAbsent leftRecognised rightRecognised leftAnswers
      rightAnswers
  · exact compile_and_pair_unrecognised leftAbsent rightAbsent leftAccepted rightAccepted

def secondNoon : Context := ⟨⟨⟨129600000000, by decide⟩, some Offset.utc⟩, ["gold"]⟩

/-- At the midnight before, the only time that is neither before today nor after it. -/
theorem connectives_join_meanings_at_midnight :
    Refuses secondNoon (joined orWord ["OR".toList, "x > .".toList]) ∧
      Answers secondNoon ⟨⟨86400000000, by decide⟩, []⟩
        (joined orWord ["timestamp after today".toList, "timestamp before today".toList]) true ∧
      Answers secondNoon ⟨⟨86400000000, by decide⟩, []⟩
        (joined andWord ["timestamp after today".toList, "timestamp before today".toList]) true ∧
      compile secondNoon (joined andWord ["xOR".toList, "timestamp after today".toList]) =
        .ok (.any [.timeAfter ⟨⟨86400000000, by decide⟩, some Offset.utc⟩]) := by
  have aware : secondNoon.now.isAware = true := rfl
  have compiled : compile secondNoon "timestamp after today".toList =
      .ok (.any [.timeAfter ⟨⟨86400000000, by decide⟩, some Offset.utc⟩]) := rfl
  have compiledOther : compile secondNoon "timestamp before today".toList =
      .ok (.any [.timeBefore ⟨⟨86400000000, by decide⟩, some Offset.utc⟩]) := rfl
  have compiledNothing : compile secondNoon "xOR".toList = .ok (.any []) := rfl
  have accepted {text : List Char} {predicate : Predicate}
      (isCompiled : compile secondNoon text = .ok predicate) : ¬Refuses secondNoon text := by
    rintro ⟨error, refused⟩
    exact nomatch isCompiled.symm.trans refused
  have answer {text : List Char} {predicate : Predicate} {given : Bool}
      (isCompiled : compile secondNoon text = .ok predicate)
      (holds : predicate.holds ⟨⟨86400000000, by decide⟩, []⟩ = .ok true)
      (answers : Answers secondNoon ⟨⟨86400000000, by decide⟩, []⟩ text given) : given = true := by
    obtain ⟨other, otherCompiled, found⟩ := answers
    cases isCompiled.symm.trans otherCompiled
    exact Except.ok.inj (found.symm.trans holds)
  have absent {text : List Char} (whole : cut orWord text = [text]) : ¬HoldsLone orWord text :=
    (cut_eq_singleton_iff (by decide)).mp whole
  have recognised {text : List Char} {predicate : Predicate} (whole : split text = [[text]])
      (read : readClause Rule.all secondNoon text = .ok (some predicate)) :
      Recognised secondNoon text :=
    ⟨[text], by rw [whole]; exact List.mem_cons_self, text, List.mem_cons_self, predicate, read⟩
  have refusal := connectives_join_meanings secondNoon aware ⟨⟨86400000000, by decide⟩, []⟩
    "OR".toList "x > .".toList
  have both := connectives_join_meanings secondNoon aware ⟨⟨86400000000, by decide⟩, []⟩
    "timestamp after today".toList "timestamp before today".toList
  have dropped := connectives_join_meanings secondNoon aware ⟨⟨86400000000, by decide⟩, []⟩
    "xOR".toList "timestamp after today".toList
  obtain ⟨first, second, firstAnswers, secondAnswers, orAnswers, andAnswers⟩ :=
    both.2 (accepted compiled) (accepted compiledOther)
  cases answer compiled rfl firstAnswers
  cases answer compiledOther rfl secondAnswers
  obtain ⟨_, _, _, _, _, unchanged⟩ := dropped.2 (accepted compiledNothing) (accepted compiled)
  refine ⟨refusal.1.mpr (.inr ⟨_, rfl⟩), orAnswers, ?_, ?_⟩
  · exact (andAnswers (absent rfl) (absent rfl)).1 (recognised rfl rfl) (recognised rfl rfl)
  · have unrecognised : ¬Recognised secondNoon "xOR".toList := by
      rintro ⟨group, isGroup, clause, isClause, predicate, read⟩
      cases List.mem_singleton.mp isGroup
      cases List.mem_singleton.mp isClause
      have nothing : readClause Rule.all secondNoon "xOR".toList = .ok none := rfl
      exact nomatch nothing.symm.trans read
    obtain ⟨predicate, alone, joined⟩ := (unchanged (absent rfl) (absent rfl)).2 unrecognised
    rw [joined, ← alone, compiled]

end PriceBoard.Query

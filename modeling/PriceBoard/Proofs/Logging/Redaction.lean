import PriceBoard.Logging.Redaction
import PriceBoard.Proofs.Text.Scan
import Mathlib.Data.List.Forall2

/-!
# What redaction hides

Redaction goes into tables at any depth and into no list. So two tables that differ under sensitive keys
only are shown alike exactly when the lists that redaction meets in them are the same, and always where
no sensitive key stands inside these lists.
-/
namespace PriceBoard.Logging

open PriceBoard.Text

/-! ### Sensitive keys -/

/-- The key holds one of the patterns, both in lower case. -/
def Sensitive (patterns : List String) (key : String) : Prop :=
  ∃ pattern ∈ patterns, lowercase pattern.toList <:+: lowercase key.toList

theorem contains_iff {part text : List Char} : contains part text = true ↔ part <:+: text := by
  rw [contains, search_is_some_iff, List.infix_iff_prefix_suffix]
  constructor
  · rintro ⟨suffix, isSuffix, found⟩
    exact ⟨suffix, after_is_some_iff.mp found, isSuffix⟩
  · rintro ⟨suffix, begins, isSuffix⟩
    exact ⟨suffix, isSuffix, after_is_some_iff.mpr begins⟩

theorem mentions_iff {patterns : List String} {key : String} :
    mentions patterns key = true ↔ Sensitive patterns key := by
  simp only [mentions, List.any_eq_true, contains_iff, Sensitive]

/-! ### Values that differ under sensitive keys only -/

variable {patterns : List String}

mutual

/-- The same value, but for what stands under sensitive keys in it, at any depth. -/
inductive Alike (patterns : List String) : Json → Json → Prop where
  | same (value : Json) : Alike patterns value value
  | array {left right : List Json} : AlikeItems patterns left right →
      Alike patterns (.array left) (.array right)
  | object {left right : List (String × Json)} : AlikeMembers patterns left right →
      Alike patterns (.object left) (.object right)

inductive AlikeItems (patterns : List String) : List Json → List Json → Prop where
  | nil : AlikeItems patterns [] []
  | cons {left right : Json} {lefts rights : List Json} : Alike patterns left right →
      AlikeItems patterns lefts rights → AlikeItems patterns (left :: lefts) (right :: rights)

inductive AlikeMembers (patterns : List String) :
    List (String × Json) → List (String × Json) → Prop where
  | nil : AlikeMembers patterns [] []
  | hidden {key : String} (left right : Json) {lefts rights : List (String × Json)} :
      Sensitive patterns key → AlikeMembers patterns lefts rights →
      AlikeMembers patterns ((key, left) :: lefts) ((key, right) :: rights)
  | shown (key : String) {left right : Json} {lefts rights : List (String × Json)} :
      Alike patterns left right → AlikeMembers patterns lefts rights →
      AlikeMembers patterns ((key, left) :: lefts) ((key, right) :: rights)

end

theorem alike_of_eq {left right : Json} (same : left = right) : Alike patterns left right := by
  rw [same]
  exact .same right

theorem alike_items_refl (items : List Json) : AlikeItems patterns items items := by
  induction items with
  | nil => exact .nil
  | cons item items induction => exact .cons (.same item) induction

mutual

def Clear (patterns : List String) : Json → Prop
  | .array items => ClearItems patterns items
  | .object members => ClearMembers patterns members
  | _ => True

def ClearItems (patterns : List String) : List Json → Prop
  | [] => True
  | item :: items => Clear patterns item ∧ ClearItems patterns items

def ClearMembers (patterns : List String) : List (String × Json) → Prop
  | [] => True
  | (key, value) :: members =>
    ¬Sensitive patterns key ∧ Clear patterns value ∧ ClearMembers patterns members

end

mutual

/-- Where no key is sensitive, nothing may differ. -/
theorem eq_of_clear (left : Json) {right : Json} (alike : Alike patterns left right)
    (clear : Clear patterns left) : left = right := by
  cases alike with
  | same => rfl
  | @array lefts _ items => exact congrArg Json.array (items_eq_of_clear lefts items clear)
  | @object lefts _ members => exact congrArg Json.object (members_eq_of_clear lefts members clear)

theorem items_eq_of_clear (lefts : List Json) {rights : List Json}
    (alike : AlikeItems patterns lefts rights) (clear : ClearItems patterns lefts) :
    lefts = rights := by
  cases alike with
  | nil => rfl
  | @cons left _ lefts _ item items =>
      rw [eq_of_clear left item clear.1, items_eq_of_clear lefts items clear.2]

theorem members_eq_of_clear (lefts : List (String × Json)) {rights : List (String × Json)}
    (alike : AlikeMembers patterns lefts rights) (clear : ClearMembers patterns lefts) :
    lefts = rights := by
  cases alike with
  | nil => rfl
  | hidden _ _ sensitive _ => exact absurd sensitive clear.1
  | @shown key left _ lefts _ value members =>
      rw [eq_of_clear left value clear.2.1, members_eq_of_clear lefts members clear.2.2]

end

/-! ### The lists that redaction meets -/

mutual

def shownLists (patterns : List String) : Json → List (List Json)
  | .array items => [items]
  | .object members => memberLists patterns members
  | _ => []

/-- The lists that are shown of a table: those under no sensitive key and in no other list. -/
def memberLists (patterns : List String) : List (String × Json) → List (List Json)
  | [] => []
  | (key, value) :: members =>
    (if mentions patterns key then [] else shownLists patterns value) ++ memberLists patterns members

end

mutual

theorem shown_lists_alike (left : Json) {right : Json} (alike : Alike patterns left right) :
    List.Forall₂ (AlikeItems patterns) (shownLists patterns left) (shownLists patterns right) := by
  cases alike with
  | same => exact List.forall₂_same.mpr fun items _ => alike_items_refl items
  | array items => exact .cons items .nil
  | @object lefts _ members => exact member_lists_alike lefts members

theorem member_lists_alike (lefts : List (String × Json)) {rights : List (String × Json)}
    (alike : AlikeMembers patterns lefts rights) :
    List.Forall₂ (AlikeItems patterns) (memberLists patterns lefts)
      (memberLists patterns rights) := by
  cases alike with
  | nil => exact .nil
  | @hidden key _ _ lefts _ sensitive members =>
      simp only [memberLists, if_pos (mentions_iff.mpr sensitive), List.nil_append]
      exact member_lists_alike lefts members
  | @shown key left right lefts _ value members =>
      simp only [memberLists]
      apply List.rel_append
      · split_ifs
        · exact .nil
        · exact shown_lists_alike left value
      · exact member_lists_alike lefts members

end

theorem lists_eq_of_clear {lefts rights : List (List Json)}
    (alike : List.Forall₂ (AlikeItems patterns) lefts rights)
    (clear : ∀ items ∈ lefts, ClearItems patterns items) : lefts = rights := by
  induction alike with
  | nil => rfl
  | @cons left _ _ _ items _ induction =>
      obtain ⟨first, rest⟩ := List.forall_mem_cons.mp clear
      rw [items_eq_of_clear left items first, induction rest]

/-! ### What is shown -/

mutual

theorem redact_value_eq_iff (left : Json) {right : Json} (alike : Alike patterns left right) :
    redactValue patterns left = redactValue patterns right ↔
      shownLists patterns left = shownLists patterns right := by
  cases alike with
  | same => simp only
  | array items => simp only [redactValue, shownLists, Json.array.injEq, List.cons.injEq, and_true]
  | @object lefts _ members =>
      simp only [redactValue, shownLists, Json.object.injEq]
      exact redact_eq_iff lefts members

theorem redact_eq_iff (lefts : List (String × Json)) {rights : List (String × Json)}
    (alike : AlikeMembers patterns lefts rights) :
    redact patterns lefts = redact patterns rights ↔
      memberLists patterns lefts = memberLists patterns rights := by
  cases alike with
  | nil => simp only
  | @hidden key _ _ lefts _ sensitive members =>
      simp only [redact, memberLists, if_pos (mentions_iff.mpr sensitive), List.cons.injEq, true_and,
        List.nil_append]
      exact redact_eq_iff lefts members
  | @shown key left right lefts _ value members =>
      have rest := redact_eq_iff lefts members
      simp only [redact, memberLists, List.cons.injEq, Prod.mk.injEq, true_and, rest]
      split_ifs with sensitive
      · simp only [true_and, List.nil_append]
      · -- as many lists are shown on both sides, so the appended ones can be told apart
        have sameNumber := (shown_lists_alike left value).length_eq
        rw [redact_value_eq_iff left value]
        constructor
        · rintro ⟨first, others⟩
          rw [first, others]
        · exact fun joined => List.append_inj joined sameNumber

end

mutual

theorem alike_of_redact_value (left : Json) {right : Json}
    (shown : redactValue patterns left = redactValue patterns right) :
    Alike patterns left right := by
  cases left with
  | object lefts =>
      cases right with
      | object rights => exact .object (alike_of_redact lefts (Json.object.inj shown))
      | _ => simp [redactValue] at shown
  | _ =>
      cases right with
      | object rights => simp [redactValue] at shown
      | _ => exact alike_of_eq shown

/-- Redaction hides nothing but what stands under sensitive keys. -/
theorem alike_of_redact (lefts : List (String × Json)) {rights : List (String × Json)}
    (shown : redact patterns lefts = redact patterns rights) : AlikeMembers patterns lefts rights := by
  match lefts, rights with
  | [], [] => exact .nil
  | [], _ :: _ => simp [redact] at shown
  | _ :: _, [] => simp [redact] at shown
  | (key, left) :: lefts, (other, right) :: rights =>
      simp only [redact, List.cons.injEq, Prod.mk.injEq] at shown
      obtain ⟨⟨rfl, value⟩, rest⟩ := shown
      have members := alike_of_redact lefts rest
      by_cases sensitive : mentions patterns key = true
      · exact .hidden left right (mentions_iff.mp sensitive) members
      · rw [if_neg sensitive, if_neg sensitive] at value
        exact .shown key (alike_of_redact_value left value) members

end

/-- Two tables are shown alike exactly when they differ under sensitive keys only and the lists that are
shown of them are the same. Where no sensitive key stands in these lists, the former is enough. -/
theorem only_shown_lists_tell (patterns : List String) (left right : List (String × Json)) :
    (redact patterns left = redact patterns right ↔
      AlikeMembers patterns left right ∧ memberLists patterns left = memberLists patterns right) ∧
    (AlikeMembers patterns left right →
      (∀ items ∈ memberLists patterns left, ClearItems patterns items) →
      redact patterns left = redact patterns right) := by
  constructor
  · constructor
    · intro shown
      have alike := alike_of_redact left shown
      exact ⟨alike, (redact_eq_iff left alike).mp shown⟩
    · rintro ⟨alike, sameLists⟩
      exact (redact_eq_iff left alike).mpr sameLists
  · intro alike clear
    exact (redact_eq_iff left alike).mpr (lists_eq_of_clear (member_lists_alike left alike) clear)

def userRecord (password : String) : List (String × Json) :=
  [("user", .object [("My_Password", .string password), ("roles", .array [.string "admin"])])]

theorem only_shown_lists_tell_of_user :
    AlikeMembers ["password"] (userRecord "hunter2") (userRecord "swordfish") ∧
      (∀ items ∈ memberLists ["password"] (userRecord "hunter2"), ClearItems ["password"] items) ∧
      redact ["password"] (userRecord "hunter2") = redact ["password"] (userRecord "swordfish") := by
  have secret : Sensitive ["password"] "My_Password" := mentions_iff.mp (by decide +kernel)
  have alike : AlikeMembers ["password"] (userRecord "hunter2") (userRecord "swordfish") :=
    .shown "user" (.object (.hidden _ _ secret (.shown "roles" (.same _) .nil))) .nil
  have lists : memberLists ["password"] (userRecord "hunter2") = [[.string "admin"]] := by
    have plain : mentions ["password"] "user" = false := by decide +kernel
    have roles : mentions ["password"] "roles" = false := by decide +kernel
    simp [userRecord, memberLists, shownLists, mentions_iff.mpr secret, plain, roles]
  have clear : ∀ items ∈ memberLists ["password"] (userRecord "hunter2"),
      ClearItems ["password"] items := by
    rw [lists]
    exact List.forall_mem_singleton.mpr ⟨trivial, trivial⟩
  exact ⟨alike, clear, (only_shown_lists_tell ["password"] _ _).2 alike clear⟩

def accountList (password : String) : List (String × Json) :=
  [("accounts", .array [.object [("password", .string password)]])]

/-- Two tables that differ under a sensitive key only, in a list, are told apart. -/
theorem password_in_list_shown :
    AlikeMembers ["password"] (accountList "hunter2") (accountList "swordfish") ∧
      redact ["password"] (accountList "hunter2") ≠ redact ["password"] (accountList "swordfish") := by
  have secret : Sensitive ["password"] "password" := mentions_iff.mp (by decide +kernel)
  have plain : mentions ["password"] "accounts" = false := by decide +kernel
  constructor
  · exact .shown "accounts" (.array (.cons (.object (.hidden _ _ secret .nil)) .nil)) .nil
  · simp [accountList, redact, redactValue, plain]

end PriceBoard.Logging

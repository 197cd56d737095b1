import SignOn.Gateway.Route
import SignOn.Proofs.Text.Cutting

/-
This file shows which paths a route can be made of.
-/

namespace SignOn.Gateway

open SignOn.Text

namespace Route

/-- A segment stands for itself, or it ends in a colon and the name of what it takes. -/
inductive IsSegment : List Char → Prop
  | plain {segment : List Char} (unmarked : ∀ character ∈ segment, isMark character = false) :
      IsSegment segment
  | named {before name : List Char} (unmarked : ∀ character ∈ before, isMark character = false)
      (nonempty : name ≠ []) (unmarkedName : ∀ character ∈ name, isMark character = false) :
      IsSegment (before ++ ':' :: name)

/-- A rest is a star and the name of what it takes. -/
inductive IsRest : List Char → Prop
  | named {name : List Char} (nonempty : name ≠ [])
      (unmarked : ∀ character ∈ name, isMark character = false) : IsRest ('*' :: name)

/--
A route is made of a path that begins with a slash, behind which stand segments, of which only the
last one may take the rest. It has no more names than a route can.
-/
structure IsRoute (path : String) : Prop where
  segmented : ∃ leading last, path.toList = '/' :: ['/'].intercalate (leading ++ [last]) ∧
    (∀ segment ∈ leading ++ [last], '/' ∉ segment) ∧ (∀ segment ∈ leading, IsSegment segment) ∧
    (IsSegment last ∨ IsRest last)
  fewNames : path.toList.count ':' ≤ nameLimit

section Segment

variable {before name : List Char} (unmarked : ∀ character ∈ before, isMark character = false)

include unmarked

/-- A segment without marks stands for itself wherever it is. -/
theorem checkSegment_of_unmarked (isLast : Bool) : checkSegment isLast before = .ok () := by
  have all : before.dropWhile (!isMark ·) = [] := by
    simpa [List.dropWhile_eq_nil_iff] using unmarked
  rw [checkSegment, all]

/-- A segment is checked from its first mark on. -/
theorem checkSegment_append (isLast : Bool) {mark : Char} (marks : isMark mark = true) :
    checkSegment isLast (before ++ mark :: name) =
      if name.any isMark then .error .routeWithMisplacedMark
      else if name.isEmpty then .error .routeWithoutName
      else if mark == '*' && !(isLast && (before ++ mark :: name).head? == some '*') then
        .error .routeWithMisplacedMark
      else .ok () := by
  have behind : (before ++ mark :: name).dropWhile (!isMark ·) = mark :: name := by
    rw [List.dropWhile_append_of_pos (by simpa using unmarked), List.dropWhile_cons_of_neg]
    simp [marks]
  rw [checkSegment, behind]

end Segment

/-- A segment passes when it is one, and as the last one also when it is a rest. -/
theorem checkSegment_eq_ok_iff (isLast : Bool) (segment : List Char) :
    checkSegment isLast segment = .ok () ↔
      IsSegment segment ∨ isLast = true ∧ IsRest segment := by
  constructor
  · intro passes
    rcases eq_append_or_unbroken isMark segment with
      ⟨before, mark, name, rfl, marks, unmarked⟩ | unmarked
    · rw [checkSegment_append unmarked isLast marks] at passes
      split_ifs at passes with markedName nameless misplaced
      have unmarkedName : ∀ character ∈ name, isMark character = false := by
        simpa using markedName
      have nonempty : name ≠ [] := by simpa using nameless
      by_cases colon : mark = ':'
      · subst colon
        exact Or.inl (.named unmarked nonempty unmarkedName)
      · have star : mark = '*' := by simpa [isMark, colon] using marks
        subst star
        obtain ⟨rfl, first⟩ : isLast = true ∧ (before ++ '*' :: name).head? = some '*' := by
          simpa using misplaced
        -- The star comes first, since what stands before it has no marks.
        cases before with
        | nil => exact Or.inr ⟨rfl, .named nonempty unmarkedName⟩
        | cons character others =>
            cases first
            exact absurd (unmarked '*' List.mem_cons_self) (by decide)
    · exact Or.inl (.plain unmarked)
  · rintro (isSegment | ⟨rfl, isRest⟩)
    · cases isSegment with
      | plain unmarked => exact checkSegment_of_unmarked unmarked isLast
      | named unmarked nonempty unmarkedName =>
          rw [checkSegment_append unmarked isLast (by decide)]
          simpa [nonempty] using unmarkedName
    · cases isRest with
      | named nonempty unmarkedName =>
          rw [← List.nil_append ('*' :: _), checkSegment_append (by simp) true (by decide)]
          simpa [nonempty] using unmarkedName

theorem checkSegments_cons_eq_ok_iff (segment : List Char) (others : List (List Char)) :
    checkSegments (segment :: others) = .ok () ↔
      checkSegment others.isEmpty segment = .ok () ∧ checkSegments others = .ok () := by
  rw [checkSegments]
  cases checkSegment others.isEmpty segment with
  | error breakdown => simp [bind, Except.bind]
  | ok _ => simp [bind, Except.bind]

/-- Only the last segment may be a rest. -/
theorem checkSegments_eq_ok_iff (leading : List (List Char)) (last : List Char) :
    checkSegments (leading ++ [last]) = .ok () ↔
      (∀ segment ∈ leading, IsSegment segment) ∧ (IsSegment last ∨ IsRest last) := by
  induction leading with
  | nil =>
      rw [List.nil_append, checkSegments_cons_eq_ok_iff, checkSegment_eq_ok_iff]
      simp [checkSegments]
  | cons segment others inductionHypothesis =>
      rw [List.cons_append, checkSegments_cons_eq_ok_iff, checkSegment_eq_ok_iff,
        inductionHypothesis, List.forall_mem_cons]
      simp [and_assoc]

/-- What stands behind the first slash of a path is cut into segments, of which there is a last one. -/
theorem exists_segments (pattern : List Char) : ∃ leading last,
    pieces (· == '/') pattern = leading ++ [last] ∧
      pattern = ['/'].intercalate (leading ++ [last]) ∧
      ∀ segment ∈ leading ++ [last], '/' ∉ segment := by
  obtain ⟨leading, last, cut⟩ := (List.eq_nil_or_concat (pieces (· == '/') pattern)).resolve_left
    (List.splitOn_ne_nil '/' pattern)
  rw [List.concat_eq_append] at cut
  refine ⟨leading, last, cut, ?_, fun segment member slash => ?_⟩
  · rw [← cut]
    exact (List.intercalate_splitOn '/').symm
  · rw [← cut, mem_pieces_iff] at member
    exact absurd (member.unbroken '/' slash) (by decide)

/-- A path with a slash before it is a route when its segments are and take few enough names. -/
theorem create_of_slash {path : String} {pattern : List Char} (slashed : path.toList = '/' :: pattern)
    (route : Route) :
    create path = .ok route ↔ checkSegments (pieces (· == '/') pattern) = .ok () ∧
      pattern.count ':' ≤ nameLimit ∧ route = ⟨'/' :: pattern⟩ := by
  cases passes : checkSegments (pieces (· == '/') pattern) with
  | error breakdown => simp [create, slashed, passes, bind, Except.bind]
  | ok _ =>
      by_cases few : pattern.count ':' ≤ nameLimit
      · have fits : ¬ nameLimit < pattern.count ':' := by omega
        simp [create, slashed, passes, few, fits, bind, Except.bind, pure, Except.pure, eq_comm]
      · have many : nameLimit < pattern.count ':' := by omega
        simp [create, slashed, passes, few, many, bind, Except.bind, throw, throwThe,
          MonadExceptOf.throw]

/-- Every route begins with a slash. -/
theorem create_of_no_slash {path : String} (unslashed : ∀ pattern, path.toList ≠ '/' :: pattern) :
    create path = .error .routeWithoutSlash := by
  rw [create]
  split
  · rename_i pattern slashed
    exact absurd slashed (unslashed pattern)
  · rfl

/-- A route is the path that it is made of. -/
theorem create_eq_ok_iff (path : String) (route : Route) :
    create path = .ok route ↔ IsRoute path ∧ route = ⟨path.toList⟩ := by
  by_cases slashed : ∃ pattern, path.toList = '/' :: pattern
  · obtain ⟨pattern, slashed⟩ := slashed
    have count : path.toList.count ':' = pattern.count ':' := by
      rw [slashed]
      exact List.count_cons_of_ne (by decide)
    rw [create_of_slash slashed, ← slashed, ← and_assoc]
    refine and_congr_left fun _ => ?_
    constructor
    · rintro ⟨passes, few⟩
      obtain ⟨leading, last, cut, joined, unbroken⟩ := exists_segments pattern
      rw [cut, checkSegments_eq_ok_iff] at passes
      exact ⟨⟨leading, last, slashed.trans (joined ▸ rfl), unbroken, passes⟩, count ▸ few⟩
    · rintro ⟨⟨leading, last, joined, unbroken, areSegments⟩, few⟩
      have same := (List.cons.inj (slashed.symm.trans joined)).2
      have cut : pieces (· == '/') pattern = leading ++ [last] := by
        rw [same]
        refine pieces_intercalate (by decide) (by simp) fun segment member character inside => ?_
        exact beq_eq_false_iff_ne.2 fun slash => unbroken segment member (slash ▸ inside)
      rw [cut, checkSegments_eq_ok_iff]
      exact ⟨areSegments, count ▸ few⟩
  · refine iff_of_false (fun created => ?_) fun isRoute => ?_
    · rw [create_of_no_slash fun pattern same => slashed ⟨pattern, same⟩] at created
      cases created
    · obtain ⟨leading, last, joined, -⟩ := isRoute.1.segmented
      exact slashed ⟨_, joined⟩

end Route

end SignOn.Gateway

import Mathlib.Data.List.Induction
import ScriptedSql.Proofs.Mock.Event

/-!
Contract: what builder calls make of one expectation.

Owns:
- the parts of an expectation that builder calls set, one part for each call;
- the expectation after builder calls, each part of which is as the last call that sets it has
  left it, and which is otherwise as before;
- the calls of a chain that are made, and the last of them on each part;
- that calls on different parts commute, and that of calls on one part the last one counts.

Does not own: which expectation a call reaches (`Session.Building`).
-/

namespace ScriptedSql

namespace Expectation

/-- The parts of an expectation that builder calls set. -/
inductive Part where
  | arguments
  | rows
  | result
  | error
  | closeError
  | closing
deriving DecidableEq, Repr

abbrev Part.Content : Part → Type
  | .arguments => ExpectedArguments
  | .rows => Option ResultSet
  | .result => Option ExecResult
  | .error => Option Error
  | .closeError => Option Error
  | .closing => Bool

def content (expectation : Expectation) : (part : Part) → part.Content
  | .arguments => expectation.arguments
  | .rows => expectation.rows
  | .result => expectation.result
  | .error => expectation.error
  | .closeError => expectation.closeError
  | .closing => expectation.mustBeClosed

def withContent (expectation : Expectation) : (part : Part) → part.Content → Expectation
  | .arguments, arguments => { expectation with arguments := arguments }
  | .rows, rows => { expectation with rows := rows }
  | .result, result => { expectation with result := result }
  | .error, error => { expectation with error := error }
  | .closeError, closeError => { expectation with closeError := closeError }
  | .closing, mustBeClosed => { expectation with mustBeClosed := mustBeClosed }

/-- The expectation as it was written, whatever calls have achieved since. -/
def asWritten (expectation : Expectation) : Expectation :=
  { expectation with fulfilled := false, wasClosed := false }

@[simp]
private theorem content_withContent (expectation : Expectation) (part : Part)
    (value : part.Content) :
    (expectation.withContent part value).content part = value := by
  cases part <;> rfl

@[simp]
private theorem content_withContent_of_other {part other : Part} (differs : part ≠ other)
    (expectation : Expectation) (value : part.Content) :
    (expectation.withContent part value).content other = expectation.content other := by
  cases part <;> cases other <;> first | rfl | contradiction

private theorem withContent_asWritten (expectation : Expectation) (part : Part)
    (value : part.Content) :
    (expectation.withContent part value).asWritten =
      expectation.asWritten.withContent part value := by
  cases part <;> rfl

private theorem withContent_untouched (expectation : Expectation) (part : Part)
    (value : part.Content) :
    Adjustment.Untouched expectation (expectation.withContent part value) := by
  cases part <;> exact ⟨rfl, rfl, rfl, rfl, rfl⟩

/-- What is neither a part nor left alone by builder calls, an expectation does not have. -/
theorem eq_of_content {original first second : Expectation}
    (left : Adjustment.Untouched original first) (right : Adjustment.Untouched original second)
    (same : ∀ part, first.content part = second.content part) : first = second := by
  have sameArguments : first.arguments = second.arguments := same .arguments
  have sameRows : first.rows = second.rows := same .rows
  have sameResult : first.result = second.result := same .result
  have sameError : first.error = second.error := same .error
  have sameCloseError : first.closeError = second.closeError := same .closeError
  have sameClosing : first.mustBeClosed = second.mustBeClosed := same .closing
  have sameKind := left.kind.trans right.kind.symm
  have sameSql := left.sql.trans right.sql.symm
  have sameOrder := left.ordered.trans right.ordered.symm
  have sameFulfilment := left.fulfilled.trans right.fulfilled.symm
  have sameEnd := left.wasClosed.trans right.wasClosed.symm
  cases first
  cases second
  simp_all only

end Expectation

namespace Adjustment

open Expectation (Part)

/-- The part that a builder call sets, or none if the call is refused. To want no arguments is
to set the arguments. -/
def part? : Adjustment → Option Part
  | .withArguments _ => some .arguments
  | .withoutArguments => some .arguments
  | .rows plan =>
    match plan.build with
    | .ok _ => some .rows
    | .error _ => none
  | .result _ => some .result
  | .error _ => some .error
  | .closeError _ => some .closeError
  | .willBeClosed => some .closing

/-- The expectation after a builder call. A refused call leaves it as it is. -/
def made (adjustment : Adjustment) (expectation : Expectation) : Expectation :=
  match adjustment.apply expectation with
  | .ok changed => changed
  | .error _ => expectation

/-- The calls of a chain that are made: all in front of the first that is refused. -/
def performed (chain : List Adjustment) : List Adjustment :=
  chain.takeWhile (·.part?.isSome)

/-- The last of the calls that set a part. -/
def lastOn? (part : Part) (calls : List Adjustment) : Option Adjustment :=
  calls.reverse.find? (·.part? == some part)

/-! ## One call -/

variable {adjustment : Adjustment} {part : Part}

/-- All that builder calls do: they are refused whatever the expectation is, or put something
into a part whatever was there before. -/
theorem apply_cases (adjustment : Adjustment) :
    (adjustment.part? = none ∧
      ∃ fault, ∀ expectation, adjustment.apply expectation = .error fault) ∨
    ∃ (part : Part) (value : part.Content), adjustment.part? = some part ∧
      ∀ expectation, adjustment.apply expectation = .ok (expectation.withContent part value) := by
  cases adjustment with
  | withArguments expected => exact .inr ⟨.arguments, .exactly expected, rfl, fun _ => rfl⟩
  | withoutArguments => exact .inr ⟨.arguments, .exactly [], rfl, fun _ => rfl⟩
  | rows plan =>
      cases built : plan.build with
      | ok set =>
          exact .inr ⟨.rows, some set, by simp only [part?, built], fun _ => by
            simp only [apply, built, Expectation.withContent]⟩
      | error fault =>
          exact .inl ⟨by simp only [part?, built], fault, fun _ => by simp only [apply, built]⟩
  | result report => exact .inr ⟨.result, some report, rfl, fun _ => rfl⟩
  | error fault => exact .inr ⟨.error, some fault, rfl, fun _ => rfl⟩
  | closeError fault => exact .inr ⟨.closeError, some fault, rfl, fun _ => rfl⟩
  | willBeClosed => exact .inr ⟨.closing, true, rfl, fun _ => rfl⟩

private theorem made_cases (adjustment : Adjustment) :
    (adjustment.part? = none ∧ ∀ expectation, adjustment.made expectation = expectation) ∨
    ∃ (part : Part) (value : part.Content), adjustment.part? = some part ∧
      ∀ expectation, adjustment.made expectation = expectation.withContent part value := by
  rcases adjustment.apply_cases with ⟨refused, fault, failed⟩ | ⟨part, value, sets, applied⟩
  · exact .inl ⟨refused, fun expectation => by rw [made, failed]⟩
  · exact .inr ⟨part, value, sets, fun expectation => by rw [made, applied]⟩

private theorem made_untouched (adjustment : Adjustment) (expectation : Expectation) :
    Untouched expectation (adjustment.made expectation) := by
  rcases adjustment.made_cases with ⟨-, made⟩ | ⟨part, value, -, made⟩
  · rw [made]
    exact ⟨rfl, rfl, rfl, rfl, rfl⟩
  · rw [made]
    exact expectation.withContent_untouched part value

private theorem made_asWritten (adjustment : Adjustment) (expectation : Expectation) :
    (adjustment.made expectation).asWritten = adjustment.made expectation.asWritten := by
  rcases adjustment.made_cases with ⟨-, made⟩ | ⟨part, value, -, made⟩
  · rw [made, made]
  · rw [made, made]
    exact expectation.withContent_asWritten part value

/-- A call changes no other part than the one that it sets. -/
theorem content_made_of_other (other : adjustment.part? ≠ some part)
    (expectation : Expectation) :
    (adjustment.made expectation).content part = expectation.content part := by
  rcases adjustment.made_cases with ⟨-, made⟩ | ⟨its, value, sets, made⟩
  · rw [made]
  · rw [sets] at other
    rw [made]
    exact Expectation.content_withContent_of_other (fun same => other (congrArg some same)) _ _

/-- What a call sets does not depend on what was there before. -/
theorem content_made (sets : adjustment.part? = some part) (first second : Expectation) :
    (adjustment.made first).content part = (adjustment.made second).content part := by
  rcases adjustment.made_cases with ⟨refused, -⟩ | ⟨its, value, setsIts, made⟩
  · rw [refused] at sets
    contradiction
  · rw [setsIts] at sets
    cases sets
    rw [made, made, Expectation.content_withContent, Expectation.content_withContent]

end Adjustment

/-! ## Calls in order -/

namespace Expectation

open Adjustment (Untouched lastOn? performed)

def builtBy (expectation : Expectation) (calls : List Adjustment) : Expectation :=
  calls.foldl (fun current call => call.made current) expectation

variable {expectation : Expectation} {calls : List Adjustment} {part : Part}

theorem builtBy_append (expectation : Expectation) (first second : List Adjustment) :
    expectation.builtBy (first ++ second) = (expectation.builtBy first).builtBy second :=
  List.foldl_append

/-- A chain stops at the first call that is refused. -/
theorem applyAll_eq_builtBy (expectation : Expectation) (chain : List Adjustment) :
    (Adjustment.applyAll expectation chain).1 = expectation.builtBy (performed chain) := by
  induction chain generalizing expectation with
  | nil => rfl
  | cons call rest inductionHypothesis =>
      rw [Adjustment.applyAll, performed, List.takeWhile_cons]
      rcases call.apply_cases with ⟨refused, fault, failed⟩ | ⟨part, value, sets, applied⟩
      · rw [refused, failed]
        rfl
      · have made : call.made expectation = expectation.withContent part value := by
          rw [Adjustment.made, applied]
        rw [sets, applied, ← made]
        exact inductionHypothesis (call.made expectation)

/-- Builder calls in a row leave alone what each of them leaves alone. -/
theorem builtBy_untouched (expectation : Expectation) (calls : List Adjustment) :
    Untouched expectation (expectation.builtBy calls) := by
  induction calls generalizing expectation with
  | nil => exact ⟨rfl, rfl, rfl, rfl, rfl⟩
  | cons call rest inductionHypothesis =>
      exact (call.made_untouched expectation).trans (inductionHypothesis _)

/-- What calls have achieved does not change what builder calls write. -/
theorem builtBy_asWritten (expectation : Expectation) (calls : List Adjustment) :
    (expectation.builtBy calls).asWritten = expectation.asWritten.builtBy calls := by
  induction calls generalizing expectation with
  | nil => rfl
  | cons call rest inductionHypothesis =>
      have first := call.made_asWritten expectation
      exact (inductionHypothesis _).trans (congrArg (builtBy · rest) first)

end Expectation

namespace Adjustment

open Expectation (Part)

/-- Of two chains of calls, the later one has the say on each part that it sets. -/
@[simp]
theorem lastOn?_append (part : Part) (first second : List Adjustment) :
    lastOn? part (first ++ second) = (lastOn? part second).or (lastOn? part first) := by
  rw [lastOn?, List.reverse_append, List.find?_append, lastOn?, lastOn?]

@[simp]
theorem lastOn?_singleton (part : Part) (call : Adjustment) :
    lastOn? part [call] = if call.part? = some part then some call else none := by
  rw [lastOn?, List.reverse_singleton, List.find?_singleton]
  simp only [beq_iff_eq]

end Adjustment

namespace Expectation

open Adjustment (Untouched lastOn? lastOn?_append lastOn?_singleton)

variable {calls : List Adjustment} {part : Part}

/-- By induction from the last call, which either sets the part or leaves it as it was. -/
theorem content_builtBy (expectation : Expectation) (calls : List Adjustment) (part : Part) :
    (expectation.builtBy calls).content part =
      (lastOn? part calls).elim (expectation.content part)
        fun call => (call.made expectation).content part := by
  induction calls using List.reverseRecOn with
  | nil => rfl
  | append_singleton calls call inductionHypothesis =>
      have split : expectation.builtBy (calls ++ [call]) = call.made (expectation.builtBy calls) :=
        expectation.builtBy_append calls [call]
      rw [split, lastOn?_append, lastOn?_singleton]
      by_cases sets : call.part? = some part
      · rw [if_pos sets, Option.some_or, Option.elim_some]
        exact Adjustment.content_made sets _ _
      · rw [if_neg sets, Option.none_or, ← inductionHypothesis]
        exact Adjustment.content_made_of_other sets _

/-- Calls make the same of an expectation if the last one on each part is the same. -/
theorem builtBy_congr {first second : List Adjustment}
    (sameLast : ∀ part, lastOn? part first = lastOn? part second) (expectation : Expectation) :
    expectation.builtBy first = expectation.builtBy second := by
  refine eq_of_content (expectation.builtBy_untouched first)
    (expectation.builtBy_untouched second) fun part => ?_
  rw [content_builtBy, content_builtBy, sameLast part]

/-- Parts that no call sets stay as they are. -/
theorem content_builtBy_of_other (others : ∀ call ∈ calls, call.part? ≠ some part)
    (expectation : Expectation) :
    (expectation.builtBy calls).content part = expectation.content part := by
  have noneSets : lastOn? part calls = none := by
    refine List.find?_eq_none.mpr fun call isThere => ?_
    rw [beq_iff_eq]
    exact others call (List.mem_reverse.mp isThere)
  rw [content_builtBy, noneSets, Option.elim_none]

end Expectation

end ScriptedSql

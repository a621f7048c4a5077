import ScriptedSql.Proofs.Expectation.Arguments

/-!
Contract: which disagreement with a declared list of arguments is reported.

Owns:
- the argument that counts at a position: the first of those supplied for it, wherever the
  others stand;
- what the report of one position says: that its argument is missing, else that the name is
  another one, else what was expected there and what was supplied;
- the position that is reported: the least one that is not satisfied, and none at all where
  already the numbers of arguments differ.

Does not own: which lists are accepted (`Expectation.Arguments`), and how the report becomes
the error of a call (`Queue.Rejection`).
-/

namespace ScriptedSql

namespace Argument

/-- The first of the arguments that are supplied for a position. -/
structure FirstAt (supplied : List Argument) (ordinal : Nat) (argument : Argument) : Prop where
  position : argument.ordinal = ordinal
  first : ∃ before behind, supplied = before ++ argument :: behind ∧
    ∀ other ∈ before, other.ordinal ≠ ordinal

variable {supplied : List Argument} {ordinal : Nat} {argument : Argument}

private theorem find?_ordinal_eq_none_iff :
    supplied.find? (·.ordinal == ordinal) = none ↔
      ∀ argument ∈ supplied, argument.ordinal ≠ ordinal := by
  simp only [List.find?_eq_none, beq_iff_eq, ne_eq]

private theorem firstAt_iff :
    FirstAt supplied ordinal argument ↔
      supplied.find? (·.ordinal == ordinal) = some argument := by
  simp only [List.find?_eq_some_iff_append, beq_iff_eq, Bool.not_eq_true', beq_eq_false_iff_ne]
  constructor
  · rintro ⟨position, first⟩
    exact ⟨position, first⟩
  · rintro ⟨position, first⟩
    exact ⟨position, first⟩

end Argument

namespace ExpectedArgument

open Argument (FirstAt firstAt_iff)

/-! ## One position -/

/-- An argument is supplied for the position, and the first such argument fits. -/
def SatisfiedAt (converter : Converter) (supplied : List Argument) (ordinal : Nat)
    (expected : ExpectedArgument) : Prop :=
  ∃ argument, FirstAt supplied ordinal argument ∧ expected.Fits converter argument

/-- The texts that may be reported of a position: only of an argument that is there a wrong name
is reported, and only of one with the right name a wrong value. -/
inductive ReportedAt (converter : Converter) (supplied : List Argument) (ordinal : Nat)
    (expected : ExpectedArgument) : String → Prop where
  | missing (absent : ∀ argument ∈ supplied, argument.ordinal ≠ ordinal) :
      ReportedAt converter supplied ordinal expected
        ("argument " ++ Text.decimal ordinal ++ " is missing")
  | name {argument : Argument} {name : String} (first : FirstAt supplied ordinal argument)
      (named : expected.name = some name) (differs : argument.name ≠ some name) :
      ReportedAt converter supplied ordinal expected
        ("named argument " ++ Text.decimal ordinal ++ " expected name '" ++ name ++
          "' does not match actual name '" ++ argument.name.getD "" ++ "'")
  | value {argument : Argument} (first : FirstAt supplied ordinal argument)
      (named : ∀ name, expected.name = some name → argument.name = some name)
      (refused : expected.spec.accepts converter argument.value = false) :
      ReportedAt converter supplied ordinal expected
        ("argument " ++ Text.decimal ordinal ++ " expected [" ++ expected.spec.typeName ++ " - " ++
          expected.spec.shown ++ "] does not match actual [" ++ argument.value.typeName ++
          " - " ++ argument.value.shown ++ "]")

variable {converter : Converter} {supplied : List Argument} {fault : ArgumentFault}

private theorem satisfiedAt_iff {ordinal : Nat} {expected : ExpectedArgument} :
    expected.SatisfiedAt converter supplied ordinal ↔
      expected.fault? converter supplied ordinal = none := by
  simp only [fault?_eq_none_iff, SatisfiedAt, firstAt_iff]

private theorem reportedAt_of_fault {ordinal : Nat} {expected : ExpectedArgument}
    (faulty : expected.fault? converter supplied ordinal = some fault) :
    fault.kind = .argumentMismatch ∧
      expected.ReportedAt converter supplied ordinal fault.message := by
  unfold fault? at faulty
  cases found : supplied.find? (·.ordinal == ordinal) with
  | none =>
      rw [found] at faulty
      cases faulty
      exact ⟨rfl, .missing (Argument.find?_ordinal_eq_none_iff.mp found)⟩
  | some argument =>
      have first := firstAt_iff.mpr found
      simp only [found] at faulty
      split at faulty
      next misnamed =>
        obtain ⟨name, named, differs⟩ := (Option.any_eq_true _ _).mp misnamed
        cases faulty
        rw [named]
        exact ⟨rfl, .name first named (bne_iff_ne.mp differs)⟩
      next wellNamed =>
        have named : ∀ name, expected.name = some name → argument.name = some name := by
          intro name isNamed
          by_contra differs
          exact wellNamed ((Option.any_eq_true _ _).mpr ⟨name, isNamed, bne_iff_ne.mpr differs⟩)
        split at faulty
        next accepted => contradiction
        next refused =>
          cases faulty
          exact ⟨rfl, .value first named (Bool.eq_false_iff.mpr refused)⟩

/-! ## All positions -/

/-- The search stops at the first declared argument that disagrees. -/
theorem exists_first_of_fault {first : Nat} {expected : List ExpectedArgument}
    (faulty : firstFault? converter supplied first expected = some fault) :
    ∃ (index : Nat) (declared : ExpectedArgument), expected[index]? = some declared ∧
      declared.fault? converter supplied (first + index) = some fault ∧
      ∀ earlier < index, ∀ other, expected[earlier]? = some other →
        other.fault? converter supplied (first + earlier) = none := by
  induction expected generalizing first with
  | nil => contradiction
  | cons head tail inductionHypothesis =>
      rw [firstFault?] at faulty
      cases headFault : head.fault? converter supplied first with
      | some reported =>
          rw [headFault] at faulty
          cases faulty
          refine ⟨0, head, rfl, headFault, ?_⟩
          intro earlier before
          exact absurd before (Nat.not_lt_zero earlier)
      | none =>
          rw [headFault] at faulty
          obtain ⟨index, declared, isDeclared, disagrees, earlierAgree⟩ :=
            inductionHypothesis faulty
          rw [Nat.succ_add_eq_add_succ] at disagrees
          refine ⟨index + 1, declared, isDeclared, disagrees, ?_⟩
          intro earlier before other isOther
          cases earlier with
          | zero =>
              cases isOther
              exact headFault
          | succ earlier =>
              rw [← Nat.succ_add_eq_add_succ]
              exact earlierAgree earlier (Nat.lt_of_succ_lt_succ before) other isOther

end ExpectedArgument

namespace ExpectedArguments

variable {converter : Converter} {expected : List ExpectedArgument} {supplied : List Argument}

private theorem fault?_of_other_length (differ : expected.length ≠ supplied.length) :
    (exactly expected).fault? converter supplied =
      some (.count expected.length supplied.length) := by
  rw [fault?, if_neg differ]

/-- What is reported of arguments that a declared list does not accept. If there are too many or
too few, both numbers are reported, whatever the arguments are; otherwise what is wrong at the
least position that is not satisfied. -/
theorem least_disagreement_is_reported {fault : ArgumentFault}
    (faulty : (exactly expected).fault? converter supplied = some fault) :
    (fault.kind = .argumentCount ↔ expected.length ≠ supplied.length) ∧
    (expected.length ≠ supplied.length →
      fault.message = "expected " ++ Text.decimal expected.length ++ " arguments, got " ++
          Text.decimal supplied.length ∧
        ∀ (otherConverter : Converter) (others : List Argument),
          others.length = supplied.length →
            (exactly expected).fault? otherConverter others = some fault) ∧
    (expected.length = supplied.length →
      fault.kind = .argumentMismatch ∧
        ∃ (index : Nat) (declared : ExpectedArgument), expected[index]? = some declared ∧
          ¬ declared.SatisfiedAt converter supplied (index + 1) ∧
          declared.ReportedAt converter supplied (index + 1) fault.message ∧
          ∀ earlier < index, ∀ other, expected[earlier]? = some other →
            other.SatisfiedAt converter supplied (earlier + 1)) := by
  by_cases sameLength : expected.length = supplied.length
  · rw [fault?, if_pos sameLength] at faulty
    obtain ⟨index, declared, isDeclared, disagrees, earlierAgree⟩ :=
      ExpectedArgument.exists_first_of_fault faulty
    obtain ⟨mismatch, reported⟩ := ExpectedArgument.reportedAt_of_fault disagrees
    rw [Nat.add_comm] at disagrees reported
    refine ⟨?_, fun differ => absurd sameLength differ, fun _ => ⟨mismatch, ?_⟩⟩
    · rw [mismatch]
      exact iff_of_false MockFault.noConfusion (not_not_intro sameLength)
    · refine ⟨index, declared, isDeclared, ?_, reported, ?_⟩
      · rw [ExpectedArgument.satisfiedAt_iff, disagrees]
        exact Option.some_ne_none fault
      · intro earlier before other isOther
        rw [ExpectedArgument.satisfiedAt_iff, Nat.add_comm]
        exact earlierAgree earlier before other isOther
  · rw [fault?_of_other_length sameLength] at faulty
    cases faulty
    refine ⟨iff_of_true rfl sameLength, fun _ => ⟨rfl, ?_⟩, fun same => absurd same sameLength⟩
    intro otherConverter others asMany
    rw [← asMany] at sameLength ⊢
    exact fault?_of_other_length sameLength

/-- The third argument is listed first and is wrong, and of the fourth nothing is supplied, but
the second comes before both: the first that is supplied for it has no name, and that another one
has the right name does not help. -/
theorem nameless_second_is_reported :
    let expected : List ExpectedArgument :=
      [⟨none, .value (.int 1)⟩, ⟨some "n", .any⟩, ⟨none, .value (.text "x")⟩, ⟨none, .any⟩]
    let supplied : List Argument :=
      [⟨3, none, .null⟩, ⟨2, none, .null⟩, ⟨1, none, .bigInt 1⟩, ⟨2, some "n", .null⟩]
    let fault : ArgumentFault := .name 2 "n" none
    (exactly expected).fault? Converter.normalize supplied = some fault ∧
      fault.kind = .argumentMismatch ∧
      ∃ (index : Nat) (declared : ExpectedArgument), expected[index]? = some declared ∧
        declared.ReportedAt Converter.normalize supplied (index + 1)
          "named argument 2 expected name 'n' does not match actual name ''" := by
  intro expected supplied fault
  have faulty : (exactly expected).fault? Converter.normalize supplied = some fault := rfl
  have text : fault.message =
      "named argument 2 expected name 'n' does not match actual name ''" := by decide +kernel
  obtain ⟨-, -, reports⟩ := least_disagreement_is_reported faulty
  obtain ⟨mismatch, index, declared, isDeclared, -, reported, -⟩ := reports rfl
  rw [text] at reported
  exact ⟨faulty, mismatch, index, declared, isDeclared, reported⟩

end ExpectedArguments

end ScriptedSql

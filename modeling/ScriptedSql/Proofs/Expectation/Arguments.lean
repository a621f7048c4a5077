import Mathlib.Data.List.Nodup
import Mathlib.Data.List.Perm.Subperm
import ScriptedSql.Expectation

/-!
Contract: which supplied arguments a declared list accepts.

Owns:
- what a declared argument asks of the one at its position;
- the look-up of supplied arguments by position, which does not depend on how they are listed
  if no position comes twice;
- the positions of an accepted list: each from one on exactly once, though the check only
  counts the arguments and looks up positions that were declared;
- the agreement of the check with this rule.

Does not own: which disagreement is reported.
-/

namespace ScriptedSql

/-! ## Positions -/

namespace Argument

def ordinals (supplied : List Argument) : List Nat :=
  supplied.map (·.ordinal)

private theorem mem_ordinals_iff {supplied : List Argument} {ordinal : Nat} :
    ordinal ∈ ordinals supplied ↔ ∃ argument ∈ supplied, argument.ordinal = ordinal :=
  List.mem_map

private theorem ordinals_perm {supplied shuffled : List Argument}
    (permuted : supplied.Perm shuffled) :
    (ordinals supplied).Perm (ordinals shuffled) :=
  permuted.map _

private theorem of_find?_ordinal {supplied : List Argument} {ordinal : Nat} {argument : Argument}
    (found : supplied.find? (·.ordinal == ordinal) = some argument) :
    argument ∈ supplied ∧ argument.ordinal = ordinal := by
  have atOrdinal := List.find?_some found
  exact ⟨List.mem_of_find?_eq_some found, beq_iff_eq.mp atOrdinal⟩

private theorem find?_ordinal_isSome_iff {supplied : List Argument} {ordinal : Nat} :
    (supplied.find? (·.ordinal == ordinal)).isSome = true ↔ ordinal ∈ ordinals supplied := by
  rw [List.find?_isSome, mem_ordinals_iff]
  simp only [beq_iff_eq]

/-- Where no position comes twice, the first argument of a position is the only one. -/
theorem find?_ordinal_eq_some_iff {supplied : List Argument}
    (distinct : (ordinals supplied).Nodup) {ordinal : Nat} {argument : Argument} :
    supplied.find? (·.ordinal == ordinal) = some argument ↔
      argument ∈ supplied ∧ argument.ordinal = ordinal := by
  constructor
  · exact of_find?_ordinal
  · rintro ⟨isSupplied, rfl⟩
    have isSome := find?_ordinal_isSome_iff.mpr (List.mem_map_of_mem isSupplied)
    obtain ⟨first, found⟩ := Option.isSome_iff_exists.mp isSome
    obtain ⟨firstSupplied, sameOrdinal⟩ := of_find?_ordinal found
    rw [found, List.inj_on_of_nodup_map distinct firstSupplied isSupplied sameOrdinal]

private theorem find?_ordinal_perm {supplied shuffled : List Argument}
    (distinct : (ordinals supplied).Nodup) (permuted : supplied.Perm shuffled) (ordinal : Nat) :
    shuffled.find? (·.ordinal == ordinal) = supplied.find? (·.ordinal == ordinal) := by
  have shuffledDistinct : (ordinals shuffled).Nodup := (ordinals_perm permuted).nodup distinct
  apply Option.ext
  intro argument
  rw [find?_ordinal_eq_some_iff shuffledDistinct, find?_ordinal_eq_some_iff distinct,
    permuted.mem_iff]

/-- As many arguments as positions, and each position supplied: then none is supplied twice,
and there are no others. -/
theorem ordinals_perm_of_all_supplied {supplied : List Argument} {count : Nat}
    (enough : supplied.length ≤ count)
    (allSupplied : ∀ ordinal ∈ List.range' 1 count, ordinal ∈ ordinals supplied) :
    (ordinals supplied).Perm (List.range' 1 count) := by
  have within : (List.range' 1 count).Subperm (ordinals supplied) :=
    List.subperm_of_subset List.nodup_range' allSupplied
  refine (within.perm_of_length_le ?_).symm
  rw [List.length_range', ordinals, List.length_map]
  exact enough

end Argument

/-! ## One declared argument -/

namespace ExpectedArgument

/-- What a declared argument asks of the supplied one at its position: the declared name, if
there is one, and an acceptable value. -/
structure Fits (converter : Converter) (expected : ExpectedArgument) (argument : Argument) :
    Prop where
  named : ∀ name, expected.name = some name → argument.name = some name
  accepted : expected.spec.accepts converter argument.value = true

variable {converter : Converter} {supplied : List Argument}

/-- There is no disagreement if the first argument of the position fits. -/
theorem fault?_eq_none_iff {ordinal : Nat} {expected : ExpectedArgument} :
    expected.fault? converter supplied ordinal = none ↔
      ∃ argument, supplied.find? (·.ordinal == ordinal) = some argument ∧
        expected.Fits converter argument := by
  unfold fault?
  cases supplied.find? (·.ordinal == ordinal) with
  | none => simp
  | some argument =>
      have misnamed : (expected.name.any fun name => argument.name != some name) = false ↔
          ∀ name, expected.name = some name → argument.name = some name := by
        cases expected.name with
        | none => simp
        | some name => simp
      simp only [Option.some.injEq, exists_eq_left']
      constructor
      · intro agrees
        split at agrees
        · contradiction
        next wellNamed =>
          split at agrees
          next accepted => exact ⟨misnamed.mp (Bool.eq_false_iff.mpr wellNamed), accepted⟩
          · contradiction
      · intro fits
        rw [misnamed.mpr fits.named, if_neg Bool.false_ne_true, if_pos fits.accepted]

private theorem firstFault?_eq_none_iff {first : Nat} {expected : List ExpectedArgument} :
    firstFault? converter supplied first expected = none ↔
      ∀ (index : Nat) (declared : ExpectedArgument), expected[index]? = some declared →
        declared.fault? converter supplied (first + index) = none := by
  induction expected generalizing first with
  | nil => simp [firstFault?]
  | cons head tail inductionHypothesis =>
      have split : firstFault? converter supplied first (head :: tail) = none ↔
          head.fault? converter supplied first = none ∧
            firstFault? converter supplied (first + 1) tail = none := by
        rw [firstFault?]
        cases head.fault? converter supplied first <;> simp
      rw [split, inductionHypothesis]
      constructor
      · rintro ⟨headAgrees, tailAgrees⟩ index declared found
        cases index with
        | zero =>
            cases found
            exact headAgrees
        | succ index =>
            rw [← Nat.succ_add_eq_add_succ]
            exact tailAgrees index declared found
      · intro agrees
        refine ⟨agrees 0 head rfl, ?_⟩
        intro index declared found
        rw [Nat.succ_add_eq_add_succ]
        exact agrees (index + 1) declared found

/-- The check looks at the supplied arguments by their positions only. -/
theorem firstFault?_congr {shuffled : List Argument}
    (sameFound : ∀ ordinal : Nat, shuffled.find? (·.ordinal == ordinal) =
      supplied.find? (·.ordinal == ordinal))
    (first : Nat) (expected : List ExpectedArgument) :
    firstFault? converter shuffled first expected =
      firstFault? converter supplied first expected := by
  induction expected generalizing first with
  | nil => rfl
  | cons head tail inductionHypothesis =>
      have sameHead :
          head.fault? converter shuffled first = head.fault? converter supplied first := by
        unfold fault?
        rw [sameFound first]
      rw [firstFault?, firstFault?, sameHead, inductionHypothesis]

end ExpectedArgument

/-! ## Declared lists -/

namespace ExpectedArguments

variable {converter : Converter}

/-- Every position is supplied once, and what is supplied there fits what was declared. -/
structure Agree (converter : Converter) (expected : List ExpectedArgument)
    (supplied : List Argument) : Prop where
  positions : (Argument.ordinals supplied).Perm (List.range' 1 expected.length)
  fit : ∀ (index : Nat) (declared : ExpectedArgument) (argument : Argument),
    expected[index]? = some declared → argument ∈ supplied → argument.ordinal = index + 1 →
      declared.Fits converter argument

private theorem fault?_exactly_eq_none_iff {expected : List ExpectedArgument}
    {supplied : List Argument} :
    (exactly expected).fault? converter supplied = none ↔ Agree converter expected supplied := by
  have counted : (exactly expected).fault? converter supplied = none ↔
      expected.length = supplied.length ∧
        ExpectedArgument.firstFault? converter supplied 1 expected = none := by
    rw [fault?]
    by_cases sameLength : expected.length = supplied.length <;> simp [sameLength]
  rw [counted, ExpectedArgument.firstFault?_eq_none_iff]
  constructor
  · rintro ⟨sameLength, agrees⟩
    have found {index : Nat} {declared : ExpectedArgument}
        (isDeclared : expected[index]? = some declared) :=
      ExpectedArgument.fault?_eq_none_iff.mp (agrees index declared isDeclared)
    have positions : (Argument.ordinals supplied).Perm (List.range' 1 expected.length) := by
      apply Argument.ordinals_perm_of_all_supplied (Nat.le_of_eq sameLength.symm)
      intro ordinal isPosition
      obtain ⟨index, within, rfl⟩ := List.mem_range'.mp isPosition
      obtain ⟨argument, isFound, -⟩ := found (List.getElem?_eq_getElem within)
      obtain ⟨isSupplied, sameOrdinal⟩ := Argument.of_find?_ordinal isFound
      rw [Nat.one_mul, ← sameOrdinal]
      exact List.mem_map_of_mem isSupplied
    refine ⟨positions, ?_⟩
    intro index declared argument isDeclared isSupplied atPosition
    obtain ⟨first, isFound, fits⟩ := found isDeclared
    -- No position comes twice, so the argument is the one that was looked up.
    have distinct := positions.nodup_iff.mpr List.nodup_range'
    rw [(Argument.find?_ordinal_eq_some_iff distinct).mpr
      ⟨isSupplied, atPosition.trans (Nat.add_comm index 1)⟩] at isFound
    cases isFound
    exact fits
  · rintro ⟨positions, fit⟩
    constructor
    · have sameLength := positions.length_eq
      rw [Argument.ordinals, List.length_map, List.length_range'] at sameLength
      exact sameLength.symm
    · intro index declared isDeclared
      obtain ⟨within, -⟩ := List.getElem?_eq_some_iff.mp isDeclared
      have isSupplied : 1 + index ∈ Argument.ordinals supplied :=
        positions.mem_iff.mpr (List.mem_range'.mpr ⟨index, within, by rw [Nat.one_mul]⟩)
      have isSome := Argument.find?_ordinal_isSome_iff.mpr isSupplied
      obtain ⟨argument, isFound⟩ := Option.isSome_iff_exists.mp isSome
      obtain ⟨argumentSupplied, atPosition⟩ := Argument.of_find?_ordinal isFound
      have fits := fit index declared argument isDeclared argumentSupplied
        (atPosition.trans (Nat.add_comm 1 index))
      exact ExpectedArgument.fault?_eq_none_iff.mpr ⟨argument, isFound, fits⟩

private theorem Agree.perm {expected : List ExpectedArgument} {supplied shuffled : List Argument}
    (agree : Agree converter expected supplied) (permuted : supplied.Perm shuffled) :
    Agree converter expected shuffled where
  positions := (Argument.ordinals_perm permuted).symm.trans agree.positions
  fit index declared argument isDeclared isSupplied :=
    agree.fit index declared argument isDeclared (permuted.mem_iff.mpr isSupplied)

/-- Where no position comes twice, the order of the arguments does not matter to the check, nor
to the disagreement that it finds. -/
theorem fault?_perm {supplied shuffled : List Argument}
    (distinct : (Argument.ordinals supplied).Nodup) (permuted : supplied.Perm shuffled)
    (expected : ExpectedArguments) :
    expected.fault? converter shuffled = expected.fault? converter supplied := by
  cases expected with
  | any => rfl
  | exactly expected =>
      have sameFault : ExpectedArgument.firstFault? converter shuffled 1 expected =
          ExpectedArgument.firstFault? converter supplied 1 expected :=
        ExpectedArgument.firstFault?_congr (Argument.find?_ordinal_perm distinct permuted) 1
          expected
      rw [fault?, fault?, permuted.length_eq, sameFault]

/-- A declared list accepts exactly the arguments that supply each of its positions once, under
the declared name and with an acceptable value. So it does not matter in which order they are
listed; as long as no position comes twice, this also goes for the disagreement that is found.
Where no list was declared, all are accepted. -/
theorem acceptance_by_position (converter : Converter) (expected : List ExpectedArgument)
    (supplied : List Argument) :
    ((exactly expected).fault? converter supplied = none ↔ Agree converter expected supplied) ∧
    (∀ shuffled, supplied.Perm shuffled →
      ((exactly expected).fault? converter shuffled = none ↔
        (exactly expected).fault? converter supplied = none) ∧
      ((Argument.ordinals supplied).Nodup →
        (exactly expected).fault? converter shuffled =
          (exactly expected).fault? converter supplied)) ∧
    any.fault? converter supplied = none := by
  refine ⟨fault?_exactly_eq_none_iff, ?_, rfl⟩
  intro shuffled permuted
  refine ⟨?_, fun distinct => fault?_perm distinct permuted (exactly expected)⟩
  rw [fault?_exactly_eq_none_iff, fault?_exactly_eq_none_iff]
  exact ⟨fun agree => agree.perm permuted.symm, fun agree => agree.perm permuted⟩

/-- A position that comes twice leaves another one missing. -/
example :
    (exactly [⟨none, .any⟩, ⟨none, .any⟩]).fault? Converter.identity
      [⟨1, none, .null⟩, ⟨1, none, .null⟩] = some (.missing 2) :=
  rfl

end ExpectedArguments

end ScriptedSql

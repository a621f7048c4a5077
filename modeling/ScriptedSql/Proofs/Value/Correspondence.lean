import Mathlib.Data.List.Forall2
import ScriptedSql.Argument
import ScriptedSql.Proofs.Json.Equality

/-!
Contract: which values the default converter lets an expected value stand for.

Owns:
- the whole number, the floating-point number or the instant that a value holds;
- the parts of a value, by their path through its arrays;
- corresponding values, described without conversion;
- the outcomes of the default conversion;
- the agreement of both: values are equal after conversion exactly if they
  correspond;
- correspondence of parts, and its being an equivalence where nothing is
  floating or DEFAULT.

Does not own: other converters, and the specs that compare no values.
-/

namespace ScriptedSql

private theorem Floating.sameNumber_symm {left right : Floating}
    (same : left.sameNumber right = true) : right.sameNumber left = true := by
  cases left <;> cases right <;> simp_all [sameNumber, Finite.sameNumber]

private theorem Floating.sameNumber_trans {first second third : Floating}
    (left : first.sameNumber second = true) (right : second.sameNumber third = true) :
    first.sameNumber third = true := by
  cases first <;> cases second <;> cases third <;>
    simp_all [sameNumber, Finite.sameNumber]

private theorem Converter.equates_of_converts {converter : Converter}
    {expected converted actual : Value}
    (converts : converter expected = .ok converted) :
    converter.equates expected actual = true ↔
      ∃ other, converter actual = .ok other ∧ converted.sameAs other = true := by
  rw [equates, converts]
  cases converter actual <;> simp

/-- The case of an expected value whose equals after conversion are all of one form, `wrap`. -/
theorem Converter.equates_iff_exists {converter : Converter} {expected converted actual : Value}
    {α : Type} {wrap : α → Value} {Holds Same : α → Prop}
    (converts : converter expected = .ok converted)
    (becomes_iff : ∀ other, converter actual = .ok (wrap other) ↔ Holds other)
    (same_iff : ∀ value, converted.sameAs value = true ↔ ∃ other, wrap other = value ∧ Same other) :
    converter.equates expected actual = true ↔ ∃ other, Holds other ∧ Same other := by
  simp only [equates_of_converts converts, same_iff]
  constructor
  · rintro ⟨_, becomes, other, rfl, same⟩
    exact ⟨other, (becomes_iff other).mp becomes, same⟩
  · rintro ⟨other, holds, same⟩
    exact ⟨wrap other, (becomes_iff other).mpr holds, other, rfl, same⟩

namespace Value

open Converter (normalizeItems equates)

/-! ## What a value holds, whatever its width -/

def wholeNumber? : Value → Option Int
  | .tinyInt number => some number.toInt
  | .smallInt number => some number.toInt
  | .int number => some number.toInt
  | .bigInt number => some number.toInt
  | _ => none

def floatingNumber? : Value → Option Floating
  | .float number => some number
  | .double number => some number
  | _ => none

/-- The microseconds that a time stamp holds, with or without zone. -/
def instant? : Value → Option Int64
  | .timestamp microseconds => some microseconds
  | .timestampTz microseconds => some microseconds
  | _ => none

/-- Whether a value is a number of some type; a truth value is none. -/
def isNumber : Value → Bool
  | .decimal _ => true
  | value => value.wholeNumber?.isSome || value.floatingNumber?.isSome

/-- The part of a value at the end of a path: the value itself, or the part of the
item that the path goes through. -/
def part? : List Nat → Value → Option Value
  | [], value => some value
  | index :: path, .array items => items[index]?.bind (part? path)
  | _ :: _, _ => none

/-- Whether a value is of a type with one form only, neither wider nor nested: such
values are kept by the default conversion and equal only themselves. JSON is left
out, since negative zeros equal plain ones there. -/
def hasOneForm : Value → Bool
  | .null | .bool _ | .decimal _ | .text _ | .bytes _ | .date _ | .time _ | .uuid _ => true
  | _ => false

/-- Values that stand for the same: whole numbers that are equal, floating-point
numbers that are equal, time stamps of one instant, arrays of equal length whose
items correspond one by one, JSON documents equal up to the signs of zeros, and
any other value and itself. DEFAULT corresponds to nothing. -/
inductive Corresponds : Value → Value → Prop
  | whole {left right : Value} {number : Int} (leftHolds : left.wholeNumber? = some number)
      (rightHolds : right.wholeNumber? = some number) : Corresponds left right
  | floating {left right : Value} {leftNumber rightNumber : Floating}
      (leftHolds : left.floatingNumber? = some leftNumber)
      (rightHolds : right.floatingNumber? = some rightNumber)
      (same : leftNumber.sameNumber rightNumber = true) : Corresponds left right
  | instant {left right : Value} {microseconds : Int64}
      (leftHolds : left.instant? = some microseconds)
      (rightHolds : right.instant? = some microseconds) : Corresponds left right
  | array {lefts rights : List Value} (sameLength : lefts.length = rights.length)
      (itemwise : ∀ (index : Nat) (_ : index < lefts.length) (_ : index < rights.length),
        Corresponds lefts[index] rights[index]) : Corresponds (.array lefts) (.array rights)
  | json {left right : Json.Document}
      (same : left.content.withoutNegativeZeros = right.content.withoutNegativeZeros) :
      Corresponds (.json left) (.json right)
  | equal {value : Value} (oneForm : value.hasOneForm = true) : Corresponds value value

/-! ## Outcomes of the default conversion -/

section

attribute [local simp] Converter.normalize wholeNumber? floatingNumber? instant? hasOneForm

/-- Items are converted one by one, and none of them may be refused. -/
theorem normalizeItems_eq_ok_iff {items converted : List Value} :
    normalizeItems items = .ok converted ↔
      List.Forall₂ (fun item other => Converter.normalize item = .ok other) items converted := by
  induction items generalizing converted with
  | nil => simp [normalizeItems, eq_comm]
  | cons item rest inductionHypothesis =>
      rw [normalizeItems, List.forall₂_cons_left_iff]
      cases Converter.normalize item with
      | error error => simp
      | ok first =>
          cases restConverts : normalizeItems rest with
          | error error => simp [← inductionHypothesis, restConverts]
          | ok others => simp [← inductionHypothesis, restConverts, @eq_comm _ converted]

/-- An array is converted exactly if all its items are. -/
theorem normalize_array_eq_ok_iff {items : List Value} {converted : Value} :
    Converter.normalize (.array items) = .ok converted ↔
      ∃ others, converted = .array others ∧
        List.Forall₂ (fun item other => Converter.normalize item = .ok other) items others := by
  rw [Converter.normalize]
  cases itemsConvert : normalizeItems items with
  | error error => simp [← normalizeItems_eq_ok_iff, itemsConvert]
  | ok others => simp [← normalizeItems_eq_ok_iff, itemsConvert, @eq_comm _ converted]

/-- An array becomes an array, if anything. -/
theorem normalize_array {items : List Value} {converted : Value}
    (converts : Converter.normalize (.array items) = .ok converted) :
    ∃ others, converted = .array others := by
  obtain ⟨others, isArray, _⟩ := normalize_array_eq_ok_iff.mp converts
  exact ⟨others, isArray⟩

private theorem normalize_array_ne {items : List Value} {converted : Value}
    (noArray : ∀ others, converted ≠ .array others) :
    Converter.normalize (.array items) ≠ .ok converted := by
  intro converts
  obtain ⟨others, isArray⟩ := normalize_array converts
  exact noArray others isArray

private theorem array_of_normalize {value : Value} {others : List Value}
    (converts : Converter.normalize value = .ok (.array others)) :
    ∃ items, value = .array items := by
  cases value with
  | array items => exact ⟨items, rfl⟩
  | _ => simp at converts

private theorem normalize_eq_bigInt_iff {value : Value} {wide : Int64} :
    Converter.normalize value = .ok (.bigInt wide) ↔ value.wholeNumber? = some wide.toInt := by
  cases value with
  | array items => exact iff_of_false (normalize_array_ne (by simp)) (by simp)
  | _ => simp [← Int64.toInt_inj]

private theorem normalize_eq_double_iff {value : Value} {number : Floating} :
    Converter.normalize value = .ok (.double number) ↔ value.floatingNumber? = some number := by
  cases value with
  | array items => exact iff_of_false (normalize_array_ne (by simp)) (by simp)
  | _ => simp

private theorem normalize_eq_timestampTz_iff {value : Value} {microseconds : Int64} :
    Converter.normalize value = .ok (.timestampTz microseconds) ↔
      value.instant? = some microseconds := by
  cases value with
  | array items => exact iff_of_false (normalize_array_ne (by simp)) (by simp)
  | _ => simp

private theorem normalize_eq_json_iff {value : Value} {document : Json.Document} :
    Converter.normalize value = .ok (.json document) ↔ value = .json document := by
  cases value with
  | array items => exact iff_of_false (normalize_array_ne (by simp)) (by simp)
  | _ => simp

private theorem normalize_eq_iff_of_hasOneForm {value converted : Value}
    (oneForm : converted.hasOneForm = true) :
    Converter.normalize value = .ok converted ↔ value = converted := by
  have noArray : ∀ items, converted ≠ .array items := by
    rintro items rfl
    cases oneForm
  cases value with
  | array items => exact iff_of_false (normalize_array_ne noArray) (noArray items).symm
  | _ => cases converted <;> simp_all

private theorem exists_wide_of_wholeNumber {value : Value} {number : Int}
    (holds : value.wholeNumber? = some number) :
    ∃ wide : Int64, Converter.normalize value = .ok (.bigInt wide) ∧ wide.toInt = number := by
  cases value <;> simp_all

end

/-! ## Equality of converted values -/

section

attribute [local simp] sameAs

private theorem sameAs_bigInt_iff {wide : Int64} {value : Value} :
    (bigInt wide).sameAs value = true ↔ .bigInt wide = value := by
  cases value <;> simp

private theorem sameAs_double_iff {number : Floating} {value : Value} :
    (double number).sameAs value = true ↔
      ∃ other, .double other = value ∧ number.sameNumber other = true := by
  cases value <;> simp

private theorem sameAs_timestampTz_iff {microseconds : Int64} {value : Value} :
    (timestampTz microseconds).sameAs value = true ↔ .timestampTz microseconds = value := by
  cases value <;> simp

private theorem sameAs_json_iff {document : Json.Document} {value : Value} :
    (json document).sameAs value = true ↔ ∃ other : Json.Document, .json other = value ∧
      document.content.withoutNegativeZeros = other.content.withoutNegativeZeros := by
  cases value <;> simp [Json.Document.sameAs, Json.Content.sameAs_iff]

private theorem sameAs_array {items : List Value} {value : Value}
    (same : (array items).sameAs value = true) : ∃ others, .array others = value := by
  cases value <;> simp at same ⊢

private theorem uuid_eq_iff {left right : Uuid} : left = right ↔ left.bytes = right.bytes := by
  cases left
  cases right
  simp

private theorem sameAs_iff_of_hasOneForm {left right : Value} (oneForm : left.hasOneForm = true) :
    left.sameAs right = true ↔ left = right := by
  cases left <;> cases right <;> simp_all [hasOneForm, uuid_eq_iff]

end

/-! ## Equality after conversion, by what the expected value holds -/

private theorem equates_iff_of_wholeNumber {left right : Value} {number : Int}
    (holds : left.wholeNumber? = some number) :
    equates Converter.normalize left right = true ↔ right.wholeNumber? = some number := by
  obtain ⟨wide, converts, rfl⟩ := exists_wide_of_wholeNumber holds
  simp [Converter.equates_of_converts converts, sameAs_bigInt_iff, normalize_eq_bigInt_iff]

private theorem equates_iff_of_floatingNumber {left right : Value} {number : Floating}
    (holds : left.floatingNumber? = some number) :
    equates Converter.normalize left right = true ↔
      ∃ other, right.floatingNumber? = some other ∧ number.sameNumber other = true :=
  Converter.equates_iff_exists (normalize_eq_double_iff.mpr holds)
    (fun _ => normalize_eq_double_iff) (fun _ => sameAs_double_iff)

private theorem equates_iff_of_instant {left right : Value} {microseconds : Int64}
    (holds : left.instant? = some microseconds) :
    equates Converter.normalize left right = true ↔ right.instant? = some microseconds := by
  have converts := normalize_eq_timestampTz_iff.mpr holds
  simp [Converter.equates_of_converts converts, sameAs_timestampTz_iff,
    normalize_eq_timestampTz_iff]

private theorem equates_json_iff {document : Json.Document} {right : Value} :
    equates Converter.normalize (.json document) right = true ↔
      ∃ other : Json.Document, right = .json other ∧
        document.content.withoutNegativeZeros = other.content.withoutNegativeZeros :=
  Converter.equates_iff_exists (normalize_eq_json_iff.mpr rfl)
    (fun _ => normalize_eq_json_iff) (fun _ => sameAs_json_iff)

private theorem equates_iff_of_hasOneForm {left right : Value} (oneForm : left.hasOneForm = true) :
    equates Converter.normalize left right = true ↔ right = left := by
  have converts := (normalize_eq_iff_of_hasOneForm oneForm).mpr rfl
  simp [Converter.equates_of_converts converts, sameAs_iff_of_hasOneForm oneForm,
    normalize_eq_iff_of_hasOneForm oneForm]

private theorem equates_array_cons (left right : Value) (lefts rights : List Value) :
    equates Converter.normalize (.array (left :: lefts)) (.array (right :: rights)) =
      (equates Converter.normalize left right &&
        equates Converter.normalize (.array lefts) (.array rights)) := by
  simp only [equates, Converter.normalize, normalizeItems]
  cases Converter.normalize left <;> cases normalizeItems lefts <;>
    cases Converter.normalize right <;> cases normalizeItems rights <;> simp [sameAs, sameItems]

/-- Arrays are equal after conversion exactly if their items are, one by one. -/
theorem equates_arrays_iff {lefts rights : List Value} :
    equates Converter.normalize (.array lefts) (.array rights) = true ↔
      List.Forall₂ (fun left right => equates Converter.normalize left right = true)
        lefts rights := by
  induction lefts generalizing rights with
  | nil =>
      cases rights with
      | nil => exact iff_of_true rfl .nil
      | cons right rights =>
          simp only [equates, Converter.normalize, normalizeItems]
          cases Converter.normalize right <;> cases normalizeItems rights <;>
            simp [sameAs, sameItems]
  | cons left lefts inductionHypothesis =>
      cases rights with
      | nil =>
          simp only [equates, Converter.normalize, normalizeItems]
          cases Converter.normalize left <;> cases normalizeItems lefts <;>
            simp [sameAs, sameItems]
      | cons right rights =>
          rw [equates_array_cons, Bool.and_eq_true, inductionHypothesis, List.forall₂_cons]

example : equates Converter.normalize (.array [.tinyInt 1, .array [.timestamp 5]])
    (.array [.bigInt 1, .array [.timestampTz 5]]) = true := by decide

private theorem array_of_equates {lefts : List Value} {right : Value}
    (equated : equates Converter.normalize (.array lefts) right = true) :
    ∃ rights, right = .array rights := by
  cases converts : Converter.normalize (.array lefts) with
  | error error => simp [equates, converts] at equated
  | ok converted =>
      obtain ⟨other, becomes, same⟩ := (Converter.equates_of_converts converts).mp equated
      obtain ⟨items, rfl⟩ := normalize_array converts
      obtain ⟨others, rfl⟩ := sameAs_array same
      exact array_of_normalize becomes

/-! ## The agreement of conversion and correspondence -/

theorem sizeOf_item_lt {items : List Value} {index : Nat} (within : index < items.length) :
    sizeOf items[index] < sizeOf (Value.array items) := by
  have smaller := List.sizeOf_lt_of_mem (List.getElem_mem within)
  simp only [array.sizeOf_spec]
  omega

/-- Values that are equal after the default conversion correspond. -/
theorem corresponds_of_equates (left right : Value)
    (equated : equates Converter.normalize left right = true) : left.Corresponds right := by
  cases left with
  | tinyInt _ | smallInt _ | int _ | bigInt _ =>
      exact .whole rfl ((equates_iff_of_wholeNumber rfl).mp equated)
  | float number | double number =>
      obtain ⟨other, holds, same⟩ := (equates_iff_of_floatingNumber rfl).mp equated
      exact .floating rfl holds same
  | timestamp _ | timestampTz _ =>
      exact .instant rfl ((equates_iff_of_instant rfl).mp equated)
  | json document =>
      obtain ⟨other, rfl, same⟩ := equates_json_iff.mp equated
      exact .json same
  | array lefts =>
      obtain ⟨rights, rfl⟩ := array_of_equates equated
      obtain ⟨sameLength, itemwise⟩ := List.forall₂_iff_get.mp (equates_arrays_iff.mp equated)
      refine .array sameLength fun index within withinRight => ?_
      -- The recursion is into the items, whose size bounds it.
      have smaller := sizeOf_item_lt within
      exact corresponds_of_equates lefts[index] rights[index] (itemwise index within withinRight)
  | defaultKeyword => cases equated
  | _ =>
      obtain rfl := (equates_iff_of_hasOneForm rfl).mp equated
      exact .equal rfl
termination_by left

/-- Values that correspond are equal after conversion. -/
theorem Corresponds.equates {left right : Value} (related : left.Corresponds right) :
    equates Converter.normalize left right = true := by
  induction related with
  | whole leftHolds rightHolds => exact (equates_iff_of_wholeNumber leftHolds).mpr rightHolds
  | floating leftHolds rightHolds same =>
      exact (equates_iff_of_floatingNumber leftHolds).mpr ⟨_, rightHolds, same⟩
  | instant leftHolds rightHolds => exact (equates_iff_of_instant leftHolds).mpr rightHolds
  | array sameLength itemwise inductionHypothesis =>
      exact equates_arrays_iff.mpr (List.forall₂_iff_get.mpr ⟨sameLength, inductionHypothesis⟩)
  | json same => exact equates_json_iff.mpr ⟨_, rfl, same⟩
  | equal oneForm => exact (equates_iff_of_hasOneForm oneForm).mpr rfl

/-! ## Parts of corresponding values -/

theorem part?_cons_of_getElem {items : List Value} {index : Nat} (within : index < items.length)
    (path : List Nat) : (array items).part? (index :: path) = items[index].part? path := by
  rw [part?, List.getElem?_eq_getElem within, Option.bind_some]

/-- What holds of all parts of an array holds of all parts of each item. -/
theorem forall_part_item {P : Value → Prop} {items : List Value}
    (holds : ∀ path part, (array items).part? path = some part → P part) {index : Nat}
    (within : index < items.length) :
    ∀ path part, items[index].part? path = some part → P part := by
  intro path part held
  exact holds (index :: path) part (by rw [part?_cons_of_getElem within, held])

/-- Where one of two corresponding values has a part, so has the other, and the parts
correspond. -/
theorem Corresponds.part {left right part : Value} (related : left.Corresponds right)
    {path : List Nat} (held : left.part? path = some part) :
    ∃ other, right.part? path = some other ∧ part.Corresponds other := by
  induction path generalizing left right with
  | nil =>
      obtain rfl : left = part := Option.some.inj held
      exact ⟨right, rfl, related⟩
  | cons index path inductionHypothesis =>
      cases left with
      | array lefts =>
          obtain ⟨rights, rfl⟩ := array_of_equates related.equates
          obtain ⟨sameLength, itemwise⟩ :=
            List.forall₂_iff_get.mp (equates_arrays_iff.mp related.equates)
          obtain ⟨item, isItem, partHeld⟩ := Option.bind_eq_some_iff.mp held
          obtain ⟨within, rfl⟩ := List.getElem?_eq_some_iff.mp isItem
          have withinRight : index < rights.length := sameLength ▸ within
          have itemsRelated := corresponds_of_equates _ _ (itemwise index within withinRight)
          rw [part?_cons_of_getElem withinRight]
          exact inductionHypothesis itemsRelated partHeld
      | _ => cases held

private theorem Corresponds.part_ne_defaultKeyword {left right : Value}
    (related : left.Corresponds right)
    (path : List Nat) : left.part? path ≠ some .defaultKeyword := by
  intro held
  obtain ⟨other, _, partsRelated⟩ := related.part held
  cases partsRelated.equates

private theorem Corresponds.no_number_for_bool {left right number : Value}
    (related : left.Corresponds right) {path : List Nat} {flag : Bool}
    (flagHeld : left.part? path = some (.bool flag))
    (numberHeld : right.part? path = some number) : number.isNumber = false := by
  obtain ⟨other, otherHeld, partsRelated⟩ := related.part flagHeld
  obtain rfl : number = other := Option.some.inj (numberHeld.symm.trans otherHeld)
  obtain rfl := (equates_iff_of_hasOneForm rfl).mp partsRelated.equates
  rfl

/-! ## Correspondence as an equivalence -/

theorem Corresponds.symm {left right : Value} (related : left.Corresponds right) :
    right.Corresponds left := by
  induction related with
  | whole leftHolds rightHolds => exact .whole rightHolds leftHolds
  | floating leftHolds rightHolds same =>
      exact .floating rightHolds leftHolds (Floating.sameNumber_symm same)
  | instant leftHolds rightHolds => exact .instant rightHolds leftHolds
  | array sameLength _ inductionHypothesis =>
      exact .array sameLength.symm fun index withinRight withinLeft =>
        inductionHypothesis index withinLeft withinRight
  | json same => exact .json same.symm
  | equal oneForm => exact .equal oneForm

theorem Corresponds.trans {first second third : Value} (related : first.Corresponds second)
    (later : second.Corresponds third) : first.Corresponds third := by
  induction related generalizing third with
  | whole leftHolds rightHolds =>
      exact .whole leftHolds ((equates_iff_of_wholeNumber rightHolds).mp later.equates)
  | floating leftHolds rightHolds same =>
      obtain ⟨other, holds, laterSame⟩ :=
        (equates_iff_of_floatingNumber rightHolds).mp later.equates
      exact .floating leftHolds holds (Floating.sameNumber_trans same laterSame)
  | instant leftHolds rightHolds =>
      exact .instant leftHolds ((equates_iff_of_instant rightHolds).mp later.equates)
  | array sameLength _ inductionHypothesis =>
      obtain ⟨thirds, rfl⟩ := array_of_equates later.equates
      obtain ⟨laterLength, laterItemwise⟩ :=
        List.forall₂_iff_get.mp (equates_arrays_iff.mp later.equates)
      refine .array (sameLength.trans laterLength) fun index within withinThird => ?_
      have withinSecond := sameLength ▸ within
      exact inductionHypothesis index within withinSecond
        (corresponds_of_equates _ _ (laterItemwise index withinSecond withinThird))
  | json same =>
      obtain ⟨other, rfl, laterSame⟩ := equates_json_iff.mp later.equates
      exact .json (same.trans laterSame)
  | equal _ => exact later

/-- Whether no part of a value is DEFAULT or of a floating-point type. The numbers of JSON
documents are never not-a-number, so that they need no exception. -/
def IsExact (value : Value) : Prop :=
  ∀ path part, value.part? path = some part →
    part ≠ .defaultKeyword ∧ part.floatingNumber? = none

private theorem IsExact.corresponds_self (value : Value) (isExact : value.IsExact) :
    value.Corresponds value := by
  have itself := isExact [] value rfl
  cases value with
  | tinyInt _ | smallInt _ | int _ | bigInt _ => exact .whole rfl rfl
  | float _ | double _ => cases itself.2
  | timestamp _ | timestampTz _ => exact .instant rfl rfl
  | json document => exact .json rfl
  | array items =>
      refine .array rfl fun index within _ => ?_
      have smaller := sizeOf_item_lt within
      exact IsExact.corresponds_self items[index] (forall_part_item isExact within)
  | defaultKeyword => exact absurd rfl itself.1
  | _ => exact .equal rfl
termination_by value

/-- Under the default converter, an expected value accepts exactly the values that it corresponds
to. So a truth value and a number in the same place refuse each other at any depth, as does
DEFAULT anywhere on either side; and between values without DEFAULT and floating-point parts
acceptance is an equivalence. -/
theorem acceptance_is_correspondence :
    (∀ expected actual : Value,
      (ArgumentSpec.value expected).accepts Converter.normalize actual = true ↔
        expected.Corresponds actual) ∧
    (∀ (expected actual : Value) (path : List Nat) (flag : Bool) (number : Value),
      number.isNumber = true →
      (expected.part? path = some (.bool flag) ∧ actual.part? path = some number ∨
        expected.part? path = some number ∧ actual.part? path = some (.bool flag)) →
      (ArgumentSpec.value expected).accepts Converter.normalize actual = false) ∧
    (∀ (expected actual : Value) (path : List Nat),
      (expected.part? path = some .defaultKeyword ∨ actual.part? path = some .defaultKeyword) →
      (ArgumentSpec.value expected).accepts Converter.normalize actual = false) ∧
    Equivalence fun left right : { value : Value // value.IsExact } =>
      left.val.Corresponds right.val := by
  have accepts_iff (expected actual : Value) :
      (ArgumentSpec.value expected).accepts Converter.normalize actual = true ↔
        expected.Corresponds actual :=
    ⟨corresponds_of_equates expected actual, Corresponds.equates⟩
  refine ⟨accepts_iff, ?_, ?_, ?_⟩
  · intro expected actual path flag number numeric places
    rw [← Bool.not_eq_true, accepts_iff]
    intro related
    have noNumber : number.isNumber = false := by
      rcases places with ⟨flagHeld, numberHeld⟩ | ⟨numberHeld, flagHeld⟩
      · exact related.no_number_for_bool flagHeld numberHeld
      · exact related.symm.no_number_for_bool flagHeld numberHeld
    rw [numeric] at noNumber
    contradiction
  · intro expected actual path places
    rw [← Bool.not_eq_true, accepts_iff]
    intro related
    rcases places with held | held
    · exact related.part_ne_defaultKeyword path held
    · exact related.symm.part_ne_defaultKeyword path held
  · exact ⟨fun value => IsExact.corresponds_self value.val value.property, Corresponds.symm,
      Corresponds.trans⟩

end Value

end ScriptedSql

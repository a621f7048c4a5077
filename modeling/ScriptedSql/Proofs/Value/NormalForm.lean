import ScriptedSql.Proofs.Value.Correspondence

/-!
Contract: the form that the default conversion brings values into.

Owns:
- values with arrays of equal lengths in the same places;
- normal values, described without conversion;
- the conversion of a value as that of its parts, in their places;
- the refusal of exactly the values that have DEFAULT in them, and the normal form of all others.

Does not own: which values become equal by conversion, and what is read out of them.
-/

namespace ScriptedSql

namespace Value

open Converter (normalizeItems)

def itemCount? : Value → Option Nat
  | .array items => some items.length
  | _ => none

/-- Values with arrays in the same places, of equal lengths: where one has a part, so has the
other, and if one of these parts is an array, so is the other, with as many items. -/
def SameArrays (left right : Value) : Prop :=
  ∀ path, (left.part? path).map itemCount? = (right.part? path).map itemCount?

/-- Whether a value, its items left aside, is no narrow integer, no single, no time stamp without
zone and not DEFAULT. -/
def hasNormalType : Value → Bool
  | .tinyInt _ | .smallInt _ | .int _ | .float _ | .timestamp _ | .defaultKeyword => false
  | _ => true

/-- Whether all parts of a value are of such types. -/
def IsNormal (value : Value) : Prop :=
  ∀ path part, value.part? path = some part → part.hasNormalType = true

/-! ## One level of a value -/

private theorem part?_cons_of_itemCount?_eq_none {value : Value} (noItems : value.itemCount? = none)
    (index : Nat) (path : List Nat) : value.part? (index :: path) = none := by
  cases value with
  | array items => contradiction
  | _ => rfl

section

variable {value converted : Value} (converts : Converter.normalize value = .ok converted)
include converts

/-- What conversion does unless it refuses: an array is converted item by item, and a value that is
no array becomes one of a normal type that is none either. -/
theorem normalize_cases :
    (∃ items others, value = .array items ∧ converted = .array others ∧
      List.Forall₂ (fun item other => Converter.normalize item = .ok other) items others) ∨
    value.itemCount? = none ∧ converted.itemCount? = none ∧ converted.hasNormalType = true := by
  cases value with
  | array items =>
      obtain ⟨others, rfl, itemsConvert⟩ := normalize_array_eq_ok_iff.mp converts
      exact .inl ⟨items, others, rfl, rfl, itemsConvert⟩
  | defaultKeyword => contradiction
  | _ =>
    cases converts
    exact .inr ⟨rfl, rfl, rfl⟩

private theorem itemCount?_of_normalize : value.itemCount? = converted.itemCount? := by
  rcases normalize_cases converts with
    ⟨items, others, rfl, rfl, itemsConvert⟩ | ⟨noItems, noOthers, _⟩
  · exact congrArg some itemsConvert.length_eq
  · rw [noItems, noOthers]

private theorem hasNormalType_of_normalize : converted.hasNormalType = true := by
  rcases normalize_cases converts with ⟨_, others, _, rfl, _⟩ | ⟨_, _, normalType⟩
  · rfl
  · exact normalType

/-! ## All levels of a value -/

/-- A value and what it is converted to have parts in the same places, and each part of the one is
converted to that of the other. -/
theorem part?_of_normalize (path : List Nat) :
    Option.Rel (fun part other => Converter.normalize part = .ok other) (value.part? path)
      (converted.part? path) := by
  induction path generalizing value converted with
  | nil => exact .some converts
  | cons index path inductionHypothesis =>
      rcases normalize_cases converts with
        ⟨items, others, rfl, rfl, itemsConvert⟩ | ⟨noItems, noOthers, _⟩
      · obtain ⟨sameLength, itemwise⟩ := List.forall₂_iff_get.mp itemsConvert
        by_cases within : index < items.length
        · have withinOthers := sameLength ▸ within
          rw [part?_cons_of_getElem within, part?_cons_of_getElem withinOthers]
          exact inductionHypothesis (itemwise index within withinOthers)
        · have beyond := Nat.not_lt.mp within
          rw [part?, part?, List.getElem?_eq_none beyond,
            List.getElem?_eq_none (sameLength ▸ beyond)]
          exact .none
      · rw [part?_cons_of_itemCount?_eq_none noItems, part?_cons_of_itemCount?_eq_none noOthers]
        exact .none

private theorem sameArrays_of_normalize : value.SameArrays converted := by
  intro path
  have parts := part?_of_normalize converts path
  generalize value.part? path = part, converted.part? path = other at parts ⊢
  cases parts with
  | some partConverts => exact congrArg some (itemCount?_of_normalize partConverts)
  | none => rfl

private theorem isNormal_of_normalize : converted.IsNormal := by
  intro path other held
  have parts := part?_of_normalize converts path
  rw [held] at parts
  generalize value.part? path = part at parts
  cases parts with
  | some partConverts => exact hasNormalType_of_normalize partConverts

end

/-- Normal values are converted to themselves. -/
theorem IsNormal.normalize_self (value : Value) (isNormal : value.IsNormal) :
    Converter.normalize value = .ok value := by
  have normalType := isNormal [] value rfl
  cases value with
  | array items =>
      refine normalize_array_eq_ok_iff.mpr ⟨items, rfl, List.forall₂_iff_get.mpr ⟨rfl, ?_⟩⟩
      intro index within _
      have smaller := sizeOf_item_lt within
      exact IsNormal.normalize_self items[index] (forall_part_item isNormal within)
  | tinyInt _ | smallInt _ | int _ | float _ | timestamp _ | defaultKeyword => contradiction
  | _ => rfl
termination_by value

/-! ## Refusal -/

/-- An array is refused for one of its items. -/
theorem exists_refused_of_normalizeItems {items : List Value} {error : Error}
    (refused : normalizeItems items = .error error) :
    ∃ item ∈ items, Converter.normalize item = .error error := by
  induction items with
  | nil => contradiction
  | cons item rest inductionHypothesis =>
      rw [normalizeItems] at refused
      split at refused
      next itemRefused =>
        cases refused
        exact ⟨item, List.mem_cons_self, itemRefused⟩
      next =>
        split at refused
        next restRefused =>
          cases refused
          obtain ⟨other, isItem, otherRefused⟩ := inductionHypothesis restRefused
          exact ⟨other, List.mem_cons_of_mem _ isItem, otherRefused⟩
        next => contradiction

private theorem exists_defaultKeyword_of_refused (value : Value) {error : Error}
    (refused : Converter.normalize value = .error error) :
    ∃ path, value.part? path = some .defaultKeyword := by
  cases value with
  | array items =>
      rw [Converter.normalize] at refused
      split at refused
      next => contradiction
      next itemsRefused =>
        cases refused
        -- The path leads into the item that the array is refused for.
        obtain ⟨item, isItem, itemRefused⟩ := exists_refused_of_normalizeItems itemsRefused
        obtain ⟨index, within, rfl⟩ := List.getElem_of_mem isItem
        have smaller := sizeOf_item_lt within
        obtain ⟨path, held⟩ := exists_defaultKeyword_of_refused items[index] itemRefused
        exact ⟨index :: path, by rw [part?_cons_of_getElem within, held]⟩
  | defaultKeyword => exact ⟨[], rfl⟩
  | _ => contradiction
termination_by value

private theorem refused_iff {value : Value} :
    (∃ error, Converter.normalize value = .error error) ↔
      ∃ path, value.part? path = some .defaultKeyword := by
  constructor
  · rintro ⟨error, refused⟩
    exact exists_defaultKeyword_of_refused value refused
  · rintro ⟨path, held⟩
    cases outcome : Converter.normalize value with
    | error error => exact ⟨error, rfl⟩
    | ok converted =>
        -- Otherwise DEFAULT itself would have been converted.
        have parts := part?_of_normalize outcome path
        rw [held] at parts
        generalize converted.part? path = other at parts
        cases parts with
        | some partConverts => contradiction

/-- The default conversion refuses exactly the values with DEFAULT somewhere in them. Every other
value it brings into a form that it then keeps: arrays are where they were, with as many items as
before, and no part is a narrow integer, a single, a time stamp without zone or DEFAULT. -/
theorem normalize_yields_normal_form (value : Value) :
    ((∃ error, Converter.normalize value = .error error) ↔
      ∃ path, value.part? path = some .defaultKeyword) ∧
    ∀ converted, Converter.normalize value = .ok converted →
      Converter.normalize converted = .ok converted ∧ value.SameArrays converted ∧
        converted.IsNormal := by
  refine ⟨refused_iff, fun converted converts => ?_⟩
  have isNormal := isNormal_of_normalize converts
  exact ⟨isNormal.normalize_self, sameArrays_of_normalize converts, isNormal⟩

/-- Items are widened two arrays deep, where DEFAULT is found as well. -/
theorem nested_items_become_normal :
    let value : Value := .array [.tinyInt (-3), .array [.array [], .timestamp 5], .null]
    let converted : Value := .array [.bigInt (-3), .array [.array [], .timestampTz 5], .null]
    let refused : Value := .array [.int 1, .array [.null, .defaultKeyword]]
    (Converter.normalize value = .ok converted ∧ Converter.normalize converted = .ok converted ∧
      value.SameArrays converted ∧ converted.IsNormal) ∧
    ∃ error, Converter.normalize refused = .error error := by
  intro value converted refused
  have converts : Converter.normalize value = .ok converted := rfl
  exact ⟨⟨converts, (normalize_yields_normal_form value).2 converted converts⟩,
    (normalize_yields_normal_form refused).1.mpr ⟨[1, 1], rfl⟩⟩

end Value

end ScriptedSql

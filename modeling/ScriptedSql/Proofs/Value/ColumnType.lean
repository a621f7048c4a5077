import ScriptedSql.Proofs.Value.Correspondence
import ScriptedSql.SqlType

/-!
Contract: the column type that a value would come back as.

Owns:
- values that carry a type, told without a look at types;
- the deletion of the items that carry none, however deep they are nested;
- the type of an array by its first item that carries one;
- the independence of types from the deleted items.

Does not own: the names of types.
-/

namespace ScriptedSql

namespace Value

/-- Whether a value is neither NULL nor DEFAULT. An array is neither, whatever its items are. -/
def carriesType : Value → Bool
  | .null | .defaultKeyword => false
  | _ => true

mutual

/-- The value without the items of its arrays that are NULL or DEFAULT, at every depth. -/
def withoutUntyped : Value → Value
  | .array items => .array (typedItems items)
  | value => value

/-- The items that are neither NULL nor DEFAULT, each without such items of its own. -/
def typedItems : List Value → List Value
  | [] => []
  | item :: rest =>
    if item.carriesType then item.withoutUntyped :: typedItems rest else typedItems rest

end

/-! ## What deletion leaves -/

private theorem carriesType_withoutUntyped (value : Value) :
    value.withoutUntyped.carriesType = value.carriesType := by
  cases value <;> rfl

/-- The items that carry a type stay in their order, and no others do. -/
theorem typedItems_eq (items : List Value) :
    typedItems items = (items.filter carriesType).map withoutUntyped := by
  induction items with
  | nil => rfl
  | cons item rest inductionHypothesis =>
      rw [typedItems, List.filter_cons]
      split
      · rw [List.map_cons, inductionHypothesis]
      · exact inductionHypothesis

/-- A part below the top belongs to what is left of an item that carries a type. -/
theorem exists_typed_of_part {value part : Value} {index : Nat} {path : List Nat}
    (held : value.withoutUntyped.part? (index :: path) = some part) :
    ∃ item : Value, item.carriesType = true ∧ item.withoutUntyped.part? path = some part := by
  cases value with
  | array items =>
      rw [withoutUntyped, typedItems_eq, part?] at held
      obtain ⟨left, isLeft, partHeld⟩ := Option.bind_eq_some_iff.mp held
      obtain ⟨item, isKept, rfl⟩ := List.mem_map.mp (List.mem_of_getElem? isLeft)
      exact ⟨item, (List.mem_filter.mp isKept).2, partHeld⟩
  | _ => contradiction

private theorem carriesType_of_part {value part : Value} {index : Nat} {path : List Nat}
    (held : value.withoutUntyped.part? (index :: path) = some part) :
    part.carriesType = true := by
  induction path generalizing value index with
  | nil =>
      obtain ⟨item, typed, itemHeld⟩ := exists_typed_of_part held
      obtain rfl : item.withoutUntyped = part := Option.some.inj itemHeld
      rw [carriesType_withoutUntyped, typed]
  | cons next path inductionHypothesis =>
      obtain ⟨item, _, itemHeld⟩ := exists_typed_of_part held
      exact inductionHypothesis itemHeld

end Value

namespace SqlType

open Value (carriesType typedItems)

/-! ## The item that decides -/

private theorem isSome_ofValue? (value : Value) : (ofValue? value).isSome = value.carriesType := by
  cases value <;> rfl

private theorem firstOfValues?_eq (items : List Value) :
    firstOfValues? items = (items.find? carriesType).bind ofValue? := by
  induction items with
  | nil => rfl
  | cons item rest inductionHypothesis =>
      rw [firstOfValues?, List.find?_cons, ← isSome_ofValue? item]
      cases ofItem : ofValue? item with
      | none => exact inductionHypothesis
      | some type => exact ofItem.symm

@[simp]
private theorem ofValue?_array (items : List Value) :
    ofValue? (.array items) =
      some (.array (((items.find? carriesType).bind ofValue?).getD .text)) := by
  rw [ofValue?, firstOfValues?_eq]

private theorem exists_ofValue?_array (items : List Value) :
    ∃ itemType, ofValue? (.array items) = some (.array itemType) ∧
      match items.find? carriesType with
      | some first => ofValue? first = some itemType
      | none => itemType = .text := by
  rw [ofValue?_array]
  cases found : items.find? carriesType with
  | none => exact ⟨.text, rfl, rfl⟩
  | some first =>
      have carries := (isSome_ofValue? first).trans (List.find?_some found)
      obtain ⟨itemType, ofFirst⟩ := Option.isSome_iff_exists.mp carries
      exact ⟨itemType, by rw [Option.bind_some, ofFirst, Option.getD_some], ofFirst⟩

/-- An array without typed items is typed itself. -/
example : ofValue? (.array [.null, .array [.null], .int 1]) = some (.array (.array .text)) := rfl

/-! ## Types without the untyped items -/

private theorem find?_typedItems (items : List Value) :
    (typedItems items).find? carriesType =
      (items.find? carriesType).map Value.withoutUntyped := by
  rw [Value.typedItems_eq, List.find?_map, List.find?_filter]
  congr 2
  funext item
  simp [Value.carriesType_withoutUntyped]

/-- By induction on the item that decides, since what is deleted behind it has no say either. -/
theorem ofValue?_withoutUntyped (value : Value) :
    ofValue? value.withoutUntyped = ofValue? value := by
  cases value with
  | array items =>
      rw [Value.withoutUntyped, ofValue?_array, ofValue?_array, find?_typedItems]
      cases found : items.find? carriesType with
      | none => rfl
      | some first =>
          have smaller := List.sizeOf_lt_of_mem (List.mem_of_find?_eq_some found)
          rw [Option.map_some, Option.bind_some, Option.bind_some, ofValue?_withoutUntyped first]
  | _ => rfl
termination_by value

/-- Items that are NULL or DEFAULT have no say in the type of a value: deleted from all its arrays,
so that no part below the top is one of them any more, they leave the type as it was. An array
always has an array type, that of its first item that is neither, and of texts if there is none. -/
theorem untyped_items_have_no_say :
    (∀ value : Value, ofValue? value.withoutUntyped = ofValue? value ∧
      ∀ index path part, value.withoutUntyped.part? (index :: path) = some part →
        part.carriesType = true) ∧
    ∀ items : List Value, ∃ itemType, ofValue? (.array items) = some (.array itemType) ∧
      match items.find? carriesType with
      | some first => ofValue? first = some itemType
      | none => itemType = .text :=
  ⟨fun value => ⟨ofValue?_withoutUntyped value, fun _ _ _ held => Value.carriesType_of_part held⟩,
    exists_ofValue?_array⟩

end SqlType

end ScriptedSql

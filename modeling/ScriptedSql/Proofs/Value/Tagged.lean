import ScriptedSql.Proofs.Json.Content
import ScriptedSql.Value.Tagged

/-!
Contract: values as tagged JSON texts, and back.

Owns:
- values without floating-point numbers;
- the contents of all variants, which their trees give back;
- the round trip: the text of such a value holds that value as long as it nests no deeper than
  texts may, and no value otherwise.
-/

namespace ScriptedSql.Value

open Json (Tree)

mutual

def hasNoFloating : Value → Bool
  | .float _ => false
  | .double _ => false
  | .json document => document.content.hasNoDouble
  | .array items => haveNoFloating items
  | _ => true

def haveNoFloating : List Value → Bool
  | [] => true
  | item :: rest => hasNoFloating item && haveNoFloating rest

end

/-! ## Numbers and bytes -/

private theorem integer?_integerTree {low high number : Int}
    (inRange : low ≤ number ∧ number ≤ high)
    (fits : -9223372036854775808 ≤ number ∧ number ≤ 18446744073709551615) :
    integer? low high (integerTree number) = some number := by
  have read := Json.Numeral.integer?_ofInt ⟨number, fits⟩
  rw [integerTree, integer?, read, Option.bind_some, if_pos inRange]

@[simp]
private theorem integer32?_integerTree (number : Int32) :
    integer32? (integerTree number.toInt) = some number := by
  have lower := number.le_toInt
  have upper := number.toInt_lt
  rw [integer32?, integer?_integerTree (by omega) (by omega), Option.map_some, Int32.ofInt_toInt]

@[simp]
private theorem integer64?_integerTree (number : Int64) :
    integer64? (integerTree number.toInt) = some number := by
  have lower := number.le_toInt
  have upper := number.toInt_lt
  rw [integer64?, integer?_integerTree (by omega) (by omega), Option.map_some, Int64.ofInt_toInt]

@[simp]
private theorem byte?_integerTree (byte : UInt8) :
    (integer? 0 255 (integerTree byte.toNat)).map UInt8.ofInt = some byte := by
  have upper := byte.toNat_lt
  have small : ((byte.toNat : Int) % 2 ^ 8).toNat = byte.toNat := by omega
  rw [integer?_integerTree (by omega) (by omega), Option.map_some, UInt8.ofInt, small,
    UInt8.ofNat_toNat]

@[simp]
private theorem byteList?_bytesTree (bytes : List UInt8) :
    byteList? (bytesTree bytes) = some bytes := by
  unfold bytesTree byteList?
  induction bytes with
  | nil => rfl
  | cons byte rest inductionHypothesis =>
      simp only [List.map_cons, List.mapM_cons, byte?_integerTree, inductionHypothesis]
      rfl

@[simp]
private theorem uuid?_bytesTree (id : Uuid) : uuid? (bytesTree id.bytes) = some id := by
  rw [uuid?, byteList?_bytesTree, Option.bind_some, dif_pos id.sixteen]

@[simp]
private theorem ofTagged?_tagged {tag : String} (noArray : tag ≠ "Array") (content : Tree) :
    ofTagged? (tagged tag content) = ofContent? tag content := by
  cases content with
  | array items => rw [tagged, ofTagged?, if_neg noArray]
  | _ => rfl

mutual

/-- A value without floating-point numbers is given back by its tree. -/
theorem ofTagged?_toTagged (value : Value) (noFloating : value.hasNoFloating = true) :
    ofTagged? value.toTagged = some value := by
  cases value with
  | null => rfl
  | bool flag => rfl
  | tinyInt number =>
      have lower := number.le_toInt
      have upper := number.toInt_lt
      have read : integer? (-128) 127 (integerTree number.toInt) = some number.toInt :=
        integer?_integerTree (by omega) (by omega)
      simp [toTagged, ofContent?, read]
  | smallInt number =>
      have lower := number.le_toInt
      have upper := number.toInt_lt
      have read : integer? (-32768) 32767 (integerTree number.toInt) = some number.toInt :=
        integer?_integerTree (by omega) (by omega)
      simp [toTagged, ofContent?, read]
  | int number => simp [toTagged, ofContent?]
  | bigInt number => simp [toTagged, ofContent?]
  | float number => contradiction
  | double number => contradiction
  | decimal digits => rfl
  | text content => rfl
  | bytes content => simp [toTagged, ofContent?]
  | date days => simp [toTagged, ofContent?]
  | time microseconds => simp [toTagged, ofContent?]
  | timestamp microseconds => simp [toTagged, ofContent?]
  | timestampTz microseconds => simp [toTagged, ofContent?]
  | uuid id => simp [toTagged, ofContent?]
  | json document =>
      simp [toTagged, ofContent?, Json.Document.ofTree?_toTree document noFloating]
  | array items =>
      simp [toTagged, tagged, ofTagged?, ofTaggedItems?_toTaggedItems items noFloating]
  | defaultKeyword => rfl

private theorem ofTaggedItems?_toTaggedItems (items : List Value)
    (noFloating : haveNoFloating items = true) :
    ofTaggedItems? (toTaggedItems items) = some items := by
  cases items with
  | nil => rfl
  | cons item rest =>
      obtain ⟨exactFirst, exactRest⟩ := Bool.and_eq_true_iff.mp noFloating
      have first := ofTagged?_toTagged item exactFirst
      have others := ofTaggedItems?_toTaggedItems rest exactRest
      simp [toTaggedItems, ofTaggedItems?, first, others]

end

/-! ## Texts -/

private theorem bytesTree_hasDigits (bytes : List UInt8) : (bytesTree bytes).HasDigits := by
  show Tree.ItemsHaveDigits (bytes.map _)
  induction bytes with
  | nil => trivial
  | cons byte rest inductionHypothesis =>
      exact ⟨Json.Numeral.ofInt_hasDigits _, inductionHypothesis⟩

private theorem tagged_hasDigits (tag : String) {content : Tree} (hasDigits : content.HasDigits) :
    (tagged tag content).HasDigits :=
  ⟨hasDigits, trivial⟩

mutual

private theorem toTagged_hasDigits (value : Value) (noFloating : value.hasNoFloating = true) :
    value.toTagged.HasDigits := by
  have integer (number : Int) : (integerTree number).HasDigits :=
    Json.Numeral.ofInt_hasDigits number
  cases value with
  | null => trivial
  | bool flag => exact tagged_hasDigits _ trivial
  | tinyInt number => exact tagged_hasDigits _ (integer _)
  | smallInt number => exact tagged_hasDigits _ (integer _)
  | int number => exact tagged_hasDigits _ (integer _)
  | bigInt number => exact tagged_hasDigits _ (integer _)
  | float number => contradiction
  | double number => contradiction
  | decimal digits => exact tagged_hasDigits _ trivial
  | text content => exact tagged_hasDigits _ trivial
  | bytes content => exact tagged_hasDigits _ (bytesTree_hasDigits content)
  | date days => exact tagged_hasDigits _ (integer _)
  | time microseconds => exact tagged_hasDigits _ (integer _)
  | timestamp microseconds => exact tagged_hasDigits _ (integer _)
  | timestampTz microseconds => exact tagged_hasDigits _ (integer _)
  | uuid id => exact tagged_hasDigits _ (bytesTree_hasDigits id.bytes)
  | json document =>
      exact tagged_hasDigits _ (Json.Content.toTree_hasDigits document.content noFloating)
  | array items => exact tagged_hasDigits _ (toTaggedItems_haveDigits items noFloating)
  | defaultKeyword => trivial

private theorem toTaggedItems_haveDigits (items : List Value)
    (noFloating : haveNoFloating items = true) :
    Tree.ItemsHaveDigits (toTaggedItems items) := by
  cases items with
  | nil => trivial
  | cons item rest =>
      obtain ⟨first, others⟩ := Bool.and_eq_true_iff.mp noFloating
      exact ⟨toTagged_hasDigits item first, toTaggedItems_haveDigits rest others⟩

end

/-- Every value without floating-point numbers is read back from its text if objects and lists
nest at most 127 deep there, and the text cannot be read otherwise. -/
theorem decode?_encode (value : Value) (noFloating : value.hasNoFloating = true) :
    decode? value.encode = if value.toTagged.depth ≤ 127 then some value else none := by
  have read := Tree.read?_written value.toTagged (toTagged_hasDigits value noFloating)
  rw [decode?, encode, Tree.text, String.toList_ofList, read, Json.depthLimit]
  by_cases fits : value.toTagged.depth ≤ 127
  · rw [if_pos fits, if_pos fits, Option.bind_some, ofTagged?_toTagged value noFloating]
  · rw [if_neg fits, if_neg fits, Option.bind_none]

/-- Every array takes an object and a list, so 63 of them may stand inside each other, but not
64. -/
theorem decode?_encode_nested :
    let nested (count : Nat) : Value :=
      Nat.repeat (fun inner => .array [inner, .null]) count (.text "\"\x01\\")
    (nested 63).toTagged.depth = 127 ∧ decode? (nested 63).encode = some (nested 63) ∧
      decode? (nested 64).encode = none := by
  intro nested
  have allowed := decode?_encode (nested 63) (by decide)
  have tooDeep := decode?_encode (nested 64) (by decide)
  rw [if_pos (by decide +kernel)] at allowed
  rw [if_neg (by decide +kernel)] at tooDeep
  exact ⟨by decide +kernel, allowed, tooDeep⟩

end ScriptedSql.Value

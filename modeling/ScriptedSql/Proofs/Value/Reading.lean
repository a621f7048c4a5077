import ScriptedSql.Proofs.Value.Correspondence
import ScriptedSql.Scan

/-!
Contract: what values are read as before and after the default conversion.

Owns:
- what each typed reading finds, told by the content of the value alone;
- values that all typed readings take alike, and that the default conversion leads from a value
  to such a one.

Does not own: the errors of reading, which give the type of the value and so do change with
conversion, and the reading of a value as it is.
-/

namespace ScriptedSql

namespace ScanType

/-- Whether something is read out of the value: all types but the value as it is, also where
nothing is allowed. -/
def readsContent : ScanType → Bool
  | .value => false
  | .optional inner => inner.readsContent
  | _ => true

end ScanType

namespace Value

/-! ## What readings find -/

/-- The truth value that a value is, not counting integers. -/
def truthValue? : Value → Option Bool
  | .bool flag => some flag
  | _ => none

def texts? : Value → Option (List String)
  | .array items => items.mapM asText?
  | _ => none

/-- The number itself, if it fits 32 bits. -/
def narrowed? (number : Int64) : Option Int32 :=
  if number.toInt32.toInt64 = number then some number.toInt32 else none

section

variable {value : Value}

private theorem orNotOfType_eq_ok_iff {α : Type} {expected : String} {content : Option α}
    {found : α} :
    value.orNotOfType expected content = .ok found ↔ content = some found := by
  cases content <;> simp [orNotOfType, notOfType]

private theorem scan_bool_eq_ok_iff {found : Bool} :
    value.scan .bool = .ok found ↔ value.truthValue? = some found := by
  cases value <;> simp [scan, truthValue?, notOfType]

private theorem scan_int32_eq_ok_iff {found : Int32} :
    value.scan .int32 = .ok found ↔ value.asInt64?.bind narrowed? = some found := by
  rw [scan, scanInt32]
  cases value.asInt64? with
  | none => simp [notOfType]
  | some number =>
      by_cases fits : number.toInt32.toInt64 = number
      · simp [narrowed?, fits]
      · simp [narrowed?, fits]

private theorem scanTexts_eq_ok_iff {items : List Value} {found : List String} :
    scanTexts items = .ok found ↔ items.mapM asText? = some found := by
  induction items generalizing found with
  | nil => simp [scanTexts]
  | cons item rest inductionHypothesis =>
      have first (content : String) : item.scanText = .ok content ↔ item.asText? = some content :=
        orNotOfType_eq_ok_iff
      rw [scanTexts, List.mapM_cons]
      cases itemScan : item.scanText with
      | error error =>
          have noText : item.asText? = none := by
            refine Option.eq_none_iff_forall_not_mem.mpr fun content isText => ?_
            rw [(first content).mpr isText] at itemScan
            contradiction
          simp [noText]
      | ok content =>
          rw [(first content).mp itemScan]
          cases restScan : scanTexts rest with
          | error error =>
              have noTexts : rest.mapM asText? = none := by
                refine Option.eq_none_iff_forall_not_mem.mpr fun others areTexts => ?_
                rw [inductionHypothesis.mpr areTexts] at restScan
                contradiction
              simp [noTexts]
          | ok others =>
              rw [inductionHypothesis.mp restScan]
              simp

private theorem scan_texts_eq_ok_iff {found : List String} :
    value.scan .texts = .ok found ↔ value.texts? = some found := by
  cases value with
  | array items => exact scanTexts_eq_ok_iff
  | _ => simp [scan, texts?, notOfType]

private theorem scan_optional_eq_ok_iff {inner : ScanType} {found : Option inner.Carrier} :
    value.scan (.optional inner) = .ok found ↔
      if value.isNull then found = none
      else ∃ content, found = some content ∧ value.scan inner = .ok content := by
  rw [scan]
  split
  · simp [eq_comm]
  · cases value.scan inner <;> simp [eq_comm]

end

/-! ## Values that are read alike -/

/-- Two values of which every reading finds the same. -/
structure ReadAlike (left right : Value) : Prop where
  null : left.isNull = right.isNull
  flag : left.truthValue? = right.truthValue?
  whole : left.asInt64? = right.asInt64?
  number : left.asDouble? = right.asDouble?
  text : left.asText? = right.asText?
  bytes : left.asBytes? = right.asBytes?
  texts : left.texts? = right.texts?

theorem ReadAlike.refl (value : Value) : ReadAlike value value :=
  ⟨rfl, rfl, rfl, rfl, rfl, rfl, rfl⟩

/-- By induction on the type, since what is optional is read as what is within. -/
theorem ReadAlike.scan_eq_ok_iff {left right : Value} (alike : ReadAlike left right)
    {type : ScanType} (readsContent : type.readsContent = true) {found : type.Carrier} :
    left.scan type = .ok found ↔ right.scan type = .ok found := by
  induction type with
  | bool => rw [scan_bool_eq_ok_iff, scan_bool_eq_ok_iff, alike.flag]
  | int32 => rw [scan_int32_eq_ok_iff, scan_int32_eq_ok_iff, alike.whole]
  | int64 =>
      rw [scan, scan, orNotOfType_eq_ok_iff, orNotOfType_eq_ok_iff, alike.whole]
  | double =>
      rw [scan, scan, orNotOfType_eq_ok_iff, orNotOfType_eq_ok_iff, alike.number]
  | text =>
      rw [scan, scan, scanText, scanText, orNotOfType_eq_ok_iff, orNotOfType_eq_ok_iff, alike.text]
  | bytes =>
      rw [scan, scan, orNotOfType_eq_ok_iff, orNotOfType_eq_ok_iff, alike.bytes]
  | texts => rw [scan_texts_eq_ok_iff, scan_texts_eq_ok_iff, alike.texts]
  | value => contradiction
  | optional inner inductionHypothesis =>
      refine scan_optional_eq_ok_iff.trans (Iff.trans ?_ scan_optional_eq_ok_iff.symm)
      simp only [alike.null, inductionHypothesis readsContent]

/-! ## Conversion -/

/-- Texts are kept by the conversion, and no other value becomes one. -/
theorem asText?_of_normalize {value converted : Value}
    (converts : Converter.normalize value = .ok converted) :
    value.asText? = converted.asText? := by
  cases value with
  | array items =>
      obtain ⟨others, rfl⟩ := normalize_array converts
      rfl
  | defaultKeyword => contradiction
  | _ =>
    cases converts
    rfl

private theorem mapM_asText?_of_forall₂ {items converted : List Value}
    (itemsConvert : List.Forall₂ (fun item other => Converter.normalize item = .ok other)
      items converted) :
    items.mapM asText? = converted.mapM asText? := by
  induction itemsConvert with
  | nil => rfl
  | cons itemConverts _ inductionHypothesis =>
      rw [List.mapM_cons, List.mapM_cons, asText?_of_normalize itemConverts, inductionHypothesis]

/-- Integers are widened without loss, so that their numbers are the same, be they read as whole
numbers or as doubles. -/
theorem readAlike_of_normalize {value converted : Value}
    (converts : Converter.normalize value = .ok converted) : ReadAlike value converted := by
  cases value with
  | tinyInt number | smallInt number | int number =>
      cases converts
      refine ⟨rfl, rfl, rfl, ?_, rfl, rfl, rfl⟩
      simp only [asDouble?, Int8.toInt_toInt64, Int16.toInt_toInt64, Int32.toInt_toInt64]
  | float number | timestamp microseconds =>
      cases converts
      exact ⟨rfl, rfl, rfl, rfl, rfl, rfl, rfl⟩
  | array items =>
      obtain ⟨others, rfl, itemsConvert⟩ := normalize_array_eq_ok_iff.mp converts
      exact ⟨rfl, rfl, rfl, rfl, rfl, rfl, mapM_asText?_of_forall₂ itemsConvert⟩
  | defaultKeyword => contradiction
  | _ =>
    cases converts
    exact .refl _

/-- The default conversion changes neither what a value is read as nor whether it can be read, for
all types that read something out of it. -/
theorem normalize_keeps_readings {value converted : Value}
    (converts : Converter.normalize value = .ok converted) {type : ScanType}
    (readsContent : type.readsContent = true) (found : type.Carrier) :
    value.scan type = .ok found ↔ converted.scan type = .ok found :=
  (readAlike_of_normalize converts).scan_eq_ok_iff readsContent

/-- A number that was widened is read with 32 bits from the wide one as from the narrow one. -/
theorem widened_number_is_read :
    let type : ScanType := .optional .int32
    Converter.normalize (.smallInt (-3)) = .ok (.bigInt (-3)) ∧ type.readsContent = true ∧
      (Value.smallInt (-3)).scan type = .ok (some (-3)) := by
  intro type
  have converts : Converter.normalize (.smallInt (-3)) = .ok (.bigInt (-3)) := rfl
  have readsContent : type.readsContent = true := rfl
  exact ⟨converts, readsContent,
    (normalize_keeps_readings converts readsContent (some (-3))).mpr rfl⟩

end Value

end ScriptedSql

import Mathlib.Data.List.Induction
import ScriptedSql.Proofs.ResultSet.Reading

/-!
Contract: access to rows by the names of their columns.

Owns:
- the index of a name: what the table holds that was filled from the first name to the last is
  the last that bears the name;
- the agreement of reading by name with reading at that index, and the errors of reading by name,
  all of which name the column;
- that the rows of a cursor have a value under every column.

Does not own: what a value is read as (`Scan`), and in which order a cursor gives its rows
(`ResultSet.Reading`).
-/

namespace ScriptedSql

/-! ## The index of a name -/

private theorem getElem?_concat_eq_some_iff {names : List String} {name last : String}
    (differs : name ≠ last) {index : Nat} :
    (names ++ [last])[index]? = some name ↔ names[index]? = some name := by
  rw [List.getElem?_append]
  split
  next inside => rfl
  next past =>
    rw [List.getElem?_eq_none (Nat.le_of_not_lt past), List.getElem?_singleton]
    split
    · simp [differs.symm]
    · rfl

namespace Columns

@[simp]
private theorem table_concat (names : List String) (last : String) :
    table ⟨names ++ [last]⟩ = (table ⟨names⟩).put last names.length := by
  simp [table, List.zipIdx_append]

@[simp]
private theorem indexOf?_concat (names : List String) (last name : String) :
    indexOf? ⟨names ++ [last]⟩ name =
      if name = last then some names.length else indexOf? ⟨names⟩ name := by
  simp [indexOf?, table_concat]

/-- What the filled table holds for a name is the last index at which the name stands. -/
theorem indexOf?_eq_some_iff {columns : Columns} {name : String} {index : Nat} :
    columns.indexOf? name = some index ↔ columns.nameAt? index = some name ∧
      ∀ later, index < later → columns.nameAt? later ≠ some name := by
  obtain ⟨names⟩ := columns
  induction names using List.reverseRecOn with
  | nil => simp [indexOf?, table, Table.get?, nameAt?]
  | append_singleton names last inductionHypothesis =>
      rw [indexOf?_concat]
      by_cases isLast : name = last
      · have lastStands : nameAt? ⟨names ++ [last]⟩ names.length = some name := by
          rw [nameAt?, List.getElem?_concat_length, isLast]
        rw [if_pos isLast, Option.some_inj]
        constructor
        · rintro rfl
          refine ⟨lastStands, fun later behind => ?_⟩
          rw [nameAt?, List.getElem?_eq_none (by rw [List.length_append]; exact behind)]
          exact (Option.some_ne_none name).symm
        · rintro ⟨stands, noneLater⟩
          have inside : index < (names ++ [last]).length :=
            (List.getElem?_eq_some_iff.mp stands).1
          rw [List.length_append, List.length_singleton] at inside
          by_contra notLast
          exact noneLater names.length (by omega) lastStands
      · simp only [if_neg isLast, inductionHypothesis, nameAt?, ne_eq,
          getElem?_concat_eq_some_iff isLast]

private theorem exists_indexOf?_of_mem {columns : Columns} {name : String}
    (isThere : name ∈ columns.names) : ∃ index, columns.indexOf? name = some index := by
  obtain ⟨names⟩ := columns
  induction names using List.reverseRecOn with
  | nil => exact absurd isThere List.not_mem_nil
  | append_singleton names last inductionHypothesis =>
      rw [indexOf?_concat]
      split
      · exact ⟨_, rfl⟩
      next differs =>
        rcases List.mem_append.mp isThere with before | isLast
        · exact inductionHypothesis before
        · exact absurd (List.mem_singleton.mp isLast) differs

end Columns

/-! ## Errors of reading -/

def Error.OfType (error : Error) : Prop :=
  ∃ mistake, error = .type mistake

namespace Value

variable {error : Error} {value : Value}

private theorem ofType_of_orNotOfType {α : Type} {expected : String} {found : Option α}
    (failed : value.orNotOfType expected found = .error error) : error.OfType := by
  cases found with
  | none =>
      cases failed
      exact ⟨_, rfl⟩
  | some found => contradiction

private theorem ofType_of_scanTexts {items : List Value} (failed : scanTexts items = .error error) :
    error.OfType := by
  induction items with
  | nil => contradiction
  | cons item rest inductionHypothesis =>
      rw [scanTexts] at failed
      split at failed
      next itemFailed =>
        cases failed
        exact ofType_of_orNotOfType itemFailed
      next =>
        split at failed
        next restFailed =>
          cases failed
          exact inductionHypothesis restFailed
        · contradiction

private theorem ofType_of_scanInt32 (failed : value.scanInt32 = .error error) : error.OfType := by
  rw [scanInt32] at failed
  split at failed
  · cases failed
    exact ⟨_, rfl⟩
  · split at failed
    · contradiction
    · cases failed
      exact ⟨_, rfl⟩

/-- Reading fails with errors about the type only. -/
theorem ofType_of_scan {type : ScanType} (failed : value.scan type = .error error) :
    error.OfType := by
  induction type with
  | bool =>
      cases value with
      | bool flag => contradiction
      | _ =>
        cases failed
        exact ⟨_, rfl⟩
  | int32 => exact ofType_of_scanInt32 failed
  | int64 | double | text | bytes => exact ofType_of_orNotOfType failed
  | texts =>
      cases value with
      | array items => exact ofType_of_scanTexts failed
      | _ =>
        cases failed
        exact ⟨_, rfl⟩
  | value => contradiction
  | optional inner inductionHypothesis =>
      rw [scan] at failed
      split at failed
      · contradiction
      · split at failed
        · contradiction
        next innerFailed =>
          cases failed
          exact inductionHypothesis innerFailed

end Value

/-! ## Reading by name -/

namespace Row

variable {row : Row} {name : String} {index : Nat}

private theorem getNamed?_of_indexOf? (isIndex : row.columns.indexOf? name = some index) :
    row.getNamed? name = row.get? index := by
  rw [getNamed?, isIndex, Option.bind_some]

private theorem getNamed?_eq_none_iff :
    row.getNamed? name = none ↔
      ∀ index, row.columns.indexOf? name = some index → row.size ≤ index := by
  cases isIndex : row.columns.indexOf? name with
  | none => simp [getNamed?, isIndex]
  | some index => simp [getNamed?_of_indexOf? isIndex, get?, size]

/-- What is read by name is what is read at the index of the name. -/
theorem readNamed_eq_ok_iff {type : ScanType} {found : type.Carrier} :
    row.readNamed type name = .ok found ↔
      ∃ index, row.columns.indexOf? name = some index ∧ row.read type index = .ok found := by
  cases isIndex : row.columns.indexOf? name with
  | none => simp [readNamed, getNamed?, isIndex]
  | some index =>
      simp only [readNamed, getNamed?_of_indexOf? isIndex, read, Option.some_inj, exists_eq_left']
      cases row.get? index with
      | none => simp
      | some value => cases scanned : value.scan type <;> simp [scanned, Except.mapError]

private theorem readNamed_of_missing (missing : row.getNamed? name = none) (type : ScanType) :
    row.readNamed type name =
      .error (.type ⟨type.fullName, "column '" ++ name ++ "' not found", some name⟩) := by
  rw [readNamed, missing]

private theorem column_of_readNamed_error {type : ScanType} {error : Error}
    (failed : row.readNamed type name = .error error) :
    ∃ mistake, error = .type mistake ∧ mistake.column = some name := by
  rw [readNamed] at failed
  split at failed
  next value isThere =>
    cases scanned : value.scan type with
    | ok found =>
        rw [scanned] at failed
        contradiction
    | error unnamed =>
        obtain ⟨mistake, rfl⟩ := Value.ofType_of_scan scanned
        rw [scanned] at failed
        cases failed
        exact ⟨_, rfl, rfl⟩
  · cases failed
    exact ⟨_, rfl, rfl⟩

end Row

namespace Cursor

private theorem row_of_next {cursor : Cursor} {row : Row} (given : cursor.next.1 = some (.ok row)) :
    row.columns = cursor.set.columns ∧ row.values ∈ cursor.set.rows := by
  unfold next at given
  split at given
  · contradiction
  · split at given
    · cases given
    · split at given
      · contradiction
      next isRow =>
        cases given
        exact ⟨rfl, List.mem_of_getElem? isRow⟩

/-- Rows that come from a sound set have a value under every column. -/
theorem exists_getNamed?_of_next {cursor : Cursor} (sound : cursor.set.Sound) {row : Row}
    (given : cursor.next.1 = some (.ok row)) {name : String}
    (isColumn : name ∈ cursor.set.columns.names) : ∃ value, row.getNamed? name = some value := by
  obtain ⟨sameColumns, isRow⟩ := row_of_next given
  rw [← sameColumns] at isColumn
  refine Option.ne_none_iff_exists'.mp fun missing => ?_
  obtain ⟨index, isIndex⟩ : ∃ index, row.columns.indexOf? name = some index :=
    Columns.exists_indexOf?_of_mem isColumn
  have past : row.size ≤ index := Row.getNamed?_eq_none_iff.mp missing index isIndex
  have inside : index < row.columns.size :=
    (List.getElem?_eq_some_iff.mp (Columns.indexOf?_eq_some_iff.mp isIndex).1).1
  have width : row.size = row.columns.size := by
    rw [sameColumns]
    exact sound.widths row.values isRow
  omega

end Cursor

/-- A name stands for the last column that bears it, in rows of any width. Reading by name finds
exactly what reading at that index finds, and otherwise fails with an error of type about that
name, the same one whether there is no such column or no value in it. In rows that a cursor gives,
there is a value under every name that was declared. -/
theorem Row.name_stands_for_last_column (columns : Columns) (values : List Value) :
    let row : Row := ⟨columns, values⟩
    (∀ name index, columns.indexOf? name = some index ↔ columns.nameAt? index = some name ∧
      ∀ later, index < later → columns.nameAt? later ≠ some name) ∧
    (∀ name index, columns.indexOf? name = some index →
      columns.nameAt? index = some name ∧ row.getNamed? name = row.get? index) ∧
    (∀ name, name ∉ columns.names →
      columns.indexOf? name = none ∧ row.getNamed? name = none) ∧
    (∀ (type : ScanType) (name : String) (found : type.Carrier),
      row.readNamed type name = .ok found ↔
        ∃ index, columns.indexOf? name = some index ∧ row.read type index = .ok found) ∧
    (∀ (type : ScanType) (name : String) (error : Error),
      row.readNamed type name = .error error →
        ∃ mistake, error = .type mistake ∧ mistake.column = some name) ∧
    (∀ (type : ScanType) (name : String),
      (∀ index, columns.indexOf? name = some index → values.length ≤ index) →
        row.readNamed type name =
          .error (.type ⟨type.fullName, "column '" ++ name ++ "' not found", some name⟩)) ∧
    ∀ (steps : List ResultSet.BuildStep) (cursor : Cursor),
      ResultSet.Built steps cursor.set → cursor.next.1 = some (.ok row) →
        ∀ name ∈ cursor.set.columns.names, ∃ value, row.getNamed? name = some value := by
  intro row
  refine ⟨fun name index => Columns.indexOf?_eq_some_iff, ?_, ?_,
    fun type name found => readNamed_eq_ok_iff, fun type name error => column_of_readNamed_error,
    ?_, ?_⟩
  · intro name index isIndex
    exact ⟨(Columns.indexOf?_eq_some_iff.mp isIndex).1, getNamed?_of_indexOf? isIndex⟩
  · intro name unknown
    have noIndex : columns.indexOf? name = none := by
      refine Option.eq_none_iff_forall_not_mem.mpr fun index isIndex => ?_
      exact unknown (List.mem_of_getElem? (Columns.indexOf?_eq_some_iff.mp isIndex).1)
    exact ⟨noIndex, by rw [getNamed?, noIndex, Option.bind_none]⟩
  · intro type name noValue
    exact readNamed_of_missing (getNamed?_eq_none_iff.mpr noValue) type
  · intro steps cursor built given name isColumn
    exact Cursor.exists_getNamed?_of_next built.sound given isColumn

end ScriptedSql

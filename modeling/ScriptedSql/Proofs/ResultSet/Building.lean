import Mathlib.Data.Nat.Find
import ScriptedSql.ResultSet

/-!
Contract: result sets as they are built, step by step.

Owns:
- the steps of building, and the result sets that steps lead to when none is refused;
- what every built set keeps: rows as wide as the columns are many, and errors that do not lie
  past the end;
- what a built set holds, told by the steps alone: the rows that were added, in order, and at
  each index the error that was attached there last.

Does not own: how a set is read (`ResultSet.Reading`).
-/

namespace ScriptedSql

namespace ResultSet

/-! ## Steps -/

/-- A step of building: rows are added, or an error is attached to an index or to the
closing. -/
inductive BuildStep where
  | addRow (values : List Value)
  | addRows (rows : List (List Value))
  | addError (index : Nat) (error : Error)
  | setCloseError (error : Error)

namespace BuildStep

def apply (set : ResultSet) : BuildStep → Except Error ResultSet
  | .addRow values => set.addRow values
  | .addRows rows => set.addRows rows
  | .addError index error => set.addError index error
  | .setCloseError error => .ok (set.withCloseError error)

def addedRows : BuildStep → List (List Value)
  | .addRow values => [values]
  | .addRows rows => rows
  | _ => []

def errorAt? (index : Nat) : BuildStep → Option Error
  | .addError place error => if place = index then some error else none
  | _ => none

end BuildStep

/-- What holds of every built set: each row has a value for every column, and no error lies
past the end. -/
structure Sound (set : ResultSet) : Prop where
  widths : ∀ values ∈ set.rows, values.length = set.columns.size
  places : ∀ index error, (index, error) ∈ set.errors → index ≤ set.size

private theorem addRow_eq_ok_iff {set next : ResultSet} {values : List Value} :
    set.addRow values = .ok next ↔
      values.length = set.columns.size ∧ next = { set with rows := set.rows ++ [values] } := by
  unfold addRow
  by_cases fits : values.length = set.columns.size
  · simp [fits, eq_comm]
  · simp [fits]

private theorem addRows_of_ok {rows : List (List Value)} {set next : ResultSet}
    (taken : set.addRows rows = .ok next) :
    (∀ values ∈ rows, values.length = set.columns.size) ∧
      next = { set with rows := set.rows ++ rows } := by
  induction rows generalizing set with
  | nil =>
      cases taken
      simp
  | cons values rest inductionHypothesis =>
      rw [addRows] at taken
      split at taken
      next first added =>
        obtain ⟨fits, rfl⟩ := addRow_eq_ok_iff.mp added
        obtain ⟨restFit, rfl⟩ := inductionHypothesis taken
        refine ⟨List.forall_mem_cons.mpr ⟨fits, restFit⟩, ?_⟩
        rw [List.append_assoc, List.singleton_append]
      · contradiction

private theorem addError_eq_ok_iff {set next : ResultSet} {index : Nat} {error : Error} :
    set.addError index error = .ok next ↔
      index ≤ set.size ∧ next = { set with errors := (index, error) :: set.errors } := by
  unfold addError
  by_cases within : index ≤ set.size
  · simp [within, eq_comm]
  · simp [within]

theorem Sound.append {set : ResultSet} (sound : set.Sound) {rows : List (List Value)}
    (fit : ∀ values ∈ rows, values.length = set.columns.size) :
    Sound { set with rows := set.rows ++ rows } where
  widths values isThere := (List.mem_append.mp isThere).elim (sound.widths values) (fit values)
  places index error isThere := by
    have within := sound.places index error isThere
    unfold size at within ⊢
    rw [List.length_append]
    omega

/-- What a step that is not refused does: rows go behind those that are there, and an error
covers what was attached to its index before. -/
structure BuildStep.Does (step : BuildStep) (set next : ResultSet) : Prop where
  columns : next.columns = set.columns
  rows : next.rows = set.rows ++ step.addedRows
  errors : ∀ index, next.errorAt? index = (step.errorAt? index).or (set.errorAt? index)
  sound : set.Sound → next.Sound

private theorem BuildStep.does_of_apply {step : BuildStep} {set next : ResultSet}
    (taken : step.apply set = .ok next) : step.Does set next := by
  cases step with
  | addRow values =>
      obtain ⟨fits, rfl⟩ := addRow_eq_ok_iff.mp taken
      exact ⟨rfl, rfl, fun _ => rfl, fun sound => sound.append (by simpa using fits)⟩
  | addRows rows =>
      obtain ⟨fit, rfl⟩ := addRows_of_ok taken
      exact ⟨rfl, rfl, fun _ => rfl, fun sound => sound.append fit⟩
  | addError place error =>
      obtain ⟨within, rfl⟩ := addError_eq_ok_iff.mp taken
      refine ⟨rfl, (List.append_nil _).symm, ?_, ?_⟩
      · intro index
        simp only [ResultSet.errorAt?, BuildStep.errorAt?, List.lookup_cons]
        by_cases same : place = index
        · rw [if_pos same, beq_iff_eq.mpr same.symm, Option.some_or]
        · rw [if_neg same, beq_eq_false_iff_ne.mpr (Ne.symm same), Option.none_or]
      · intro sound
        refine ⟨sound.widths, ?_⟩
        intro index attached isThere
        rcases List.mem_cons.mp isThere with isNew | isOld
        · cases isNew
          exact within
        · exact sound.places index attached isOld
  | setCloseError error =>
      cases taken
      exact ⟨rfl, (List.append_nil _).symm, fun _ => rfl, fun sound => ⟨sound.widths, sound.places⟩⟩

/-! ## Built sets -/

/-- The sets that steps lead to, none of them refused, from columns with declared types or
without. -/
inductive Built : List BuildStep → ResultSet → Prop where
  | ofColumns (names : List String) : Built [] (.ofColumns names)
  | ofDefinitions (definitions : List ColumnDefinition) : Built [] (.ofDefinitions definitions)
  | step {steps : List BuildStep} {set next : ResultSet} (before : Built steps set)
      (step : BuildStep) (taken : step.apply set = .ok next) : Built (steps ++ [step]) next

/-- The error that was attached to an index last. -/
def lastErrorAt? (steps : List BuildStep) (index : Nat) : Option Error :=
  steps.reverse.findSome? (·.errorAt? index)

@[simp]
private theorem lastErrorAt?_concat (steps : List BuildStep) (step : BuildStep) (index : Nat) :
    lastErrorAt? (steps ++ [step]) index =
      (step.errorAt? index).or (lastErrorAt? steps index) := by
  rw [lastErrorAt?, List.reverse_concat, List.findSome?_cons]
  cases step.errorAt? index <;> rfl

private theorem sound_of_nothing {set : ResultSet} (noRows : set.rows = [])
    (noErrors : set.errors = []) :
    set.Sound := by
  refine ⟨?_, ?_⟩
  · rw [noRows]
    exact fun _ isThere => absurd isThere List.not_mem_nil
  · rw [noErrors]
    exact fun _ _ isThere => absurd isThere List.not_mem_nil

/-- However a set was built, its rows fit its columns, and its errors lie within it. -/
theorem Built.sound {steps : List BuildStep} {set : ResultSet} (built : Built steps set) :
    set.Sound := by
  induction built with
  | ofColumns names => exact sound_of_nothing rfl rfl
  | ofDefinitions definitions => exact sound_of_nothing rfl rfl
  | step before step taken sound => exact (BuildStep.does_of_apply taken).sound sound

/-- A built set holds the rows that were added, in order. -/
theorem Built.rows_eq {steps : List BuildStep} {set : ResultSet} (built : Built steps set) :
    set.rows = steps.flatMap (·.addedRows) := by
  induction built with
  | ofColumns names => rfl
  | ofDefinitions definitions => rfl
  | step before step taken inductionHypothesis =>
      rw [(BuildStep.does_of_apply taken).rows, inductionHypothesis, List.flatMap_append,
        List.flatMap_singleton]

/-- At every index of a built set stands the error that was attached there last, also if rows
were added since. -/
theorem Built.errorAt?_eq {steps : List BuildStep} {set : ResultSet} (built : Built steps set)
    (index : Nat) : set.errorAt? index = lastErrorAt? steps index := by
  induction built with
  | ofColumns names => rfl
  | ofDefinitions definitions => rfl
  | step before step taken inductionHypothesis =>
      rw [(BuildStep.does_of_apply taken).errors, inductionHypothesis, lastErrorAt?_concat]

/-! ## Where errors stand -/

/-- No error was attached to an index. -/
def RunsThrough (steps : List BuildStep) : Prop :=
  ∀ index error, BuildStep.addError index error ∉ steps

/-- The least index to which an error was attached, and the error that was attached there
last. -/
structure StopsAt (steps : List BuildStep) (least : Nat) (error : Error) : Prop where
  attached : lastErrorAt? steps least = some error
  earliest : ∀ index < least, ∀ other, BuildStep.addError index other ∉ steps

theorem lastErrorAt?_eq_none_iff {steps : List BuildStep} {index : Nat} :
    lastErrorAt? steps index = none ↔ ∀ error, BuildStep.addError index error ∉ steps := by
  rw [lastErrorAt?, List.findSome?_eq_none_iff]
  constructor
  · intro nowhere error isThere
    have attached := nowhere _ (List.mem_reverse.mpr isThere)
    rw [BuildStep.errorAt?, if_pos rfl] at attached
    contradiction
  · intro absent step isThere
    cases step with
    | addError place error =>
        have elsewhere : place ≠ index := by
          rintro rfl
          exact absent error (List.mem_reverse.mp isThere)
        rw [BuildStep.errorAt?, if_neg elsewhere]
    | _ => rfl

/-- Either there are no errors, or there is one at the least index. -/
theorem runsThrough_or_stopsAt (steps : List BuildStep) :
    RunsThrough steps ∨ ∃ least error, StopsAt steps least error := by
  classical
  by_cases runsThrough : RunsThrough steps
  · exact .inl runsThrough
  · have somewhere : ∃ index error, BuildStep.addError index error ∈ steps := by
      simpa [RunsThrough] using runsThrough
    right
    have attached : lastErrorAt? steps (Nat.find somewhere) ≠ none :=
      mt lastErrorAt?_eq_none_iff.mp (by simpa using Nat.find_spec somewhere)
    obtain ⟨error, isLast⟩ := Option.ne_none_iff_exists'.mp attached
    refine ⟨Nat.find somewhere, error, isLast, ?_⟩
    intro index before other isThere
    exact Nat.find_min somewhere before ⟨other, isThere⟩

private theorem Sound.place_of_errorAt? {set : ResultSet} (sound : set.Sound) {index : Nat}
    {error : Error} (attached : set.errorAt? index = some error) : index ≤ set.size := by
  obtain ⟨before, behind, split, -⟩ := List.lookup_eq_some_iff.mp attached
  apply sound.places index error
  rw [split]
  exact List.mem_append_right before List.mem_cons_self

/-- An error does not lie past the end, not even behind rows that were added later. -/
theorem StopsAt.within {steps : List BuildStep} {least : Nat} {error : Error}
    (stops : StopsAt steps least error) {set : ResultSet} (built : Built steps set) :
    least ≤ set.size :=
  built.sound.place_of_errorAt? ((built.errorAt?_eq least).trans stops.attached)

end ResultSet

end ScriptedSql

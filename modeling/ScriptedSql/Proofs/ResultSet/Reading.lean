import ScriptedSql.Proofs.Mock.Dispatch
import ScriptedSql.Proofs.ResultSet.Building

/-!
Contract: how result sets are read.

Owns:
- the items that a cursor gives when it is asked again and again;
- what cursors over built sets give: all rows, or the rows in front of the first error and that
  error, and nothing more after either;
- the agreement of the three ways to read a set: by a cursor, all at once, and the first row.

Does not own: the closing of cursors, which reading does not depend on.
-/

namespace ScriptedSql

/-- The rows of a set as readers get them. -/
def ResultSet.readRows (set : ResultSet) : List Row :=
  set.rows.map fun values => ⟨set.columns, values⟩

namespace Cursor

/-! ## Sequences of items -/

/-- The cursor after so many items were asked for. -/
def advanced : Nat → Cursor → Cursor
  | 0, cursor => cursor
  | count + 1, cursor => advanced count cursor.next.2

/-- Asked again and again, the cursor gives these items in order, and then nothing for ever. -/
def Yields (cursor : Cursor) (items : List (Except Error Row)) : Prop :=
  ∀ count, (cursor.advanced count).next.1 = items[count]?

variable {cursor : Cursor} {item : Except Error Row} {items : List (Except Error Row)}

theorem Yields.cons (first : cursor.next.1 = some item) (rest : cursor.next.2.Yields items) :
    cursor.Yields (item :: items) := by
  intro count
  cases count with
  | zero => exact first
  | succ count => exact rest count

theorem Yields.next (yields : cursor.Yields items) : cursor.next.1 = items.head? :=
  (yields 0).trans List.head?_eq_getElem?.symm

theorem Yields.tail (yields : cursor.Yields (item :: items)) : cursor.next.2.Yields items :=
  fun count => yields (count + 1)

private theorem yields_nil_of_done (done : cursor.done = true) : cursor.Yields [] := by
  have still : cursor.next = (none, cursor) := by rw [Cursor.next, if_pos done]
  have stays (count : Nat) : cursor.advanced count = cursor := by
    induction count with
    | zero => rfl
    | succ count inductionHypothesis => rw [advanced, still, inductionHypothesis]
  intro count
  rw [stays, still]
  rfl

/-- Items that are taken at once are those that are given one by one. -/
theorem take_of_yields (yields : cursor.Yields items) (limit : Nat) :
    (take limit cursor).1 = items.take limit := by
  induction limit generalizing cursor items with
  | zero => rw [take, List.take_zero]
  | succ limit inductionHypothesis =>
      have given := yields.next
      rw [take]
      cases items with
      | nil =>
          rcases isNext : cursor.next with ⟨_ | other, after⟩
          · rfl
          · rw [isNext] at given
            contradiction
      | cons item rest =>
          have behind := inductionHypothesis yields.tail
          rcases isNext : cursor.next with ⟨_ | other, after⟩
          · rw [isNext] at given
            contradiction
          · rw [isNext] at given behind
            cases given
            rw [List.take_succ_cons, ← behind]

/-! ## Cursors over a set -/

variable {set : ResultSet} {position : Nat}

private theorem next_of_error {error : Error} (attached : set.errorAt? position = some error) :
    next ⟨set, position, false⟩ = (some (.error error), ⟨set, position, true⟩) := by
  simp [next, attached]

private theorem next_of_row (noError : set.errorAt? position = none) {values : List Value}
    (isRow : set.rows[position]? = some values) :
    next ⟨set, position, false⟩ =
      (some (.ok ⟨set.columns, values⟩), ⟨set, position + 1, false⟩) := by
  simp [next, noError, isRow]

private theorem next_of_end (noError : set.errorAt? position = none) (past : set.size ≤ position) :
    next ⟨set, position, false⟩ = (none, ⟨set, position, true⟩) := by
  have noRow : set.rows[position]? = none := List.getElem?_eq_none past
  simp [next, noError, noRow]

private theorem yields_of_error {error : Error} (attached : set.errorAt? position = some error) :
    Yields ⟨set, position, false⟩ [.error error] := by
  have isNext := next_of_error attached
  refine Yields.cons (congrArg Prod.fst isNext) ?_
  rw [isNext]
  exact yields_nil_of_done rfl

private theorem yields_of_end (noError : set.errorAt? position = none)
    (past : set.size ≤ position) :
    Yields ⟨set, position, false⟩ [] := by
  have isNext := next_of_end noError past
  intro count
  cases count with
  | zero => exact congrArg Prod.fst isNext
  | succ count =>
      rw [advanced, isNext]
      exact yields_nil_of_done rfl count

/-- As long as no error stands in its way, a cursor gives the rows in order. -/
theorem yields_rows {count : Nat} (within : position + count ≤ set.size)
    (noErrors : ∀ index < position + count, set.errorAt? index = none)
    (behind : Yields ⟨set, position + count, false⟩ items) :
    Yields ⟨set, position, false⟩ (((set.readRows.drop position).take count).map .ok ++ items) := by
  induction count generalizing position with
  | zero => exact behind
  | succ count inductionHypothesis =>
      have inside : position < set.rows.length := by
        unfold ResultSet.size at within
        omega
      have isNext := next_of_row (noErrors position (by omega)) (List.getElem?_eq_getElem inside)
      have rest : Yields ⟨set, position + 1, false⟩ _ :=
        inductionHypothesis (by omega) (fun index before => noErrors index (by omega))
          (by rw [Nat.add_right_comm]; exact behind)
      have split : (set.readRows.drop position).take (count + 1) =
          ⟨set.columns, set.rows[position]⟩ :: (set.readRows.drop (position + 1)).take count := by
        rw [List.drop_eq_getElem_cons (by rw [ResultSet.readRows, List.length_map]; exact inside),
          List.take_succ_cons]
        simp only [ResultSet.readRows, List.getElem_map]
      rw [split, List.map_cons, List.cons_append]
      refine Yields.cons (congrArg Prod.fst isNext) ?_
      rw [isNext]
      exact rest

/-- Without errors a fresh cursor gives all rows. -/
theorem yields_of_runsThrough (noErrors : ∀ index, set.errorAt? index = none) :
    (ofSet set).Yields (set.readRows.map .ok) := by
  have atEnd : Yields ⟨set, 0 + set.size, false⟩ [] :=
    yields_of_end (noErrors _) (Nat.le_of_eq (Nat.zero_add _).symm)
  have yields := yields_rows (Nat.le_of_eq (Nat.zero_add _)) (fun index _ => noErrors index) atEnd
  have allRows : (set.readRows.drop 0).take set.size = set.readRows :=
    List.take_of_length_le (by rw [List.drop_zero, ResultSet.readRows, List.length_map]; rfl)
  rw [allRows, List.append_nil] at yields
  exact yields

/-- A fresh cursor stops at the first error. -/
theorem yields_of_stopsAt {least : Nat} {error : Error} (within : least ≤ set.size)
    (attached : set.errorAt? least = some error)
    (earliest : ∀ index < least, set.errorAt? index = none) :
    (ofSet set).Yields ((set.readRows.take least).map .ok ++ [.error error]) := by
  have atError : Yields ⟨set, 0 + least, false⟩ [.error error] := by
    rw [Nat.zero_add]
    exact yields_of_error attached
  rw [← Nat.zero_add least] at within earliest
  exact yields_rows within earliest atError

/-! ## Reading at once -/

private theorem collect_of_yields (yields : (ofSet set).Yields items)
    (enough : items.length ≤ set.size + 1) : (ofSet set).collect = items.mapM id := by
  have all : (ofSet set).reach + 1 = set.size + 1 + 1 := rfl
  rw [collect, drain, take_of_yields yields, List.take_of_length_le (by omega)]

private theorem mapM_id_rows (rows : List Row) :
    (rows.map (Except.ok : Row → Except Error Row)).mapM id = .ok rows := by
  induction rows with
  | nil => rfl
  | cons row rest inductionHypothesis =>
      rw [List.map_cons, List.mapM_cons, inductionHypothesis]
      rfl

private theorem mapM_id_error (rows : List Row) (error : Error) :
    (rows.map (Except.ok : Row → Except Error Row) ++ [Except.error error]).mapM id =
      .error error := by
  rw [List.mapM_append, mapM_id_rows]
  rfl

private theorem first_of_yields (yields : cursor.Yields items) :
    cursor.first = items.head?.elim (.ok none) (Except.map some) := by
  rw [first, yields.next]
  cases items.head? with
  | none => rfl
  | some item => cases item <;> rfl

/-- The first item does not depend on the close error. -/
theorem first_of_closing (set : ResultSet) (closing : Option Error) :
    (ofSet { set with closeError := closing }).first = (ofSet set).first := by
  have sameError : { set with closeError := closing }.errorAt? 0 = set.errorAt? 0 := rfl
  unfold first next ofSet
  simp only [sameError, Bool.false_eq_true, if_false]
  cases set.errorAt? 0 with
  | some error => rfl
  | none => cases set.rows[0]? <;> rfl

end Cursor

namespace Exchange

variable {sql : String} {parameters : List Value} {mock after : Mock} {set : ResultSet}

private theorem query_of_answered
    (answered : dispatch .query (some sql) (Argument.ofValues parameters) mock = (.ok set, after)) :
    query sql (Argument.ofValues parameters) mock = (.ok (.ofSet set), after) := by
  simp [query, answered]

private theorem fetch_of_answered
    (answered : dispatch .query (some sql) (Argument.ofValues parameters) mock = (.ok set, after)) :
    fetch sql parameters mock = ((Cursor.ofSet set).collect, after) := by
  simp [fetch, query_of_answered answered]

private theorem fetchFirst_of_answered
    (answered : dispatch .query (some sql) (Argument.ofValues parameters) mock = (.ok set, after)) :
    fetchFirst sql parameters mock = ((Cursor.ofSet set).first, after) := by
  simp [fetchFirst, query_of_answered answered]

end Exchange

namespace ResultSet

/-- A built set is sound and holds the rows that were added, in order. A fresh cursor gives all
of them if no error was attached to an index, and otherwise the rows in front of the least such
index, then the error that was attached there last, and nothing for ever after. A query that is
answered with the set, whatever its close error is, gives all rows at once if no error was
attached, and otherwise fails with that error; a query for one row answers with the first item
of the cursor. -/
theorem built_set_is_replayed {steps : List BuildStep} {set : ResultSet}
    (built : Built steps set) :
    set.Sound ∧ set.rows = steps.flatMap (·.addedRows) ∧
    (RunsThrough steps → (Cursor.ofSet set).Yields (set.readRows.map .ok)) ∧
    (∀ least error, StopsAt steps least error →
      least ≤ set.size ∧
        (Cursor.ofSet set).Yields ((set.readRows.take least).map .ok ++ [.error error])) ∧
    ∀ (closing : Option Error) (sql : String) (parameters : List Value) (mock after : Mock),
      Exchange.dispatch .query (some sql) (Argument.ofValues parameters) mock =
        (.ok { set with closeError := closing }, after) →
      ((Exchange.fetch sql parameters mock).1 = .ok set.readRows ↔ RunsThrough steps) ∧
      (∀ least error, StopsAt steps least error →
        (Exchange.fetch sql parameters mock).1 = .error error) ∧
      ∀ items, (Cursor.ofSet set).Yields items →
        (Exchange.fetchFirst sql parameters mock).1 =
          items.head?.elim (.ok none) (Except.map some) := by
  -- The close error is not looked at by cursors, so any other may stand in its place.
  have allRows (closing : Option Error) (runsThrough : RunsThrough steps) :
      (Cursor.ofSet { set with closeError := closing }).Yields (set.readRows.map .ok) :=
    Cursor.yields_of_runsThrough fun index =>
      (built.errorAt?_eq index).trans (lastErrorAt?_eq_none_iff.mpr (runsThrough index))
  have rowsAndError (closing : Option Error) {least : Nat} {error : Error}
      (stops : StopsAt steps least error) :
      (Cursor.ofSet { set with closeError := closing }).Yields
        ((set.readRows.take least).map .ok ++ [.error error]) := by
    have within : least ≤ set.size := stops.within built
    exact Cursor.yields_of_stopsAt within ((built.errorAt?_eq least).trans stops.attached)
      fun index before => (built.errorAt?_eq index).trans
        (lastErrorAt?_eq_none_iff.mpr (stops.earliest index before))
  refine ⟨built.sound, built.rows_eq, allRows set.closeError, ?_, ?_⟩
  · intro least error stops
    exact ⟨stops.within built, rowsAndError set.closeError stops⟩
  · intro closing sql parameters mock after answered
    have fails {least : Nat} {error : Error} (stops : StopsAt steps least error) :
        (Exchange.fetch sql parameters mock).1 = .error error := by
      have within : least ≤ set.size := stops.within built
      rw [Exchange.fetch_of_answered answered,
        Cursor.collect_of_yields (rowsAndError closing stops), Cursor.mapM_id_error]
      rw [List.length_append, List.length_map, List.length_take]
      exact Nat.succ_le_succ (Nat.le_trans (Nat.min_le_left _ _) within)
    refine ⟨⟨?_, ?_⟩, fun least error => fails, ?_⟩
    · intro succeeds
      rcases runsThrough_or_stopsAt steps with runsThrough | ⟨least, error, stops⟩
      · exact runsThrough
      · rw [fails stops] at succeeds
        contradiction
    · intro runsThrough
      rw [Exchange.fetch_of_answered answered,
        Cursor.collect_of_yields (allRows closing runsThrough), Cursor.mapM_id_rows]
      rw [List.length_map, readRows, List.length_map]
      exact Nat.le_succ _
    · intro items yields
      rw [Exchange.fetchFirst_of_answered answered, Cursor.first_of_closing]
      exact Cursor.first_of_yields yields

/-- An error that was placed behind the last row, with a row added behind it and another error
put in its place since: the row is not reached, and the close error is not seen. -/
theorem replaced_error_is_replayed :
    let steps : List BuildStep :=
      [.addRow [.int 1], .addError 1 (.custom "old"), .addRow [.int 2],
        .addError 1 (.custom "new"), .setCloseError (.custom "closing")]
    let set : ResultSet :=
      ⟨⟨["id"]⟩, none, [[.int 1], [.int 2]], [(1, .custom "new"), (1, .custom "old")],
        some (.custom "closing")⟩
    let row : Row := ⟨⟨["id"]⟩, [.int 1]⟩
    let mock : Mock :=
      { Mock.start "db" .standard with
        queue := [{ Expectation.fresh .query none true with rows := some set }] }
    Built steps set ∧ (Cursor.ofSet set).Yields [.ok row, .error (.custom "new")] ∧
      (Exchange.fetch "SELECT" [] mock).1 = .error (.custom "new") ∧
      (Exchange.fetchFirst "SELECT" [] mock).1 = .ok (some row) := by
  intro steps set row mock
  have built : Built steps set :=
    (((((Built.ofColumns ["id"]).step (.addRow [.int 1]) rfl).step
      (.addError 1 (.custom "old")) rfl).step (.addRow [.int 2]) rfl).step
      (.addError 1 (.custom "new")) rfl).step (.setCloseError (.custom "closing")) rfl
  have stops : StopsAt steps 1 (.custom "new") := by
    refine ⟨rfl, ?_⟩
    intro index before other isThere
    obtain rfl := Nat.lt_one_iff.mp before
    simp [steps] at isThere
  obtain ⟨-, -, -, replayed, answers⟩ := built_set_is_replayed built
  obtain ⟨-, yields⟩ := replayed 1 (.custom "new") stops
  obtain ⟨-, fails, firstItem⟩ := answers (some (.custom "closing")) "SELECT" [] mock _ rfl
  exact ⟨built, yields, fails 1 (.custom "new") stops, firstItem _ yields⟩

end ResultSet

end ScriptedSql

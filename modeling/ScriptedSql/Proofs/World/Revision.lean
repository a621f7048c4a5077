import ScriptedSql.Proofs.World.Consistency

/-!
Contract: mocks and expectations that are changed where they are.

Owns:
- the world with one mock changed, and the world with expectations rewritten by their places;
- that to put back a mock that is still open, or still closed, is no more than that: the registry
  has no entry of a closed mock that would go;
- what comes of rewriting twice.
-/

namespace ScriptedSql

/-- The mock with its expectations rewritten, each according to its slot. -/
def Mock.rewrite (write : Nat → Expectation → Expectation) (mock : Mock) : Mock :=
  { mock with queue := mock.queue.mapIdx write }

namespace World

def revise (id : MockId) (change : Mock → Mock) (world : World) : World :=
  { world with mocks := world.mocks.modify id change }

/-- The world with its expectations rewritten, each according to its place. -/
def rewrite (write : Declaration → Expectation → Expectation) (world : World) : World :=
  { world with
    mocks := world.mocks.mapIdx fun id mock => mock.rewrite fun slot => write ⟨id, slot⟩ }

variable {alive : MockId → Bool} {world : World} {id : MockId}

@[simp]
theorem revise_mockAt (created : id < world.mocks.length) (change : Mock → Mock) :
    (world.revise id change).mockAt id = change (world.mockAt id) := by
  rw [mockAt, mockAt, revise, List.getElem?_modify_eq, List.getElem?_eq_getElem created]
  rfl

/-- A mock that is not there is none that could be changed, and has no entry either. -/
theorem Consistent.restore_eq_revise (consistent : world.Consistent alive) {mock : Mock}
    (sameClosed : mock.closed = (world.mockAt id).closed) {change : Mock → Mock}
    (changed : change (world.mockAt id) = mock) :
    world.restore id mock = world.revise id change := by
  have noEntry : mock.closed = true →
      (world.registry.filter fun entry => entry.2 != id) = world.registry := by
    intro closed
    refine List.filter_eq_self.mpr fun entry isThere => bne_iff_ne.mpr ?_
    rintro rfl
    rw [sameClosed, (consistent.sound entry isThere).1] at closed
    contradiction
  have sameMocks : world.mocks.set id mock = world.mocks.modify id change := by
    apply List.ext_getElem?
    intro other
    rw [List.getElem?_set, List.getElem?_modify]
    by_cases same : id = other
    · subst same
      rw [← changed, mockAt]
      cases found : world.mocks[id]? with
      | none => simp [List.getElem?_eq_none_iff.mp found]
      | some current => simp [(List.getElem?_eq_some_iff.mp found).1]
    · simp [same]
  rw [World.restore, revise, sameMocks]
  split
  next closed => rw [noEntry closed]
  · rfl

/-! ## Rewriting -/

@[simp]
theorem rewrite_rewrite (world : World)
    (first second : Declaration → Expectation → Expectation) :
    (world.rewrite first).rewrite second =
      world.rewrite fun declared expectation => second declared (first declared expectation) := by
  simp only [rewrite, Mock.rewrite, List.mapIdx_mapIdx, Function.comp_def]

@[simp]
theorem rewrite_self (world : World) :
    (world.rewrite fun _ expectation => expectation) = world := by
  have sameQueue (mock : Mock) : (mock.rewrite fun _ expectation => expectation) = mock := by
    have same : (mock.queue.mapIdx fun _ expectation => expectation) = mock.queue :=
      List.ext_getElem? fun slot => by simp
    rw [Mock.rewrite, same]
  have sameMocks : (world.mocks.mapIdx fun _ mock => mock) = world.mocks :=
    List.ext_getElem? fun id => by simp
  simp only [rewrite, sameQueue, sameMocks]

/-- To change one expectation of one mock is to rewrite the expectation of that place alone. -/
theorem revise_modify (world : World) (declared : Declaration)
    (change : Expectation → Expectation) :
    (world.revise declared.mock fun mock =>
        { mock with queue := mock.queue.modify declared.slot change }) =
      world.rewrite fun place expectation =>
        if place = declared then change expectation else expectation := by
  have sameMocks : (world.mocks.modify declared.mock fun mock =>
      { mock with queue := mock.queue.modify declared.slot change }) =
      (world.rewrite fun place expectation =>
        if place = declared then change expectation else expectation).mocks := by
    apply List.ext_getElem?
    intro id
    rw [rewrite, List.getElem?_modify, List.getElem?_mapIdx]
    refine congrArg (Option.map · world.mocks[id]?) (funext fun mock => ?_)
    have sameQueue : (if declared.mock = id then mock.queue.modify declared.slot change
        else mock.queue) =
        mock.queue.mapIdx fun slot expectation =>
          if (⟨id, slot⟩ : Declaration) = declared then change expectation else expectation := by
      apply List.ext_getElem?
      intro slot
      obtain ⟨own, ownSlot⟩ := declared
      by_cases here : own = id
      · subst here
        rw [if_pos rfl, List.getElem?_modify, List.getElem?_mapIdx]
        simp only [Declaration.mk.injEq, true_and, eq_comm (a := ownSlot)]
        cases mock.queue[slot]? <;> rfl
      · simp [here, Ne.symm here]
    rw [Mock.rewrite, ← sameQueue]
    split <;> rfl
  rw [revise, sameMocks]
  rfl

end World

end ScriptedSql

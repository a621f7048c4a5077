import ScriptedSql.Proofs.Session.History
import ScriptedSql.Proofs.World.GeneratedDsn

/-!
Contract: what the registry knows of the mocks.

Owns:
- consistency: every name once, no entry of a closed mock, and an entry for each mock that
  is alive and open;
- its preservation by visits, by the pruning of entries and by the creation of mocks;
- what follows for look-ups and for the DSNs that a creation is refused.

Does not own: which mocks are alive (`Session.Living`).
-/

namespace ScriptedSql

namespace World

/-- The registry agrees with the mocks, of which `alive` tells those that are referred to.
Entries of mocks that are open but not alive may remain. -/
structure Consistent (alive : MockId → Bool) (world : World) : Prop where
  once : world.registry.names.Nodup
  sound : ∀ entry ∈ world.registry,
    (world.mockAt entry.2).closed = false ∧ (world.mockAt entry.2).dsn = entry.1
  complete : ∀ id, alive id = true → (world.mockAt id).closed = false →
    ((world.mockAt id).dsn, id) ∈ world.registry
  created : ∀ id, alive id = true → id < world.mocks.length

variable {alive : MockId → Bool} {world : World}

private theorem created_of_open {id : MockId} (isOpen : (world.mockAt id).closed = false) :
    id < world.mocks.length := by
  by_cases created : id < world.mocks.length
  · exact created
  · rw [mockAt_of_uncreated (Nat.not_lt.mp created)] at isOpen
    contradiction

/-- Mocks may stop being referred to, since their entries may remain. -/
theorem Consistent.mono (consistent : world.Consistent alive) {fewer : MockId → Bool}
    (subset : ∀ id, fewer id = true → alive id = true) : world.Consistent fewer where
  once := consistent.once
  sound := consistent.sound
  complete := fun id isAlive => consistent.complete id (subset id isAlive)
  created := fun id isAlive => consistent.created id (subset id isAlive)

/-! ## Visits -/

/-- To put a mock back removes its entry if it is closed, and no other entry. -/
theorem mem_restore_iff {id : MockId} {mock : Mock} {entry : String × MockId} :
    entry ∈ (world.restore id mock).registry ↔
      entry ∈ world.registry ∧ (mock.closed = true → entry.2 ≠ id) := by
  unfold World.restore
  by_cases closed : mock.closed = true
  · simp [closed, List.mem_filter]
  · simp [closed]

private theorem restore_once (once : world.registry.names.Nodup) (id : MockId) (mock : Mock) :
    (world.restore id mock).registry.names.Nodup := by
  unfold World.restore
  by_cases closed : mock.closed = true
  · rw [if_pos closed]
    exact Table.names_filter_nodup once _
  · rw [if_neg closed]
    exact once

/-- A mock may be put back under its name, as long as it is not opened again. -/
theorem Consistent.restore (consistent : world.Consistent alive) {id : MockId} {mock : Mock}
    (sameDsn : mock.dsn = (world.mockAt id).dsn)
    (stillClosed : (world.mockAt id).closed = true → mock.closed = true) :
    (world.restore id mock).Consistent alive := by
  constructor
  · exact restore_once consistent.once id mock
  · intro entry isThere
    obtain ⟨wasThere, stays⟩ := mem_restore_iff.mp isThere
    obtain ⟨wasOpen, named⟩ := consistent.sound entry wasThere
    by_cases same : entry.2 = id
    · -- Its entry is still there, so the mock was put back open.
      have isOpen : mock.closed = false := by
        rw [← Bool.not_eq_true]
        exact fun closed => stays closed same
      rw [same] at wasOpen named ⊢
      simpa [created_of_open wasOpen] using And.intro isOpen (sameDsn.trans named)
    · simpa [Ne.symm same] using And.intro wasOpen named
  · intro other isAlive isOpen
    by_cases same : id = other
    · subst same
      simp only [consistent.created id isAlive, restore_mockAt] at isOpen ⊢
      have wasOpen : (world.mockAt id).closed = false := by
        rw [← Bool.not_eq_true]
        intro wasClosed
        rw [stillClosed wasClosed] at isOpen
        contradiction
      rw [sameDsn]
      refine mem_restore_iff.mpr ⟨consistent.complete id isAlive wasOpen, fun closed => ?_⟩
      rw [closed] at isOpen
      contradiction
    · simp only [ne_eq, same, not_false_eq_true, restore_mockAt_other] at isOpen ⊢
      exact mem_restore_iff.mpr
        ⟨consistent.complete other isAlive isOpen, fun _ => Ne.symm same⟩
  · intro other isAlive
    simpa using consistent.created other isAlive

/-- Whatever is brought to mocks leaves the registry in agreement with them. -/
theorem Consistent.visitAll (consistent : world.Consistent alive) (visits : List Visit) :
    (world.visitAll visits).Consistent alive := by
  induction visits generalizing world with
  | nil => exact consistent
  | cons visit rest inductionHypothesis =>
      refine inductionHypothesis (consistent.restore ?_ ?_)
      · exact ((world.mockAt visit.mock).run_frame visit.events).1
      · exact fun closed => Mock.run_closed closed visit.events

/-! ## Creations -/

theorem Consistent.prune (consistent : world.Consistent alive) :
    (world.prune alive).Consistent alive where
  once := Table.names_filter_nodup consistent.once _
  sound := fun entry remains => consistent.sound entry (List.mem_filter.mp remains).1
  complete := by
    intro id isAlive isOpen
    exact List.mem_filter.mpr ⟨consistent.complete id isAlive isOpen, isAlive⟩
  created := consistent.created

@[simp]
private theorem enroll_mockAt {id : MockId} (created : id < world.mocks.length) (dsn : String)
    (config : Config) : (world.enroll dsn config).2.mockAt id = world.mockAt id := by
  rw [mockAt, mockAt, enroll, List.getElem?_append_left created]

@[simp]
private theorem enroll_length (world : World) (dsn : String) (config : Config) :
    (world.enroll dsn config).2.mocks.length = world.mocks.length + 1 :=
  List.length_append

@[simp]
theorem enroll_mockAt_new (world : World) (dsn : String) (config : Config) :
    (world.enroll dsn config).2.mockAt world.mocks.length = Mock.start dsn config := by
  rw [mockAt, enroll, List.getElem?_append_right (Nat.le_refl _), Nat.sub_self]
  rfl

/-- A new mock may be entered under a free DSN, and it is the only one that may have become
alive. -/
theorem Consistent.enroll (consistent : world.Consistent alive) {dsn : String}
    (free : dsn ∉ world.registry.names) (config : Config) {now : MockId → Bool}
    (isNow : ∀ id, now id = true → alive id = true ∨ world.mocks.length = id) :
    (world.enroll dsn config).2.Consistent now := by
  constructor
  · exact Table.names_put_nodup consistent.once dsn world.mocks.length
  · intro entry isThere
    rcases List.mem_append.mp isThere with remains | isNew
    · have sound := consistent.sound entry (List.mem_filter.mp remains).1
      simpa [created_of_open sound.1] using sound
    · rw [List.mem_singleton.mp isNew, enroll_mockAt_new]
      exact ⟨rfl, rfl⟩
  · intro id isAlive isOpen
    rcases isNow id isAlive with wasAlive | rfl
    · simp only [consistent.created id wasAlive, enroll_mockAt] at isOpen ⊢
      have wasThere := consistent.complete id wasAlive isOpen
      have different : (world.mockAt id).dsn ≠ dsn := by
        rintro rfl
        exact free (List.mem_map_of_mem wasThere)
      exact List.mem_append_left _ (List.mem_filter.mpr ⟨wasThere, bne_iff_ne.mpr different⟩)
    · rw [enroll_mockAt_new]
      exact List.mem_append_right _ List.mem_cons_self
  · intro id isAlive
    rw [enroll_length]
    rcases isNow id isAlive with wasAlive | rfl
    · exact Nat.lt_succ_of_lt (consistent.created id wasAlive)
    · exact Nat.lt_succ_self _

/-- Granted or refused, a creation leaves the registry in agreement with the mocks. -/
theorem Consistent.create (consistent : world.Consistent alive) {config : Config}
    {now : MockId → Bool}
    (isNow : ∀ id, now id = true →
      alive id = true ∨ (world.create alive config).1 = .ok id) :
    (world.create alive config).2.Consistent now := by
  have pruned := consistent.prune
  unfold World.create at isNow ⊢
  cases asked : config.dsn with
  | none =>
      simp only [asked] at isNow ⊢
      have enrolled := pruned.enroll (firstFree_not_mem (world.prune alive).registry.names
        (world.prune alive).nextDsn) config fun id isAlive =>
          (isNow id isAlive).imp_right fun isNew => Except.ok.inj isNew
      exact { enrolled with }
  | some dsn =>
      simp only [asked] at isNow ⊢
      by_cases taken : dsn ∈ (world.prune alive).registry.names
      · rw [if_pos taken] at isNow ⊢
        refine pruned.mono fun id isAlive => (isNow id isAlive).resolve_right ?_
        exact nofun
      · rw [if_neg taken] at isNow ⊢
        exact pruned.enroll taken config fun id isAlive =>
          (isNow id isAlive).imp_right fun isNew => Except.ok.inj isNew

/-! ## Look-ups and refusals -/

/-- A DSN leads to the mock that goes by it, is alive, and is open. -/
theorem Consistent.lookup?_eq_some_iff (consistent : world.Consistent alive) {dsn : String}
    {id : MockId} :
    world.lookup? alive dsn = some id ↔
      alive id = true ∧ (world.mockAt id).closed = false ∧ (world.mockAt id).dsn = dsn := by
  rw [lookup?, Option.filter_eq_some_iff, Table.get?_eq_some_iff consistent.once]
  constructor
  · rintro ⟨isThere, isAlive⟩
    obtain ⟨isOpen, named⟩ := consistent.sound (dsn, id) isThere
    exact ⟨isAlive, isOpen, named⟩
  · rintro ⟨isAlive, isOpen, rfl⟩
    exact ⟨consistent.complete id isAlive isOpen, isAlive⟩

/-- After the entries of dead mocks are gone, a DSN is taken exactly if it leads to a mock. -/
theorem Consistent.mem_prune_names_iff (consistent : world.Consistent alive) {dsn : String} :
    dsn ∈ (world.prune alive).registry.names ↔ ∃ id, world.lookup? alive dsn = some id := by
  constructor
  · intro taken
    obtain ⟨⟨name, id⟩, remains, rfl⟩ := List.mem_map.mp taken
    obtain ⟨isThere, isAlive⟩ := List.mem_filter.mp remains
    refine ⟨id, Option.filter_eq_some_iff.mpr ⟨?_, isAlive⟩⟩
    exact (Table.get?_eq_some_iff consistent.once).mpr isThere
  · rintro ⟨id, found⟩
    obtain ⟨isThere, isAlive⟩ := Option.filter_eq_some_iff.mp found
    exact List.mem_map_of_mem
      (List.mem_filter.mpr ⟨Table.mem_of_get? isThere, isAlive⟩)

/-- A DSN that is asked for is refused exactly if it leads to a mock. -/
theorem Consistent.create_refused_iff (consistent : world.Consistent alive) {config : Config}
    {dsn : String} (asked : config.dsn = some dsn) :
    (∃ error, (world.create alive config).1 = .error error) ↔
      ∃ id, world.lookup? alive dsn = some id := by
  rw [← consistent.mem_prune_names_iff]
  unfold World.create
  simp only [asked]
  by_cases taken : dsn ∈ (world.prune alive).registry.names
  · rw [if_pos taken]
    exact iff_of_true ⟨_, rfl⟩ taken
  · rw [if_neg taken]
    refine iff_of_false ?_ taken
    rintro ⟨error, refused⟩
    contradiction

/-- A refused creation does no more than drop the entries of dead mocks. -/
theorem create_of_refused {config : Config} {error : Error}
    (refused : (world.create alive config).1 = .error error) :
    (world.create alive config).2 = world.prune alive := by
  unfold World.create at refused ⊢
  cases asked : config.dsn with
  | none =>
      simp only [asked] at refused
      contradiction
  | some dsn =>
      simp only [asked] at refused ⊢
      by_cases taken : dsn ∈ (world.prune alive).registry.names
      · rw [if_pos taken]
      · rw [if_neg taken] at refused
        contradiction

@[simp]
private theorem prune_prune (alive : MockId → Bool) (world : World) :
    (world.prune alive).prune alive = world.prune alive := by
  simp [World.prune, List.filter_filter]

/-- The entries of dead mocks lead nowhere, so that nothing is lost with them. -/
theorem Consistent.lookup?_prune (consistent : world.Consistent alive) (dsn : String) :
    (world.prune alive).lookup? alive dsn = world.lookup? alive dsn := by
  apply Option.ext
  intro id
  rw [consistent.lookup?_eq_some_iff, consistent.prune.lookup?_eq_some_iff]
  rfl

theorem create_prune (alive : MockId → Bool) (config : Config) (world : World) :
    (world.prune alive).create alive config = world.create alive config := by
  unfold World.create
  rw [prune_prune]

end World

end ScriptedSql

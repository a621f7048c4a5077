/-!
Contract: small tables from names to values.

Owns:
- look-up, entry and removal by name, no name standing twice;
- the rows in the order of their entry;
- the value of a name after entries and removals, and laws of all values.
-/

namespace ScriptedSql

/-- Named values. -/
abbrev Table (α : Type) := List (String × α)

namespace Table

variable {α : Type}

def get? (table : Table α) (name : String) : Option α :=
  table.lookup name

def remove (table : Table α) (name : String) : Table α :=
  table.filter fun entry => entry.1 != name

/-- The table with a value under a name; a value that stood there before gives
way. -/
def put (table : Table α) (name : String) (value : α) : Table α :=
  table.remove name ++ [(name, value)]

def values (table : Table α) : List α :=
  table.map (·.2)

def names (table : Table α) : List String :=
  table.map (·.1)

/-! ## Look-up after a change -/

/-- A name that was removed leads nowhere; other names lead where they did. -/
@[simp]
theorem get?_remove (table : Table α) (name other : String) :
    (table.remove name).get? other = if other = name then none else table.get? other := by
  induction table with
  | nil => simp [remove, get?]
  | cons entry rest inductionHypothesis =>
      unfold remove get? at inductionHypothesis ⊢
      rw [List.filter_cons, List.lookup_cons]
      by_cases here : entry.1 = name
      · rw [if_neg (by simp [here]), inductionHypothesis]
        by_cases same : other = name
        · rw [if_pos same, if_pos same]
        · rw [if_neg same, if_neg same, here, beq_false_of_ne same]
      · rw [if_pos (by simp [here]), List.lookup_cons, inductionHypothesis]
        by_cases same : other = name
        · rw [same, beq_false_of_ne (Ne.symm here), if_pos rfl]
        · rw [if_neg same, if_neg same]

/-- A name leads to what was entered under it last; other names lead where they did. -/
@[simp]
theorem get?_put (table : Table α) (name other : String) (value : α) :
    (table.put name value).get? other = if other = name then some value else table.get? other := by
  have removed := table.get?_remove name other
  unfold get? at removed ⊢
  rw [put, List.lookup_append, removed]
  by_cases same : other = name
  · simp [same]
  · simp [same, List.lookup_cons, beq_false_of_ne same]

theorem of_get?_remove {table : Table α} {name other : String} {value : α}
    (found : (table.remove name).get? other = some value) : table.get? other = some value := by
  simp at found
  exact found.2

/-- What is found after an entry is the new value, or was there before. -/
theorem of_get?_put {table : Table α} {name other : String} {value found : α}
    (isThere : (table.put name value).get? other = some found) :
    other = name ∧ value = found ∨ table.get? other = some found := by
  by_cases same : other = name
  · exact .inl ⟨same, by simpa [same] using isThere⟩
  · exact .inr (by simpa [same] using isThere)

/-! ## Changes one after the other -/

@[simp]
theorem remove_remove (table : Table α) (name : String) :
    (table.remove name).remove name = table.remove name := by
  simp [remove, List.filter_filter]

@[simp]
theorem put_remove (table : Table α) (name : String) (value : α) :
    (table.remove name).put name value = table.put name value := by
  rw [put, remove_remove, put]

@[simp]
theorem remove_put (table : Table α) (name : String) (value : α) :
    (table.put name value).remove name = table.remove name := by
  have last : remove [(name, value)] name = [] := by simp [remove]
  have split : (table.put name value).remove name =
      (table.remove name).remove name ++ remove [(name, value)] name :=
    List.filter_append ..
  rw [split, remove_remove, last, List.append_nil]

theorem remove_of_none {table : Table α} {name : String} (absent : table.get? name = none) :
    table.remove name = table := by
  have others := List.lookup_eq_none_iff.mp absent
  refine List.filter_eq_self.mpr fun entry isThere => ?_
  have differs := others entry isThere
  simp only [ne_eq, bne_iff_ne] at differs ⊢
  exact Ne.symm differs

/-! ## All values -/

theorem mem_of_get? {table : Table α} {name : String} {value : α}
    (found : table.get? name = some value) : (name, value) ∈ table := by
  obtain ⟨before, behind, entries, -⟩ := List.lookup_eq_some_iff.mp found
  rw [entries]
  exact List.mem_append_right before List.mem_cons_self

theorem mem_values_of_get? {table : Table α} {name : String} {value : α}
    (found : table.get? name = some value) : value ∈ table.values :=
  List.mem_map_of_mem (mem_of_get? found)

theorem forall_values_remove {table : Table α} {good : α → Prop}
    (all : ∀ value ∈ table.values, good value) (name : String) :
    ∀ value ∈ (table.remove name).values, good value := by
  intro value isThere
  obtain ⟨entry, remains, rfl⟩ := List.mem_map.mp isThere
  exact all entry.2 (List.mem_map_of_mem (List.mem_filter.mp remains).1)

theorem forall_values_put {table : Table α} {good : α → Prop}
    (all : ∀ value ∈ table.values, good value) {name : String} {value : α}
    (isGood : good value) : ∀ other ∈ (table.put name value).values, good other := by
  intro other isThere
  rw [put, values, List.map_append, List.mem_append] at isThere
  rcases isThere with remains | isNew
  · exact forall_values_remove all name other remains
  · rw [List.mem_singleton.mp isNew]
    exact isGood

/-! ## One value for each name -/

/-- Unless a name comes twice, it leads to whatever is listed under it. -/
theorem get?_eq_some_iff {table : Table α} (once : table.names.Nodup) {name : String}
    {value : α} : table.get? name = some value ↔ (name, value) ∈ table := by
  constructor
  · exact mem_of_get?
  · intro isThere
    obtain ⟨before, behind, rfl⟩ := List.append_of_mem isThere
    refine List.lookup_eq_some_iff.mpr ⟨before, behind, rfl, ?_⟩
    intro entry isBefore
    rw [names, List.map_append, List.map_cons] at once
    have apart := (List.nodup_append.mp once).2.2
    exact bne_iff_ne.mpr
      (Ne.symm (apart entry.1 (List.mem_map_of_mem isBefore) name List.mem_cons_self))

theorem names_filter_nodup {table : Table α} (once : table.names.Nodup)
    (keep : String × α → Bool) : (names (table.filter keep)).Nodup :=
  once.sublist (List.filter_sublist.map _)

/-- A name that is entered again does not come twice. -/
theorem names_put_nodup {table : Table α} (once : table.names.Nodup) (name : String)
    (value : α) : (table.put name value).names.Nodup := by
  have gone : name ∉ (table.remove name).names := by
    intro isThere
    obtain ⟨entry, remains, same⟩ := List.mem_map.mp isThere
    exact bne_iff_ne.mp (List.mem_filter.mp remains).2 same
  rw [put, names, List.map_append]
  refine List.nodup_append.mpr ⟨names_filter_nodup once _, List.pairwise_singleton _ _, ?_⟩
  intro other isThere last isLast same
  rw [same, List.mem_singleton.mp isLast] at isThere
  exact gone isThere

end Table

end ScriptedSql

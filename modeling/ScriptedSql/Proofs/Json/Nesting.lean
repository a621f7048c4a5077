import ScriptedSql.Proofs.Json.Written

/-!
Contract: written trees, read back.

Owns:
- how deep objects and arrays nest in a tree;
- the reading of the written form of a tree, which succeeds exactly if it nests no deeper than
  is allowed, and gives back the tree.
-/

namespace ScriptedSql.Json

namespace Tree

mutual

def depth : Tree → Nat
  | .array items => depthOfItems items + 1
  | .object members => depthOfMembers members + 1
  | _ => 0

def depthOfItems : List Tree → Nat
  | [] => 0
  | item :: rest => max (depth item) (depthOfItems rest)

def depthOfMembers : List (String × Tree) → Nat
  | [] => 0
  | (_, value) :: rest => max (depth value) (depthOfMembers rest)

end

mutual

def HasDigits : Tree → Prop
  | .number numeral => numeral.HasDigits
  | .array items => ItemsHaveDigits items
  | .object members => MembersHaveDigits members
  | _ => True

def ItemsHaveDigits : List Tree → Prop
  | [] => True
  | item :: rest => HasDigits item ∧ ItemsHaveDigits rest

def MembersHaveDigits : List (String × Tree) → Prop
  | [] => True
  | (_, value) :: rest => HasDigits value ∧ MembersHaveDigits rest

end

/-- The written form of an array behind its opening bracket. -/
def listed : List Tree → List Char
  | [] => [']']
  | first :: rest => written first ++ writtenItems rest

/-- The written form of an object behind its opening brace. -/
def membersListed : List (String × Tree) → List Char
  | [] => ['\x7d']
  | (key, value) :: rest => writtenString key ++ ':' :: written value ++ writtenMembers rest

private theorem written_array (items : List Tree) :
    written (.array items) = '[' :: listed items := by
  cases items <;> rfl

private theorem written_object (members : List (String × Tree)) :
    written (.object members) = '\x7b' :: membersListed members := by
  cases members with
  | nil => rfl
  | cons first rest => rfl

private theorem writtenItems_cons (item : Tree) (rest : List Tree) :
    writtenItems (item :: rest) = ',' :: listed (item :: rest) :=
  rfl

private theorem writtenMembers_cons (member : String × Tree) (rest : List (String × Tree)) :
    writtenMembers (member :: rest) = ',' :: membersListed (member :: rest) :=
  rfl

private theorem writtenItems_positive (items : List Tree) : 0 < (writtenItems items).length := by
  cases items <;> exact Nat.succ_pos _

private theorem writtenMembers_positive (members : List (String × Tree)) :
    0 < (writtenMembers members).length := by
  cases members with
  | nil => exact Nat.succ_pos _
  | cons member members => exact Nat.succ_pos _

/-- No tree begins with a blank or a closing bracket. -/
theorem written_begins (tree : Tree) :
    ∃ first rest, tree.written = first :: rest ∧ isGap first = false ∧ first ≠ ']' := by
  cases tree with
  | null => exact ⟨'n', _, rfl, by decide, by decide⟩
  | bool flag =>
      cases flag with
      | true => exact ⟨'t', _, rfl, by decide, by decide⟩
      | false => exact ⟨'f', _, rfl, by decide, by decide⟩
  | number numeral =>
      obtain ⟨first, rest, begins, sign⟩ := numeral.written_begins
      refine ⟨first, rest, begins, ?_⟩
      rcases sign with ⟨-, rfl⟩ | ⟨-, digit, isDigit, rfl⟩
      · decide
      · have all : ∀ digit : Fin 10, isGap (Text.digitCharacter digit) = false ∧
            Text.digitCharacter digit ≠ ']' := by decide
        exact all ⟨digit, isDigit⟩
  | string text => exact ⟨'"', _, rfl, by decide, by decide⟩
  | array items => exact ⟨'[', _, written_array items, by decide, by decide⟩
  | object members => exact ⟨'\x7b', _, written_object members, by decide, by decide⟩

private theorem written_positive (tree : Tree) : 0 < tree.written.length := by
  obtain ⟨first, rest, begins, -⟩ := tree.written_begins
  rw [begins]
  exact Nat.succ_pos _

end Tree

namespace Numeral

theorem Stops.cons {mark : Char} (noDigit : Text.digitValue? mark = none) (noPoint : mark ≠ '.')
    (noPower : mark ≠ 'e' ∧ mark ≠ 'E') (rest : List Char) : Stops (mark :: rest) where
  digits := Text.stopsDigits_cons noDigit rest
  point := fun _ same => noPoint (List.cons.inj same).1
  power := by
    rintro other after same
    rw [← (List.cons.inj same).1]
    exact noPower

private theorem stops_nil : Stops [] :=
  ⟨Text.stopsDigits_nil, nofun, nofun⟩

private theorem stops_items (items : List Tree) (rest : List Char) :
    Stops (Tree.writtenItems items ++ rest) := by
  cases items with
  | nil => exact .cons (by decide) (by decide) (by decide) _
  | cons item items => exact .cons (by decide) (by decide) (by decide) _

private theorem stops_members (members : List (String × Tree)) (rest : List Char) :
    Stops (Tree.writtenMembers members ++ rest) := by
  cases members with
  | nil => exact .cons (by decide) (by decide) (by decide) _
  | cons member members => exact .cons (by decide) (by decide) (by decide) _

end Numeral

/-! ## One value -/

private theorem readValue?_string (fuel depth : Nat) (text : String) (rest : List Char) :
    readValue? (fuel + 1) depth (writtenString text ++ rest) = some (.string text, rest) := by
  have read := readString?_written text.toList rest
  have opened : writtenString text ++ rest =
      '"' :: (text.toList.flatMap escapedCharacter ++ '"' :: rest) := by simp [writtenString]
  rw [opened]
  show (readString? _).map _ = _
  rw [read]
  simp

@[simp]
private theorem dropWhile_isGap {first : Char} (noGap : isGap first = false) (rest : List Char) :
    (first :: rest).dropWhile isGap = first :: rest := by
  rw [List.dropWhile_cons, if_neg (Bool.eq_false_iff.mp noGap)]

/-- What begins like no other value is read as a number. -/
theorem readValue?_other (fuel depth : Nat) {first : Char} (noGap : isGap first = false)
    (other : first ∉ ['n', 't', 'f', '"', '[', '\x7b']) (rest : List Char) :
    readValue? (fuel + 1) depth (first :: rest) =
      (Numeral.read? (first :: rest)).map fun (numeral, rest) => (.number numeral, rest) := by
  rw [readValue?, dropWhile_isGap noGap]
  split
  all_goals simp_all

private theorem readValue?_number (fuel depth : Nat) {numeral : Numeral}
    (hasDigits : numeral.HasDigits)
    {rest : List Char} (stops : Numeral.Stops rest) :
    readValue? (fuel + 1) depth (numeral.written ++ rest) = some (.number numeral, rest) := by
  have read := Numeral.read?_written hasDigits stops
  obtain ⟨first, others, begins, sign⟩ := numeral.written_begins
  have plain : isGap first = false ∧ first ∉ ['n', 't', 'f', '"', '[', '\x7b'] := by
    rcases sign with ⟨-, rfl⟩ | ⟨-, digit, isDigit, rfl⟩
    · decide
    · have all : ∀ digit : Fin 10, isGap (Text.digitCharacter digit) = false ∧
          Text.digitCharacter digit ∉ ['n', 't', 'f', '"', '[', '\x7b'] := by decide
      exact all ⟨digit, isDigit⟩
  rw [begins, List.cons_append] at read ⊢
  rw [readValue?_other fuel depth plain.1 plain.2, read]
  rfl

private theorem readValue?_array (fuel depth : Nat) {first : Char} (noGap : isGap first = false)
    (notEnd : first ≠ ']') (rest : List Char) :
    readValue? (fuel + 1) (depth + 1) ('[' :: first :: rest) =
      (readItems? fuel depth (first :: rest)).map fun (items, left) => (.array items, left) := by
  rw [readValue?, dropWhile_isGap (by decide)]
  simp only [dropWhile_isGap noGap]
  split
  · contradiction
  · next same _ => exact absurd (List.cons.inj same).1 notEnd
  · next same _ => rw [Nat.succ.inj same]

/-! ## Trees -/

mutual

/-- A tree is read back from its written form exactly if it nests no deeper than is allowed.
Every character is good for two steps of the reader. -/
theorem readValue?_written (tree : Tree) (hasDigits : tree.HasDigits) {fuel : Nat}
    (enough : 2 * tree.written.length ≤ fuel + 1) (depth : Nat) {rest : List Char}
    (stops : Numeral.Stops rest) :
    readValue? fuel depth (tree.written ++ rest) =
      if tree.depth ≤ depth then some (tree, rest) else none := by
  have positive := tree.written_positive
  obtain ⟨fuel, rfl⟩ : ∃ less, fuel = less + 1 := ⟨fuel - 1, by omega⟩
  cases tree with
  | null => rfl
  | bool flag => cases flag <;> rfl
  | number numeral => exact readValue?_number fuel depth hasDigits stops
  | string text => exact readValue?_string fuel depth text rest
  | array items =>
      rw [Tree.written_array, List.length_cons] at enough
      rw [Tree.written_array, Tree.depth]
      cases depth with
      | zero => rfl
      | succ depth =>
          cases items with
          | nil => rfl
          | cons item items =>
              obtain ⟨first, others, begins, noGap, notEnd⟩ := item.written_begins
              have opened : Tree.listed (item :: items) ++ rest =
                  first :: (others ++ Tree.writtenItems items ++ rest) := by
                rw [Tree.listed, begins]
                rfl
              have read := readItems?_written (item :: items) nofun hasDigits
                (by omega : _ ≤ fuel + 2) depth rest
              rw [List.cons_append, opened, readValue?_array fuel depth noGap notEnd, ← opened,
                read]
              simp only [Nat.add_le_add_iff_right]
              split <;> rfl
  | object members =>
      rw [Tree.written_object, List.length_cons] at enough
      rw [Tree.written_object, Tree.depth]
      cases depth with
      | zero => rfl
      | succ depth =>
          cases members with
          | nil => rfl
          | cons member members =>
              have read := readMembers?_written (member :: members) nofun hasDigits
                (by omega : _ ≤ fuel + 2) depth rest
              have opened : readValue? (fuel + 1) (depth + 1)
                  ('\x7b' :: Tree.membersListed (member :: members) ++ rest) =
                    (readMembers? fuel depth
                      (Tree.membersListed (member :: members) ++ rest)).map
                        fun (members, left) => (.object members, left) := rfl
              rw [opened, read]
              simp only [Nat.add_le_add_iff_right]
              split <;> rfl

/-- The same of the items of an array. -/
theorem readItems?_written (items : List Tree) (nonempty : items ≠ [])
    (hasDigits : Tree.ItemsHaveDigits items) {fuel : Nat}
    (enough : 2 * (Tree.listed items).length ≤ fuel + 2) (depth : Nat) (rest : List Char) :
    readItems? fuel depth (Tree.listed items ++ rest) =
      if Tree.depthOfItems items ≤ depth then some (items, rest) else none := by
  cases items with
  | nil => contradiction
  | cons item items =>
      have positive := item.written_positive
      have positiveRest := Tree.writtenItems_positive items
      rw [Tree.listed, List.length_append] at enough
      obtain ⟨fuel, rfl⟩ : ∃ less, fuel = less + 1 := ⟨fuel - 1, by omega⟩
      have first := readValue?_written item hasDigits.1 (by omega : _ ≤ fuel + 1) depth
        (Numeral.stops_items items rest)
      rw [Tree.listed, List.append_assoc, readItems?, first, Tree.depthOfItems]
      by_cases fits : item.depth ≤ depth
      · rw [if_pos fits]
        cases items with
        | nil =>
            rw [if_pos (by rw [Tree.depthOfItems]; omega)]
            rfl
        | cons second items =>
            rw [Tree.writtenItems_cons, List.length_cons] at enough
            have others := readItems?_written (second :: items) nofun hasDigits.2
              (by omega : _ ≤ fuel + 2) depth rest
            show (readItems? fuel depth (Tree.listed (second :: items) ++ rest)).map _ = _
            simp only [others, Nat.max_le, fits, true_and]
            split <;> rfl
      · rw [if_neg fits, if_neg (by omega)]

/-- The same of the members of an object. -/
theorem readMembers?_written (members : List (String × Tree)) (nonempty : members ≠ [])
    (hasDigits : Tree.MembersHaveDigits members) {fuel : Nat}
    (enough : 2 * (Tree.membersListed members).length ≤ fuel + 2) (depth : Nat)
    (rest : List Char) :
    readMembers? fuel depth (Tree.membersListed members ++ rest) =
      if Tree.depthOfMembers members ≤ depth then some (members, rest) else none := by
  cases members with
  | nil => contradiction
  | cons member members =>
      obtain ⟨key, value⟩ := member
      have positive := value.written_positive
      have positiveRest := Tree.writtenMembers_positive members
      rw [Tree.membersListed, List.length_append, List.length_append, List.length_cons] at enough
      obtain ⟨fuel, rfl⟩ : ∃ less, fuel = less + 1 := ⟨fuel - 1, by omega⟩
      have first := readValue?_written value hasDigits.1 (by omega : _ ≤ fuel + 1) depth
        (Numeral.stops_members members rest)
      have keyRead := readString?_written key.toList
        (':' :: (value.written ++ (Tree.writtenMembers members ++ rest)))
      have opened : Tree.membersListed ((key, value) :: members) ++ rest =
          '"' :: (key.toList.flatMap escapedCharacter ++
            '"' :: ':' :: (value.written ++ (Tree.writtenMembers members ++ rest))) := by
        simp [Tree.membersListed, writtenString]
      rw [opened, readMembers?, dropWhile_isGap (by decide), Tree.depthOfMembers]
      simp only [keyRead, dropWhile_isGap (by decide : isGap ':' = false), first,
        String.ofList_toList]
      by_cases fits : value.depth ≤ depth
      · rw [if_pos fits]
        cases members with
        | nil =>
            rw [if_pos (by rw [Tree.depthOfMembers]; omega)]
            rfl
        | cons second members =>
            rw [Tree.writtenMembers_cons, List.length_cons] at enough
            have others := readMembers?_written (second :: members) nofun hasDigits.2
              (by omega : _ ≤ fuel + 2) depth rest
            show (readMembers? fuel depth
              (Tree.membersListed (second :: members) ++ rest)).map _ = _
            simp only [others, Nat.max_le, fits, true_and]
            split <;> rfl
      · rw [if_neg fits, if_neg (by omega)]

end

/-- The text of a tree holds that tree, if it nests no deeper than is allowed, and cannot be
read otherwise. -/
theorem Tree.read?_written (tree : Tree) (hasDigits : tree.HasDigits) :
    read? tree.written = if tree.depth ≤ depthLimit then some tree else none := by
  have read := readValue?_written tree hasDigits (by omega : _ ≤ 2 * tree.written.length + 1 + 1)
    depthLimit Numeral.stops_nil
  rw [List.append_nil] at read
  rw [read?, read]
  by_cases fits : tree.depth ≤ depthLimit
  · rw [if_pos fits, if_pos fits]
    rfl
  · rw [if_neg fits, if_neg fits]

end ScriptedSql.Json

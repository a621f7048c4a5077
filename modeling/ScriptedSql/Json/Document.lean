import ScriptedSql.Json.Reader

/-!
Contract: JSON values as they are stored and compared.

Owns:
- JSON content: integers of 64 bits apart from doubles, and objects as lists of
  members;
- the arrangement of members by key, the last of equal keys prevailing, and
  documents, which are arranged throughout;
- equality, and the step from a tree to a document and back.
-/

namespace ScriptedSql.Json

/-- An integer that JSON keeps apart from the doubles: a signed or an unsigned
one of 64 bits. -/
structure Whole where
  value : Int
  fits : -9223372036854775808 ≤ value ∧ value ≤ 18446744073709551615
deriving DecidableEq

inductive Content where
  | null
  | bool (flag : Bool)
  | integer (number : Whole)
  | double (number : Finite)
  | string (text : String)
  | array (items : List Content)
  | object (members : List (String × Content))

/-- The integer of a numeral without point and exponent, if it fits. A negative
zero is no integer. -/
def Numeral.integer? (numeral : Numeral) : Option Whole :=
  let value : Int := if numeral.negative then -numeral.whole else numeral.whole
  if fits : -9223372036854775808 ≤ value ∧ value ≤ 18446744073709551615 then
    if numeral.places.isEmpty && numeral.exponent.isNone &&
        !(numeral.negative && numeral.whole == 0) then
      some ⟨value, fits⟩
    else
      none
  else
    none

def Numeral.toContent? (numeral : Numeral) : Option Content :=
  match numeral.integer? with
  | some number => some (.integer number)
  | none => numeral.toDouble?.map .double

/-- Put a member in its place among members with increasing keys; a member of
the same key gives way. -/
def insertMember (key : String) (value : Content) :
    List (String × Content) → List (String × Content)
  | [] => [(key, value)]
  | (other, held) :: rest =>
    if key < other then (key, value) :: (other, held) :: rest
    else if key = other then (key, value) :: rest
    else (other, held) :: insertMember key value rest

/-- Members in the order of their keys, the last of equal keys prevailing. -/
def arrangeMembers (members : List (String × Content)) : List (String × Content) :=
  members.foldl (fun arranged member => insertMember member.1 member.2 arranged) []

def keysIncrease : List (String × Content) → Bool
  | [] => true
  | [_] => true
  | first :: second :: rest => decide (first.1 < second.1) && keysIncrease (second :: rest)

namespace Content

mutual

def isArranged : Content → Bool
  | .array items => areArranged items
  | .object members => keysIncrease members && membersAreArranged members
  | _ => true

def areArranged : List Content → Bool
  | [] => true
  | item :: rest => isArranged item && areArranged rest

def membersAreArranged : List (String × Content) → Bool
  | [] => true
  | (_, value) :: rest => isArranged value && membersAreArranged rest

end

mutual

/-- Equality of contents: numbers of one sort by their value, an integer never
equal to a double. -/
def sameAs : Content → Content → Bool
  | .null, .null => true
  | .bool left, .bool right => left == right
  | .integer left, .integer right => left.value == right.value
  | .double left, .double right => left.sameNumber right
  | .string left, .string right => left == right
  | .array left, .array right => sameItems left right
  | .object left, .object right => sameMembers left right
  | _, _ => false

def sameItems : List Content → List Content → Bool
  | [], [] => true
  | left :: lefts, right :: rights => sameAs left right && sameItems lefts rights
  | _, _ => false

def sameMembers : List (String × Content) → List (String × Content) → Bool
  | [], [] => true
  | (leftKey, left) :: lefts, (rightKey, right) :: rights =>
    leftKey == rightKey && sameAs left right && sameMembers lefts rights
  | _, _ => false

end

mutual

def toTree : Content → Tree
  | .null => .null
  | .bool flag => .bool flag
  | .integer number => .number (.ofInt number.value)
  | .double number => .number (.ofFinite .double number)
  | .string text => .string text
  | .array items => .array (toTrees items)
  | .object members => .object (membersToTrees members)

def toTrees : List Content → List Tree
  | [] => []
  | item :: rest => toTree item :: toTrees rest

def membersToTrees : List (String × Content) → List (String × Tree)
  | [] => []
  | (key, value) :: rest => (key, toTree value) :: membersToTrees rest

end

mutual

def ofTree? : Tree → Option Content
  | .null => some .null
  | .bool flag => some (.bool flag)
  | .number numeral => numeral.toContent?
  | .string text => some (.string text)
  | .array items => (ofTrees? items).map .array
  | .object members => (membersOfTrees? members).map fun members =>
      .object (arrangeMembers members)

def ofTrees? : List Tree → Option (List Content)
  | [] => some []
  | item :: rest =>
    match ofTree? item with
    | none => none
    | some content => (ofTrees? rest).map (content :: ·)

def membersOfTrees? : List (String × Tree) → Option (List (String × Content))
  | [] => some []
  | (key, value) :: rest =>
    match ofTree? value with
    | none => none
    | some content => (membersOfTrees? rest).map ((key, content) :: ·)

end

end Content

/-- Inserting keeps keys increasing, and puts nothing in front but the new key. -/
theorem keysIncrease_insertMember (key : String) (value : Content)
    (members : List (String × Content)) (increasing : keysIncrease members = true) :
    keysIncrease (insertMember key value members) = true := by
  induction members with
  | nil => rfl
  | cons first rest inductionHypothesis =>
      obtain ⟨other, held⟩ := first
      simp only [insertMember]
      split
      · simp_all [keysIncrease]
      · split
        · next same =>
          subst same
          cases rest with
          | nil => rfl
          | cons second rest => simpa [keysIncrease] using increasing
        · next notLess notSame =>
          have after : other < key := by
            rcases Decidable.em (other < key) with less | notAfter
            · exact less
            · exact absurd (String.le_antisymm (String.not_lt.1 notAfter)
                (String.not_lt.1 notLess)) notSame
          cases rest with
          | nil => simp [insertMember, keysIncrease, after]
          | cons second rest =>
              obtain ⟨next, nextHeld⟩ := second
              simp only [keysIncrease, Bool.and_eq_true, decide_eq_true_eq] at increasing
              have tail := inductionHypothesis increasing.2
              simp only [insertMember] at tail ⊢
              split
              · simp_all [keysIncrease]
              · split
                · simp_all [keysIncrease]
                · simp_all [keysIncrease]

/-- Inserting an arranged value among arranged ones leaves all arranged. -/
theorem membersAreArranged_insertMember (key : String) (value : Content)
    (members : List (String × Content)) (arrangedValue : value.isArranged = true)
    (arranged : Content.membersAreArranged members = true) :
    Content.membersAreArranged (insertMember key value members) = true := by
  induction members with
  | nil => simp [insertMember, Content.membersAreArranged, arrangedValue]
  | cons first rest inductionHypothesis =>
      obtain ⟨other, held⟩ := first
      simp only [Content.membersAreArranged, Bool.and_eq_true] at arranged
      simp only [insertMember]
      split
      · simp [Content.membersAreArranged, arrangedValue, arranged]
      · split
        · simp [Content.membersAreArranged, arrangedValue, arranged]
        · simp [Content.membersAreArranged, arranged, inductionHypothesis arranged.2]

/-- Members put in order one after the other stay in order and arranged. -/
theorem arranged_foldl_insertMember (members arranged : List (String × Content))
    (values : Content.membersAreArranged members = true)
    (keys : keysIncrease arranged = true)
    (held : Content.membersAreArranged arranged = true) :
    let result :=
      members.foldl (fun arranged member => insertMember member.1 member.2 arranged) arranged
    keysIncrease result = true ∧ Content.membersAreArranged result = true := by
  induction members generalizing arranged with
  | nil => exact ⟨keys, held⟩
  | cons first rest inductionHypothesis =>
      obtain ⟨key, value⟩ := first
      simp only [Content.membersAreArranged, Bool.and_eq_true] at values
      exact inductionHypothesis _ values.2
        (keysIncrease_insertMember key value arranged keys)
        (membersAreArranged_insertMember key value arranged values.1 held)

/-- A number is arranged. -/
theorem isArranged_of_numeral {numeral : Numeral} {content : Content}
    (read : numeral.toContent? = some content) : content.isArranged = true := by
  unfold Numeral.toContent? at read
  split at read
  · simp only [Option.some.injEq] at read
    subst read
    simp [Content.isArranged]
  · obtain ⟨_, _, rfl⟩ := Option.map_eq_some_iff.1 read
    simp [Content.isArranged]

mutual

/-- The content of a tree is arranged throughout. -/
theorem isArranged_of_ofTree {tree : Tree} {content : Content}
    (read : Content.ofTree? tree = some content) : content.isArranged = true := by
  cases tree with
  | null => simp only [Content.ofTree?, Option.some.injEq] at read; subst read; rfl
  | bool => simp only [Content.ofTree?, Option.some.injEq] at read; subst read; rfl
  | string => simp only [Content.ofTree?, Option.some.injEq] at read; subst read; rfl
  | number numeral =>
      simp only [Content.ofTree?] at read
      exact isArranged_of_numeral read
  | array items =>
      simp only [Content.ofTree?] at read
      obtain ⟨contents, readItems, rfl⟩ := Option.map_eq_some_iff.1 read
      simpa only [Content.isArranged] using areArranged_of_ofTrees readItems
  | object members =>
      simp only [Content.ofTree?] at read
      obtain ⟨contents, readMembers, rfl⟩ := Option.map_eq_some_iff.1 read
      have both := arranged_foldl_insertMember contents []
        (membersAreArranged_of_membersOfTrees readMembers) rfl rfl
      simpa only [Content.isArranged, arrangeMembers, Bool.and_eq_true] using both

/-- The contents of items are arranged throughout. -/
theorem areArranged_of_ofTrees {trees : List Tree} {contents : List Content}
    (read : Content.ofTrees? trees = some contents) :
    Content.areArranged contents = true := by
  cases trees with
  | nil => simp only [Content.ofTrees?, Option.some.injEq] at read; subst read; rfl
  | cons tree rest =>
      simp only [Content.ofTrees?] at read
      split at read
      · cases read
      · next content readFirst =>
        obtain ⟨others, readRest, rfl⟩ := Option.map_eq_some_iff.1 read
        simp [Content.areArranged, isArranged_of_ofTree readFirst,
          areArranged_of_ofTrees readRest]

/-- The contents of members are arranged throughout. -/
theorem membersAreArranged_of_membersOfTrees {trees : List (String × Tree)}
    {contents : List (String × Content)}
    (read : Content.membersOfTrees? trees = some contents) :
    Content.membersAreArranged contents = true := by
  cases trees with
  | nil => simp only [Content.membersOfTrees?, Option.some.injEq] at read; subst read; rfl
  | cons first rest =>
      obtain ⟨key, tree⟩ := first
      simp only [Content.membersOfTrees?] at read
      split at read
      · cases read
      · next content readFirst =>
        obtain ⟨others, readRest, rfl⟩ := Option.map_eq_some_iff.1 read
        simp [Content.membersAreArranged, isArranged_of_ofTree readFirst,
          membersAreArranged_of_membersOfTrees readRest]

end

/-- A JSON value: content in which every object lists its members by increasing
key. -/
structure Document where
  content : Content
  arranged : content.isArranged = true

namespace Document

def ofTree? (tree : Tree) : Option Document :=
  match read : Content.ofTree? tree with
  | some content => some ⟨content, isArranged_of_ofTree read⟩
  | none => none

def read? (text : List Char) : Option Document :=
  (Tree.read? text).bind ofTree?

def text (document : Document) : String :=
  document.content.toTree.text

def sameAs (left right : Document) : Bool :=
  left.content.sameAs right.content

end Document

end ScriptedSql.Json

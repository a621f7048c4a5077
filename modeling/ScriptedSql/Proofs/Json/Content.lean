import ScriptedSql.Json.Document
import ScriptedSql.Proofs.Json.Nesting

/-!
Contract: JSON content as a tree, and back.

Owns:
- content without doubles, all of whose numerals are integers;
- integers, which their numerals give back;
- arranged members, which arranging leaves as they are;
- arranged content without doubles, which its tree gives back.
-/

namespace ScriptedSql.Json

/-! ## Integers -/

/-- An integer is read back from its numeral. -/
theorem Numeral.integer?_ofInt (number : Whole) :
    (Numeral.ofInt number.value).integer? = some number := by
  obtain ⟨value, fits⟩ := number
  have sign : (if decide (value < 0) = true then -(value.natAbs : Int) else value.natAbs) =
      value := by
    simp only [decide_eq_true_eq]
    split <;> omega
  have noNegativeZero : (decide (value < 0) && value.natAbs == 0) = false := by
    simp only [Bool.and_eq_false_iff, decide_eq_false_iff_not, beq_eq_false_iff_ne]
    omega
  unfold integer? ofInt
  simp only [sign, noNegativeZero]
  rw [dif_pos fits]
  rfl

theorem Numeral.ofInt_hasDigits (value : Int) : (Numeral.ofInt value).HasDigits :=
  fun _ isThere => absurd isThere List.not_mem_nil

/-! ## Members -/

private theorem keysIncrease_iff {members : List (String × Content)} :
    keysIncrease members = true ↔ members.Pairwise fun first second => first.1 < second.1 := by
  induction members with
  | nil => exact iff_of_true rfl .nil
  | cons first rest inductionHypothesis =>
      cases rest with
      | nil => exact iff_of_true rfl (List.pairwise_singleton _ _)
      | cons second rest =>
          rw [keysIncrease, Bool.and_eq_true, decide_eq_true_eq, inductionHypothesis]
          constructor
          · rintro ⟨less, increasing⟩
            refine List.pairwise_cons.mpr ⟨fun other isThere => ?_, increasing⟩
            rcases List.mem_cons.mp isThere with rfl | isLater
            · exact less
            · exact String.lt_trans less ((List.pairwise_cons.mp increasing).1 other isLater)
          · intro increasing
            obtain ⟨least, rest⟩ := List.pairwise_cons.mp increasing
            exact ⟨least second List.mem_cons_self, rest⟩

/-- A member whose key is greater than all others is put behind them. -/
theorem insertMember_greatest {key : String} {arranged : List (String × Content)}
    (greatest : ∀ member ∈ arranged, member.1 < key) (value : Content) :
    insertMember key value arranged = arranged ++ [(key, value)] := by
  induction arranged with
  | nil => rfl
  | cons first rest inductionHypothesis =>
      obtain ⟨other, held⟩ := first
      have less : other < key := greatest (other, held) List.mem_cons_self
      have notLess : ¬ key < other := fun greater => String.lt_asymm less greater
      have notSame : key ≠ other := fun same => String.lt_irrefl key (same ▸ less)
      rw [insertMember, if_neg notLess, if_neg notSame, inductionHypothesis, List.cons_append]
      exact fun member isLater => greatest member (List.mem_cons_of_mem _ isLater)

private theorem arrangeMembers_of_increasing {members : List (String × Content)}
    (increasing : keysIncrease members = true) : arrangeMembers members = members := by
  have insertAll : ∀ rest before : List (String × Content),
      (before ++ rest).Pairwise (fun first second => first.1 < second.1) →
        rest.foldl (fun arranged member => insertMember member.1 member.2 arranged) before =
          before ++ rest := by
    intro rest
    induction rest with
    | nil => exact fun before _ => (List.append_nil before).symm
    | cons member rest inductionHypothesis =>
        intro before ordered
        have greatest : ∀ other ∈ before, other.1 < member.1 := fun other isBefore =>
          (List.pairwise_append.mp ordered).2.2 other isBefore member List.mem_cons_self
        rw [List.append_cons] at ordered ⊢
        rw [List.foldl_cons, insertMember_greatest greatest]
        exact inductionHypothesis _ ordered
  exact insertAll members [] (keysIncrease_iff.mp increasing)

/-! ## Contents -/

namespace Content

mutual

def hasNoDouble : Content → Bool
  | .double _ => false
  | .array items => haveNoDouble items
  | .object members => membersHaveNoDouble members
  | _ => true

def haveNoDouble : List Content → Bool
  | [] => true
  | item :: rest => hasNoDouble item && haveNoDouble rest

def membersHaveNoDouble : List (String × Content) → Bool
  | [] => true
  | (_, value) :: rest => hasNoDouble value && membersHaveNoDouble rest

end

mutual

theorem toTree_hasDigits (content : Content) (noDouble : content.hasNoDouble = true) :
    content.toTree.HasDigits := by
  cases content with
  | null => trivial
  | bool flag => trivial
  | integer number => exact Numeral.ofInt_hasDigits number.value
  | double number => contradiction
  | string text => trivial
  | array items => exact toTrees_haveDigits items noDouble
  | object members => exact membersToTrees_haveDigits members noDouble

private theorem toTrees_haveDigits (items : List Content) (noDouble : haveNoDouble items = true) :
    Tree.ItemsHaveDigits (toTrees items) := by
  cases items with
  | nil => trivial
  | cons item rest =>
      obtain ⟨first, others⟩ := Bool.and_eq_true_iff.mp noDouble
      exact ⟨toTree_hasDigits item first, toTrees_haveDigits rest others⟩

private theorem membersToTrees_haveDigits (members : List (String × Content))
    (noDouble : membersHaveNoDouble members = true) :
    Tree.MembersHaveDigits (membersToTrees members) := by
  cases members with
  | nil => trivial
  | cons member rest =>
      obtain ⟨first, others⟩ := Bool.and_eq_true_iff.mp noDouble
      exact ⟨toTree_hasDigits member.2 first, membersToTrees_haveDigits rest others⟩

end

mutual

/-- Arranged content without doubles is given back by its tree. -/
theorem ofTree?_toTree (content : Content) (noDouble : content.hasNoDouble = true)
    (arranged : content.isArranged = true) : ofTree? content.toTree = some content := by
  cases content with
  | null => rfl
  | bool flag => rfl
  | integer number =>
      rw [toTree, ofTree?, Numeral.toContent?, Numeral.integer?_ofInt]
  | double number => contradiction
  | string text => rfl
  | array items =>
      rw [toTree, ofTree?, ofTrees?_toTrees items noDouble arranged]
      rfl
  | object members =>
      obtain ⟨increasing, values⟩ := Bool.and_eq_true_iff.mp arranged
      rw [toTree, ofTree?, membersOfTrees?_membersToTrees members noDouble values, Option.map_some,
        arrangeMembers_of_increasing increasing]

private theorem ofTrees?_toTrees (items : List Content) (noDouble : haveNoDouble items = true)
    (arranged : areArranged items = true) : ofTrees? (toTrees items) = some items := by
  cases items with
  | nil => rfl
  | cons item rest =>
      obtain ⟨noDoubleFirst, noDoubleRest⟩ := Bool.and_eq_true_iff.mp noDouble
      obtain ⟨arrangedFirst, arrangedRest⟩ := Bool.and_eq_true_iff.mp arranged
      have first := ofTree?_toTree item noDoubleFirst arrangedFirst
      have others := ofTrees?_toTrees rest noDoubleRest arrangedRest
      rw [toTrees, ofTrees?, first]
      simp only [others, Option.map_some]

private theorem membersOfTrees?_membersToTrees (members : List (String × Content))
    (noDouble : membersHaveNoDouble members = true)
    (arranged : membersAreArranged members = true) :
    membersOfTrees? (membersToTrees members) = some members := by
  cases members with
  | nil => rfl
  | cons member rest =>
      obtain ⟨key, value⟩ := member
      obtain ⟨noDoubleFirst, noDoubleRest⟩ := Bool.and_eq_true_iff.mp noDouble
      obtain ⟨arrangedFirst, arrangedRest⟩ := Bool.and_eq_true_iff.mp arranged
      have first := ofTree?_toTree value noDoubleFirst arrangedFirst
      have others := membersOfTrees?_membersToTrees rest noDoubleRest arrangedRest
      rw [membersToTrees, membersOfTrees?, first]
      simp only [others, Option.map_some]

end

end Content

/-- A document without doubles is given back by its tree. -/
theorem Document.ofTree?_toTree (document : Document)
    (noDouble : document.content.hasNoDouble = true) :
    ofTree? document.content.toTree = some document := by
  have content := Content.ofTree?_toTree document.content noDouble document.arranged
  unfold ofTree?
  split
  · next read =>
    rw [content] at read
    cases read
    rfl
  · next unread =>
    rw [content] at unread
    contradiction

end ScriptedSql.Json

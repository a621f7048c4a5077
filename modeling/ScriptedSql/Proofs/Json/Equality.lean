import ScriptedSql.Json.Document

/-!
Contract: the equality of JSON content, as equality of what is left of two contents when their
negative zeros lose the sign.

Owns:
- content without negative zeros;
- equal contents, which are the same content but for the signs of zeros.
-/

namespace ScriptedSql

private theorem Finite.sameNumber_iff {left right : Finite} :
    left.sameNumber right = true ↔ left.value = right.value :=
  decide_eq_true_iff

namespace Json.Content

mutual

/-- The content with a plain zero for every negative one. -/
def withoutNegativeZeros : Content → Content
  | .double number => .double (.exact number.value)
  | .array items => .array (itemsWithoutNegativeZeros items)
  | .object members => .object (membersWithoutNegativeZeros members)
  | content => content

def itemsWithoutNegativeZeros : List Content → List Content
  | [] => []
  | item :: rest => withoutNegativeZeros item :: itemsWithoutNegativeZeros rest

def membersWithoutNegativeZeros : List (String × Content) → List (String × Content)
  | [] => []
  | (key, value) :: rest => (key, withoutNegativeZeros value) :: membersWithoutNegativeZeros rest

end

private theorem wholes_equal_iff {left right : Whole} :
    (left.value == right.value) = true ↔ left = right := by
  rw [beq_iff_eq]
  cases left
  cases right
  simp

mutual

/-- Contents are equal exactly if they differ at most in the signs of zeros. -/
theorem sameAs_iff : ∀ left right : Content,
    left.sameAs right = true ↔ left.withoutNegativeZeros = right.withoutNegativeZeros
  | .array lefts, right => by
      cases right with
      | array rights => simp [sameAs, withoutNegativeZeros, sameItems_iff lefts rights]
      | _ => simp [sameAs, withoutNegativeZeros]
  | .object lefts, right => by
      cases right with
      | object rights => simp [sameAs, withoutNegativeZeros, sameMembers_iff lefts rights]
      | _ => simp [sameAs, withoutNegativeZeros]
  | .integer left, right => by
      cases right with
      | integer right => simpa [sameAs, withoutNegativeZeros] using wholes_equal_iff
      | _ => simp [sameAs, withoutNegativeZeros]
  | .double left, right => by
      cases right with
      | double right => simp [sameAs, withoutNegativeZeros, Finite.sameNumber_iff]
      | _ => simp [sameAs, withoutNegativeZeros]
  | .null, right => by cases right <;> simp [sameAs, withoutNegativeZeros]
  | .bool left, right => by cases right <;> simp [sameAs, withoutNegativeZeros]
  | .string left, right => by cases right <;> simp [sameAs, withoutNegativeZeros]

private theorem sameItems_iff : ∀ lefts rights : List Content,
    sameItems lefts rights = true ↔
      itemsWithoutNegativeZeros lefts = itemsWithoutNegativeZeros rights
  | [], [] => iff_of_true rfl rfl
  | [], _ :: _ => by simp [sameItems, itemsWithoutNegativeZeros]
  | _ :: _, [] => by simp [sameItems, itemsWithoutNegativeZeros]
  | left :: lefts, right :: rights => by
      simp [sameItems, itemsWithoutNegativeZeros, sameAs_iff left right,
        sameItems_iff lefts rights]

private theorem sameMembers_iff : ∀ lefts rights : List (String × Content),
    sameMembers lefts rights = true ↔
      membersWithoutNegativeZeros lefts = membersWithoutNegativeZeros rights
  | [], [] => iff_of_true rfl rfl
  | [], _ :: _ => by simp [sameMembers, membersWithoutNegativeZeros]
  | _ :: _, [] => by simp [sameMembers, membersWithoutNegativeZeros]
  | (leftKey, left) :: lefts, (rightKey, right) :: rights => by
      simp [sameMembers, membersWithoutNegativeZeros, sameAs_iff left right,
        sameMembers_iff lefts rights, and_assoc]

end

end Json.Content

end ScriptedSql

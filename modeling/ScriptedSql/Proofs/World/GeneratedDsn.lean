import ScriptedSql.Proofs.Text.Numeral
import ScriptedSql.World

/-!
Contract: DSNs that are generated.

Owns:
- generated DSNs: different for different numbers, and never one that is taken;
- the search of a DSN: it finds the least number whose DSN is not taken, after at most one
  try more than DSNs are taken.
-/

namespace ScriptedSql

namespace World

/-- Different numbers give different DSNs. -/
theorem generatedDsn_injective {first second : Nat}
    (same : generatedDsn first = generatedDsn second) : first = second := by
  have sameNumerals := String.append_right_inj _ |>.mp same
  exact Text.decimal_injective sameNumerals

theorem le_firstFree (taken : List String) (number : Nat) : number ≤ firstFree taken number := by
  fun_induction firstFree taken number with
  | case1 taken number isTaken inductionHypothesis => omega
  | case2 taken number isFree => exact Nat.le_refl number

/-- The search for a DSN ends with one that is not taken. -/
theorem firstFree_not_mem (taken : List String) (number : Nat) :
    generatedDsn (firstFree taken number) ∉ taken := by
  fun_induction firstFree taken number with
  | case1 taken number isTaken inductionHypothesis =>
      intro stillTaken
      have later := le_firstFree (taken.erase (generatedDsn number)) (number + 1)
      refine inductionHypothesis ((List.mem_erase_of_ne ?_).mpr stillTaken)
      intro same
      have sameNumber := generatedDsn_injective same
      omega
  | case2 taken number isFree => exact isFree

/-- The search passes by a number only if its DSN is taken. -/
theorem mem_of_lt_firstFree {taken : List String} {number lower : Nat}
    (notBelow : number ≤ lower) (isLower : lower < firstFree taken number) :
    generatedDsn lower ∈ taken := by
  fun_induction firstFree taken number with
  | case1 taken number isTaken inductionHypothesis =>
      rcases Nat.eq_or_lt_of_le notBelow with rfl | isLater
      · exact isTaken
      · exact List.mem_of_mem_erase (inductionHypothesis isLater isLower)
  | case2 taken number isFree => exact absurd isLower (Nat.not_lt.mpr notBelow)

/-- Every try that fails uses up one of the DSNs that are taken. -/
theorem firstFree_le (taken : List String) (number : Nat) :
    firstFree taken number ≤ number + taken.length := by
  fun_induction firstFree taken number with
  | case1 taken number isTaken inductionHypothesis =>
      have positive := List.length_pos_of_mem isTaken
      rw [List.length_erase_of_mem isTaken] at inductionHypothesis
      omega
  | case2 taken number isFree => exact Nat.le_add_right number taken.length

/-- The search of a number whose DSN is not taken. Each number is looked up among all that
are taken, and the search is given up after so many tries. -/
def searchFor (taken : List String) : (tries number : Nat) → Option Nat
  | 0, _ => none
  | tries + 1, number =>
    if generatedDsn number ∈ taken then searchFor taken tries (number + 1) else some number

private theorem searchFor_of_least {taken : List String} {tries number found : Nat}
    (notBelow : number ≤ found) (inTime : found < number + tries)
    (isFree : generatedDsn found ∉ taken)
    (lowerTaken : ∀ lower, number ≤ lower → lower < found → generatedDsn lower ∈ taken) :
    searchFor taken tries number = some found := by
  induction tries generalizing number with
  | zero => omega
  | succ tries inductionHypothesis =>
      rcases Nat.eq_or_lt_of_le notBelow with rfl | isLater
      · rw [searchFor, if_neg isFree]
      · rw [searchFor, if_pos (lowerTaken number (Nat.le_refl number) isLater)]
        refine inductionHypothesis isLater (by omega) ?_
        intro lower above isLower
        exact lowerTaken lower (Nat.le_of_succ_le above) isLower

/-- The search needs one try more than DSNs are taken, at most. -/
theorem searchFor_firstFree (taken : List String) (number : Nat) :
    searchFor taken (taken.length + 1) number = some (firstFree taken number) := by
  have inTime := firstFree_le taken number
  exact searchFor_of_least (le_firstFree taken number) (by omega)
    (firstFree_not_mem taken number) fun _ => mem_of_lt_firstFree

end World

end ScriptedSql

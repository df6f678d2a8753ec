import Mathlib.Algebra.BigOperators.Ring.List
import Mathlib.Algebra.Order.BigOperators.Group.List
import Mathlib.Algebra.Order.Ring.Nat
import PackageCoverage.Proofs.Tally.Range
import PackageCoverage.Proofs.Tally.Sums

/-!
# Percentages of sums

The fraction of a sum of tallies is the mediant of their fractions, so some of them are at most
as large and some at least as large.  Percentages are rounded, but up to `2 ^ 53` statements they
are in the order of the fractions, and what is true of fractions is true of percentages.

* **Exact counts.**  A count of at most `2 ^ 53` is represented exactly, so a percentage of such
  counts is rounded from the quotient of the counts themselves (`Tally.Exact.percentage_le`).
* **Several tallies.**  A sum that is exact has a percentage between those of its terms
  (`Tally.exists_percentage_le_sum`, `Tally.exists_sum_le_percentage`).
* **One more block.**  A block that is covered is a term with the fraction one, and one that is
  not covered is a term with the fraction zero.  So the first kind does not lower a percentage
  (`Tally.percentage_le_add`), and the second does not raise it (`Tally.percentage_add_le`),
  where no count need be exact, as only the total grows.
-/

namespace PackageCoverage

open Binary64

/-- A natural number up to `2 ^ 53` is represented exactly, the last one because it is even. -/
theorem Binary64.units_ofNat_of_le {n : Nat} (hle : n ≤ 2 ^ 53) :
    units (ofNat n).magnitude = n * unitsPerOne := by
  rcases Nat.lt_or_eq_of_le hle with hlt | rfl
  · exact units_ofNat hlt
  · decide +kernel

namespace Tally

variable {tally first second : Tally} {tallies : List Tally} {record : Record}

/-! ## Exact counts -/

/-- No more statements are covered than there are, and both counts are represented exactly. -/
structure Exact (tally : Tally) : Prop where
  covered_le : tally.covered.value ≤ tally.total.value
  total_le : tally.total.value ≤ 2 ^ 53

theorem percentage_of_total_eq_zero (htotal : tally.total.value = 0) : tally.percentage = 0 :=
  if_pos htotal

/-- Percentages of exact counts are in the order of the fractions. -/
theorem Exact.percentage_le (hfirst : first.Exact) (hsecond : second.Exact)
    (hpos : 0 < second.total.value)
    (hcross : first.covered.value * second.total.value ≤
      second.covered.value * first.total.value) :
    first.percentage ≤ second.percentage := by
  -- a package without statements counts with zero, all others with their fractions
  by_cases htotal : first.total.value = 0
  · rw [percentage_of_total_eq_zero htotal]
    exact zero_le_percentage _ _
  · refine percentage_le_of_units htotal (Nat.ne_of_gt hpos) ?_
    rw [units_ofNat_of_le (hfirst.covered_le.trans hfirst.total_le),
      units_ofNat_of_le hfirst.total_le, units_ofNat_of_le hsecond.total_le,
      units_ofNat_of_le (hsecond.covered_le.trans hsecond.total_le),
      Nat.mul_mul_mul_comm, Nat.mul_mul_mul_comm second.covered.value]
    exact Nat.mul_le_mul_right _ hcross

/-! ## Several tallies -/

/-- The mediant of some fractions is not below all of them. -/
private theorem exists_mul_sum_le (hne : tallies ≠ []) (num den : Tally → Nat) :
    ∃ tally ∈ tallies,
      num tally * (tallies.map den).sum ≤ (tallies.map num).sum * den tally := by
  apply List.exists_le_of_sum_le hne
  rw [List.sum_map_mul_right, List.sum_map_mul_left]

theorem total_le_sum (hmem : tally ∈ tallies) : tally.total.value ≤ tallies.sum.total.value := by
  have hle : tally.total.value ≤ (tallies.map fun tally => tally.total.value).sum :=
    List.le_sum_of_mem (List.mem_map_of_mem hmem)
  have hlimit := tally.total.value_le
  rw [value_total_sum]
  omega

section Sum

variable (hle : ∀ tally ∈ tallies, tally.covered.value ≤ tally.total.value)
  (hlimit : tallies.sum.total.value ≤ 2 ^ 53)

include hlimit

theorem total_sum_eq :
    tallies.sum.total.value = (tallies.map fun tally => tally.total.value).sum := by
  have hbelow : 2 ^ 53 < Count.limit := by decide
  have hvalue := value_total_sum tallies
  omega

include hle

theorem covered_sum_eq :
    tallies.sum.covered.value = (tallies.map fun tally => tally.covered.value).sum := by
  have hparts : (tallies.map fun tally => tally.covered.value).sum ≤
      (tallies.map fun tally => tally.total.value).sum := List.sum_le_sum hle
  have hbelow : 2 ^ 53 < Count.limit := by decide
  have htotal := total_sum_eq hlimit
  have hvalue := value_covered_sum tallies
  omega

theorem exact_sum : tallies.sum.Exact := by
  refine ⟨?_, hlimit⟩
  rw [covered_sum_eq hle hlimit, total_sum_eq hlimit]
  exact List.sum_le_sum hle

theorem exact_of_mem (hmem : tally ∈ tallies) : tally.Exact :=
  ⟨hle tally hmem, (total_le_sum hmem).trans hlimit⟩

variable (hne : tallies ≠ [])

include hne

/-- Some term of an exact sum has at most the percentage of the sum. -/
theorem exists_percentage_le_sum (hpos : ∀ tally ∈ tallies, 0 < tally.total.value) :
    ∃ tally ∈ tallies, tally.percentage ≤ tallies.sum.percentage := by
  obtain ⟨tally, hmem, hcross⟩ := exists_mul_sum_le hne
    (fun tally => tally.covered.value) fun tally => tally.total.value
  rw [← covered_sum_eq hle hlimit, ← total_sum_eq hlimit] at hcross
  refine ⟨tally, hmem,
    (exact_of_mem hle hlimit hmem).percentage_le (exact_sum hle hlimit) ?_ hcross⟩
  exact Nat.lt_of_lt_of_le (hpos tally hmem) (total_le_sum hmem)

theorem exists_sum_le_percentage (hpos : ∀ tally ∈ tallies, 0 < tally.total.value) :
    ∃ tally ∈ tallies, tallies.sum.percentage ≤ tally.percentage := by
  -- the mediant of the inverse fractions is not below all of these
  obtain ⟨tally, hmem, hcross⟩ := exists_mul_sum_le hne
    (fun tally => tally.total.value) fun tally => tally.covered.value
  rw [← covered_sum_eq hle hlimit, ← total_sum_eq hlimit, Nat.mul_comm,
    Nat.mul_comm _ tally.covered.value] at hcross
  exact ⟨tally, hmem, (exact_sum hle hlimit).percentage_le (exact_of_mem hle hlimit hmem)
    (hpos tally hmem) hcross⟩

end Sum

/-! ## One more block -/

section OneMore

variable (hle : tally.covered.value ≤ tally.total.value)

include hle

/-- A block that was never executed does not raise the percentage. -/
theorem percentage_add_le (hexecutions : record.executions.value = 0) :
    (tally.add record).percentage ≤ tally.percentage := by
  have hcovered : (tally.add record).covered = tally.covered := by
    have hnone : (ofRecord record).covered = 0 := by simp [ofRecord, Record.isCovered, hexecutions]
    rw [add, covered_add, hnone, Count.add_zero]
  have htotal : tally.total.value ≤ (tally.add record).total.value := by
    have hlimit := tally.total.value_le
    rw [add, total_add, Count.value_add]
    omega
  rw [percentage, percentage, hcovered]
  by_cases hempty : tally.total.value = 0
  · -- nothing is covered, before as after
    have hzero : tally.covered.value = 0 := by omega
    rw [(percentage_eq_zero_iff (by omega)).mpr hzero]
    exact zero_le_percentage _ _
  · exact percentage_antitone tally.covered hempty htotal

/-- An executed block does not lower the percentage while the counts are exact. -/
theorem percentage_le_add (hexecutions : 0 < record.executions.value)
    (hlimit : (tally.add record).total.value ≤ 2 ^ 53) :
    tally.percentage ≤ (tally.add record).percentage := by
  have hbelow : 2 ^ 53 < Count.limit := by decide
  have hblock : (ofRecord record).covered = record.statements := by
    simp [ofRecord, Record.isCovered, hexecutions]
  -- neither counter stops at the limit
  have htotal : (tally.add record).total.value =
      tally.total.value + record.statements.value := by
    rw [add, total_add, Count.value_add] at hlimit ⊢
    have hstatements : (ofRecord record).total = record.statements := rfl
    rw [hstatements] at hlimit ⊢
    omega
  have hcovered : (tally.add record).covered.value =
      tally.covered.value + record.statements.value := by
    rw [add, covered_add, hblock, Count.value_add]
    omega
  by_cases hempty : (tally.add record).total.value = 0
  · rw [percentage_of_total_eq_zero (by omega : tally.total.value = 0)]
    exact zero_le_percentage _ _
  · have hbefore : tally.Exact := ⟨hle, by omega⟩
    have hafter : (tally.add record).Exact := ⟨by omega, hlimit⟩
    refine hbefore.percentage_le hafter (Nat.pos_of_ne_zero hempty) ?_
    rw [htotal, hcovered]
    calc tally.covered.value * (tally.total.value + record.statements.value)
        = tally.covered.value * tally.total.value +
            tally.covered.value * record.statements.value := Nat.mul_add _ _ _
      _ ≤ tally.covered.value * tally.total.value +
            tally.total.value * record.statements.value :=
          Nat.add_le_add_left (Nat.mul_le_mul_right _ hle) _
      _ = (tally.covered.value + record.statements.value) * tally.total.value := by
          rw [Nat.add_mul, Nat.mul_comm record.statements.value]

end OneMore

end Tally

end PackageCoverage

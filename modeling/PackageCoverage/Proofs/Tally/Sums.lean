import Mathlib.Algebra.BigOperators.Group.List.Basic
import Mathlib.Algebra.Ring.Nat
import PackageCoverage.Package.Tally

/-!
# Sums of counts and tallies

Counts and tallies are commutative monoids, so a sum depends neither on the order
nor on the grouping of its terms.  A sum of counts is the exact sum of the values
cut off once (`Count.value_sum`), however often the running sum was cut off on the
way.

`Tally.ofRecords` is the tally of a list of blocks, and `Record.statementSum` and
`Record.coveredSum` are the two exact sums behind it.
-/

namespace PackageCoverage

/-! ## Counts -/

namespace Count

instance : AddCommMonoid Count where
  add_assoc := Count.add_assoc
  zero_add := Count.zero_add
  add_zero := Count.add_zero
  add_comm := Count.add_comm
  nsmul := nsmulRec

/-- A sum of counts is the sum of their values, cut off at the end only. -/
theorem value_sum (counts : List Count) :
    counts.sum.value = min (counts.map value).sum limit := by
  induction counts with
  | nil => rfl
  | cons count later ih =>
      simp only [List.sum_cons, List.map_cons, value_add, ih]
      omega

end Count

/-! ## Exact sums over blocks -/

namespace Record

/-- The exact number of statements in all blocks. -/
def statementSum (records : List Record) : Nat :=
  (records.map fun record => record.statements.value).sum

/-- The exact number of statements in the covered blocks. -/
def coveredSum (records : List Record) : Nat :=
  statementSum (records.filter isCovered)

@[simp] theorem statementSum_nil : statementSum [] = 0 := rfl

@[simp] theorem statementSum_cons (record : Record) (later : List Record) :
    statementSum (record :: later) = record.statements.value + statementSum later := by
  simp [statementSum]

@[simp] theorem coveredSum_nil : coveredSum [] = 0 := rfl

@[simp] theorem coveredSum_cons (record : Record) (later : List Record) :
    coveredSum (record :: later) =
      (if record.isCovered then record.statements.value else 0) + coveredSum later := by
  cases hcovered : record.isCovered <;> simp [coveredSum, hcovered]

end Record

/-! ## Tallies -/

namespace Tally

instance : AddCommMonoid Tally where
  add_assoc := Tally.add_assoc
  zero_add := Tally.zero_add
  add_zero := Tally.add_zero
  add_comm := Tally.add_comm
  nsmul := nsmulRec

/-- The tally of a list of blocks. -/
def ofRecords (records : List Record) : Tally := (records.map ofRecord).sum

@[simp] theorem ofRecords_nil : ofRecords [] = 0 := rfl

@[simp] theorem ofRecords_cons (record : Record) (later : List Record) :
    ofRecords (record :: later) = ofRecord record + ofRecords later := by
  simp [ofRecords]

@[simp] theorem ofRecords_append (first second : List Record) :
    ofRecords (first ++ second) = ofRecords first + ofRecords second := by
  simp [ofRecords]

theorem total_sum (tallies : List Tally) : tallies.sum.total = (tallies.map total).sum := by
  induction tallies with
  | nil => rfl
  | cons tally later ih => rw [List.sum_cons, total_add, ih, List.map_cons, List.sum_cons]

theorem covered_sum (tallies : List Tally) :
    tallies.sum.covered = (tallies.map covered).sum := by
  induction tallies with
  | nil => rfl
  | cons tally later ih => rw [List.sum_cons, covered_add, ih, List.map_cons, List.sum_cons]

/-- The total of several tallies together is cut off once, and so are their covered statements. -/
theorem value_total_sum (tallies : List Tally) :
    tallies.sum.total.value = min (tallies.map fun tally => tally.total.value).sum Count.limit := by
  rw [total_sum, Count.value_sum, List.map_map]
  rfl

theorem value_covered_sum (tallies : List Tally) :
    tallies.sum.covered.value =
      min (tallies.map fun tally => tally.covered.value).sum Count.limit := by
  rw [covered_sum, Count.value_sum, List.map_map]
  rfl

/-- The total of a list of blocks is the exact number of statements, cut off once. -/
theorem value_total_ofRecords (records : List Record) :
    (ofRecords records).total.value = min (Record.statementSum records) Count.limit := by
  rw [ofRecords, value_total_sum, List.map_map]
  rfl

theorem value_covered_ofRecords (records : List Record) :
    (ofRecords records).covered.value = min (Record.coveredSum records) Count.limit := by
  induction records with
  | nil => rfl
  | cons record later ih =>
      rw [ofRecords_cons, covered_add, Count.value_add, ih, Record.coveredSum_cons]
      cases hcovered : record.isCovered
      · simp [ofRecord, hcovered]
      · simp only [ofRecord, hcovered, if_true]
        omega

end Tally

end PackageCoverage

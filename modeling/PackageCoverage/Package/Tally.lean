import PackageCoverage.Binary64.Arithmetic
import PackageCoverage.Profile.Record

/-!
# Tallies

A tally counts the statements of some blocks and those of the covered ones among
them.  Tallies add up like counts, and the tally of a list of blocks is the sum of
the tallies of the blocks, so that it does not matter whether blocks are tallied
one by one or in parts.
-/

namespace PackageCoverage

/-- Statements in all, and statements executed by some test. -/
structure Tally where
  total : Count
  covered : Count
deriving DecidableEq

/-- The percentage that `covered` is of `total`: both as binary64 numbers, divided
and then multiplied by a hundred, each time rounded to nearest.  It is zero where
there is nothing to cover. -/
def percentage (covered total : Count) : Binary64 :=
  if total.value = 0 then 0
  else Binary64.ofNat covered.value / Binary64.ofNat total.value * 100

namespace Tally

instance : Zero Tally := ⟨⟨0, 0⟩⟩

instance : Inhabited Tally := ⟨0⟩

instance : Add Tally :=
  ⟨fun first second => ⟨first.total + second.total, first.covered + second.covered⟩⟩

/-- The tally of one block. -/
def ofRecord (record : Record) : Tally where
  total := record.statements
  covered := if record.isCovered then record.statements else 0

/-- The tally with one more block. -/
def add (tally : Tally) (record : Record) : Tally := tally + ofRecord record

/-- The percentage of statements executed. -/
def percentage (tally : Tally) : Binary64 := PackageCoverage.percentage tally.covered tally.total

/-- The number of statements that no test executed.  In a tally with more covered
statements than there are it wraps round. -/
def uncovered (tally : Tally) : Nat := (tally.total - tally.covered).value

theorem uncovered_eq_of_le {tally : Tally} (hle : tally.covered.value ≤ tally.total.value) :
    tally.uncovered = tally.total.value - tally.covered.value :=
  Count.value_sub_of_le hle

example : (⟨.clamp 1, .clamp 2⟩ : Tally).uncovered = Count.limit := by decide +kernel

/-! ## Sums of tallies -/

@[simp] theorem total_zero : (0 : Tally).total = 0 := rfl

@[simp] theorem covered_zero : (0 : Tally).covered = 0 := rfl

@[simp] theorem total_add (first second : Tally) :
    (first + second).total = first.total + second.total := rfl

@[simp] theorem covered_add (first second : Tally) :
    (first + second).covered = first.covered + second.covered := rfl

@[ext] theorem ext {first second : Tally} (htotal : first.total = second.total)
    (hcovered : first.covered = second.covered) : first = second := by
  cases first
  cases second
  cases htotal
  cases hcovered
  rfl

protected theorem add_comm (first second : Tally) : first + second = second + first := by
  ext1 <;> simp only [total_add, covered_add] <;> exact Count.add_comm _ _

protected theorem add_assoc (first second third : Tally) :
    first + second + third = first + (second + third) := by
  ext1 <;> simp only [total_add, covered_add] <;> exact Count.add_assoc _ _ _

@[simp] protected theorem zero_add (tally : Tally) : 0 + tally = tally := by
  ext1 <;> simp

@[simp] protected theorem add_zero (tally : Tally) : tally + 0 = tally := by
  ext1 <;> simp

end Tally

end PackageCoverage

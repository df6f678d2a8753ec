import Mathlib.Data.List.Nodup
import PackageCoverage.Proofs.Tally.Sums
import PackageCoverage.Package.Coverage

/-!
# Entries of a table

The entries of a table are what looking up its keys tells (`mem_entries_iff`), and
a table is known by what looking up tells (`ext_get?`).  Additions to a table can
therefore be made in any order (`add_swap`).
-/

namespace PackageCoverage.PackageTable

variable {table : PackageTable} {key : String} {tally : Tally}

private theorem lookup_eq_some_iff {entries : List (String × Tally)}
    (hsorted : entries.Pairwise KeyLT) :
    entries.lookup key = some tally ↔ (key, tally) ∈ entries := by
  induction entries with
  | nil => simp
  | cons first later ih =>
      obtain ⟨old, oldTally⟩ := first
      obtain ⟨hfirst, hlater⟩ := List.pairwise_cons.mp hsorted
      rw [lookup_cons, List.mem_cons, Prod.mk.injEq]
      by_cases hkey : key = old
      · -- the entries behind the first one have later keys
        subst hkey
        have hnotMem : (key, tally) ∉ later := fun hmem =>
          String.lt_irrefl key (hfirst _ hmem)
        simp [hnotMem, eq_comm]
      · simp [hkey, ih hlater]

theorem nodup_keys (table : PackageTable) : (table.entries.map Prod.fst).Nodup := by
  refine List.pairwise_map.mpr (table.sorted.imp fun {first second} hlt heq => ?_)
  rw [KeyLT, heq] at hlt
  exact String.lt_irrefl second.1 hlt

theorem mem_entries_iff : (key, tally) ∈ table.entries ↔ table.get? key = some tally :=
  (lookup_eq_some_iff table.sorted).symm

/-- Tables in which every key has the same tally are the same table. -/
theorem ext_get? {first second : PackageTable}
    (hget : ∀ key, first.get? key = second.get? key) : first = second := by
  obtain ⟨entries₁, hsorted₁⟩ := first
  obtain ⟨entries₂, hsorted₂⟩ := second
  congr 1
  have hmem : ∀ entry, entry ∈ entries₁ ↔ entry ∈ entries₂ := fun ⟨key, tally⟩ => by
    rw [← lookup_eq_some_iff hsorted₁, ← lookup_eq_some_iff hsorted₂]
    exact iff_of_eq (congrArg (· = some tally) (hget key))
  -- sorted lists without doubles are known by their members
  have hnodup₁ : entries₁.Nodup := List.Nodup.of_map Prod.fst (nodup_keys ⟨entries₁, hsorted₁⟩)
  have hnodup₂ : entries₂.Nodup := List.Nodup.of_map Prod.fst (nodup_keys ⟨entries₂, hsorted₂⟩)
  have hperm : entries₁.Perm entries₂ := (List.perm_ext_iff_of_nodup hnodup₁ hnodup₂).mpr hmem
  exact hperm.eq_of_pairwise
    (fun _ _ _ _ hlt hgt => absurd (String.lt_trans hlt hgt) (String.lt_irrefl _)) hsorted₁ hsorted₂

/-- Two additions can be made in either order, whether to one key or to two. -/
theorem add_swap (table : PackageTable) (key₁ key₂ : String) (tally₁ tally₂ : Tally) :
    (table.add key₁ tally₁).add key₂ tally₂ = (table.add key₂ tally₂).add key₁ tally₁ := by
  refine ext_get? fun key => ?_
  simp only [get?_add]
  by_cases hkeys : key₁ = key₂
  · subst hkeys
    by_cases hkey : key = key₁
    · simp [hkey, add_right_comm _ tally₁ tally₂]
    · simp [hkey]
  · by_cases hkey : key = key₁ <;> by_cases hkey' : key = key₂ <;> simp_all [eq_comm]

end PackageCoverage.PackageTable

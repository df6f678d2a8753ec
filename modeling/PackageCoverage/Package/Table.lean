import PackageCoverage.Package.Tally

/-!
# Tables of tallies

A table holds a tally for each of finitely many package keys, in the order of the
keys.  Keys are ordered character by character, which is the order of their bytes
in UTF-8 as well.

Adding a tally to a key changes the tally of that key only (`get?_add`) and adds to
the sum of all tallies (`overall_add`).
-/

namespace PackageCoverage

namespace PackageTable

/-- The key of an entry comes before that of another. -/
def KeyLT (first second : String × Tally) : Prop := first.1 < second.1

/-- The entries with a tally added to the one of a key, which gets an entry if it
has none. -/
def addEntry (key : String) (tally : Tally) : List (String × Tally) → List (String × Tally)
  | [] => [(key, tally)]
  | entry :: later =>
    if key < entry.1 then (key, tally) :: entry :: later
    else if entry.1 < key then entry :: addEntry key tally later
    else (entry.1, entry.2 + tally) :: later

theorem fst_of_mem_addEntry {key : String} {tally : Tally} {entries : List (String × Tally)}
    {entry : String × Tally} (hmem : entry ∈ addEntry key tally entries) :
    entry.1 = key ∨ ∃ old ∈ entries, old.1 = entry.1 := by
  induction entries with
  | nil =>
      simp only [addEntry, List.mem_singleton] at hmem
      exact Or.inl (by rw [hmem])
  | cons first later ih =>
      simp only [addEntry] at hmem
      split at hmem
      · rcases List.mem_cons.mp hmem with rfl | hold
        · exact Or.inl rfl
        · exact Or.inr ⟨entry, hold, rfl⟩
      · split at hmem
        · rcases List.mem_cons.mp hmem with rfl | hlater
          · exact Or.inr ⟨entry, List.mem_cons_self, rfl⟩
          · rcases ih hlater with hkey | ⟨old, hold, hfst⟩
            · exact Or.inl hkey
            · exact Or.inr ⟨old, List.mem_cons_of_mem first hold, hfst⟩
        · rcases List.mem_cons.mp hmem with rfl | hlater
          · exact Or.inr ⟨first, List.mem_cons_self, rfl⟩
          · exact Or.inr ⟨entry, List.mem_cons_of_mem first hlater, rfl⟩

theorem pairwise_addEntry (key : String) (tally : Tally) {entries : List (String × Tally)}
    (hsorted : entries.Pairwise KeyLT) : (addEntry key tally entries).Pairwise KeyLT := by
  induction entries with
  | nil => exact List.pairwise_singleton _ _
  | cons first later ih =>
      obtain ⟨hfirst, hlater⟩ := List.pairwise_cons.mp hsorted
      simp only [addEntry]
      split
      case isTrue hlt =>
          refine List.pairwise_cons.mpr ⟨fun entry hentry => ?_, hsorted⟩
          rcases List.mem_cons.mp hentry with rfl | hentry
          · exact hlt
          · exact String.lt_trans hlt (hfirst entry hentry)
      case isFalse =>
          split
          case isTrue hlt =>
              refine List.pairwise_cons.mpr ⟨fun entry hentry => ?_, ih hlater⟩
              rcases fst_of_mem_addEntry hentry with hkey | ⟨old, hold, hfst⟩
              · exact show first.1 < entry.1 from hkey ▸ hlt
              · exact show first.1 < entry.1 from hfst ▸ hfirst old hold
          case isFalse => exact List.pairwise_cons.mpr ⟨hfirst, hlater⟩

/-! ## Laws of entries -/

theorem lookup_cons (key : String) (entry : String × Tally) (later : List (String × Tally)) :
    (entry :: later).lookup key = if key = entry.1 then some entry.2 else later.lookup key := by
  obtain ⟨old, tally⟩ := entry
  by_cases hkey : key = old
  · simp [hkey]
  · have hbeq : (key == old) = false := beq_eq_false_iff_ne.mpr hkey
    simp [List.lookup_cons, hbeq, hkey]

theorem lookup_eq_none_of_lt {key : String} {entries : List (String × Tally)}
    (hkey : ∀ entry ∈ entries, key < entry.1) : entries.lookup key = none := by
  induction entries with
  | nil => rfl
  | cons first later ih =>
      have hlt := hkey first List.mem_cons_self
      have hne : key ≠ first.1 := fun heq => String.lt_irrefl first.1 (heq ▸ hlt)
      rw [lookup_cons, if_neg hne]
      exact ih fun entry hentry => hkey entry (List.mem_cons_of_mem first hentry)

theorem lookup_addEntry (key other : String) (tally : Tally) {entries : List (String × Tally)}
    (hsorted : entries.Pairwise KeyLT) :
    (addEntry key tally entries).lookup other =
      if other = key then some ((entries.lookup key).getD 0 + tally) else entries.lookup other := by
  induction entries with
  | nil => simp [addEntry, lookup_cons]
  | cons first later ih =>
      obtain ⟨hfirst, hlater⟩ := List.pairwise_cons.mp hsorted
      have hrest := ih hlater
      simp only [addEntry]
      split
      case isTrue hlt =>
          have hnone : (first :: later).lookup key = none :=
            lookup_eq_none_of_lt fun entry hentry => by
              rcases List.mem_cons.mp hentry with rfl | hentry
              · exact hlt
              · exact String.lt_trans hlt (hfirst entry hentry)
          rw [lookup_cons, hnone]
          simp
      case isFalse hge =>
          split
          case isTrue hlt =>
              have hne : key ≠ first.1 := fun heq => String.lt_irrefl first.1 (heq ▸ hlt)
              rw [lookup_cons, hrest, lookup_cons, lookup_cons, if_neg hne]
              by_cases hkey : other = key
              · simp [hkey, hne]
              · simp [hkey]
          case isFalse hle =>
              have heq : first.1 = key := Std.le_antisymm (Std.not_lt.mp hge) (Std.not_lt.mp hle)
              rw [lookup_cons, lookup_cons, lookup_cons, heq]
              by_cases hkey : other = key <;> simp [hkey]

/-- Whether a key is new or not, what is added adds to the sum. -/
theorem sum_addEntry (key : String) (tally : Tally) (entries : List (String × Tally)) :
    ((addEntry key tally entries).map Prod.snd).sum = (entries.map Prod.snd).sum + tally := by
  induction entries with
  | nil => simp [addEntry]
  | cons first later ih =>
      simp only [addEntry]
      split
      · simp only [List.map_cons, List.sum_cons]
        exact Tally.add_comm _ _
      · split
        · simp only [List.map_cons, List.sum_cons, ih]
          exact (Tally.add_assoc _ _ _).symm
        · simp only [List.map_cons, List.sum_cons]
          rw [Tally.add_assoc, Tally.add_assoc, Tally.add_comm tally]

end PackageTable

/-- Tallies by package key. -/
structure PackageTable where
  entries : List (String × Tally)
  sorted : entries.Pairwise PackageTable.KeyLT

namespace PackageTable

/-- The table without entries. -/
def empty : PackageTable := ⟨[], List.Pairwise.nil⟩

/-- The table with a tally added to the one of a key. -/
def add (table : PackageTable) (key : String) (tally : Tally) : PackageTable :=
  ⟨addEntry key tally table.entries, pairwise_addEntry key tally table.sorted⟩

/-- The number of keys. -/
def size (table : PackageTable) : Nat := table.entries.length

/-- The tally of a key, if it has an entry. -/
def get? (table : PackageTable) (key : String) : Option Tally := table.entries.lookup key

/-- The sum of all tallies. -/
def overall (table : PackageTable) : Tally := (table.entries.map Prod.snd).sum

/-! ## Laws -/

@[simp] theorem get?_empty (key : String) : empty.get? key = none := rfl

/-- Adding to one key changes the tally of that key only. -/
theorem get?_add (table : PackageTable) (key other : String) (tally : Tally) :
    (table.add key tally).get? other =
      if other = key then some ((table.get? key).getD 0 + tally) else table.get? other :=
  lookup_addEntry key other tally table.sorted

@[simp] theorem overall_empty : empty.overall = 0 := rfl

@[simp] theorem overall_add (table : PackageTable) (key : String) (tally : Tally) :
    (table.add key tally).overall = table.overall + tally :=
  sum_addEntry key tally table.entries

end PackageTable

end PackageCoverage

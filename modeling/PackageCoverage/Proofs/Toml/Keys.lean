import Mathlib.Data.List.Nodup
import PackageCoverage.Toml.Document

/-!
# A key has one value

A document writes each key of its table once.  Every way to change a table keeps its keys
apart: a value is replaced under the key that it had, and what is added at the end has a key
that was not there (`Entries.Touched`).  Statements do nothing else, so the keys of a whole
document are apart too (`keysApart_of_read?`), and a key stands for its value wherever it is
written.
-/

namespace PackageCoverage.Toml

namespace Entries

variable {entries changed : Entries} {key name : String} {value : Value} {way : List String}

/-- No two entries have the same key. -/
def KeysApart (entries : Entries) : Prop := (entries.map Prod.fst).Nodup

theorem keysApart_nil : KeysApart [] := List.nodup_nil

theorem keysApart_cons {entry : String × Value} :
    KeysApart (entry :: entries) ↔ (∀ value, (entry.1, value) ∉ entries) ∧ KeysApart entries := by
  simp [KeysApart]

theorem KeysApart.value_unique (hapart : KeysApart entries) {first second : Value}
    (hfirst : (key, first) ∈ entries) (hsecond : (key, second) ∈ entries) : first = second := by
  have hentry := List.inj_on_of_nodup_map hapart hfirst hsecond rfl
  exact (Prod.mk.inj hentry).2

/-! ## A new value for a key -/

/-- One key has another value, which comes last if the key was not there. -/
inductive Touched (key : String) (entries : Entries) : Entries → Prop
  | added (value : Value) (hnone : entries.lookup key = none) :
    Touched key entries (entries ++ [(key, value)])
  | replaced (value : Value) : Touched key entries (entries.replace key value)

theorem touched_of_add (hadd : entries.add key value = some changed) :
    Touched key entries changed := by
  rw [add] at hadd
  split at hadd
  · cases hadd
  case isFalse hsome =>
      obtain rfl := Option.some.inj hadd
      exact .added value (Option.not_isSome_iff_eq_none.mp hsome)

theorem touched_of_addDotted (hadd : addDotted key value (name :: way) entries = some changed) :
    Touched name entries changed := by
  rw [addDotted] at hadd
  split at hadd
  case h_1 hnone =>
      obtain ⟨inner, -, rfl⟩ := by simpa [Option.bind_eq_some_iff] using hadd
      exact .added _ hnone
  case h_2 =>
      obtain ⟨-, inner, -, rfl⟩ := by simpa [Option.bind_eq_some_iff] using hadd
      exact .replaced _
  case h_3 =>
      obtain ⟨-, last, -, inner, -, rfl⟩ := by simpa [Option.bind_eq_some_iff] using hadd
      exact .replaced _
  case h_4 => cases hadd

theorem touched_of_changeAt {change : Entries → Option Entries}
    (hchange : changeAt change (name :: way) entries = some changed) :
    Touched name entries changed := by
  rw [changeAt] at hchange
  split at hchange
  case h_1 hnone =>
      obtain ⟨inner, -, rfl⟩ := by simpa [Option.bind_eq_some_iff] using hchange
      exact .added _ hnone
  case h_2 => cases hchange
  case h_3 =>
      obtain ⟨inner, -, rfl⟩ := by simpa [Option.bind_eq_some_iff] using hchange
      exact .replaced _
  case h_4 =>
      obtain ⟨last, -, inner, -, rfl⟩ := by simpa [Option.bind_eq_some_iff] using hchange
      exact .replaced _
  case h_5 => cases hchange

theorem touched_of_openElement (hopen : openElement key entries = some changed) :
    Touched key entries changed := by
  rw [openElement] at hopen
  split at hopen
  case h_1 hnone =>
      obtain rfl := Option.some.inj hopen
      exact .added _ hnone
  case h_2 =>
      obtain rfl := Option.some.inj hopen
      exact .replaced _
  case h_3 => cases hopen

/-! ## Changes keep keys apart -/

theorem not_mem_keys_of_lookup_eq_none (hnone : entries.lookup key = none) :
    key ∉ entries.map Prod.fst := by
  intro hkey
  obtain ⟨entry, hmem, rfl⟩ := List.mem_map.mp hkey
  simpa using List.lookup_eq_none_iff.mp hnone entry hmem

theorem keys_replace : (entries.replace key value).map Prod.fst = entries.map Prod.fst := by
  rw [replace, List.map_map]
  refine List.map_congr_left fun entry _ => ?_
  by_cases hkey : entry.1 = key <;> simp [hkey]

theorem keysApart_append (hapart : KeysApart entries) (hkey : key ∉ entries.map Prod.fst) :
    KeysApart (entries ++ [(key, value)]) := by
  rw [KeysApart, List.map_append]
  exact List.Nodup.append hapart (List.nodup_singleton key) (List.disjoint_singleton.mpr hkey)

theorem KeysApart.touched (hapart : KeysApart entries) (htouched : Touched key entries changed) :
    KeysApart changed := by
  cases htouched with
  | added value hnone => exact keysApart_append hapart (not_mem_keys_of_lookup_eq_none hnone)
  | replaced value =>
      rw [KeysApart, keys_replace]
      exact hapart

theorem KeysApart.openTable (hapart : KeysApart entries)
    (hopen : openTable key entries = some changed) : KeysApart changed := by
  rw [Entries.openTable] at hopen
  split at hopen
  case h_1 hnone =>
      obtain rfl := Option.some.inj hopen
      exact hapart.touched (.added _ hnone)
  case h_2 =>
      obtain rfl := Option.some.inj hopen
      have hkept : KeysApart (entries.filter (·.1 ≠ key)) :=
        List.Nodup.sublist (List.filter_sublist.map Prod.fst) hapart
      exact keysApart_append hkept (by simp)
  case h_3 => cases hopen

theorem KeysApart.addDotted (hapart : KeysApart entries)
    (hadd : addDotted key value way entries = some changed) : KeysApart changed := by
  cases way with
  | nil =>
      rw [Entries.addDotted] at hadd
      exact hapart.touched (touched_of_add hadd)
  | cons name way => exact hapart.touched (touched_of_addDotted hadd)

/-- A change away from the keys of the document itself touches only the first key of the way. -/
theorem KeysApart.changeAt {change : Entries → Option Entries} (hapart : KeysApart entries)
    (hhere : ∀ changed, change entries = some changed → KeysApart changed)
    (hchange : changeAt change way entries = some changed) : KeysApart changed := by
  cases way with
  | nil => exact hhere changed hchange
  | cons name way => exact hapart.touched (touched_of_changeAt hchange)

end Entries

/-! ## Documents -/

open Entries

theorem keysApart_apply {draft next : Draft} {statement : Statement}
    (hapart : KeysApart draft.entries) (happly : draft.apply statement = some next) :
    KeysApart next.entries := by
  -- every statement opens a table or adds a value in one place
  cases statement with
  | table way key =>
      obtain ⟨entries, hchange, rfl⟩ := by
        simpa [Draft.apply, Option.bind_eq_some_iff] using happly
      exact hapart.changeAt (fun _ => hapart.openTable) hchange
  | element way key =>
      obtain ⟨entries, hchange, rfl⟩ := by
        simpa [Draft.apply, Option.bind_eq_some_iff] using happly
      exact hapart.changeAt (fun _ hopen => hapart.touched (touched_of_openElement hopen)) hchange
  | entry way key value =>
      obtain ⟨entries, hchange, rfl⟩ := by
        simpa [Draft.apply, Option.bind_eq_some_iff] using happly
      exact hapart.changeAt (fun _ => hapart.addDotted) hchange

theorem keysApart_foldlM {statements : List Statement} :
    ∀ {draft ended : Draft}, KeysApart draft.entries →
      statements.foldlM Draft.apply draft = some ended → KeysApart ended.entries := by
  induction statements with
  | nil =>
      intro draft ended hapart hfold
      obtain rfl : draft = ended := Option.some.inj hfold
      exact hapart
  | cons statement rest ih =>
      intro draft ended hapart hfold
      rw [List.foldlM_cons, Option.bind_eq_bind, Option.bind_eq_some_iff] at hfold
      obtain ⟨next, happly, hrest⟩ := hfold
      exact ih (keysApart_apply hapart happly) hrest

/-- No key of a document has two values. -/
theorem keysApart_of_read? {text : String} {entries : Entries}
    (hread : read? text = some entries) : KeysApart entries := by
  obtain ⟨statements, -, draft, hfold, rfl⟩ := by
    simpa [read?, Option.bind_eq_some_iff] using hread
  exact keysApart_foldlM keysApart_nil hfold

end PackageCoverage.Toml

import PackageCoverage.Proofs.Text.Fields
import PackageCoverage.Text.Padding

/-!
# Words in columns and lines in a text

Padding puts spaces around a text and nothing else, so a padded word is the only field of its
column.  Lines without line feeds are what the line feeds of their text divide.
-/

namespace PackageCoverage.Text

variable {text word : String} {width : Nat} {c : Char}

/-! ## Columns -/

private theorem toList_spaces (width : Nat) (text : String) :
    (spaces width text).toList = List.replicate (width - text.length) ' ' := by
  rw [spaces, String.toList_ofList]

private theorem isBlank_of_mem_spaces (hc : c ∈ (spaces width text).toList) : isBlank c = true := by
  rw [toList_spaces] at hc
  rw [List.eq_of_mem_replicate hc]
  decide

theorem mem_padEnd_iff (hc : c ≠ ' ') : c ∈ (padEnd width text).toList ↔ c ∈ text.toList := by
  simp [padEnd, toList_spaces, hc]

theorem mem_padStart_iff (hc : c ≠ ' ') : c ∈ (padStart width text).toList ↔ c ∈ text.toList := by
  simp [padStart, toList_spaces, hc]

theorem fields_padEnd (hword : IsWord word.toList) (width : Nat) :
    fields (padEnd width word).toList = [word.toList] := by
  rw [padEnd, String.toList_append, fields_append_blanks fun c hc => isBlank_of_mem_spaces hc]
  exact fields_word hword

theorem fields_padStart_append (width : Nat) (text back : String) :
    fields (padStart width text ++ back).toList = fields (text ++ back).toList := by
  rw [padStart, String.append_assoc, String.toList_append]
  exact fields_blanks_append (fun c hc => isBlank_of_mem_spaces hc) _

theorem fields_padStart (width : Nat) (text : String) :
    fields (padStart width text).toList = fields text.toList := by
  have hfields := fields_padStart_append width text ""
  rwa [String.append_empty, String.append_empty] at hfields

theorem fields_append_space (front back : String) :
    fields (front ++ " " ++ back).toList = fields front.toList ++ fields back.toList := by
  have hspace : isBlank ' ' = true := by decide
  have hline : (front ++ " " ++ back).toList = front.toList ++ ' ' :: back.toList := by simp
  rw [hline, fields_append_cons hspace]

/-! ## Lines -/

/-- A text made of lines is divided into these lines, and nothing is behind the last line feed. -/
theorem splitOn_join {lines : List String} (hlines : ∀ line ∈ lines, '\n' ∉ line.toList) :
    (String.join (lines.map (· ++ "\n"))).toList.splitOn '\n' =
      lines.map String.toList ++ [[]] := by
  rw [String.toList_join]
  induction lines with
  | nil => rfl
  | cons line later ih =>
      have hline : '\n' ∉ line.toList := hlines line List.mem_cons_self
      have hsplit : (line ++ "\n").toList ++
          (later.map (· ++ "\n")).flatMap String.toList =
          line.toList ++ '\n' :: (later.map (· ++ "\n")).flatMap String.toList := by
        simp
      rw [List.map_cons, List.flatMap_cons, hsplit,
        List.splitOn_append_cons_self_of_not_mem hline,
        ih fun other hother => hlines other (List.mem_cons_of_mem line hother)]
      rfl

end PackageCoverage.Text

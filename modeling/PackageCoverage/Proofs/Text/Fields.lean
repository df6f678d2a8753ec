import PackageCoverage.Text.Fields

/-!
# Fields on both sides of a blank

A blank divides the fields of a text into those in front of it and those behind it
(`fields_append_cons`), so blanks at either end of a text are of no account.

The first field of a text is the word behind the blanks that the text starts with, as far as
it goes (`FirstField`).  Taking the first field off again and again leads to all fields
(`FirstField.fields_eq`, `exists_firstField`).
-/

namespace PackageCoverage.Text

/-- The fields behind a text stay behind those of the text. -/
private theorem foldr_extendField_later (text : List Char) (later : List (List Char)) :
    text.foldr extendField ([], later) =
      ((text.foldr extendField ([], [])).1, (text.foldr extendField ([], [])).2 ++ later) := by
  induction text with
  | nil => rfl
  | cons c rest ih =>
      simp only [List.foldr_cons, ih]
      by_cases hblank : isBlank c = true
      · simp only [extendField, hblank, if_true, closeField]
        split <;> simp
      · simp [extendField, hblank]

theorem fields_append_cons {c : Char} (hblank : isBlank c = true) (front later : List Char) :
    fields (front ++ c :: later) = fields front ++ fields later := by
  have hblankState : (c :: later).foldr extendField ([], []) = ([], fields later) := by
    simp [extendField, hblank, fields]
  rw [fields, List.foldr_append, hblankState, foldr_extendField_later]
  simp only [fields, closeField]
  split <;> simp

theorem fields_concat {c : Char} (hblank : isBlank c = true) (text : List Char) :
    fields (text ++ [c]) = fields text := by
  rw [fields_append_cons hblank, fields_nil, List.append_nil]

theorem fields_blanks_append {blanks : List Char} (hblanks : ∀ c ∈ blanks, isBlank c = true)
    (text : List Char) : fields (blanks ++ text) = fields text := by
  induction blanks with
  | nil => rfl
  | cons c rest ih =>
      rw [List.cons_append, fields_blank_cons (hblanks c List.mem_cons_self)]
      exact ih fun d hd => hblanks d (List.mem_cons_of_mem c hd)

theorem fields_append_blanks {blanks : List Char} (hblanks : ∀ c ∈ blanks, isBlank c = true)
    (text : List Char) : fields (text ++ blanks) = fields text := by
  cases blanks with
  | nil => rw [List.append_nil]
  | cons c rest =>
      have hrest := fields_blanks_append (fun d hd => hblanks d (List.mem_cons_of_mem c hd)) []
      rw [fields_append_cons (hblanks c List.mem_cons_self), ← List.append_nil rest, hrest,
        fields_nil, List.append_nil]

/-! ## Words -/

/-- A run of characters without blanks. -/
structure IsWord (text : List Char) : Prop where
  ne_nil : text ≠ []
  unblank : ∀ c ∈ text, isBlank c = false

instance (text : List Char) : Decidable (IsWord text) :=
  decidable_of_iff (text ≠ [] ∧ text.all (fun c => !isBlank c) = true)
    ⟨fun ⟨hne, hall⟩ => ⟨hne, by simpa using hall⟩,
      fun hword => ⟨hword.ne_nil, by simpa using hword.unblank⟩⟩

theorem fields_word {word : List Char} (hword : IsWord word) : fields word = [word] := by
  have hend : ∀ c ∈ ([] : List Char).head?, isBlank c = true := by simp
  have hfields := fields_append hword.unblank hword.ne_nil hend
  rwa [List.append_nil, fields_nil] at hfields

theorem IsWord.not_mem {word : List Char} (hword : IsWord word) {c : Char}
    (hblank : isBlank c = true) : c ∉ word := by
  intro hc
  rw [hword.unblank c hc] at hblank
  exact Bool.false_ne_true hblank

theorem IsWord.append {front back : List Char} (hfront : IsWord front) (hback : IsWord back) :
    IsWord (front ++ back) where
  ne_nil := List.append_ne_nil_of_left_ne_nil hfront.ne_nil back
  unblank := by
    intro c hc
    rcases List.mem_append.mp hc with hc | hc
    · exact hfront.unblank c hc
    · exact hback.unblank c hc

theorem isBlank_of_isDigit {c : Char} (hc : c.isDigit = true) : isBlank c = false := by
  have hbounds : 48 ≤ c.toNat ∧ c.toNat ≤ 57 := by
    simpa [Char.isDigit, UInt32.le_iff_toNat_le] using hc
  simp [isBlank, blanks, Ranges.contains]
  omega

theorem isWord_digits {digits : List Char} (hne : digits ≠ [])
    (hdigits : ∀ c ∈ digits, c.isDigit = true) : IsWord digits :=
  ⟨hne, fun c hc => isBlank_of_isDigit (hdigits c hc)⟩

theorem isWord_toString (n : Nat) : IsWord (toString n).toList := by
  rw [Nat.toString_eq_ofList_toDigits, String.toList_ofList]
  refine isWord_digits Nat.toDigits_ne_nil ?_
  intro c hc
  exact Nat.isDigit_of_mem_toDigits (by decide) (by decide) hc

/-! ## The first field -/

/-- A text has blanks, then a word, and then a rest that does not go on with the word. -/
structure FirstField (text before field rest : List Char) : Prop where
  text_eq : text = before ++ field ++ rest
  before_blank : ∀ c ∈ before, isBlank c = true
  isWord : IsWord field
  rest_blank : ∀ c ∈ rest.head?, isBlank c = true

variable {text before field rest : List Char} {later : List (List Char)}

theorem FirstField.fields_eq (hfirst : FirstField text before field rest) :
    fields text = field :: fields rest := by
  rw [hfirst.text_eq, List.append_assoc, fields_blanks_append hfirst.before_blank]
  exact fields_append hfirst.isWord.unblank hfirst.isWord.ne_nil hfirst.rest_blank

private theorem firstField_cons {c : Char} (hc : isBlank c = false) (text : List Char) :
    FirstField (c :: text) [] (c :: text.takeWhile fun d => !isBlank d)
      (text.dropWhile fun d => !isBlank d) where
  text_eq := by simp
  before_blank := by simp
  isWord := by
    refine ⟨List.cons_ne_nil c _, ?_⟩
    intro d hd
    rcases List.mem_cons.mp hd with rfl | hd
    · exact hc
    · simpa using List.all_eq_true.mp List.all_takeWhile d hd
  rest_blank := by
    intro d hd
    have hhead := List.head?_dropWhile_not (fun d => !isBlank d) text
    rw [Option.mem_def.mp hd] at hhead
    simpa using hhead

/-- A text has no fields just when there is nothing but blanks in it. -/
theorem fields_eq_nil_iff {text : List Char} : fields text = [] ↔ ∀ c ∈ text, isBlank c = true := by
  induction text with
  | nil => simp
  | cons c rest ih =>
      rw [List.forall_mem_cons]
      cases hc : isBlank c with
      | true => rw [fields_blank_cons hc, ih, and_iff_right rfl]
      | false =>
          rw [(firstField_cons hc rest).fields_eq]
          simp

theorem exists_firstField (hfields : fields text = field :: later) :
    ∃ before rest, FirstField text before field rest ∧ fields rest = later := by
  induction text with
  | nil => simp at hfields
  | cons c text ih =>
      -- a blank in front is passed over, and any other character starts the field
      cases hc : isBlank c with
      | true =>
          rw [fields_blank_cons hc] at hfields
          obtain ⟨before, rest, hfirst, hrest⟩ := ih hfields
          refine ⟨c :: before, rest, ⟨?_, ?_, hfirst.isWord, hfirst.rest_blank⟩, hrest⟩
          · rw [hfirst.text_eq, List.cons_append, List.cons_append]
          · intro d hd
            rcases List.mem_cons.mp hd with rfl | hd
            · exact hc
            · exact hfirst.before_blank d hd
      | false =>
          have hfirst := firstField_cons hc text
          rw [hfirst.fields_eq, List.cons.injEq] at hfields
          obtain ⟨rfl, hrest⟩ := hfields
          exact ⟨_, _, hfirst, hrest⟩

end PackageCoverage.Text

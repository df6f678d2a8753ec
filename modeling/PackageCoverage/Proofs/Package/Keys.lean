import PackageCoverage.Package.Search
import PackageCoverage.Proofs.Package.Root

/-!
# Keys of paths

The key of a path is known by where it ends.  It is the root, a slash and one segment, which
starts behind the slash and goes on to the next slash or to the end of the path.

* **Segments.**  A path goes on behind the root with at most one segment
  (`PackageRoot.GoesOn.unique`), so there is one key at most.
* **Keys.**  The key of a path is in front of everything else in the path, and it is its own key.
  No key leads to another one by further segments (`PackageRoot.keying`).
* **Searches.**  Whatever characters the root has, its pattern can be read
  (`Search.read?_pattern`).  The search tries the longest segments first, and what it finds is
  the key (`Search.find?_eq_key?`).

Slashes at the end of a root make no difference (`PackageRoot.trimSlashes_append_slashes`).
-/

namespace PackageCoverage

/-! ## Searching -/

namespace Search

variable {search : Search} {stop c : Char} {text literal : List Char}

theorem head?_runs (stop : Char) (text : List Char) :
    ((runs stop text).map Prod.fst).head? =
      if (text.takeWhile (· ≠ stop)).isEmpty then none else some (text.takeWhile (· ≠ stop)) := by
  induction text with
  | nil => rfl
  | cons c rest ih =>
      by_cases hstop : c = stop
      · simp [runs, hstop]
      · -- the longest part of what follows is what the first character is put in front of
        have hruns : (runs stop (c :: rest)).map Prod.fst =
            ((runs stop rest).map Prod.fst).map (c :: ·) ++ [[c]] := by
          simp [runs, hstop]
        rw [hruns, List.head?_append, List.head?_map, ih,
          List.takeWhile_cons_of_pos (by simpa using hstop)]
        cases rest.takeWhile (· ≠ stop) <;> rfl

/-- Given characters can be taken in one way only. -/
theorem ways_characters (literal : List Char) (later : List Step) (text : List Char) :
    ways (literal.map .character ++ later) text =
      if literal.isPrefixOf text then
        (ways later (text.drop literal.length)).map (literal ++ ·)
      else [] := by
  induction literal generalizing text with
  | nil => simp
  | cons c rest ih =>
      cases text with
      | nil => simp [ways]
      | cons first behind =>
          -- where the next character is another one, there is no way on
          by_cases hfirst : first = c
          · subst hfirst
            simp only [List.map_cons, List.cons_append, ways, if_pos, ih]
            split <;> simp_all
          · simp [ways, hfirst, Ne.symm hfirst]

theorem findFrom?_false (hanchored : search.isAnchored = true) (text : List Char) :
    search.findFrom? false text = none := by
  induction text with
  | nil => simp [findFrom?, findHere?, hanchored]
  | cons c rest ih => simp [findFrom?, findHere?, hanchored, ih]

theorem findFrom?_true (hanchored : search.isAnchored = true) (text : List Char) :
    search.findFrom? true text = (ways search.steps text).head? := by
  cases text with
  | nil => simp [findFrom?, findHere?]
  | cons c rest => simp [findFrom?, findHere?, findFrom?_false hanchored]

/-! ## Reading -/

theorem readSteps?_cons (hsign : c ∉ signs) (later : List Char) :
    readSteps? (c :: later) = (readSteps? later).map (.character c :: ·) := by
  have hclose : c ≠ ')' := by rintro rfl; exact hsign (by decide)
  have hquote : c ≠ '\\' := by rintro rfl; exact hsign (by decide)
  have hclass : c ≠ '[' := by rintro rfl; exact hsign (by decide)
  rw [readSteps?]
  · rw [if_neg hsign]
  · exact hclose
  · intro d behind hc
    exact absurd hc hquote
  · intro d behind hc
    exact absurd hc hclass

/-- A quoted text is read as its characters. -/
theorem readSteps?_quoted_append (text group : List Char) :
    readSteps? (quoted text ++ group) =
      (readSteps? group).map (text.map .character ++ ·) := by
  induction text with
  | nil => simp [quoted]
  | cons c rest ih =>
      have hquoted : quoted (c :: rest) ++ group =
          (if c ∈ signs then ['\\', c] else [c]) ++ (quoted rest ++ group) := by
        simp [quoted]
      rw [hquoted]
      -- a backslash is read together with the sign behind it
      by_cases hsign : c ∈ signs
      · rw [if_pos hsign, List.cons_append, List.cons_append, List.nil_append, readSteps?,
          if_pos hsign, ih]
        simp [Function.comp_def]
      · rw [if_neg hsign, List.cons_append, List.nil_append, readSteps?_cons hsign, ih]
        simp [Function.comp_def]

theorem read?_pattern (root : PackageRoot) :
    read? root.pattern = some ⟨true, root.stem.map .character ++ [.others '/']⟩ := by
  have hgroup : readSteps? "/[^/]+)".toList = some [.character '/', .others '/'] := by decide
  rw [PackageRoot.pattern, read?, readSteps?_quoted_append, hgroup]
  simp [PackageRoot.stem]

/-- What the search for keys finds in a path is the key of the path. -/
theorem find?_eq_key? (root : PackageRoot) (path : String) :
    (Search.mk true (root.stem.map .character ++ [.others '/'])).find? path = root.key? path := by
  have hlast : ∀ text : List Char,
      ways [.others '/'] text = (runs '/' text).map Prod.fst := by
    intro text
    simp [ways, List.map_eq_flatMap]
  rw [find?, findFrom?_true rfl, PackageRoot.key?]
  dsimp only
  -- with one way through the root, the longest run behind it is what is found first
  rw [ways_characters, hlast]
  split
  case isFalse => rfl
  case isTrue =>
      rw [List.head?_map, head?_runs]
      split <;> simp_all

end Search

namespace PackageRoot

variable {root : PackageRoot} {path key : String} {segment rest : List Char}

/-! ## Keys -/

/-- A path is the root, a slash and one segment, behind which the path ends or goes on with
a slash. -/
structure GoesOn (root : PackageRoot) (path : String) (segment rest : List Char) : Prop where
  toList_eq : path.toList = root.path.toList ++ '/' :: segment ++ rest
  ne_nil : segment ≠ []
  slash_not_mem : '/' ∉ segment
  rest_eq : rest = [] ∨ rest.head? = some '/'

/-- One path is another, or leads to it by further segments. -/
def LeadsTo (first second : String) : Prop :=
  first = second ∨ first.toList ++ ['/'] <+: second.toList

/-- How the keys of a root are known, and how they lie to one another. -/
structure Keying (root : PackageRoot) : Prop where
  key?_iff : ∀ path key, root.key? path = some key ↔
    ∃ segment rest, root.GoesOn path segment rest ∧
      key = .ofList (root.path.toList ++ '/' :: segment)
  unique : ∀ {path segment₁ rest₁ segment₂ rest₂}, root.GoesOn path segment₁ rest₁ →
    root.GoesOn path segment₂ rest₂ → segment₁ = segment₂ ∧ rest₁ = rest₂
  isPrefix : ∀ {path key}, root.key? path = some key → key.toList <+: path.toList
  key?_key : ∀ {path key}, root.key? path = some key → root.key? key = some key
  eq_of_leadsTo : ∀ {path₁ path₂ key₁ key₂}, root.key? path₁ = some key₁ →
    root.key? path₂ = some key₂ → LeadsTo key₁ key₂ → key₁ = key₂

theorem GoesOn.unique {segment₁ rest₁ segment₂ rest₂ : List Char}
    (hfirst : root.GoesOn path segment₁ rest₁) (hsecond : root.GoesOn path segment₂ rest₂) :
    segment₁ = segment₂ ∧ rest₁ = rest₂ := by
  have happend : segment₁ ++ rest₁ = segment₂ ++ rest₂ := by
    have hpath := hfirst.toList_eq.symm.trans hsecond.toList_eq
    simpa using hpath
  -- either segment is what comes before the first slash
  have hsegment₁ : (segment₁ ++ rest₁).takeWhile (· ≠ '/') = segment₁ :=
    takeWhile_eq_iff.mpr ⟨hfirst.slash_not_mem, rest₁, hfirst.rest_eq, rfl⟩
  have hsegment₂ : (segment₂ ++ rest₂).takeWhile (· ≠ '/') = segment₂ :=
    takeWhile_eq_iff.mpr ⟨hsecond.slash_not_mem, rest₂, hsecond.rest_eq, rfl⟩
  have hsegment : segment₁ = segment₂ := by rw [← hsegment₁, happend, hsegment₂]
  subst hsegment
  exact ⟨rfl, List.append_cancel_left happend⟩

theorem key?_eq_some_iff_goesOn :
    root.key? path = some key ↔
      ∃ segment rest, root.GoesOn path segment rest ∧
        key = .ofList (root.path.toList ++ '/' :: segment) := by
  have hstem : ∀ segment, root.stem ++ segment = root.path.toList ++ '/' :: segment := by
    intro segment
    simp [stem]
  rw [key?_eq_some_iff]
  constructor
  · rintro ⟨segment, rest, hne, hslash, hrest, hpath, rfl⟩
    rw [hstem] at hpath
    exact ⟨segment, rest, ⟨hpath, hne, hslash, hrest⟩, by rw [hstem]⟩
  · rintro ⟨segment, rest, hgoesOn, rfl⟩
    refine ⟨segment, rest, hgoesOn.ne_nil, hgoesOn.slash_not_mem, hgoesOn.rest_eq, ?_, ?_⟩
    · rw [hstem, hgoesOn.toList_eq]
    · rw [hstem]

/-- A key goes on behind the root with its segment and nothing else. -/
theorem exists_goesOn_key (hkey : root.key? path = some key) :
    ∃ segment, root.GoesOn key segment [] := by
  obtain ⟨segment, rest, hgoesOn, rfl⟩ := key?_eq_some_iff_goesOn.mp hkey
  refine ⟨segment, ?_, hgoesOn.ne_nil, hgoesOn.slash_not_mem, .inl rfl⟩
  rw [String.toList_ofList, List.append_nil]

theorem keying (root : PackageRoot) : root.Keying where
  key?_iff _ _ := key?_eq_some_iff_goesOn
  unique := GoesOn.unique
  isPrefix := by
    intro path key hkey
    obtain ⟨segment, rest, hgoesOn, rfl⟩ := key?_eq_some_iff_goesOn.mp hkey
    rw [hgoesOn.toList_eq, String.toList_ofList]
    exact List.prefix_append _ rest
  key?_key := by
    intro path key hkey
    obtain ⟨segment, hgoesOn⟩ := exists_goesOn_key hkey
    refine key?_eq_some_iff_goesOn.mpr ⟨segment, [], hgoesOn, ?_⟩
    have hkeyList := hgoesOn.toList_eq
    rw [List.append_nil] at hkeyList
    rw [← hkeyList, String.ofList_toList]
  eq_of_leadsTo := by
    intro path₁ path₂ key₁ key₂ hkey₁ hkey₂ hleads
    rcases hleads with rfl | hprefix
    · rfl
    · -- the slash behind the first key would be in the segment of the second one
      obtain ⟨segment₁, hgoesOn₁⟩ := exists_goesOn_key hkey₁
      obtain ⟨segment₂, hgoesOn₂⟩ := exists_goesOn_key hkey₂
      rw [hgoesOn₁.toList_eq, hgoesOn₂.toList_eq, List.append_nil, List.append_nil,
        List.append_assoc, List.prefix_append_right_inj, List.cons_append,
        List.cons_prefix_cons] at hprefix
      have hslash : '/' ∈ segment₂ := hprefix.2.subset (by simp)
      exact absurd hslash hgoesOn₂.slash_not_mem

/-! ## Slashes at the end of a root -/

theorem trimSlashes_append_slashes (path : String) (n : Nat) :
    trimSlashes (path ++ .ofList (List.replicate n '/')) = trimSlashes path := by
  have hslashes : ∀ c ∈ List.replicate n '/', decide (c = '/') = true := by
    intro c hc
    rw [List.eq_of_mem_replicate hc]
    rfl
  rw [trimSlashes, trimSlashes, String.toList_append, String.toList_ofList, List.reverse_append,
    List.reverse_replicate, List.dropWhile_append_of_pos hslashes]

theorem exists_slashes (path : String) :
    ∃ n, path.toList = (trimSlashes path).toList ++ List.replicate n '/' := by
  have hdivided := List.takeWhile_append_dropWhile (p := (· = '/')) (l := path.toList.reverse)
  have hslashes : ∀ c ∈ path.toList.reverse.takeWhile (· = '/'), c = '/' := by
    intro c hc
    simpa using List.all_eq_true.mp List.all_takeWhile c hc
  have hpath := congrArg List.reverse hdivided
  rw [List.eq_replicate_of_mem hslashes, List.reverse_append, List.reverse_reverse,
    List.reverse_replicate] at hpath
  refine ⟨(path.toList.reverse.takeWhile (· = '/')).length, ?_⟩
  rw [trimSlashes, String.toList_ofList, hpath]

/-- **Keys are literal and end with their segment.**  Every text names a root, which is the text
without the slashes at its end, and further slashes change no key.  A path has a key just when it
goes on behind the root with a segment of at least one character.  This segment is the only one,
and the root, a slash and the segment are the key, which is in front of everything else in the
path, is its own key, and leads to no other key.  The pattern of keys can be read for every root,
and what is searched for with it is the key of every path. -/
theorem keying_ofPath (text : String) :
    (∃ n, text.toList = (ofPath text).path.toList ++ List.replicate n '/') ∧
      (ofPath text).path.toList.getLast? ≠ some '/' ∧
      (ofPath text).Keying ∧
      (∀ n path, (ofPath (text ++ .ofList (List.replicate n '/'))).key? path =
        (ofPath text).key? path) ∧
      ∃ search, Search.read? (ofPath text).pattern = some search ∧
        ∀ path, search.find? path = (ofPath text).key? path := by
  refine ⟨exists_slashes text, getLast?_trimSlashes_ne text, keying _, ?_, ?_⟩
  · intro n path
    have hroot : ofPath (text ++ .ofList (List.replicate n '/')) = ofPath text := by
      simp only [ofPath, trimSlashes_append_slashes]
    rw [hroot]
  · exact ⟨_, Search.read?_pattern _, Search.find?_eq_key? _⟩

-- signs in a root have no meaning, and a longer name in its place is no package under it
example : (ofPath "a.c/(x)//").key? "a.c/(x)/b/d.go" = some "a.c/(x)/b" ∧
    (ofPath "a.c/(x)//").key? "abc/(x)/b/d.go" = none ∧
    (ofPath "a.c/(x)//").key? "a.c/(x)//b/d.go" = none := by
  decide

end PackageRoot

end PackageCoverage

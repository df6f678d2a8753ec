import PackageCoverage.Package.Root

/-!
# Keys and names of packages

A path is in a package just when it goes on behind the root with a segment of at least one
character, and the key is the path up to the end of that segment (`key?_eq_some_iff`).
The segment is what a report calls the package, and since the root stands in front of it
in every key, packages under one root have different names (`stem_append_lastSegment`).
-/

namespace PackageCoverage.PackageRoot

variable {root : PackageRoot} {path key : String} {segment rest : List Char}

/-! ## Segments -/

private theorem forall_ne_slash (hsegment : '/' ∉ segment) :
    ∀ c ∈ segment, decide (c ≠ '/') = true := by
  intro c hc
  rw [decide_eq_true_eq]
  rintro rfl
  exact hsegment hc

/-- What stands in front of the first slash is a segment, and a slash or nothing is
behind it. -/
theorem takeWhile_eq_iff {text : List Char} :
    text.takeWhile (· ≠ '/') = segment ↔
      '/' ∉ segment ∧ ∃ rest, (rest = [] ∨ rest.head? = some '/') ∧ text = segment ++ rest := by
  constructor
  · rintro rfl
    refine ⟨fun hmem => ?_, text.dropWhile (· ≠ '/'), ?_, List.takeWhile_append_dropWhile.symm⟩
    · simpa using List.all_eq_true.mp List.all_takeWhile _ hmem
    · have hhead := List.head?_dropWhile_not (· ≠ '/') text
      cases hrest : text.dropWhile (· ≠ '/') with
      | nil => exact .inl rfl
      | cons c later =>
          rw [hrest, List.head?_cons] at hhead
          exact .inr (by simpa using hhead)
  · rintro ⟨hsegment, rest, hrest, rfl⟩
    rw [List.takeWhile_append_of_pos (forall_ne_slash hsegment)]
    rcases hrest with rfl | hslash
    · simp
    · obtain ⟨later, rfl⟩ := List.head?_eq_some_iff.mp hslash
      simp

/-! ## Keys -/

/-- The key of a path is the root, a slash and the segment behind it. -/
theorem key?_eq_some_iff :
    root.key? path = some key ↔
      ∃ segment rest, segment ≠ [] ∧ '/' ∉ segment ∧ (rest = [] ∨ rest.head? = some '/') ∧
        path.toList = root.stem ++ segment ++ rest ∧ key = .ofList (root.stem ++ segment) := by
  constructor
  · intro hkey
    unfold key? at hkey
    split at hkey
    case isFalse => simp at hkey
    case isTrue hprefix =>
        obtain ⟨behind, hpath⟩ := List.isPrefixOf_iff_prefix.mp hprefix
        rw [← hpath, List.drop_left] at hkey
        obtain ⟨hslash, rest, hrest, hbehind⟩ := takeWhile_eq_iff.mp (rfl : behind.takeWhile _ = _)
        -- all that is known of the segment is in the last two facts
        generalize behind.takeWhile (· ≠ '/') = segment at hkey hslash hbehind
        dsimp only at hkey
        split at hkey
        case isTrue => simp at hkey
        case isFalse hne =>
            refine ⟨segment, rest, by simpa using hne, hslash, hrest, ?_, ?_⟩
            · rw [← hpath, hbehind, List.append_assoc]
            · exact (Option.some.inj hkey).symm
  · rintro ⟨segment, rest, hne, hslash, hrest, hpath, rfl⟩
    have hsegment := takeWhile_eq_iff.mpr ⟨hslash, rest, hrest, rfl⟩
    unfold key?
    rw [hpath, List.append_assoc, List.drop_left, hsegment]
    simp [hne]

/-! ## Names -/

theorem lastSegment_stem_append (hslash : '/' ∉ segment) :
    lastSegment (.ofList (root.stem ++ segment)) = .ofList segment := by
  have hreverse : (root.stem ++ segment).reverse =
      segment.reverse ++ '/' :: root.path.toList.reverse := by
    simp [stem]
  have hname := takeWhile_eq_iff.mpr
    ⟨fun hmem => hslash (List.mem_reverse.mp hmem), _, .inr rfl, hreverse⟩
  rw [lastSegment, String.toList_ofList, hname, List.reverse_reverse]

theorem stem_append_lastSegment (hkey : root.key? path = some key) :
    String.ofList (root.stem ++ (lastSegment key).toList) = key := by
  obtain ⟨segment, rest, -, hslash, -, -, rfl⟩ := key?_eq_some_iff.mp hkey
  rw [lastSegment_stem_append hslash, String.toList_ofList]

theorem lastSegment_segment (hkey : root.key? path = some key) :
    lastSegment key ≠ "" ∧ '/' ∉ (lastSegment key).toList := by
  obtain ⟨segment, rest, hne, hslash, -, -, rfl⟩ := key?_eq_some_iff.mp hkey
  rw [lastSegment_stem_append hslash, String.toList_ofList]
  refine ⟨fun hempty => hne ?_, hslash⟩
  simpa using congrArg String.toList hempty

/-- The name of a package is a part of every path in the package. -/
theorem mem_path_of_mem_lastSegment (hkey : root.key? path = some key) {c : Char}
    (hc : c ∈ (lastSegment key).toList) : c ∈ path.toList := by
  obtain ⟨segment, rest, -, hslash, -, hpath, rfl⟩ := key?_eq_some_iff.mp hkey
  rw [lastSegment_stem_append hslash, String.toList_ofList] at hc
  rw [hpath]
  exact List.mem_append_left rest (List.mem_append_right root.stem hc)

end PackageCoverage.PackageRoot

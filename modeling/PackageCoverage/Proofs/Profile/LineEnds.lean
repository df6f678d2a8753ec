import PackageCoverage.Proofs.Profile.Items

/-!
# Ends of lines

A line ends with a line feed, with a carriage return and a line feed, or, if it is the last one,
with the bytes.  Which of them it is, line by line, makes no difference to the items of a profile,
so it makes none to what is counted of it and none to the report (`Profile.items_reended`).

The reader takes one carriage return off a line, and only in front of a line feed.  Those that it
leaves, in front of the one it takes or at the end of a last line without line feed, are white
space behind the fields of the line, and a line that is text stays text with them
(`Profile.item?_dropReturn`).
-/

namespace PackageCoverage

namespace Profile

/-- Some bytes with these ends of lines, in turn, in the place of their line feeds. -/
def withEnds (ends : Nat → LineEnd) : List UInt8 → List UInt8
  | [] => []
  | byte :: later =>
      if byte = lineFeed then encode (ends 0).text ++ withEnds (fun n => ends (n + 1)) later
      else byte :: withEnds ends later

/-- Some bytes with other ends of lines, and with one more of them behind, or none. -/
def reended (ends : Nat → LineEnd) (last : Option LineEnd) (bytes : List UInt8) : List UInt8 :=
  withEnds ends bytes ++ encode (last.elim "" LineEnd.text)

/-- Other ends of lines divide the items as line feeds do. -/
theorem items_append_withEnds (bytes : List UInt8) :
    ∀ (ends : Nat → LineEnd) (front : List UInt8),
      items (front ++ withEnds ends bytes) = items (front ++ bytes) := by
  induction bytes with
  | nil =>
      intro ends front
      rfl
  | cons byte later ih =>
      intro ends front
      rw [withEnds]
      split
      case isTrue hbyte =>
          -- the end closes the line that is in front, so none is open behind it
          calc items (front ++ (encode (ends 0).text ++ withEnds (fun n => ends (n + 1)) later))
              = items front ++ items ([] ++ withEnds (fun n => ends (n + 1)) later) := by
                rw [← List.append_assoc, items_append_lineEnd, List.nil_append]
            _ = items front ++ items later := by rw [ih, List.nil_append]
            _ = items (front ++ byte :: later) := by rw [hbyte, items_append_lineFeed]
      case isFalse =>
          -- the byte joins the line that is open in front
          rw [List.append_cons, ih, ← List.append_cons]

theorem items_append_end (bytes : List UInt8) (last : Option LineEnd) :
    items (bytes ++ encode (last.elim "" LineEnd.text)) = items bytes := by
  cases last with
  | none =>
      have hnone : encode "" = [] := by decide +kernel
      rw [Option.elim_none, hnone, List.append_nil]
  | some lineEnd =>
      have hend := items_append_lineEnd bytes [] lineEnd
      rwa [items_nil, List.append_nil, List.append_nil] at hend

/-- **Ends of lines make no difference.**  Any line feeds of a profile can get a carriage return in
front of them and an end can be put behind its last line, whatever this line ends with.  The items
stay the same, with those of unreadable lines in their places, and with them what counting the
profile comes to, from any coverage on, and the report or failure that any settings lead to. -/
theorem items_reended (ends : Nat → LineEnd) (last : Option LineEnd) (bytes : List UInt8) :
    items (reended ends last bytes) = items bytes ∧
      (∀ coverage : Coverage,
        coverage.countProfile (reended ends last bytes) = coverage.countProfile bytes) ∧
      ∀ (before after : Directory) (config : Config),
        before.find config.input = .ok (.file bytes) →
        after.find config.input = .ok (.file (reended ends last bytes)) →
        (Report.build after config).2 = (Report.build before config).2 := by
  have hitems : items (reended ends last bytes) = items bytes := by
    rw [reended, items_append_end]
    exact items_append_withEnds bytes ends []
  refine ⟨hitems, ?_, ?_⟩
  · intro coverage
    exact Coverage.countProfile_congr hitems coverage
  · intro before after config hbefore hafter
    exact Report.build_congr hafter hbefore hitems

/-- A record gets a second carriage return, an unreadable line its first one, and the last line,
which ends with one, a line feed. -/
theorem items_reended_two_returns :
    let bytes := encode "mode: set\n\npkg/a/x.go:1.1,2.2 3 1\r\n" ++ [0xff, lineFeed] ++
      encode "pkg/a/y.go:1.1,2.2 2 0\r"
    let changed := encode "mode: set\n\r\npkg/a/x.go:1.1,2.2 3 1\r\r\n" ++
      [0xff, carriageReturn, lineFeed] ++ encode "pkg/a/y.go:1.1,2.2 2 0\r\n"
    let ends := fun n => if n = 0 then LineEnd.feed else .returnFeed
    reended ends (some .feed) bytes = changed ∧
      items (reended ends (some .feed) bytes) = items bytes ∧
      (Report.build ⟨fun _ => .ok (.file (reended ends (some .feed) bytes))⟩
        ⟨"count.out", "pkg/", 75⟩).2 =
        (Report.build ⟨fun _ => .ok (.file bytes)⟩ ⟨"count.out", "pkg/", 75⟩).2 := by
  intro bytes changed ends
  obtain ⟨hitems, _, hreport⟩ := items_reended ends (some .feed) bytes
  exact ⟨by decide +kernel, hitems, hreport ⟨fun _ => .ok (.file bytes)⟩ _ _ rfl rfl⟩

end Profile

end PackageCoverage

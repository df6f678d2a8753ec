import PackageCoverage.Package.Root

/-!
# Searching for keys

Keys can also be asked for by a search.  A pattern describes what is searched for: a group
in parentheses, and `^` in front of it if only the start of a text will do.  In the group
most characters stand for themselves, and the others, which are signs, stand for themselves
behind a backslash.  A class as `[^/]+` stands for one or more characters other than the one
it names.

A search tries one place of a text after the other, and at each place one way after the
other in which the group fits there, from the longest run of characters to the shortest.
The first of all is what it finds.
-/

namespace PackageCoverage

namespace Search

/-- One step of a search through a text. -/
inductive Step where
  /-- A given character. -/
  | character (c : Char)
  /-- One or more characters other than a given one. -/
  | others (stop : Char)
deriving DecidableEq

end Search

/-- The steps of a group, which may have to start where the text starts. -/
structure Search where
  isAnchored : Bool
  steps : List Search.Step
deriving DecidableEq

namespace Search

/-! ## Finding -/

/-- The parts of a text that go on from its start in front of a character, each with what is
behind it, the longest first. -/
def runs (stop : Char) : List Char → List (List Char × List Char)
  | [] => []
  | c :: rest =>
    if c = stop then []
    else (runs stop rest).map (fun (run, behind) => (c :: run, behind)) ++ [([c], rest)]

/-- What steps can take from the start of a text, in the order in which it is tried. -/
def ways : List Step → List Char → List (List Char)
  | [], _ => [[]]
  | .character c :: later, text =>
    match text with
    | [] => []
    | first :: rest => if first = c then (ways later rest).map (first :: ·) else []
  | .others stop :: later, text =>
    (runs stop text).flatMap fun (run, behind) => (ways later behind).map (run ++ ·)

/-- What the group takes at one place of a text. -/
def findHere? (search : Search) (isStart : Bool) (text : List Char) : Option (List Char) :=
  if search.isAnchored && !isStart then none else (ways search.steps text).head?

/-- What the group takes at the first place where it fits. -/
def findFrom? (search : Search) : (isStart : Bool) → List Char → Option (List Char)
  | isStart, [] => search.findHere? isStart []
  | isStart, c :: rest => (search.findHere? isStart (c :: rest)).or (search.findFrom? false rest)

/-- What is found in a text. -/
def find? (search : Search) (text : String) : Option String :=
  (search.findFrom? true text.toList).map String.ofList

/-! ## Patterns -/

/-- The characters that do not stand for themselves. -/
def signs : List Char := "\\.+*?()|[]\x7b\x7d^$#&-~".toList

/-- A text with a backslash in front of every sign. -/
def quoted (text : List Char) : List Char :=
  text.flatMap fun c => if c ∈ signs then ['\\', c] else [c]

/-- The steps that are written up to the end of a group, which ends its pattern. -/
def readSteps? : List Char → Option (List Step)
  | [] => none
  | ')' :: later => if later.isEmpty then some [] else none
  | '\\' :: c :: later =>
    if c ∈ signs then (readSteps? later).map (.character c :: ·) else none
  | '[' :: '^' :: c :: ']' :: '+' :: later =>
    if c ∈ signs then none else (readSteps? later).map (.others c :: ·)
  | c :: later => if c ∈ signs then none else (readSteps? later).map (.character c :: ·)

/-- The search that a pattern describes. -/
def read? : List Char → Option Search
  | '^' :: '(' :: group => (readSteps? group).map (⟨true, ·⟩)
  | '(' :: group => (readSteps? group).map (⟨false, ·⟩)
  | _ => none

end Search

/-- The pattern of keys: the path of the root, a slash, and what comes before the next one. -/
def PackageRoot.pattern (root : PackageRoot) : List Char :=
  '^' :: '(' :: (Search.quoted root.path.toList ++ "/[^/]+)".toList)

end PackageCoverage

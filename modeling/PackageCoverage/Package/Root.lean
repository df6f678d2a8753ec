/-!
# Packages under a root

The packages of a project are the entries of one directory, the package root.
The package of a file is the root, a slash and the next segment of the path,
whatever follows; a file that stands directly in the root is a package of its
own.  The root is compared character by character, so no character of it has a
meaning of its own.
-/

namespace PackageCoverage

/-- The path of a directory whose entries are packages, without a slash at its end. -/
structure PackageRoot where
  path : String
  getLast?_ne : path.toList.getLast? ≠ some '/'
deriving DecidableEq

namespace PackageRoot

/-- The path without the slashes at its end. -/
def trimSlashes (path : String) : String :=
  String.ofList (path.toList.reverse.dropWhile (· = '/')).reverse

theorem getLast?_trimSlashes_ne (path : String) :
    (trimSlashes path).toList.getLast? ≠ some '/' := by
  intro hslash
  have hhead := List.head?_dropWhile_not (· = '/') path.toList.reverse
  simp only [trimSlashes, String.toList_ofList, List.getLast?_reverse] at hslash
  simp [hslash] at hhead

/-- The root at a path; slashes at its end make no difference.  A search for its keys
is assumed to be possible however long the path is: a searcher with a limit on the size
of its patterns would refuse roots of some hundred thousand characters, and that refusal
has no place here. -/
def ofPath (path : String) : PackageRoot := ⟨trimSlashes path, getLast?_trimSlashes_ne path⟩

/-- What every path in the directory starts with. -/
def stem (root : PackageRoot) : List Char := root.path.toList ++ ['/']

/-- The key of the package that holds a file, if the file is under the root. -/
def key? (root : PackageRoot) (path : String) : Option String :=
  if root.stem.isPrefixOf path.toList then
    let segment := (path.toList.drop root.stem.length).takeWhile (· ≠ '/')
    if segment.isEmpty then none else some (String.ofList (root.stem ++ segment))
  else none

/-- The last segment of a package key. -/
def lastSegment (key : String) : String :=
  String.ofList (key.toList.reverse.takeWhile (· ≠ '/')).reverse

end PackageRoot

end PackageCoverage

/-!
# Files

A directory is seen through the paths that lead out of it: each leads to a file
or a directory, or nowhere, for a reason.  That a path leads to something does not
mean that it can be opened, and what can be opened may still fail while it is read.
`Directory.ofFiles` is the directory that holds given files and nothing else.
-/

namespace PackageCoverage

/-- Why a file cannot be read. -/
inductive FileFault where
  | notFound
  | notADirectory
  | isADirectory
  | nameTooLong
  /-- The path holds a null character. -/
  | nullInPath
  /-- The file should be text and is not UTF-8. -/
  | invalidText
  /-- The system gives a reason of its own. -/
  | other (reason : String)
deriving DecidableEq

/-- A fault in the words of the system. -/
def FileFault.message : FileFault → String
  | notFound => "No such file or directory (os error 2)"
  | notADirectory => "Not a directory (os error 20)"
  | isADirectory => "Is a directory (os error 21)"
  | nameTooLong => "File name too long (os error 36)"
  | nullInPath => "file name contained an unexpected NUL byte"
  | invalidText => "stream did not contain valid UTF-8"
  | other reason => reason

/-- What a path leads to. -/
inductive FileEntry where
  /-- A file that can be read up to its end. -/
  | file (bytes : List UInt8)
  | directory
  /-- A file that is there and cannot be opened. -/
  | unopenable (fault : FileFault)
  /-- A file that gives some bytes and then fails. -/
  | broken (bytes : List UInt8) (fault : FileFault)
deriving DecidableEq

/-- A directory, as the paths that start in it show it. -/
structure Directory where
  find : String → Except FileFault FileEntry

namespace Directory

/-- Whether a path leads anywhere, be it to something that cannot be read. -/
def holds (directory : Directory) (path : String) : Bool :=
  (directory.find path).toOption.isSome

/-- The bytes of the file at a path. -/
def readBytes (directory : Directory) (path : String) : Except FileFault (List UInt8) := do
  match ← directory.find path with
  | .file bytes => return bytes
  | .directory => throw .isADirectory
  | .unopenable fault => throw fault
  | .broken _ fault => throw fault

/-- The text of the file at a path. -/
def readText (directory : Directory) (path : String) : Except FileFault String := do
  match String.fromUTF8? (← directory.readBytes path).toByteArray with
  | some text => return text
  | none => throw .invalidText

/-! ## Directories with given files -/

/-- The steps of a path, between its slashes. -/
def steps (path : String) : List String := path.splitOn "/"

/-- The names on a path to a file, without steps that stay where they are. -/
def names (path : String) : List String :=
  (steps path).filter fun step => step ≠ "" ∧ step ≠ "."

/-- A place that a path has come to: in the directory, by the names that lead to
it, or above the directory. -/
inductive Place where
  | inside (names : List String)
  | above

/-- What is at a place, if there is anything.  Directories are there if something
is in them or below them. -/
def entryAt (files : List (String × FileEntry)) : Place → Option FileEntry
  | .above => some .directory
  | .inside [] => some .directory
  | .inside place =>
    match files.find? fun file => names file.1 == place with
    | some file => some file.2
    | none =>
      if files.any fun file => place.isPrefixOf (names file.1) then some .directory else none

/-- The longest name in a directory and the longest path, in bytes. -/
def nameLimit : Nat := 255

@[inherit_doc nameLimit]
def pathLimit : Nat := 4095

/-- The place one step on from a directory.  From above the directory no name leads
back into it. -/
def stepFrom (place : Place) (step : String) : Except FileFault Place :=
  if nameLimit < step.utf8ByteSize then .error .nameTooLong
  else
    match place, step with
    | place, "" | place, "." => .ok place
    | .inside names, ".." => .ok (if names.isEmpty then .above else .inside names.dropLast)
    | .inside names, name => .ok (.inside (names ++ [name]))
    | .above, ".." => .ok .above
    | .above, _ => .error .notFound

/-- Where steps lead from a place.  Every step starts from a directory. -/
def follow (files : List (String × FileEntry)) :
    Place → List String → Except FileFault FileEntry
  | place, [] =>
    match entryAt files place with
    | some entry => .ok entry
    | none => .error .notFound
  | place, step :: later => do
    match entryAt files place with
    | none => throw .notFound
    | some .directory => follow files (← stepFrom place step) later
    | some _ => throw .notADirectory

/-- The directory with the given files and directories, each by its path. -/
def ofFiles (files : List (String × FileEntry)) : Directory where
  find path :=
    if path.contains '\x00' then .error .nullInPath
    else if path.isEmpty then .error .notFound
    else if pathLimit < path.utf8ByteSize then .error .nameTooLong
    else follow files (if path.startsWith "/" then .above else .inside []) (steps path)

/-- The directory that answers for the given paths only. -/
def ofAnswers (answers : List (String × Except FileFault FileEntry)) : Directory where
  find path := (answers.lookup path).getD (.error .notFound)

end Directory

end PackageCoverage

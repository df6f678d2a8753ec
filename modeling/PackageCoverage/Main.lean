import PackageCoverage.CommandLine.Outcome

/-!
# The program

Looks up the paths that a call needs, and writes what the call leaves behind.
-/

namespace PackageCoverage

open CommandLine

/-- The number of a fault, which may come with its sign turned. -/
def faultNumber (code : UInt32) : Nat :=
  if 0x80000000 ≤ code.toNat then 0x100000000 - code.toNat else code.toNat

/-- The fault that the system reports. -/
def FileFault.ofError : IO.Error → FileFault
  | .noFileOrDirectory .. => .notFound
  | .inappropriateType _ code _ =>
    if faultNumber code = 21 then .isADirectory else .notADirectory
  | .invalidArgument _ code details =>
    if faultNumber code = 36 then .nameTooLong else .other details
  | .permissionDenied .. => .other "Permission denied (os error 13)"
  | error => .other (toString error)

/-- What an open file gives, up to its end or to a fault. -/
def readEntry (handle : IO.FS.Handle) : IO FileEntry := do
  let mut bytes := ByteArray.empty
  -- no file has as many pieces as this
  for _ in [0:0x1000000000000] do
    try
      let piece ← handle.read 0x10000
      if piece.isEmpty then return .file bytes.toList
      bytes := bytes ++ piece
    catch error =>
      match FileFault.ofError error with
      | .isADirectory => return .directory
      | fault => return .broken bytes.toList fault
  return .file bytes.toList

/-- What a path leads to.  There is something at it just if it has a real path. -/
def lookUp (path : String) : IO (Except FileFault FileEntry) := do
  if path.contains '\x00' then return .error .nullInPath
  let isThere ← try
      discard (IO.FS.realPath path)
      pure true
    catch _ => pure false
  try
    return .ok (← readEntry (← IO.FS.Handle.mk path .read))
  catch error =>
    let fault := FileFault.ofError error
    return if isThere then .ok (.unopenable fault) else .error fault

/-- The directory as far as a run with the given options looks into it. -/
def directoryFor (options : Options) : IO Directory := do
  let path := options.config.getD Config.defaultPath
  let settings := (path, ← lookUp path)
  match (Config.choose (.ofAnswers [settings]) options.config options.overrides).2 with
  | .error _ => return .ofAnswers [settings]
  | .ok config => return .ofAnswers [settings, (config.input, ← lookUp config.input)]

/-- What a call finds around it. -/
def findEnvironment (arguments : List String) : IO Environment := do
  let directory ← match read arguments with
    | .ok (.report options) => directoryFor options
    | _ => pure (.ofAnswers [])
  let isTerminal ← (← IO.getStdout).isTty
  let colour := coloursBy (← IO.getEnv "CLICOLOR_FORCE") (← IO.getEnv "NO_COLOR")
    (← IO.getEnv "CLICOLOR") isTerminal
  return {
    directory := directory
    logFilter := ← IO.getEnv "RUST_LOG"
    colourReport := isTerminal && colour
    colourMessages := colour }

end PackageCoverage

/-- Writes events and a failure to the second stream and the report to the first. -/
def main (arguments : List String) : IO UInt32 := do
  let environment ← PackageCoverage.findEnvironment arguments
  let outcome := PackageCoverage.CommandLine.call environment arguments
  for line in outcome.log ++ outcome.failure.toList do
    IO.eprintln line
  IO.print outcome.output
  return UInt32.ofNat outcome.status

import PackageCoverage.Config.Document
import PackageCoverage.Directory
import PackageCoverage.Log.Event
import PackageCoverage.Report

/-!
# Runs

A run finds its settings, reads the profile that they name, and makes a report,
or stops at the first failure.  What it tells on the side it tells in either
case, up to the point where it stops.  The whole profile is read before there is
a report, so a failure leaves no part of one.
-/

namespace PackageCoverage

/-- Why there is no report. -/
inductive Failure where
  | unreadableSettings (path : String) (fault : FileFault)
  | unfitSettings (path : String) (misfit : Option Config.Misfit)
  | invalidSettings (reason : Config.Invalid)
  | noProfile (path : String) (fault : FileFault)
  | unreadableProfile (path : String) (fault : FileFault)

namespace Failure

/-- The failure of reading a line of a profile, in words. -/
def lineMessage (fault : FileFault) : String :=
  "Failed to read coverage profile line: " ++ fault.message

/-- A failure in words. -/
def message : Failure → String
  | unreadableSettings path fault => "Failed to read config file: " ++ path ++ ": " ++ fault.message
  | unfitSettings path _ => "Failed to parse " ++ path
  | invalidSettings reason => reason.message
  | noProfile path fault => "Failed to open coverage profile: " ++ path ++ ": " ++ fault.message
  | unreadableProfile path fault =>
    "Failed to read coverage profile: " ++ path ++ ": " ++ lineMessage fault

end Failure

/-! ## Settings -/

namespace Config

/-- The settings in the document at a path. -/
def readAt (directory : Directory) (path : String) : Except Failure Config := do
  let text ← (directory.readText path).mapError (.unreadableSettings path)
  let config ← (ofText text).mapError (.unfitSettings path)
  config.validated.mapError .invalidSettings

/-- The settings in the document at a path, or the defaults if there is nothing at
the path, and what is told about it.  If something is there, it has to be a document. -/
def readOrDefault (directory : Directory) (path : String) :
    List Log.Event × Except Failure Config :=
  if directory.holds path then ([], readAt directory path)
  else ([.defaultSettings path], .ok {})

/-- The settings of a run: those at the path that is given, which must be there, or
those at the usual place, with other settings put over them. -/
def choose (directory : Directory) (path : Option String) (overrides : Overrides) :
    List Log.Event × Except Failure Config :=
  let (events, loaded) := match path with
    | some path => ([], readAt directory path)
    | none => readOrDefault directory defaultPath
  (events, do (overrides.over (← loaded)).validated.mapError .invalidSettings)

end Config

/-! ## Reports -/

namespace Report

/-- The report on the records of a profile. -/
def ofReading (root : PackageRoot) (threshold : Binary64) (reading : Profile.Reading) : Report :=
  ofCoverage ((Coverage.empty root).countReading reading) threshold

/-- What is told about a profile while it is read. -/
def readingEvents (root : PackageRoot) (reading : Profile.Reading) : List Log.Event :=
  let skipped := reading.faults.map fun (fault, text) => Log.Event.lineSkipped fault text
  if reading.complete then
    let coverage := (Coverage.empty root).countReading reading
    let ignored := if coverage.outside = 0 then [] else [.recordsIgnored coverage.outside]
    let tallied :=
      .tallied coverage.packages.size reading.records.length coverage.outside
    skipped ++ ignored ++ [tallied]
  else skipped

/-- The report that settings ask for, and what is told on the way.  Of a profile that
fails while it is read, a line without its end is not looked at.  The root is assumed
to be one for which keys can be searched, as in `PackageRoot.ofPath`. -/
def build (directory : Directory) (config : Config) : List Log.Event × Except Failure Report :=
  match directory.find config.input with
  | .error fault => ([], .error (.noProfile config.input fault))
  | .ok (.unopenable fault) => ([], .error (.noProfile config.input fault))
  | .ok .directory => ([], .error (.unreadableProfile config.input .isADirectory))
  | .ok (.broken bytes fault) =>
    let reading := Profile.read (Profile.wholeLines bytes)
    (readingEvents (.ofPath config.root) { reading with complete := false },
      .error (.unreadableProfile config.input
        (if reading.complete then fault else .invalidText)))
  | .ok (.file bytes) =>
    let root := PackageRoot.ofPath config.root
    let reading := Profile.read bytes
    (readingEvents root reading,
      if reading.complete then .ok (ofReading root config.threshold reading)
      else .error (.unreadableProfile config.input .invalidText))

/-- The report of a run with the given settings, and what is told on the way. -/
def run (directory : Directory) (path : Option String) (overrides : Overrides) :
    List Log.Event × Except Failure Report :=
  match Config.choose directory path overrides with
  | (events, .error failure) => (events, .error failure)
  | (events, .ok config) =>
    let (later, report) := build directory config
    (events ++ later, report)

end Report

end PackageCoverage

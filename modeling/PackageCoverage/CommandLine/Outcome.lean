import PackageCoverage.CommandLine.Arguments
import PackageCoverage.Log.Filter
import PackageCoverage.Run

/-!
# The outcome of a call

A call ends with a status and leaves text on two streams.  The report goes to the
first and only if there is one; events and messages go to the second.  The status
is zero if what was asked for was done, two if the arguments cannot be
understood, and one in all other cases.
-/

namespace PackageCoverage.CommandLine

/-- What a call finds around it. -/
structure Environment where
  directory : Directory
  logFilter : Option String := none
  colourReport : Bool := false
  colourMessages : Bool := false

/-- Whether colour is wanted, from what is set to force it, to forbid it, and to do
without it, and from whether the first stream is a terminal.  A `0` does not force
it, and only a `0` does without it. -/
def coloursBy (force forbid without : Option String) (isTerminal : Bool) : Bool :=
  if force.any (· ≠ "0") then true
  else if forbid.isSome then false
  else without ≠ some "0" && isTerminal

/-- What a call leaves behind: its status, the text of the first stream, and on the second
stream the lines that tell of events and a last one that tells why there is no report. -/
structure Outcome where
  status : Nat
  output : String := ""
  log : List String := []
  failure : Option String := none
deriving DecidableEq

/-- What is written when help is asked for. -/
def helpText : String :=
  "Per-package coverage report for Go coverage profiles

Usage: covpkg [OPTIONS] [INPUT]

Arguments:
  [INPUT]  Coverage profile to read (default: coverage.out)

Options:
  -c, --config <CONFIG>        Path to config file (default: covpkg.toml, if present)
  -p, --prefix <PREFIX>        Import path prefix whose child directories are packages
  -t, --threshold <THRESHOLD>  Minimum coverage percentage for a package to count as good
  -v, --verbose                Log parsing details to stderr
  -h, --help                   Print help
  -V, --version                Print version
"

/-- What is written when the version is asked for. -/
def versionText : String := "covpkg 0.1.0\n"

/-- The line that tells of a failure. -/
def failureLine (colour : Bool) (failure : Failure) : String :=
  Style.boldRed.paintIf colour "Error:" ++ " " ++ failure.message

/-- The outcome of a run with the given options. -/
def report (environment : Environment) (options : Options) : Outcome :=
  let (events, result) := Report.run environment.directory options.config options.overrides
  let filter := Log.Filter.choose environment.logFilter options.verbose
  let log := (events.filter filter.tells).map Log.Event.line
  match result with
  | .ok report => { status := 0, output := report.render environment.colourReport, log := log }
  | .error failure =>
    { status := 1, log := log, failure := some (failureLine environment.colourMessages failure) }

/-- The outcome of a call with the given arguments. -/
def call (environment : Environment) (arguments : List String) : Outcome :=
  match read arguments with
  | .error error => { status := 2, failure := some ("error: " ++ error.message) }
  | .ok .help => { status := 0, output := helpText }
  | .ok .version => { status := 0, output := versionText }
  | .ok (.report options) => report environment options

end PackageCoverage.CommandLine

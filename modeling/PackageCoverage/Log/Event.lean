import PackageCoverage.Profile.Line
import PackageCoverage.Text.Quoted

/-!
# What a run tells on the side

While it works, a run tells of events.  Each has a level, a source that groups
it with others, a message, and named values, and is written on one line.
-/

namespace PackageCoverage.Log

/-- How much an event matters.  A higher verbosity is needed to hear of what
matters less. -/
inductive Level where
  | error
  | warn
  | info
  | debug
  | trace
deriving DecidableEq

/-- The least verbosity at which a level is heard; at zero there is silence. -/
def Level.verbosity : Level → Nat
  | error => 1
  | warn => 2
  | info => 3
  | debug => 4
  | trace => 5

/-- A level in words. -/
def Level.label : Level → String
  | error => "ERROR"
  | warn => "WARN"
  | info => "INFO"
  | debug => "DEBUG"
  | trace => "TRACE"

/-- What happened. -/
inductive Event where
  | defaultSettings (path : String)
  | lineSkipped (fault : Line.Fault) (text : String)
  | recordsIgnored (outside : Nat)
  | tallied (packages records outside : Nat)
deriving DecidableEq

namespace Event

/-- The level of an event. -/
def level : Event → Level
  | tallied .. => .info
  | _ => .debug

/-- The source of an event. -/
def source : Event → String
  | defaultSettings _ => "covpkg::config"
  | lineSkipped _ _ => "covpkg::coverage::profile"
  | recordsIgnored _ => "covpkg::coverage::aggregate"
  | tallied .. => "covpkg"

/-- The message of an event. -/
def message : Event → String
  | defaultSettings _ => "no config file, using defaults"
  | lineSkipped fault _ => "skipping line with " ++ fault.message
  | recordsIgnored _ => "records outside the package prefix were ignored"
  | tallied .. => "aggregated coverage"

/-- The named values of an event. -/
def values : Event → List (String × String)
  | defaultSettings path => [("path", path)]
  | lineSkipped _ text => [("line", Text.quoted text)]
  | recordsIgnored outside => [("unmatched", toString outside)]
  | tallied packages records outside =>
    [("packages", toString packages), ("records", toString records),
      ("unmatched", toString outside)]

/-- The line that tells of an event. -/
def line (event : Event) : String :=
  " ".intercalate ([event.level.label, event.message] ++
    event.values.map fun (name, value) => name ++ "=" ++ value)

end Event

end PackageCoverage.Log

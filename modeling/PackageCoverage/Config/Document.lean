import PackageCoverage.Config.Basic
import PackageCoverage.Text.Quoted
import PackageCoverage.Toml.Document

/-!
# Settings in a document

A document sets what its keys name and leaves the rest at the defaults.  It may
hold no other keys.  Keys are looked at in the order of the document, and the
first that does not fit is told.
-/

namespace PackageCoverage.Config

/-- Why a well-formed document does not hold settings. -/
inductive Misfit where
  | unknownKey (key : String)
  | wrongType (found : Toml.Value) (expected : String)

/-- A float that shows that it is one. -/
def floatText (value : Binary64) : String :=
  let text := value.toShortest
  if value.isNaN || value.isInfinite || text.contains '.' then text else text ++ ".0"

/-- A value of an unexpected type in words. -/
def found : Toml.Value → String
  | .string text => "string " ++ Text.quoted text
  | .integer value => "integer `" ++ toString value ++ "`"
  | .float value => "floating point `" ++ floatText value ++ "`"
  | .boolean value => "boolean `" ++ toString value ++ "`"
  | .array _ | .tables _ => "sequence"
  | .table _ _ | .dateTime => "map"

/-- The reason in words. -/
def Misfit.message : Misfit → String
  | unknownKey key =>
    "unknown field `" ++ key ++ "`, expected one of `input`, `package_prefix`, `threshold`"
  | wrongType value expected => "invalid type: " ++ found value ++ ", expected " ++ expected

/-- The settings with one more key of a document.  Integers are thresholds too. -/
def withEntry (config : Config) : String × Toml.Value → Except Misfit Config
  | ("input", .string path) => .ok { config with input := path }
  | ("input", value) => .error (.wrongType value "path string")
  | ("package_prefix", .string path) => .ok { config with root := path }
  | ("package_prefix", value) => .error (.wrongType value "a string")
  | ("threshold", .float value) => .ok { config with threshold := value }
  | ("threshold", .integer value) => .ok { config with threshold := .ofInt value }
  | ("threshold", value) => .error (.wrongType value "f64")
  | (key, _) => .error (.unknownKey key)

/-- The settings that the keys and values of a document make. -/
def ofEntries (entries : Toml.Entries) : Except Misfit Config :=
  entries.foldlM withEntry {}

/-- The settings that a document makes.  If the reason is `none`, the document is
not well-formed. -/
def ofText (text : String) : Except (Option Misfit) Config :=
  match Toml.read? text with
  | none => .error none
  | some entries => (ofEntries entries).mapError some

end PackageCoverage.Config

import PackageCoverage.Binary64.Decimal
import PackageCoverage.Package.Root

/-!
# Settings

Three settings decide what is read and how it is judged.  A threshold is a
percentage, and a package root is more than slashes.
-/

namespace PackageCoverage

/-- The settings of a run. -/
structure Config where
  input : String := "coverage.out"
  root : String := "github.com/junbin-yang/go-kitbox/pkg"
  threshold : Binary64 := 75
deriving DecidableEq

namespace Config

/-- Where settings are looked for if no other place is given. -/
def defaultPath : String := "covpkg.toml"

/-- Why settings make no sense. -/
inductive Invalid where
  | emptyRoot
  | threshold (value : Binary64)
deriving DecidableEq

/-- The reason in words. -/
def Invalid.message : Invalid → String
  | emptyRoot => "package_prefix must not be empty"
  | threshold value => "threshold must be between 0 and 100, got " ++ value.toShortest

/-- The settings, if they make sense; of two reasons the root comes first. -/
def validated (config : Config) : Except Invalid Config :=
  if (PackageRoot.ofPath config.root).path.isEmpty then .error .emptyRoot
  else if 0 ≤ config.threshold ∧ config.threshold ≤ 100 then .ok config
  else .error (.threshold config.threshold)

end Config

/-- Settings that are given one by one and leave others as they are. -/
structure Overrides where
  input : Option String := none
  root : Option String := none
  threshold : Option Binary64 := none
deriving DecidableEq

/-- Settings with the given ones in place of what they were. -/
def Overrides.over (overrides : Overrides) (config : Config) : Config where
  input := overrides.input.getD config.input
  root := overrides.root.getD config.root
  threshold := overrides.threshold.getD config.threshold

end PackageCoverage

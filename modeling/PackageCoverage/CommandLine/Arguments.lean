import PackageCoverage.Config.Basic
import PackageCoverage.Text.Controls

/-!
# Arguments

Options have a long name behind two dashes and a letter behind one; letters may
be joined.  The value of an option is the next argument, or stands behind an
equals sign, or, behind a letter, follows at once.  What is no option and no
value is the input, and so is everything behind `--`.

A value takes effect when the next option or input is met, or at the end.  So the
faults of a value are told after those of an argument that cannot be understood.
-/

namespace PackageCoverage.CommandLine

/-! ## What can be given -/

/-- What takes a value. -/
inductive Setting where
  | input
  | config
  | root
  | threshold
deriving DecidableEq

/-- What can be asked for by name. -/
inductive Switch where
  | setting (setting : Setting)
  | verbose
  | help
  | version
deriving DecidableEq

/-- How a setting is shown in messages. -/
def Setting.usage : Setting → String
  | input => "[INPUT]"
  | config => "--config <CONFIG>"
  | root => "--prefix <PREFIX>"
  | threshold => "--threshold <THRESHOLD>"

/-- How a switch is shown in messages. -/
def Switch.usage : Switch → String
  | setting named => named.usage
  | verbose => "--verbose"
  | help => "--help"
  | version => "--version"

/-- The switch of a long name. -/
def Switch.ofName? : String → Option Switch
  | "config" => some (.setting .config)
  | "prefix" => some (.setting .root)
  | "threshold" => some (.setting .threshold)
  | "verbose" => some .verbose
  | "help" => some .help
  | "version" => some .version
  | _ => none

/-- The switch of a letter. -/
def Switch.ofLetter? : Char → Option Switch
  | 'c' => some (.setting .config)
  | 'p' => some (.setting .root)
  | 't' => some (.setting .threshold)
  | 'v' => some .verbose
  | 'h' => some .help
  | 'V' => some .version
  | _ => none

/-! ## What was given -/

/-- The options of a run. -/
structure Options where
  config : Option String := none
  overrides : Overrides := {}
  verbose : Bool := false
deriving DecidableEq

/-- What the arguments ask for. -/
inductive Command where
  | report (options : Options)
  | help
  | version
deriving DecidableEq

/-- Why arguments cannot be understood. -/
inductive UsageError where
  | unexpectedArgument (argument : String)
  | unexpectedValue (value : String) (switch : Switch)
  | missingValue (setting : Setting)
  | repeated (switch : Switch)
  | invalidThreshold (value : String)
deriving DecidableEq

/-- The reason in words.  What was given is cited without control sequences. -/
def UsageError.message : UsageError → String
  | unexpectedArgument argument =>
    "unexpected argument '" ++ Text.withoutControls argument ++ "' found"
  | unexpectedValue value switch =>
    "unexpected value '" ++ Text.withoutControls value ++ "' for '" ++ switch.usage ++
      "' found; no more were expected"
  | missingValue setting =>
    "a value is required for '" ++ setting.usage ++ "' but none was supplied"
  | repeated switch => "the argument '" ++ switch.usage ++ "' cannot be used multiple times"
  | invalidThreshold value =>
    "invalid value '" ++ Text.withoutControls value ++ "' for '" ++ Setting.threshold.usage ++
      "': " ++
      (if value.isEmpty then "cannot parse float from empty string"
        else "invalid float literal")

namespace Options

/-- Whether a setting was given before. -/
def has (options : Options) : Setting → Bool
  | .input => options.overrides.input.isSome
  | .config => options.config.isSome
  | .root => options.overrides.root.isSome
  | .threshold => options.overrides.threshold.isSome

/-- The options with a value for a setting.  No setting has two values, paths to
files are not empty, and a threshold is a number. -/
def set (options : Options) (setting : Setting) (value : String) :
    Except UsageError Options :=
  if options.has setting then .error (.repeated (.setting setting))
  else
    match setting with
    | .input =>
      if value.isEmpty then .error (.missingValue .input)
      else .ok { options with overrides.input := some value }
    | .config =>
      if value.isEmpty then .error (.missingValue .config)
      else .ok { options with config := some value }
    | .root => .ok { options with overrides.root := some value }
    | .threshold =>
      match Binary64.read? value.toList with
      | some threshold => .ok { options with overrides.threshold := some threshold }
      | none => .error (.invalidThreshold value)

/-- The options with a demand for details. -/
def setVerbose (options : Options) : Except UsageError Options :=
  if options.verbose then .error (.repeated .verbose) else .ok { options with verbose := true }

end Options

/-! ## Reading -/

/-- Why reading ends before the last argument. -/
inductive Stop where
  | usage (error : UsageError)
  | command (command : Command)

/-- How far reading has come: the options that took effect, the setting that was met last,
with its value if there is one by now, whether the input was met, and whether options are
over. -/
structure Progress where
  options : Options := {}
  pending : Option (Setting × Option String) := none
  hasInput : Bool := false
  onlyInput : Bool := false

namespace Progress

/-- Lets the pending setting take effect. -/
def settle (progress : Progress) : Except Stop Progress :=
  match progress.pending with
  | none => .ok progress
  | some (setting, none) => .error (.usage (.missingValue setting))
  | some (setting, some value) => do
    let options ← (progress.options.set setting value).mapError .usage
    return { progress with options := options, pending := none }

/-- A switch without a value of its own. -/
def meet (progress : Progress) (switch : Switch) : Except Stop Progress := do
  let progress ← progress.settle
  match switch with
  | .setting setting => return { progress with pending := some (setting, none) }
  | .verbose => return { progress with options := ← progress.options.setVerbose.mapError .usage }
  | .help => throw (.command .help)
  | .version => throw (.command .version)

/-- A setting with its value. -/
def meetValue (progress : Progress) (setting : Setting) (value : String) :
    Except Stop Progress := do
  let progress ← progress.settle
  return { progress with options := ← (progress.options.set setting value).mapError .usage }

/-- An argument that is no option: the value of the setting that waits for one, or
else the input.  Behind `--` no setting waits any more. -/
def meetPlain (progress : Progress) (argument : String) : Except Stop Progress :=
  match progress.onlyInput, progress.pending with
  | false, some (setting, none) =>
    .ok { progress with pending := some (setting, some argument) }
  | _, _ =>
    if progress.hasInput then .error (.usage (.unexpectedArgument argument))
    else do
      let progress ← progress.settle
      return { progress with pending := some (.input, some argument), hasInput := true }

/-- What stands behind two dashes. -/
def meetLong (progress : Progress) (text : List Char) : Except Stop Progress :=
  let name := String.ofList (text.takeWhile (· ≠ '='))
  match Switch.ofName? name, text.dropWhile (· ≠ '=') with
  | none, _ => .error (.usage (.unexpectedArgument ("--" ++ name)))
  | some switch, [] => progress.meet switch
  | some (.setting setting), _ :: value => progress.meetValue setting (String.ofList value)
  | some switch, _ :: value => .error (.usage (.unexpectedValue (String.ofList value) switch))

/-- The letters behind one dash. -/
def meetLetters (progress : Progress) : List Char → Except Stop Progress
  | [] => .ok progress
  | letter :: rest =>
    match Switch.ofLetter? letter, rest with
    | none, _ => .error (.usage (.unexpectedArgument (String.ofList ['-', letter])))
    | some (.setting setting), '=' :: value => progress.meetValue setting (String.ofList value)
    | some (.setting setting), [] => progress.meet (.setting setting)
    | some (.setting setting), value => progress.meetValue setting (String.ofList value)
    | some switch, rest => do (← progress.meet switch).meetLetters rest

/-- One argument. -/
def step (progress : Progress) (argument : String) : Except Stop Progress :=
  if progress.onlyInput then progress.meetPlain argument
  else
    match argument.toList with
    | ['-', '-'] => .ok { progress with onlyInput := true }
    | '-' :: '-' :: text => progress.meetLong text
    | ['-'] => progress.meetPlain argument
    | '-' :: letters => progress.meetLetters letters
    | _ => progress.meetPlain argument

end Progress

/-- What arguments ask for. -/
def read (arguments : List String) : Except UsageError Command :=
  match arguments.foldlM Progress.step {} >>= Progress.settle with
  | .ok progress => .ok (.report progress.options)
  | .error (.command command) => .ok command
  | .error (.usage error) => .error error

end PackageCoverage.CommandLine

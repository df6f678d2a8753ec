import PackageCoverage.Binary64.Decimal
import PackageCoverage.Log.Event
import PackageCoverage.Pattern.Grammar
import PackageCoverage.Text.Offsets

/-!
# Which events are told

A filter is a list of directives.  A directive sets a verbosity for the events
whose source starts in a certain way and, if it names one, have a certain value.
Of the directives that care about an event the most specific one decides: the one
with the longest source, then one that names a value.  An event about which no
directive cares is not told.

Directives are written `source[{value}]=level`, separated by commas.  A level
alone is for all sources, and a source alone has the highest verbosity.  In front
of the brace may stand the name of a span; no event is in a span, so such a
directive has no effect, nor has one that asks what a named value is.  That is asked
by an equals sign and a number or a pattern behind the name.
-/

namespace PackageCoverage.Log

/-- A verbosity for some events. -/
structure Directive where
  source : String := ""
  /-- The name of a value that the events have, if one is asked for. -/
  value : Option String := none
  /-- Whether more is asked for than any event can have. -/
  isVoid : Bool := false
  verbosity : Nat := Level.trace.verbosity
deriving DecidableEq

namespace Directive

/-- Whether a directive cares about an event. -/
def caresAbout (directive : Directive) (event : Event) : Bool :=
  !directive.isVoid && event.source.startsWith directive.source &&
    directive.value.all fun name => name == "message" || (event.values.lookup name).isSome

/-- Whether a directive is at least as specific as another that cares about the
same event. -/
def isAsSpecificAs (first second : Directive) : Bool :=
  second.source.length < first.source.length ||
    second.source.length == first.source.length &&
      decide (second.value.getD "" ≤ first.value.getD "")

/-! ## Reading directives -/

/-- The verbosity that a word or a number names. -/
def verbosity? (word : List Char) : Option Nat :=
  match Count.read? word with
  | some count => if count.value ≤ Level.trace.verbosity then some count.value else none
  | none =>
    if word.isEmpty then some Level.error.verbosity
    else
      let label := String.ofList (word.map Char.toUpper)
      if label = "OFF" then some 0
      else
        ([.error, .warn, .info, .debug, .trace] : List Level).find? (·.label = label)
          |>.map Level.verbosity

/-- Whether a text may be what a value is compared with. -/
def isComparand (text : List Char) : Bool := (Binary64.read? text).isSome || isPattern text

/-- The directive with the level that the rest of its text gives it.  The level is what
is behind so many bytes of the whole text. -/
def withLevel (directive : Directive) (whole : List Char) (start : Nat) :
    List Char → Option Directive
  | [] => some directive
  | '=' :: _ =>
    match Text.behind (start + 1) whole with
    | [] => some directive
    | level => do return { directive with verbosity := ← verbosity? level }
  | _ => none

/-- The directive that asks for a named value, and for what it is if that is given. -/
def withValue (directive : Directive) (text : List Char) : Option Directive :=
  let directive := { directive with value := some (String.ofList (text.takeWhile (· ≠ '='))) }
  match text.dropWhile (· ≠ '=') with
  | [] => some directive
  | _ :: comparand =>
    if isComparand (comparand.takeWhile (· ≠ '=')) then some { directive with isVoid := true }
    else none

/-- The directive with what stands behind an opening bracket, which is behind so many
bytes of the whole text. -/
def withSpan (directive : Directive) (whole : List Char) (start : Nat) (text : List Char) :
    Option Directive :=
  let isMark (c : Char) : Bool := c = ']' || c = '\x7b'
  let span := text.takeWhile (!isMark ·)
  let start := start + Text.size span + 1
  let directive := { directive with isVoid := !span.isEmpty }
  match text.dropWhile (!isMark ·) with
  | ']' :: rest => { directive with isVoid := true }.withLevel whole start rest
  | _ :: rest =>
    let field := rest.takeWhile (· ≠ '\x7d')
    match rest.dropWhile (· ≠ '\x7d') with
    | _ :: ']' :: rest =>
      if field.isEmpty then none
      else do
        let size := Text.size field
        let directive ← directive.withValue (Text.within size (Text.behind start whole))
        directive.withLevel whole (start + size + 2) rest
    | _ => none
  | [] => none

/-- Whether a directive may start with a character. -/
def canStart (c : Char) : Bool :=
  Text.isAlphanumeric c || c = '-' || c = ':' || c = '_' || c = '['

/-- Reads one directive.  Blanks around it are passed over when its parts are told
apart, and are there again when they are cut out: with blanks in front, all parts
start that much too early. -/
def read? (whole : List Char) : Option Directive :=
  let text := Text.trimmed whole
  let source := text.takeWhile fun c => c ≠ '=' && c ≠ '['
  let size := Text.size source
  let directive : Directive := { source := String.ofList (Text.within size whole) }
  if !(text.head?.any canStart) then none
  else
    match text.dropWhile fun c => c ≠ '=' && c ≠ '[' with
    | [] =>
      match verbosity? whole with
      | some verbosity => some { verbosity := verbosity }
      | none => some { source := String.ofList whole }
    | '[' :: rest => directive.withSpan whole (size + 1) rest
    | rest => directive.withLevel whole size rest

end Directive

/-- Directives, where a later one replaces an earlier one that is as specific. -/
abbrev Filter := List Directive

namespace Filter

/-- The directive that decides about an event. -/
def deciding? (filter : Filter) (event : Event) : Option Directive :=
  (filter.filter (·.caresAbout event)).foldl (fun best directive =>
    if best.all directive.isAsSpecificAs then some directive else best) none

/-- Whether an event is told. -/
def tells (filter : Filter) (event : Event) : Bool :=
  (filter.deciding? event).any fun directive => event.level.verbosity ≤ directive.verbosity

/-- The filter with the same level for all sources. -/
def ofLevel (level : Level) : Filter := [{ verbosity := level.verbosity }]

/-- Reads a filter.  Without directives it tells of errors only. -/
def read? (text : String) : Option Filter := do
  let directives ← ((text.splitOn ",").filter (· ≠ "")).mapM
    (Directive.read? ·.toList)
  return if directives.isEmpty then ofLevel .error else directives

/-- The filter of a run: the one that is set, if it can be read, and otherwise one
that tells of details only on demand. -/
def choose (setting : Option String) (verbose : Bool) : Filter :=
  (setting.bind read?).getD (ofLevel (if verbose then .debug else .warn))

end Filter

end PackageCoverage.Log

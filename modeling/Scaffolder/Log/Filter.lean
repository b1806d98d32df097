import Scaffolder.Log.Event
import Scaffolder.Log.Pattern
import Scaffolder.Text.Alphanumeric
import Scaffolder.Text.Blank

/-!
# Log filters

Which events are shown. A filter is a comma-separated list of directives. A directive is a
severity, or a target with brackets and a severity, all of which may be missing:

    warn,scaffold_cli=debug,scaffold_cli::cli[{root}]=info

The brackets hold the name of a span, and between braces a field, perhaps with a pattern for its
value. An event needs that field; a directive with a span or with a value speaks of no event,
because no event of this program is in a span.

Of the directives that speak of an event the most specific decides: one with the longer target,
then one with a field. Of two that are equally specific the later one decides. An event that no
directive speaks of is not shown.

- `LogFilter.ofSetting` reads the filter that a user has set, or has not. A single directive that
  cannot be read spoils the filter.
- `LogFilter.shows` tells whether an event is shown.
-/

namespace Scaffolder

/-- What has to be matched by a field: its name, and perhaps a pattern for its value. -/
structure FieldMatch where
  /-- The name of the field. -/
  name : String
  /-- The pattern for its value. -/
  value : Option String
  deriving DecidableEq, Repr

/-- One directive of a filter: up to a rank the events that it speaks of are shown. -/
structure LogDirective where
  /-- The start of the targets it speaks of. Without one it speaks of all targets. -/
  target : Option String := none
  /-- The span it is confined to. -/
  span : Option String := none
  /-- The field that has to be there. -/
  field : Option FieldMatch := none
  /-- The greatest rank that is shown; zero shows nothing. -/
  rank : Nat := Severity.trace.rank
  deriving DecidableEq, Repr

/-- A filter. -/
abbrev LogFilter := List LogDirective

namespace LogDirective

/-! ## Reading -/

/-- The rank that a word stands for: the name of a severity in any case, or its number. -/
def rankOfWord? (word : String) : Option Nat :=
  let digits := if word.toList.head? = some '+' then word.toList.tail else word.toList
  if !digits.isEmpty && digits.all Char.isDigit then
    let rank := Nat.ofDigitChars 10 digits 0
    if rank ≤ Severity.trace.rank then some rank else none
  else
    [("off", 0), ("error", 1), ("warn", 2), ("info", 3), ("debug", 4), ("trace", 5)].lookup
      (String.ofList (word.toList.map Char.toLower))

/-- The rank behind an equals sign. Where nothing is written there everything is shown. -/
def rankOfLevel? (level : List Char) : Option Nat :=
  if level.isEmpty then some Severity.trace.rank else rankOfWord? (String.ofList level)

/-- The parts of a directive, as written. -/
structure Parts where
  /-- What comes first. -/
  name : List Char
  /-- The span between the brackets, if there are brackets. -/
  span : Option (List Char) := none
  /-- The field between the braces, if there are braces. -/
  field : Option (List Char) := none
  /-- What comes after the equals sign, if there is one. -/
  level : Option (List Char) := none

/-- The span and the field between brackets, and what follows them. The opening bracket stands just
before. Between braces there has to be something, before them there may be nothing. -/
def brackets? (cs : List Char) : Option (Option (List Char) × Option (List Char) × List Char) :=
  let inSpan := fun c : Char => c ≠ ']' && c ≠ '\x7b'
  let span := cs.takeWhile inSpan
  match cs.dropWhile inSpan with
  | ']' :: rest => some (some span, none, rest)
  | '\x7b' :: rest =>
      let field := rest.takeWhile (· ≠ '\x7d')
      match rest.drop field.length with
      | '\x7d' :: ']' :: rest =>
          if field.isEmpty then none
          else some (if span.isEmpty then none else some span, some field, rest)
      | _ => none
  | _ => none

/-- The parts of a directive. It starts with a letter, a digit, a dash, a colon, an underscore or
an opening bracket. -/
def parts? (cs : List Char) : Option Parts :=
  let inName := fun c : Char => c ≠ '=' && c ≠ '['
  let name := cs.takeWhile inName
  let starts := name.head?.any fun c => "-:_".toList.contains c || Text.isAlphanumeric c
  match cs.dropWhile inName with
  | [] => if starts then some { name } else none
  | '=' :: level => if starts then some { name, level := some level } else none
  | _ :: inside => do
      if !starts && !name.isEmpty then failure
      let (span, field, rest) ← brackets? inside
      match rest with
      | '=' :: level => some { name, span, field, level := some level }
      | _ => if rest.all Text.isBlank then some { name, span, field } else none

/-- What a field has to match. The name ends at the first equals sign, the pattern at the next. -/
def fieldOf? (cs : List Char) : Option FieldMatch :=
  let name := String.ofList (cs.takeWhile (· ≠ '='))
  match cs.dropWhile (· ≠ '=') with
  | [] => some ⟨name, none⟩
  | _ :: rest =>
      let value := rest.takeWhile (· ≠ '=')
      if Pattern.isPattern value then some ⟨name, some (String.ofList value)⟩ else none

/-- The directive that some parts make up. A first part alone is a severity if it can be one, and
a target otherwise. -/
def ofParts? (p : Parts) : Option LogDirective := do
  let field ←
    match p.field with
    | none => some none
    | some field => (fieldOf? field).map some
  match p.span, p.field, p.level with
  | none, none, none =>
      match rankOfWord? (String.ofList p.name) with
      | some rank => some { rank }
      | none => some { target := some (String.ofList p.name) }
  | span, _, level =>
      let rank ←
        match level with
        | none => some Severity.trace.rank
        | some level => rankOfLevel? level
      some
        { target := if p.name.isEmpty then none else some (String.ofList p.name)
          span := span.map String.ofList
          field
          rank }

/-- The directive that some characters write. Behind a blank there is no severity: what is written
there counts as the name of a target, and none starts with a blank. -/
def parse? (cs : List Char) : Option LogDirective := do
  let body := cs.dropWhile Text.isBlank
  let parts ← parts? body
  if body.length = cs.length then ofParts? parts
  else if parts.level.isSome then none
  else some { target := some (String.ofList cs) }

/-! ## Choosing -/

/-- Whether a directive speaks of an event. -/
def covers (d : LogDirective) (e : LogEvent) : Bool :=
  d.span.isNone
    && (d.field.all fun f => f.value.isNone && e.fieldNames.contains f.name)
    && (d.target.all fun target => target.toList.isPrefixOf e.source.target.toList)

/-- Whether a directive is more specific than another that speaks of the same events. -/
def isMoreSpecific (d other : LogDirective) : Bool :=
  let size := fun target : Option String => (target.map fun t => t.utf8ByteSize + 1).getD 0
  if size d.target ≠ size other.target then decide (size other.target < size d.target)
  else
    match d.field, other.field with
    | some f, some g => decide (g.name < f.name)
    | some _, none => true
    | none, _ => false

/-- Of two directives the more specific one, or else the later one. -/
def prevailing (earlier later : LogDirective) : LogDirective :=
  if earlier.isMoreSpecific later then earlier else later

end LogDirective

namespace LogFilter

/-- The filter where none is set, or the one that is set cannot be read. -/
def fallback : LogFilter := [{ rank := Severity.warn.rank }]

/-- The filter that a text writes. An empty one shows errors. -/
def parse? (s : String) : Option LogFilter := do
  let pieces := (s.toList.splitOn ',').filter fun piece => !piece.isEmpty
  if pieces.isEmpty then pure [{ rank := Severity.error.rank }]
  else pieces.mapM LogDirective.parse?

/-- The filter that a user has set, or has not. -/
def ofSetting (setting : Option String) : LogFilter :=
  ((setting.bind parse?).getD fallback)

/-- Whether an event is shown. -/
def shows (f : LogFilter) (e : LogEvent) : Bool :=
  match f.filter fun d => d.covers e with
  | [] => false
  | d :: ds => decide (e.severity.rank ≤ (ds.foldl LogDirective.prevailing d).rank)

end LogFilter

end Scaffolder

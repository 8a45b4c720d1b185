import PostfixCalc.Text.Basic
import PostfixCalc.Calculator.Record

namespace PostfixCalc

namespace LogLevel

/-- All levels, the quietest first. -/
def all : List LogLevel := [off, error, warn, info, debug, trace]

/-- Reads the name of a level, in any case, or its verbosity as a number. -/
def ofText? (s : Text) : Option LogLevel :=
  all.find? fun level => s.map Char.toUpper = level.name ∨ Text.natural? s = some level.verbosity

/-- Reads the level behind an equals sign. Without one all is let through. -/
def ofValue? (s : Text) : Option LogLevel := if s = [] then some trace else ofText? s

end LogLevel

/-- Part of a filter: what it lets through of the records whose target begins with `scope`, and that
hold `field` if it asks for one. It is written `level`, `target`, `target=[level]` or
`[target]"[{" field "}]"["=" [level]]`. -/
structure LogDirective where
  scope : Text
  field : Option Text
  level : LogLevel
  deriving DecidableEq, Repr

namespace LogDirective

def mayBegin (c : Char) : Bool :=
  c.isAlphanum || c == '[' || c == '-' || c == ':' || c == '_'

def isTarget (c : Char) : Bool := c != '=' && c != '['

/-- Reads what may follow a field: blanks, or an equals sign and a level. -/
def readLevel? : Text → Option LogLevel
  | [] => some .trace
  | c :: s =>
    if c = '=' then LogLevel.ofValue? s
    else if (c :: s).all Text.isBlank then some .trace
    else none

/-- Reads what follows `[{`. A field with a value asks for more than a record can answer. -/
def readField? (scope : Text) (s : Text) : Option LogDirective :=
  let field := s.takeWhile (· ≠ '}')
  if field = [] ∨ '=' ∈ field then none
  else
    match s.dropWhile (· ≠ '}') with
    | '}' :: ']' :: rest => (readLevel? rest).map fun level => ⟨scope, some field, level⟩
    | _ => none

/-- Reads what follows the target. Square brackets with a name in them ask for a span around the
record, and no record has one. -/
def readRest? (scope : Text) : Text → Option LogDirective
  | [] => some ⟨scope, none, .trace⟩
  | '=' :: s => (LogLevel.ofValue? s).map fun level => ⟨scope, none, level⟩
  | '[' :: '{' :: s => readField? scope s
  | _ => none

/-- Reads a directive. Without brackets and equals sign it is a level if it can be one. -/
def read? (s : Text) : Option LogDirective :=
  if (s.head?.map mayBegin).getD false then
    match LogLevel.ofText? s with
    | some level => some ⟨[], none, level⟩
    | none => readRest? (s.takeWhile isTarget) (s.dropWhile isTarget)
  else none

def covers (d : LogDirective) (r : Record) : Bool :=
  d.scope.isPrefixOf Record.target && d.field.all (r.fields.contains ·)

/-- Longer scopes are more specific, and of equal scopes the one with a field. -/
def specificity (d : LogDirective) : Nat :=
  2 * d.scope.length + if d.field.isSome then 1 else 0

/-- Whether `d` decides before `e`, given that both cover a record and that `e` was given first. Of
two that are equally specific the name of the field counts, and then the order. -/
def decidesBefore (d e : LogDirective) : Bool :=
  decide (e.specificity < d.specificity) ||
    decide (e.specificity = d.specificity) && !decide (d.field.getD [] < e.field.getD [])

end LogDirective

/-- A filter, as a list of directives in the order they were given. -/
abbrev LogFilter := List LogDirective

namespace LogFilter

/-- Reads directives between commas and passes over what is none. -/
def read (s : Text) : LogFilter := (Text.fields ',' s).filterMap LogDirective.read?

/-- The threshold for a record: what the most specific directive that covers it lets through. -/
def threshold (f : LogFilter) (r : Record) : LogLevel :=
  let better (e d : LogDirective) : LogDirective := if d.decidesBefore e then d else e
  ((f.filter (·.covers r)).foldl better ⟨[], none, .off⟩).level

def passes (f : LogFilter) (r : Record) : Bool :=
  decide (r.level.verbosity ≤ (f.threshold r).verbosity)

end LogFilter

end PostfixCalc

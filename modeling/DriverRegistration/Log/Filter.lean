import DriverRegistration.Log.Pattern
import DriverRegistration.Text.Blank
import DriverRegistration.Text.Letter

/-!
# Log filters

A filter is a list of directives with commas between them.  A directive gives a level to what comes
from targets that begin in some way, from events that have some fields, or from within calls of some
name or with some fields.  Outside of such calls the most specific directive about a target counts;
inside of them an event is also logged if a directive about the call allows it.
-/

namespace DriverRegistration

/-- How much is logged, from nothing to everything. -/
inductive Verbosity where
  | off
  | error
  | warn
  | info
  | debug
  | trace
  deriving DecidableEq, Repr

namespace Verbosity

/-- The names of the levels, in their order. -/
def names : List (String × Verbosity) :=
  [("off", off), ("error", error), ("warn", warn), ("info", info), ("debug", debug),
    ("trace", trace)]

/-- The place of a level in their order. -/
def rank (v : Verbosity) : Nat := (names.map (·.2)).idxOf v

/-- The level of a name, in either case, or of its place in the order. -/
def ofName? (name : String) : Option Verbosity :=
  (names.lookup name.toLower) <|> (place? name.toList).bind ((names.map (·.2))[·]?)
where
  place? (cs : List Char) : Option Nat :=
    let digits := match cs with
      | '+' :: r => r
      | r => r
    if digits ≠ [] && digits.all Char.isDigit then some (Binary64.digitsValue digits) else none

/-- The larger of two levels. -/
def max (a b : Verbosity) : Verbosity := if a.rank < b.rank then b else a

/-- The largest of some levels. -/
def largest (vs : List Verbosity) : Verbosity := vs.foldl max off

end Verbosity

/-- A call whose events may be told apart from others.  It carries no fields. -/
structure LogSpan where
  name : String
  target : String
  level : Verbosity
  deriving DecidableEq, Repr

/-- A field that a directive asks for, with a value or without. -/
structure FieldCondition where
  name : String
  value : Option String
  deriving DecidableEq, Repr

/-- The field that a text asks for; what follows a second equals sign does not count. -/
def FieldCondition.parse? (cs : List Char) : Option FieldCondition :=
  let name := String.ofList (cs.takeWhile (· ≠ '='))
  match cs.dropWhile (· ≠ '=') with
  | [] => if cs = [] then none else some ⟨name, none⟩
  | _ :: r =>
    let value := String.ofList (r.takeWhile (· ≠ '='))
    if Pattern.isValid value then some ⟨name, some value⟩ else none

/-- A level for what a target, a call and fields single out. -/
structure Directive where
  target : Option String := none
  span : Option String := none
  fields : List FieldCondition := []
  level : Verbosity := .trace
  deriving DecidableEq, Repr

namespace Directive

/-! ## Reading -/

/-- Why a directive cannot be read. -/
inductive Fault where
  /-- It is no directive. -/
  | malformed
  /-- A part of it would begin or end inside a character. -/
  | torn
  deriving DecidableEq, Repr

/-- What is being read of a directive, and the byte at which it began. -/
inductive Phase where
  | start
  | word (start : Nat)
  | span (start : Nat)
  | field (start : Nat)
  | afterFields
  | afterSpan
  | level (start : Nat)
  deriving DecidableEq, Repr

/-- A directive that is read as far as the phase says. -/
structure Draft where
  directive : Directive := {}
  phase : Phase := .start

/-- The characters before a byte and those from it on, where it begins a character. -/
def splitAtByte? : Nat → List Char → Option (List Char × List Char)
  | 0, cs => some ([], cs)
  | _ + 1, [] => none
  | n + 1, c :: cs =>
    if c.utf8Size ≤ n + 1 then
      (splitAtByte? (n + 1 - c.utf8Size) cs).map fun (before, rest) => (c :: before, rest)
    else none

/-- The characters from a byte on. -/
def fromByte (cs : List Char) (start : Nat) : Except Fault (List Char) :=
  match splitAtByte? start cs with
  | some (_, rest) => .ok rest
  | none => .error .torn

/-- The characters from one byte up to another. -/
def between (cs : List Char) (start stop : Nat) : Except Fault (List Char) :=
  match splitAtByte? stop cs with
  | some (before, _) => fromByte before start
  | none => .error .torn

/-- Whether a target may begin with a character. -/
def startsTarget (c : Char) : Bool := c = '-' || c = ':' || c = '_' || Text.isLetter c

/-- Take the character at a byte.  What a phase covered is cut from the whole text. -/
def Draft.take (raw : List Char) (d : Draft) (i : Nat) (c : Char) : Except Fault Draft := do
  match d.phase with
  | .start =>
    if c = '[' then return { d with phase := .span (i + 1) }
    else if startsTarget c then return { d with phase := .word i }
    else throw .malformed
  | .word start =>
    if c = '=' || c = '[' then
      let target := String.ofList (← between raw start i)
      return { d with
        directive.target := some target
        phase := if c = '=' then .level (i + 1) else .span (i + 1) }
    else return d
  | .span start =>
    if c = ']' then
      let span := String.ofList (← between raw start i)
      return { d with directive.span := some span, phase := .afterSpan }
    else if c = '\x7b' then
      let span := String.ofList (← between raw start i)
      return { d with
        directive.span := if span = "" then none else some span
        phase := .field (i + 1) }
    else return d
  | .field start =>
    if c = '\x7d' then
      match FieldCondition.parse? (← between raw start i) with
      | some f =>
        return { d with directive.fields := d.directive.fields ++ [f], phase := .afterFields }
      | none => throw .malformed
    else return d
  | .afterFields => if c = ']' then return { d with phase := .afterSpan } else throw .malformed
  | .afterSpan => if c = '=' then return { d with phase := .level (i + 1) } else throw .malformed
  | .level _ => return d

/-- The directive of a whole text. -/
def Draft.finish (raw : List Char) (d : Draft) : Except Fault Directive := do
  match d.phase with
  | .word start =>
    let word := String.ofList (← fromByte raw start)
    match Verbosity.ofName? word with
    | some level => return { d.directive with level }
    | none => return { d.directive with target := some word }
  | .level start =>
    let word := String.ofList (← fromByte raw start)
    if word = "" then return d.directive
    else
      match Verbosity.ofName? word with
      | some level => return { d.directive with level }
      | none => throw .malformed
  | .afterSpan => return d.directive
  | _ => throw .malformed

/-- Take characters from a byte on. -/
def Draft.takeAll (raw : List Char) (d : Draft) (i : Nat) : List Char → Except Fault Draft
  | [] => .ok d
  | c :: cs =>
    match d.take raw i c with
    | .ok d => d.takeAll raw (i + c.utf8Size) cs
    | .error e => .error e

/-- Read a directive.  Blanks around it are passed over, but are part of what is cut. -/
def parse (raw : List Char) : Except Fault Directive :=
  (Draft.takeAll raw {} 0 (Text.trim raw)).bind (Draft.finish raw)

/-! ## What a directive is about -/

/-- Whether a directive can be about an event by itself. -/
def isStatic (d : Directive) : Bool := d.span.isNone && d.fields.all (·.value.isNone)

/-- Whether a directive can be about a call. -/
def isDynamic (d : Directive) : Bool := d.span.isSome || !d.fields.isEmpty

/-- Whether two directives are about the same. -/
def sameSubject (a b : Directive) : Bool :=
  a.target = b.target && a.span = b.span && a.fields = b.fields

/-- Whether a directive is about a target. -/
def coversTarget (d : Directive) (target : String) : Bool :=
  match d.target with
  | none => true
  | some t => t.toList.isPrefixOf target.toList

/-- Whether a directive is about an event with some fields. -/
def coversEvent (d : Directive) (target : String) (fields : List String) : Bool :=
  d.coversTarget target && d.fields.all fun f => fields.contains f.name

/-- Whether a directive is about a call. -/
def coversSpan (d : Directive) (s : LogSpan) : Bool :=
  d.coversTarget s.target && d.fields.isEmpty && d.span.all (· = s.name)

/-- The length of the target, where there is one. -/
def targetRank (d : Directive) : Nat := (d.target.map fun t => t.utf8ByteSize + 1).getD 0

/-- Whether a directive is less specific than another: by its target, then by its fields. -/
def lessSpecific (a b : Directive) : Bool :=
  if a.targetRank ≠ b.targetRank then a.targetRank < b.targetRank
  else if a.fields.length ≠ b.fields.length then a.fields.length < b.fields.length
  else a.fields.map (·.name) < b.fields.map (·.name)

/-- The most specific of some directives, the last of several alike. -/
def mostSpecific? (ds : List Directive) : Option Directive :=
  ds.foldl
    (fun best d =>
      match best with
      | some b => if d.lessSpecific b then some b else some d
      | none => some d) none

end Directive

/-- A list of directives, the last of those about the same counting. -/
structure LogFilter where
  directives : List Directive
  deriving DecidableEq, Repr

namespace LogFilter

/-- The parts of a text between commas. -/
def splitCommas : List Char → List (List Char)
  | [] => [[]]
  | c :: cs =>
    match splitCommas cs with
    | [] => [[c]]
    | part :: parts => if c = ',' then [] :: part :: parts else (c :: part) :: parts

/-- Read a filter; one without directives lets nothing through. -/
def parse (text : String) : Except Directive.Fault LogFilter :=
  (((splitCommas text.toList).filter (· ≠ [])).mapM Directive.parse).map fun ds => ⟨ds⟩

/-- The filter to use: the one that is set, or a standard one if that is malformed.  There is none
if the one that is set is torn. -/
def choose? (set : Option String) (standard : String) : Option LogFilter :=
  match set.map parse with
  | some (.ok f) => some f
  | some (.error .torn) => none
  | _ => (parse standard).toOption

/-- The directives about calls, without those that a later one replaces. -/
def dynamics (f : LogFilter) : List Directive := latest (f.directives.filter (·.isDynamic))
where
  latest : List Directive → List Directive
    | [] => []
    | d :: ds => if ds.any (·.sameSubject d) then latest ds else d :: latest ds

/-- The directives that are about events by themselves. -/
def statics (f : LogFilter) : List Directive := f.directives.filter (·.isStatic)

/-- The most that the filter lets through anywhere.  Values of calls are only known when they are
made, so a directive that asks for one keeps all calls. -/
def ceiling (f : LogFilter) : Verbosity :=
  if f.directives.any fun d => d.fields.any (·.value.isSome) then .trace
  else .largest (f.directives.map (·.level))

/-- Whether a call is followed. -/
def follows (f : LogFilter) (s : LogSpan) : Bool :=
  s.level.rank ≤ f.ceiling.rank &&
    (f.dynamics.any (·.coversSpan s) ||
      match Directive.mostSpecific? (f.statics.filter (·.coversTarget s.target)) with
      | some d => s.level.rank ≤ d.level.rank
      | none => false)

/-- The level of what happens in a call. -/
def spanLevel (f : LogFilter) (s : LogSpan) : Verbosity :=
  if f.follows s then .largest ((f.dynamics.filter (·.coversSpan s)).map (·.level)) else .off

/-- Whether an event of a level is logged, under a target, with some fields and within a call. -/
def allows (f : LogFilter) (span : Option LogSpan) (target : String) (fields : List String)
    (level : Verbosity) : Bool :=
  span.any (fun s => level.rank ≤ (f.spanLevel s).rank) ||
    match Directive.mostSpecific? (f.statics.filter (·.coversEvent target fields)) with
    | some d => level.rank ≤ d.level.rank
    | none => false

end LogFilter

end DriverRegistration

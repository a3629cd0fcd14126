import DriverRegistration.Yaml.Document
import DriverRegistration.Yaml.Scalar

/-!
# Values of documents

The value of a document is composed from its events.  An alias stands for the value of its anchor,
which may be a value that holds the alias, so nesting is limited, and so are the aliases.  A fault
of the text shows only when the events before it are composed.
-/

namespace DriverRegistration.Yaml

/-- The way from the value of a document to a value inside it. -/
inductive ValuePath where
  | root
  | item (parent : ValuePath) (index : Nat)
  | member (parent : ValuePath) (key : String)
  /-- The value of a key that is no scalar. -/
  | unnamed (parent : ValuePath)

namespace ValuePath

/-- The text of a path. -/
def text : ValuePath → String
  | root => "."
  | item p i => p.text ++ s!"[{i}]"
  | member root k => k
  | member p k => p.text ++ "." ++ k
  | unnamed root => "?"
  | unnamed p => p.text ++ ".?"

/-- A value on a path that is refused. -/
def refuse {α : Type} (p : ValuePath) (m : Mark) (reason : String) : Except Fault α :=
  .error { problem := .badValue reason, mark := m, path := some p.text |>.filter (· ≠ ".") }

end ValuePath

/-- A place in a document: the number of the next event, and how many aliases were followed. -/
structure EventPlace where
  next : Nat := 0
  aliases : Nat := 0

namespace Document

/-- How deep collections may be nested. -/
def depthLimit : Nat := 128

/-- How many aliases may be followed for each event. -/
def aliasesPerEvent : Nat := 100

/-- The event at a place. -/
def eventAt (d : Document) (p : EventPlace) : Except Fault Event :=
  match d.events[p.next]? with
  | some e => .ok e
  | none => .error (d.fault.getD { problem := .endOfEvents })

/-- Go to the value of an anchor. -/
def follow (d : Document) (anchor : Nat) (p : EventPlace) : Except Fault EventPlace :=
  if d.events.size * aliasesPerEvent ≤ p.aliases then .error { problem := .repetitionLimit }
  else .ok ⟨(d.anchors.lookup anchor).getD d.events.size, p.aliases + 1⟩

/-- The name of a tag that is one of its own. -/
def ownTag? (tag : Option (List UInt8)) : Option String :=
  match tag with
  | some (0x21 :: octets) => Text.ofUtf8? octets
  | _ => none

/-- The path to the value of a key. -/
def under (path : ValuePath) (key : Event) : ValuePath :=
  match key.kind with
  | .scalar s _ => .member path s
  | _ => .unnamed path

mutual

/-- Compose the value at a place.  `room` says how many collections may be around it, and the fuel
bounds the steps. -/
def value (d : Document) : Nat → Nat → ValuePath → EventPlace → Except Fault (Value × EventPlace)
  | 0, _, _, _ => .error { problem := .endOfEvents }
  | fuel + 1, room, path, p => do
    let e ← d.eventAt p
    match e.kind with
    | .reference anchor =>
      let (v, after) ← value d fuel room path (← d.follow anchor p)
      return (v, { after with next := p.next + 1 })
    | _ =>
      match ownTag? e.tag with
      | none => content d fuel room path p e
      | some "" => path.refuse e.mark "empty YAML tag is not allowed"
      | some tag =>
        let (v, p) ← content d fuel room path p { e with tag := none }
        return (.tagged tag v, p)

/-- Compose the value of an event. -/
def content (d : Document) :
    Nat → Nat → ValuePath → EventPlace → Event → Except Fault (Value × EventPlace)
  | 0, _, _, _, _ => .error { problem := .endOfEvents }
  | fuel + 1, room, path, p, e => do
    let inner : EventPlace := { p with next := p.next + 1 }
    let deeper {α : Type} (f : Nat → Except Fault α) : Except Fault α :=
      match room with
      | 0 => .error { problem := .recursionLimit, mark := e.mark }
      | room + 1 => f room
    match e.kind with
    | .scalar s plain =>
      match scalarOfKind e.tag plain s with
      | .ok v => return (v, inner)
      | .error reason => path.refuse e.mark reason
    | .sequence =>
      let (vs, p) ← deeper fun room => items d fuel room path 0 inner
      return (.list vs, p)
    | .mapping =>
      let (ms, p) ← deeper fun room => members d fuel room path e.mark [] inner
      return (.mapping ms, p)
    | _ => .error { problem := .endOfEvents }

/-- Compose the items of a sequence from one of them on. -/
def items (d : Document) :
    Nat → Nat → ValuePath → Nat → EventPlace → Except Fault (List Value × EventPlace)
  | 0, _, _, _, _ => .error { problem := .endOfEvents }
  | fuel + 1, room, path, index, p => do
    let e ← d.eventAt p
    match e.kind with
    | .sequenceEnd => return ([], { p with next := p.next + 1 })
    | _ =>
      let (v, p) ← value d fuel room (.item path index) p
      let (vs, p) ← items d fuel room path (index + 1) p
      return (v :: vs, p)

/-- Compose the members of a mapping after some others. -/
def members (d : Document) :
    Nat → Nat → ValuePath → Mark → List (Value × Value) → EventPlace →
      Except Fault (List (Value × Value) × EventPlace)
  | 0, _, _, _, _, _ => .error { problem := .endOfEvents }
  | fuel + 1, room, path, start, ms, p => do
    let e ← d.eventAt p
    match e.kind with
    | .mappingEnd => return (ms, { p with next := p.next + 1 })
    | _ =>
      let (k, p) ← value d fuel room path p
      match ms.find? fun m => m.1.same k with
      | some m => path.refuse start ("duplicate entry " ++ m.1.keyName)
      | none =>
        let (v, p) ← value d fuel room (under path e) p
        members d fuel room path start (ms ++ [(k, v)]) p

end

/-- A bound for the steps in a row of the composition of a document. -/
def stepBound (d : Document) : Nat := (depthLimit + 2) * (2 * d.events.size + 8)

/-- The value of a document. -/
def compose (d : Document) : Except Fault Value := do
  let (v, _) ← value d d.stepBound depthLimit .root {}
  match d.fault with
  | some f => .error f
  | none => return v

end Document

end DriverRegistration.Yaml

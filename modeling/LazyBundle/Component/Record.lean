import LazyBundle.Component.Basic
import LazyBundle.Json.Decode

/-!
# Components as records

The form in which components stand in a manifest. Writing gives every field in
the order of its declaration. Reading lets fields be left out that have a
default.
-/

namespace LazyBundle

open Json (Reader)

def Encapsulation.names : List (String × Encapsulation) :=
  [("none", .none), ("shadow", .shadow), ("scoped", .scoped)]

def MemberKind.names : List (String × MemberKind) :=
  [("prop", .prop), ("state", .state), ("method", .method), ("element", .element),
    ("event", .event)]

def PropType.names : List (String × PropType) :=
  [("string", .string), ("number", .number), ("boolean", .boolean), ("any", .any),
    ("unknown", .unknown)]

def ListenTarget.names : List (String × ListenTarget) :=
  [("document", .document), ("window", .window), ("body", .body), ("parent", .parent)]

def nameIn {α : Type} [BEq α] (names : List (String × α)) (a : α) : String :=
  ((names.find? (·.2 == a)).map (·.1)).getD ""

/-! ## Writing -/

def Json.optional {α : Type} (write : α → Json) : Option α → Json
  | none => .null
  | some a => write a

def Member.toJson (m : Member) : Json :=
  .object [
    ("kind", .string (nameIn MemberKind.names m.kind)),
    ("propType", .string (nameIn PropType.names m.propType)),
    ("attribute", Json.optional .string m.attributeName),
    ("reflect", .bool m.reflect),
    ("mutable", .bool m.isMutable)]

def Listener.toJson (l : Listener) : Json :=
  .object [
    ("event", .string l.event),
    ("method", .string l.method),
    ("target", Json.optional (fun t => .string (nameIn ListenTarget.names t)) l.target),
    ("capture", .bool l.capture),
    ("passive", .bool l.passive)]

def Component.toJson (c : Component) : Json :=
  .object [
    ("tagName", .string c.tagName),
    ("encapsulation", .string (nameIn Encapsulation.names c.encapsulation)),
    ("hasSlot", .bool c.hasSlot),
    ("hasMode", .bool c.hasMode),
    ("members", .object (c.members.map fun (name, m) => (name, m.toJson))),
    ("listeners", .list (c.listeners.map Listener.toJson))]

/-! ## Reading -/

def Member.shape : Reader.Shape Member where
  name := "MemberMeta"
  closed := false
  fields := [
    .of "kind" true (Reader.choice MemberKind.names) fun v m => { m with kind := v },
    .of "propType" false (Reader.choice PropType.names) fun v m => { m with propType := v },
    .of "attribute" false (Reader.optional Reader.text) fun v m => { m with attributeName := v },
    .of "reflect" false Reader.bool fun v m => { m with reflect := v },
    .of "mutable" false Reader.bool fun v m => { m with isMutable := v }]
  start := { kind := .prop }

def Member.reader : Reader Member :=
  Reader.record Member.shape

def Listener.shape : Reader.Shape Listener where
  name := "ListenerMeta"
  closed := false
  fields := [
    .of "event" true Reader.text fun v l => { l with event := v },
    .of "method" true Reader.text fun v l => { l with method := v },
    .of "target" false (Reader.optional (Reader.choice ListenTarget.names))
      fun v l => { l with target := v },
    .of "capture" false Reader.bool fun v l => { l with capture := v },
    .of "passive" false Reader.bool fun v l => { l with passive := v }]
  start := { event := "", method := "" }

def Listener.reader : Reader Listener :=
  Reader.record Listener.shape

def Component.shape : Reader.Shape Component where
  name := "ComponentMeta"
  closed := false
  fields := [
    .of "tagName" false Reader.text fun v c => { c with tagName := v },
    .of "encapsulation" false (Reader.choice Encapsulation.names)
      fun v c => { c with encapsulation := v },
    .of "hasSlot" false Reader.bool fun v c => { c with hasSlot := v },
    .of "hasMode" false Reader.bool fun v c => { c with hasMode := v },
    .of "members" false (Reader.dictionary Member.reader) fun v c => { c with members := v },
    .of "listeners" false (Reader.list Listener.reader) fun v c => { c with listeners := v }]
  start := {}

def Component.reader : Reader Component :=
  Reader.record Component.shape

end LazyBundle

import LazyBundle.Component.Basic
import LazyBundle.Json.Basic

/-!
# Encoded components

The form of a component that the loader reads at run time: a list of a number of
flags, the tag, the members by name and the listeners. The members are left out
when there is neither a member nor a listener, the listeners when there is none.
-/

namespace LazyBundle

def flag (set : Bool) (bit : Nat) : Nat :=
  if set then bit else 0

def Encapsulation.flag : Encapsulation → Nat
  | .shadow => 1
  | .scoped => 2
  | .none => 0

def Member.kindFlag (m : Member) : Nat :=
  match m.kind with
  | .prop =>
    match m.propType with
    | .string => 1
    | .number => 2
    | .boolean => 4
    | .any => 8
    | .unknown => 16
  | .state => 32
  | .method => 64
  | .event => 128
  | .element => 256

def Member.flags (m : Member) : Nat :=
  m.kindFlag + LazyBundle.flag m.reflect 512 + LazyBundle.flag m.isMutable 1024

/-- Only a property keeps its attribute. -/
def Member.encode (m : Member) : Json :=
  match m.kind, m.attributeName with
  | .prop, some name => .list [.nat m.flags, .string name]
  | _, _ => .list [.nat m.flags]

def ListenTarget.flag : ListenTarget → Nat
  | .document => 4
  | .window => 8
  | .body => 16
  | .parent => 32

def Listener.flags (l : Listener) : Nat :=
  LazyBundle.flag l.passive 1 + LazyBundle.flag l.capture 2 +
    (l.target.map ListenTarget.flag).getD 0

def Listener.encode (l : Listener) : Json :=
  .list [.nat l.flags, .string l.event, .string l.method]

/-- Slots are moved around only outside a shadow tree. -/
def Component.flags (c : Component) (withSlot : Bool) : Nat :=
  c.encapsulation.flag +
    LazyBundle.flag (withSlot && c.hasSlot && c.encapsulation != .shadow) 4 +
    LazyBundle.flag c.hasMode 32

def Component.keptMembers (c : Component) (withMethods : Bool) : List (String × Member) :=
  c.members.filter fun e => withMethods || e.2.kind != .method

def Component.encode (c : Component) (withMethods withSlot : Bool) : Json :=
  let members := Json.sortEntries ((c.keptMembers withMethods).map fun e => (e.1, e.2.encode))
  let listeners := c.listeners.map Listener.encode
  let optional := match members, listeners with
    | [], [] => []
    | _, [] => [.object members]
    | _, _ => [.object members, .list listeners]
  .list (.nat (c.flags withSlot) :: .string c.tagName :: optional)

end LazyBundle

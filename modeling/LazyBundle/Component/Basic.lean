/-!
# Components

What a build knows about a web component: its tag, how its styles are kept
apart, its members by name and the events it listens to.
-/

namespace LazyBundle

inductive Encapsulation
  | none
  | shadow
  | scoped
deriving DecidableEq, Repr, Inhabited

inductive MemberKind
  | prop
  | state
  | method
  | element
  | event
deriving DecidableEq, Repr, Inhabited

inductive PropType
  | string
  | number
  | boolean
  | any
  | unknown
deriving DecidableEq, Repr, Inhabited

structure Member where
  kind : MemberKind
  propType : PropType := .any
  attributeName : Option String := none
  reflect : Bool := false
  isMutable : Bool := false
deriving DecidableEq, Repr, Inhabited

inductive ListenTarget
  | document
  | window
  | body
  | parent
deriving DecidableEq, Repr, Inhabited

structure Listener where
  event : String
  method : String
  target : Option ListenTarget := none
  capture : Bool := false
  passive : Bool := false
deriving DecidableEq, Repr, Inhabited

/-- The members keep the order of their declaration. -/
structure Component where
  tagName : String := ""
  encapsulation : Encapsulation := .none
  hasSlot : Bool := false
  hasMode : Bool := false
  members : List (String × Member) := []
  listeners : List Listener := []
deriving DecidableEq, Repr, Inhabited

end LazyBundle

import LazyBundle.Json.Decode
import LazyBundle.Literal

/-!
# Reading literals

What the text of a literal means to the engine that runs the code. A plain text
is an expression, in which an entry with the key of the prototype creates no
property. A wrapped text is a string that is parsed, and there every entry
creates one. Of two entries with one key the last counts.
-/

namespace LazyBundle.Literal

/-- Characters that no string literal holds as they are at either language level. -/
def isLineTerminator (c : Char) : Bool :=
  c == '\n' || c == '\r' || c == '\u2028' || c == '\u2029'

def prototypeKey : String := "__proto__"

/-! ## Wrapped and plain texts -/

def wrapped? (text : String) : Option String := do
  let inner ← openingText.toList.isPrefixOf? text.toList
  let body ← closingText.toList.isSuffixOf? inner
  match Json.parse? (String.ofList body) with
  | some (.string s) => pure s
  | _ => none

def decode? (text : String) : Option Json :=
  Json.parse? ((wrapped? text).getD text)

/-! ## Engines -/

/-- A value in the engine: lists, primitives and the own properties of objects. A number is kept as
the numeral that stands in the text, which both forms read alike. -/
inductive Tree
  | null
  | bool (value : Bool)
  | number (value : Json.Numeral)
  | string (value : String)
  | list (items : List Tree)
  | object (properties : List (String × Tree))

mutual

def tree? : Json.Doc → Option Tree
  | .missing _ | .broken _ _ => none
  | .null => some .null
  | .bool b => some (.bool b)
  | .number n => some (.number n)
  | .string t => t.text.toOption.map .string
  | .list items none => (itemTrees? items).map .list
  | .list _ (some _) => none
  | .object entries none => (properties? entries).map fun properties => .object (Json.sortEntries properties)
  | .object _ (some _) => none

def itemTrees? : List Json.Doc → Option (List Tree)
  | [] => some []
  | d :: ds => do
    let t ← tree? d
    let ts ← itemTrees? ds
    pure (t :: ts)

def properties? : List (Json.Token × Json.Doc) → Option (List (String × Tree))
  | [] => some []
  | (key, d) :: es => do
    let key ← key.text.toOption
    let t ← tree? d
    let properties ← properties? es
    pure ((key, t) :: properties)

end

namespace Tree

mutual

/-- What is left of the tree when an entry with the key of the prototype creates no property. -/
def own : Tree → Tree
  | .list items => .list (ownItems items)
  | .object properties => .object (ownProperties properties)
  | .null => .null
  | .bool b => .bool b
  | .number n => .number n
  | .string s => .string s

def ownItems : List Tree → List Tree
  | [] => []
  | t :: ts => t.own :: ownItems ts

def ownProperties : List (String × Tree) → List (String × Tree)
  | [] => []
  | (key, t) :: properties =>
    if key = prototypeKey then ownProperties properties else (key, t.own) :: ownProperties properties

end

mutual

def keys : Tree → List String
  | .list items => itemKeys items
  | .object properties => propertyKeys properties
  | .null => []
  | .bool _ => []
  | .number _ => []
  | .string _ => []

def itemKeys : List Tree → List String
  | [] => []
  | t :: ts => t.keys ++ itemKeys ts

def propertyKeys : List (String × Tree) → List String
  | [] => []
  | (key, t) :: properties => key :: t.keys ++ propertyKeys properties

end

end Tree

def parsed? (text : String) : Option Tree :=
  let document := Json.Document.ofText text
  if document.trailing.isNone then tree? document.value else none

def evaluate? (text : String) : Option Tree :=
  match wrapped? text with
  | some inner => parsed? inner
  | none => (parsed? text).map Tree.own

end LazyBundle.Literal

import LazyBundle.Shell.Script.Glob
import LazyBundle.Shell.Session

/-!
# Expansion

A word is expanded into items: characters, and marks that say where its value
may be split. Items are then cut into fields, and fields with patterns become
the paths that they match.
-/

namespace LazyBundle.Shell

inductive Item
  | char (c : Char) (quoted : Bool)
  /-- Where quotes begin or end. -/
  | mark
  /-- What lies between two values of a list. -/
  | gap
  /-- The front of a stretch that is split, at gaps alone or at separators too. -/
  | opens (gapsOnly : Bool)
  | closes
deriving DecidableEq, Repr

abbrev Field := Glob.Source

namespace Field

def text (f : Field) : Bytes := f.map (·.1)

end Field

/-! ## Fields -/

namespace Splitting

structure State where
  separators : Bytes
  /-- How many fields may still end; the last one takes the rest. -/
  left : Option Nat
  done : List Field := []
  /-- The field that is being built, the latest character first. -/
  current : Field := []
  hasMark : Bool := false
  inside : Bool := false
  gapsOnly : Bool := false
  afterGaps : Bool := false
  /-- Whether blanks were the last thing to end a field. -/
  blanks : Bool := false
  /-- Where the last field is cut off if nothing else comes. -/
  cut : Option Nat := none

def isBlank (c : Char) : Bool := c == ' ' || c == '\t' || c == '\n'

namespace State

def atStart (s : State) : Bool := s.current.isEmpty && !s.hasMark

def add (s : State) (c : Char) (quoted : Bool) : State :=
  { s with current := (c, quoted) :: s.current }

def finish (s : State) : State :=
  { s with done := s.current.reverse :: s.done, current := [], hasMark := false }

/-- A character of a stretch that is split; none stands for a gap. -/
def step (s : State) (c : Option Char) : State :=
  let separates : Bool := match c with
    | none => true
    | some c => !s.gapsOnly && s.separators.contains c
  let blank := separates && (match c with
    | none => true
    | some c => isBlank c)
  let keep (s : State) : State := match c with
    | none => s
    | some c => s.add c false
  if s.left = some 0 then
    if blank then keep { s with cut := some (s.cut.getD s.current.length) }
    else
      keep { s with cut := if separates && s.blanks then s.cut else none, blanks := false }
  else if s.blanks ∧ blank then s
  else if s.blanks then
    let s := { s with blanks := false }
    if separates then s else keep s
  else if separates then
    let s := if s.afterGaps || s.gapsOnly then s else { s with blanks := blank }
    if s.atStart ∧ s.blanks then { s with blanks := false }
    else
      match s.left with
      | some 1 => keep { s with left := some 0, cut := some s.current.length }
      | some n => { s with left := some (n - 1) }.finish
      | none => s.finish
  else keep s

/-- A character that quotes may have taken the meaning from. -/
def stepChar (s : State) (c : Char) (quoted : Bool) : State :=
  let next := s.step (some c)
  match next.current with
  | (d, false) :: more =>
    if quoted && next.current.length == s.current.length + 1 then
      { next with current := (d, true) :: more }
    else next
  | _ => next

def item (s : State) : Item → State
  | .mark => { s with hasMark := true }
  | .opens gapsOnly =>
    { s with inside := true, afterGaps := s.gapsOnly, gapsOnly := gapsOnly, blanks := false }
  | .closes => { s with inside := false }
  | .gap => s.step none
  | .char c quoted => if s.inside then s.stepChar c quoted else s.add c quoted

end State

def fields (separators : Bytes) (left : Option Nat) (items : List Item) : List Field :=
  let s := items.foldl State.item { separators := separators, left := left }
  let s := match s.cut with
    | some n => { s with current := s.current.drop (s.current.length - n) }
    | none => s
  let s := if s.gapsOnly || !s.atStart then s.finish else s
  s.done.reverse

end Splitting

/-! ## Paths -/

def pathParts (f : Field) : List Field :=
  f.foldr (fun p parts =>
    if p.1 = '/' then [] :: parts
    else match parts with
      | [] => [[p]]
      | q :: qs => (p :: q) :: qs) [[]]

def matchingFrom (w : World) : List Field → Place → Bytes → List Bytes
  | [], _, path => [path]
  | part :: parts, place, path =>
    let glob := Glob.parse part
    let slash : Bytes := if parts.isEmpty then [] else ['/']
    if !Glob.isWild glob then
      let name := glob.filterMap fun g => match g with
        | .char c => some c
        | _ => none
      let place := Place.resolve place name
      if parts.isEmpty ∧ !name.isEmpty ∧ (w.found? place).isNone then []
      else matchingFrom w parts place (path ++ name ++ slash)
    else
      let shown := (part.head?.map (·.1)) = some '.'
      let names := ((if shown then [['.'], ['.', '.']] else []) ++ w.namesIn place).filter fun n =>
        Glob.accepts glob n && (shown || n.head? != some '.')
      names.flatMap fun n =>
        let next := Place.resolve place n
        if parts.isEmpty ∨ w.found? next = some .directory then
          matchingFrom w parts next (path ++ n ++ slash)
        else []

def pathsOf (w : World) (directory : Place) (f : Field) : List Bytes :=
  if !Glob.isWild (Glob.parse f) then [f.text]
  else
    let (start, path, rest) : Place × Bytes × Field := match f with
      | ('/', _) :: rest => ([], ['/'], rest)
      | f => (directory, [], f)
    match matchingFrom w (pathParts rest) start path with
    | [] => [f.text]
    | found => found.mergeSort notAfter

/-! ## Parameters -/

inductive Held
  | nothing
  | text (value : Bytes)
  | list (values : List Bytes)
deriving Repr

namespace Session

def optionLetters : List Char := "ubaCEVvxsnmiIfe".toList

def held (s : Session) (name : Bytes) : Held :=
  match name with
  | ['?'] => .text (decimal s.status)
  | ['#'] => .text (decimal s.parameters.length)
  | ['$'] => .text (decimal s.process)
  | ['!'] =>
    match s.background with
    | b :: _ => .text (decimal b.process)
    | [] => .nothing
  | ['-'] => .text (optionLetters.filter s.hasOption)
  | ['@'] | ['*'] => .list s.parameters
  | name =>
    match digits? name with
    | some 0 => .text s.zeroth
    | some n => match s.parameters[n - 1]? with
      | some value => .text value
      | none => .nothing
    | none => match s.value? name with
      | some value => .text value
      | none => .nothing

def joined (s : Session) (values : List Bytes) : Bytes :=
  joinWith (s.separators.take 1) values

end Session

namespace Held

def isNothing : Held → Bool
  | nothing => true
  | _ => false

/-- Whether there is no value, or an empty one where that counts as none. -/
def isMissing (colon : Bool) : Held → Bool
  | nothing => true
  | text value => colon && value.isEmpty
  | list values => colon && values.all List.isEmpty && values.length < 2

/-- The items of a value where fields are split or not. -/
def items (s : Session) (name : Bytes) (splits quoted : Bool) (h : Held) : List Item :=
  let chars (value : Bytes) : List Item := value.map fun c => .char c quoted
  let apart (values : List Bytes) : List Item := ((values.map chars).intersperse [.gap]).flatten
  let whole (value : Bytes) : List Item :=
    if splits && !quoted then .opens false :: chars value ++ [.closes] else chars value
  match h with
  | nothing => []
  | text value => whole value
  | list values =>
    if splits && !quoted then .opens false :: apart values ++ [.closes]
    else if splits && name == ['@'] then
      if values.isEmpty then [] else .opens true :: apart values ++ [.closes]
    else chars (s.joined values)

def mapFirst (f : Bytes → Bytes) : List Bytes → List Bytes
  | [] => []
  | v :: vs => f v :: vs

def mapLast (f : Bytes → Bytes) (vs : List Bytes) : List Bytes :=
  (mapFirst f vs.reverse).reverse

def trim (front long : Bool) (glob : List Glob) (h : Held) : Held :=
  let choose (ns : List Nat) : Nat := (if long then ns.getLast? else ns.head?).getD 0
  let cut (value : Bytes) : Bytes :=
    if front then value.drop (choose (Glob.fronts glob value))
    else value.take (value.length - choose (Glob.backs glob value))
  match h with
  | nothing => nothing
  | text value => text (cut value)
  | list values => list (if front then mapFirst cut values else mapLast cut values)

end Held

/-! ## Words -/

/-- The characters of an expansion that is not split. -/
def fieldOf (items : List Item) : Field :=
  items.filterMap fun i => match i with
    | .char c quoted => some (c, quoted)
    | _ => none

def textOf (items : List Item) : Bytes := (fieldOf items).text

/-- Takes away the quotes that hold nothing but the whole list of parameters. -/
def bareLists : Word → Word
  | .mark :: .parameter ['@'] .none [] true :: .mark :: rest =>
    .parameter ['@'] .none [] true :: bareLists rest
  | p :: rest => p :: bareLists rest
  | [] => []

def homeOf (s : Session) (name : Bytes) : Option Bytes :=
  let home := if name.isEmpty then s.value? (ofText "HOME")
    else if name = ofText "root" then some (ofText "/root")
    else none
  match home with
  | some [] => none
  | home => home

def openTilde (s : Session) (assigns : Bool) (w : Word) : Word :=
  match w with
  | .char '~' false :: rest =>
    let name := rest.takeWhile fun p => match p with
      | .char c false => c != '/' && !(assigns && c == ':')
      | _ => false
    let behind := rest.drop name.length
    let ends : Bool := match behind with
      | [] | .char _ false :: _ => true
      | _ => false
    match (plainText? name).bind (homeOf s) with
    | some home => if ends then home.map (fun c => .char c true) ++ behind else w
    | none => w
  | w => w

/-- The value of an assignment, in which tildes may stand behind colons too. -/
def openTildes (s : Session) (w : Word) : Word :=
  openTilde s true (w.foldr (fun p rest =>
    match p with
    | .char ':' false => p :: openTilde s true rest
    | p => p :: rest) [])

def loosen (items : List Item) : List Item :=
  let (out, isOpen, _) := items.foldl (fun (out, isOpen, inside) i =>
    match i with
    | .char _ false =>
      if inside || isOpen then (i :: out, isOpen, inside) else (i :: .opens false :: out, true, inside)
    | .opens _ => (if isOpen then i :: .closes :: out else i :: out, false, true)
    | .closes => (i :: out, isOpen, false)
    | i => (if isOpen && !inside then i :: .closes :: out else i :: out, isOpen && inside, inside))
    (([] : List Item), false, false)
  (if isOpen then .closes :: out else out).reverse

namespace Run

def workOut (text : Bytes) : Run Bytes := do
  match Sum.value (← get).value? text with
  | .error f => fail (f.message text)
  | .ok (n, given) =>
    for (name, value) in given do
      setVariable name (decimalOf value)
    pure (decimalOf n)

def complainUnset (name : Bytes) (orNull : Bool) : Run Unit :=
  fail (name ++ ofText (if orNull then ": parameter not set or null" else ": parameter not set"))

mutual

/-- The items of a word; `substitute` gives the output of a script. -/
def expandParts (substitute : Script → Run Bytes) (splits : Bool) : List Part → Run (List Item)
  | [] => pure []
  | p :: ps => do
    let first ← expandPart substitute splits p
    let rest ← expandParts substitute splits ps
    pure (first ++ rest)

def expandPart (substitute : Script → Run Bytes) (splits : Bool) : Part → Run (List Item)
  | .char c quoted => pure [.char c quoted]
  | .mark => pure [.mark]
  | .output script quoted => do
    let text ← substitute script
    pure (Held.items (← get) [] splits quoted (.text text))
  | .sum parts quoted => do
    let text := textOf (← expandParts substitute false parts)
    let value ← workOut text
    pure (Held.items (← get) [] splits quoted (.text value))
  | .parameter name change word quoted => do
    let behind : Run (List Item) := do
      let items ← expandParts substitute splits word
      pure (if splits && !quoted then loosen items else items)
    let plain := expandParts substitute false word
    let held := (← get).held name
    let given : Run (List Item) := do pure (held.items (← get) name splits quoted)
    let demanded : Run Unit := do
      if held.isNothing && (← get).hasOption 'u' then complainUnset name false
    match change with
    | .bad => fail (ofText "Bad substitution")
    | .none =>
      demanded
      given
    | .length =>
      demanded
      let s ← get
      let count := match held with
        | .nothing => 0
        | .text value => value.length
        | .list values => (s.joined values).length
      pure (Held.items s [] splits quoted (.text (decimal count)))
    | .otherwise colon =>
      if held.isMissing colon then behind else given
    | .instead colon =>
      if held.isMissing colon then pure [] else behind
    | .assign colon =>
      if held.isMissing colon then
        let value := textOf (← plain)
        checkName name
        setVariable name value
        pure (Held.items (← get) name splits quoted (.text value))
      else given
    | .demand colon =>
      if held.isMissing colon then
        if word.isEmpty then
          complainUnset name colon
          pure []
        else fail (name ++ [':', ' '] ++ textOf (← plain))
      else given
    | .trimFront long => do
      demanded
      let glob := Glob.parse (fieldOf (← plain))
      pure ((held.trim true long glob).items (← get) name splits quoted)
    | .trimBack long => do
      demanded
      let glob := Glob.parse (fieldOf (← plain))
      pure ((held.trim false long glob).items (← get) name splits quoted)

end

def expandFields (substitute : Script → Run Bytes) (w : Word) : Run (List Bytes) := do
  let items ← expandParts substitute true (bareLists (openTilde (← get) false w))
  let s ← get
  let fields := Splitting.fields s.separators none items
  if s.hasOption 'f' then pure (fields.map Field.text)
  else
    let world ← act get
    pure (fields.flatMap (pathsOf world s.directory))

/-- The text that a word stands for where it is not split. -/
def expandText (substitute : Script → Run Bytes) (w : Word) : Run Bytes := do
  return textOf (← expandParts substitute false (openTilde (← get) false w))

def expandPattern (substitute : Script → Run Bytes) (w : Word) : Run (List Glob) := do
  return Glob.parse (fieldOf (← expandParts substitute false (openTilde (← get) false w)))

def expandValue (substitute : Script → Run Bytes) (w : Word) : Run Bytes := do
  return textOf (← expandParts substitute false (openTildes (← get) w))

end Run

end LazyBundle.Shell

import LazyBundle.Json.Basic
import LazyBundle.Toml.Token

/-!
# Settings texts

A text is a sequence of lines that set keys and of headers that open tables. A
table is defined once: a header may fill in a table that only deeper headers
have named, and dotted keys may extend only tables that dotted keys have made.
-/

namespace LazyBundle.Toml

inductive Origin
  /-- Named by a deeper header. -/
  | implied
  /-- Made by a dotted key. -/
  | dotted
  | header
deriving DecidableEq, Repr

/-- A table under construction. Inline tables and lists are closed values. -/
inductive Node
  | value (v : Value)
  | table (origin : Origin) (entries : List (String × Node))
  /-- The tables of a repeated header, the last one first. -/
  | tables (last : List (String × Node)) (earlier : List (List (String × Node)))

abbrev Nodes := List (String × Node)

def setNode (key : String) (node : Node) : Nodes → Nodes
  | [] => [(key, node)]
  | (k, old) :: rest => if k = key then (k, node) :: rest else (k, old) :: setNode key node rest

/-- Changes the table at the end of a path. `byDots` tells a dotted key from a header. -/
def descend (byDots : Bool) (change : Origin → Nodes → Option Nodes) :
    List String → Origin → Nodes → Option Nodes
  | [], origin, nodes => change origin nodes
  | k :: ks, _, nodes =>
    match nodes.lookup k with
    | none => do
      let origin := if byDots then .dotted else .implied
      let sub ← descend byDots change ks origin []
      pure (setNode k (.table origin sub) nodes)
    | some (.table origin sub) => do
      guard (!(byDots && origin == .header))
      let sub ← descend byDots change ks origin sub
      pure (setNode k (.table origin sub) nodes)
    | some (.tables last earlier) => do
      let last ← descend byDots change ks .header last
      pure (setNode k (.tables last earlier) nodes)
    | some (.value _) => none

def assign (path : List String) (node : Node) (nodes : Nodes) : Option Nodes :=
  match path.getLast? with
  | none => none
  | some key =>
    let parents := path.dropLast
    descend true (fun origin table => do
      guard (parents.isEmpty || origin == .dotted)
      guard (table.lookup key).isNone
      pure (setNode key node table)) parents .header nodes

def openTable (path : List String) (nodes : Nodes) : Option Nodes :=
  match path.getLast? with
  | none => none
  | some key =>
    descend false (fun _ table =>
      match table.lookup key with
      | none => some (setNode key (.table .header []) table)
      | some (.table .implied sub) => some (setNode key (.table .header sub) table)
      | some _ => none) path.dropLast .header nodes

def appendTable (path : List String) (nodes : Nodes) : Option Nodes :=
  match path.getLast? with
  | none => none
  | some key =>
    descend false (fun _ table =>
      match table.lookup key with
      | none => some (setNode key (.tables [] []) table)
      | some (.tables last earlier) => some (setNode key (.tables [] (last :: earlier)) table)
      | some _ => none) path.dropLast .header nodes

mutual

def Node.toValue : Node → Value
  | .value v => v
  | .table _ entries => .table (Json.sortEntries (toEntries entries))
  | .tables last earlier =>
    .list ((toTables earlier).reverse ++ [.table (Json.sortEntries (toEntries last))])

def toEntries : List (String × Node) → List (String × Value)
  | [] => []
  | (k, n) :: rest => (k, n.toValue) :: toEntries rest

def toTables : List (List (String × Node)) → List Value
  | [] => []
  | entries :: rest => .table (Json.sortEntries (toEntries entries)) :: toTables rest

end

def toTable (nodes : Nodes) : Table :=
  Json.sortEntries (toEntries nodes)

/-! ## Values -/

mutual

/-- A value; `room` is how deep lists and tables may still lie in it. -/
def value? : Nat → Nat → List Char → Option (Value × List Char)
  | 0, _, _ => none
  | fuel + 1, room, cs =>
    match cs, room with
    | [], _ | '[' :: _, 0 | '\x7b' :: _, 0 => none
    | '[' :: cs, room + 1 => (items? fuel room cs).map fun r => (.list r.1, r.2)
    | '\x7b' :: cs, room + 1 => (pairs? fuel room [] cs).map fun r => (.table (toTable r.1), r.2)
    | c :: _, _ =>
      if c = '"' ∨ c = '\x27' then (string? cs).map fun r => (.string (String.ofList r.1), r.2)
      else
        let (t, rest) := token cs
        (plain? t).map fun v => (v, rest)

def items? : Nat → Nat → List Char → Option (List Value × List Char)
  | 0, _, _ => none
  | fuel + 1, room, cs => do
    match ← skipLines (cs.length + 1) cs with
    | ']' :: rest => pure ([], rest)
    | cs =>
      let (v, rest) ← value? fuel room cs
      match ← skipLines (rest.length + 1) rest with
      | ']' :: rest => pure ([v], rest)
      | ',' :: rest =>
        let (vs, rest) ← items? fuel room rest
        pure (v :: vs, rest)
      | _ => none

/-- The entries of an inline table behind its brace or a comma. Lines may end anywhere but inside
a key. -/
def pairs? : Nat → Nat → Nodes → List Char → Option (Nodes × List Char)
  | 0, _, _, _ => none
  | fuel + 1, room, nodes, cs => do
    match ← skipLines (cs.length + 1) cs with
    | '\x7d' :: rest => pure (nodes, rest)
    | cs =>
      let (path, rest) ← key? cs
      let rest ← expect? '=' (← skipLines (rest.length + 1) rest)
      let (v, rest) ← value? fuel room (← skipLines (rest.length + 1) rest)
      let nodes ← assign path (.value v) nodes
      match ← skipLines (rest.length + 1) rest with
      | '\x7d' :: rest => pure (nodes, rest)
      | ',' :: rest => pairs? fuel room nodes rest
      | _ => none

end

/-! ## Lines -/

structure State where
  root : Nodes
  header : List String

def State.assign (s : State) (path : List String) (v : Value) : Option State := do
  let root ← descend false (fun _ table => Toml.assign path (.value v) table) s.header .header s.root
  pure { s with root }

def line? (s : State) : List Char → Option (State × List Char)
  | '[' :: '[' :: cs => do
    let (path, rest) ← key? (skipSpace cs)
    let rest ← expect? ']' (skipSpace rest)
    let rest ← expect? ']' rest
    pure (⟨← appendTable path s.root, path⟩, rest)
  | '[' :: cs => do
    let (path, rest) ← key? (skipSpace cs)
    let rest ← expect? ']' (skipSpace rest)
    pure (⟨← openTable path s.root, path⟩, rest)
  | cs => do
    let (path, rest) ← key? cs
    let rest ← expect? '=' (skipSpace rest)
    let (v, rest) ← value? (2 * rest.length + 2) depthLimit (skipSpace rest)
    pure (← s.assign path v, rest)

def lines? (fuel : Nat) (s : State) (cs : List Char) : Option Nodes :=
  match fuel with
  | 0 => none
  | fuel + 1 => do
    match ← skipLines (cs.length + 1) cs with
    | [] => pure s.root
    | cs =>
      let (s, rest) ← line? s cs
      match ← skipComment? (skipSpace rest) with
      | [] => pure s.root
      | rest => lines? fuel s (← lineEnd? rest)

/-- The table of a whole text; a byte order mark may stand in front. -/
def parse? (text : String) : Option Table :=
  let cs := match text.toList with
    | '\uFEFF' :: cs => cs
    | cs => cs
  (lines? (cs.length + 1) ⟨[], []⟩ cs).map toTable

end LazyBundle.Toml

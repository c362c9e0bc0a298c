import LazyBundle.Decimal.Binary64
import LazyBundle.Text.Hex

/-!
# Values and their compact text

A value keeps the entries of an object in the order in which they are written.
`sorted` is the form in which every object lists its keys once and in rising
order, the last entry of a repeated key winning. `text` writes a value without
blanks.
-/

namespace LazyBundle

inductive Json
  | null
  | bool (value : Bool)
  | int (value : Int)
  | float (value : Float)
  | string (value : String)
  | list (items : List Json)
  | object (entries : List (String × Json))
deriving Repr, Inhabited, BEq

namespace Json

def nat (n : Nat) : Json :=
  .int n

def insertSorted {α : Type} (key : String) (value : α) : List (String × α) → List (String × α)
  | [] => [(key, value)]
  | (k, v) :: rest =>
    if key = k then (key, value) :: rest
    else if key < k then (key, value) :: (k, v) :: rest
    else (k, v) :: insertSorted key value rest

def sortEntries {α : Type} (entries : List (String × α)) : List (String × α) :=
  entries.foldl (fun sorted e => insertSorted e.1 e.2 sorted) []

mutual

def sorted : Json → Json
  | .list items => .list (sortedItems items)
  | .object entries => .object (sortEntries (sortedValues entries))
  | .null => .null
  | .bool b => .bool b
  | .int n => .int n
  | .float x => .float x
  | .string s => .string s

def sortedItems : List Json → List Json
  | [] => []
  | v :: vs => v.sorted :: sortedItems vs

def sortedValues : List (String × Json) → List (String × Json)
  | [] => []
  | (k, v) :: es => (k, v.sorted) :: sortedValues es

end

/-! ## Text -/

def escapeChar (c : Char) : List Char :=
  if c = '"' then ['\\', '"']
  else if c = '\\' then ['\\', '\\']
  else if c = '\x08' then ['\\', 'b']
  else if c = '\t' then ['\\', 't']
  else if c = '\n' then ['\\', 'n']
  else if c = '\x0c' then ['\\', 'f']
  else if c = '\r' then ['\\', 'r']
  else if c.toNat < 32 then
    ['\\', 'u', '0', '0', Text.hexDigit (c.toNat / 16), Text.hexDigit (c.toNat % 16)]
  else [c]

def stringChars (s : String) : List Char :=
  '"' :: s.toList.flatMap escapeChar ++ ['"']

def intChars : Int → List Char
  | .ofNat n => Nat.toDigits 10 n
  | .negSucc n => '-' :: Nat.toDigits 10 (n + 1)

mutual

def chars : Json → List Char
  | .null => ['n', 'u', 'l', 'l']
  | .bool true => ['t', 'r', 'u', 'e']
  | .bool false => ['f', 'a', 'l', 's', 'e']
  | .int n => intChars n
  | .float x => (Decimal.compactText x).toList
  | .string s => stringChars s
  | .list [] => ['[', ']']
  | .list (v :: vs) => '[' :: v.chars ++ moreItems vs
  | .object [] => ['\x7b', '\x7d']
  | .object ((k, v) :: es) => '\x7b' :: stringChars k ++ ':' :: v.chars ++ moreEntries es

def moreItems : List Json → List Char
  | [] => [']']
  | v :: vs => ',' :: v.chars ++ moreItems vs

def moreEntries : List (String × Json) → List Char
  | [] => ['\x7d']
  | (k, v) :: es => ',' :: stringChars k ++ ':' :: v.chars ++ moreEntries es

end

def text (v : Json) : String :=
  String.ofList v.chars

example : (Json.object [("a", .list [.null, .int (-5)])]).chars
    = ['\x7b', '"', 'a', '"', ':', '[', 'n', 'u', 'l', 'l', ',', '-', '5', ']', '\x7d'] := by
  decide

end Json

end LazyBundle

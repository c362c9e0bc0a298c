import LazyBundle.Mismatch
import LazyBundle.Toml.Document

/-!
# Reading typed settings

Readers from settings to values of a type. A text is read as a whole before any
of its values is looked at; then the first mismatch in the order of the keys is
the error.
-/

namespace LazyBundle.Toml

inductive ReadError
  | malformed
  | mismatch (m : Mismatch)
deriving DecidableEq, Repr

def ReadError.message : ReadError → String
  | malformed => "invalid TOML"
  | mismatch m => m.message

def ReadError.summary : String := "TOML parse error"

abbrev Reader (α : Type) := Value → Except ReadError α

def foundInteger (n : Int) : Option Found :=
  if -Int.pow 2 63 ≤ n ∧ n < Int.pow 2 64 then some (.integer n)
  else if -Int.pow 2 127 ≤ n ∧ n < Int.pow 2 128 then some (.wideInteger n)
  else none

/-- The value as a message names it; dates are read as tables. -/
def Value.found? : Value → Option Found
  | .string s => some (.string s)
  | .integer n => n.bind foundInteger
  | .float text => text.map .float
  | .bool b => some (.bool b)
  | .datetime => some .map
  | .list _ => some .sequence
  | .table _ => some .map

def Value.wrongType (expected : String) (v : Value) : ReadError :=
  match v.found? with
  | some found => .mismatch (.invalidType found expected)
  | none => .malformed

namespace Reader

variable {α : Type}

def bool : Reader Bool
  | .bool b => .ok b
  | v => .error (v.wrongType "a boolean")

def string (expected : String) : Reader String
  | .string s => .ok s
  | v => .error (v.wrongType expected)

def text : Reader String :=
  string "a string"

def word : Reader Nat
  | .integer (some n) =>
    if 0 ≤ n ∧ n < Int.pow 2 64 then .ok n.toNat
    else if -Int.pow 2 63 ≤ n ∧ n < 0 then .error (.mismatch (.invalidValue (.integer n) "usize"))
    else .error ((Value.integer n).wrongType "usize")
  | v => .error (v.wrongType "usize")

def list (read : Reader α) : Reader (List α)
  | .list vs => vs.mapM read
  | v => .error (v.wrongType "a sequence")

def choose (choices : List (String × α)) (name : String) : Except ReadError α :=
  match choices.lookup name with
  | some a => .ok a
  | none => .error (.mismatch (.unknownVariant name (choices.map (·.1))))

/-- A choice is a name, or a table with the name as its only key and nothing below it. -/
def choice (choices : List (String × α)) : Reader α
  | .string s => choose choices s
  | .table [(name, content)] => do
    let a ← choose choices name
    match content with
    | .table [] | .list [] => pure a
    | _ => throw .malformed
  | .table entries => .error (.mismatch (.oneEntryExpected entries.isEmpty))
  | _ => .error (.mismatch .choiceExpected)

/-- A setting of a record `σ`. -/
structure Setting (σ : Type) where
  name : String
  read : σ → Value → Except ReadError σ

def Setting.of {σ β : Type} (name : String) (read : Reader β) (put : β → σ → σ) : Setting σ :=
  ⟨name, fun s v => (read v).map (put · s)⟩

def settings {σ : Type} (known : List (Setting σ)) : σ → Table → Except ReadError σ
  | s, [] => .ok s
  | s, (key, v) :: rest =>
    match known.find? (·.name == key) with
    | none => .error (.mismatch (.unknownField key (known.map (·.name))))
    | some setting => do
      let s ← setting.read s v
      settings known s rest

end Reader

end LazyBundle.Toml

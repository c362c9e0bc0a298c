import LazyBundle.Json.Doc
import LazyBundle.Json.Number
import LazyBundle.Mismatch

/-!
# Reading typed values

Readers from documents to values of a type. A record is read from an object, by
name and in any order, or from a list, by position. The error is the first one
in the order of the text.
-/

namespace LazyBundle.Json

inductive ReadError
  | fault (f : Fault)
  | mismatch (m : Mismatch)
deriving DecidableEq, Repr

def ReadError.message : ReadError → String
  | fault f => f.message
  | mismatch m => m.message

abbrev Reader (α : Type) := Doc → Except ReadError α

def Token.read (t : Token) : Except ReadError String :=
  t.text.mapError .fault

/-- The error for a value that is not of the expected type. -/
def Doc.wrongType (expected : String) : Doc → ReadError
  | .missing f => .fault f
  | .broken _ f => .fault f.whenRead
  | .null => .mismatch (.invalidType .null expected)
  | .bool b => .mismatch (.invalidType (.bool b) expected)
  | .number n =>
    match n.value? with
    | none => .fault .numberTooLarge
    | some (.integer i) => .mismatch (.invalidType (.integer i) expected)
    | some (.float x) => .mismatch (.invalidType (.float (Decimal.compactText x)) expected)
  | .string t =>
    match t.text with
    | .error f => .fault f
    | .ok s => .mismatch (.invalidType (.string s) expected)
  | .list _ _ => .mismatch (.invalidType .sequence expected)
  | .object _ _ => .mismatch (.invalidType .map expected)

namespace Reader

variable {α : Type}

def bool : Reader Bool
  | .bool b => .ok b
  | d => .error (d.wrongType "a boolean")

def string (expected : String) : Reader String
  | .string t => t.read
  | d => .error (d.wrongType expected)

def text : Reader String :=
  string "a string"

/-- A whole number of 64 bits without sign. -/
def word : Reader Nat
  | .number n =>
    match n.value? with
    | some (.integer (.ofNat i)) => .ok i
    | some (.integer i) => .error (.mismatch (.invalidValue (.integer i) "usize"))
    | _ => .error ((Doc.number n).wrongType "usize")
  | d => .error (d.wrongType "usize")

/-- A value, or null for none. What begins like null is read as that. -/
def optional (read : Reader α) : Reader (Option α)
  | .null => .ok none
  | .broken 'n' f => .error (.fault f.whenRead)
  | d => (read d).map some

def readAll (read : Reader α) : List Doc → Except ReadError (List α)
  | [] => .ok []
  | d :: ds => do
    let a ← read d
    let as ← readAll read ds
    pure (a :: as)

def closing (flaw : Option Flaw) : Except ReadError Unit :=
  match flaw with
  | none => .ok ()
  | some f => .error (.fault f.whenRead)

def list (read : Reader α) : Reader (List α)
  | .list items flaw => do
    let as ← readAll read items
    closing flaw
    pure as
  | d => .error (d.wrongType "a sequence")

def insertKey (key : String) (value : α) : List (String × α) → List (String × α)
  | [] => [(key, value)]
  | (k, v) :: rest => if k = key then (k, value) :: rest else (k, v) :: insertKey key value rest

def readEntries (read : Reader α) (known : List (String × α)) :
    List (Token × Doc) → Except ReadError (List (String × α))
  | [] => .ok known
  | (t, d) :: es => do
    let key ← t.read
    let value ← read d
    readEntries read (insertKey key value known) es

def dictionary (read : Reader α) : Reader (List (String × α))
  | .object entries flaw => do
    let result ← readEntries read [] entries
    closing flaw
    pure result
  | d => .error (d.wrongType "a map")

/-! ## Choices -/

def choose (choices : List (String × α)) (name : String) : Except ReadError α :=
  match choices.lookup name with
  | some a => .ok a
  | none => .error (.mismatch (.unknownVariant name (choices.map (·.1))))

/-- A choice is a name, or an object whose only key is the name and whose value is null. Whatever
else begins here is not read any further. -/
def choice (choices : List (String × α)) : Reader α
  | .string t => do choose choices (← t.read)
  | .object ((t, d) :: more) flaw => do
    let a ← choose choices (← t.read)
    match d with
    | .null => pure ()
    | d => throw (d.wrongType "unit")
    match more, flaw with
    | [], none => pure a
    | [], some ⟨.endInObject, .endInObject⟩ => throw (.fault .endInObject)
    | _, _ => throw (.fault .expectedValue)
  | .object [] (some f) => .error (.fault f.whenRead)
  | .missing f => .error (.fault f)
  | _ => .error (.fault .expectedValue)

/-! ## Records -/

/-- A field of a record `σ` that is built up field by field. -/
structure Field (σ : Type) where
  name : String
  required : Bool
  read : σ → Doc → Except ReadError σ

def Field.of {σ β : Type} (name : String) (required : Bool) (read : Reader β) (put : β → σ → σ) :
    Field σ :=
  ⟨name, required, fun s d => (read d).map (put · s)⟩

structure Shape (σ : Type) where
  name : String
  /-- Whether a key that names no field is an error. -/
  closed : Bool
  fields : List (Field σ)
  start : σ

variable {σ : Type}

def byName (shape : Shape σ) (seen : List String) (s : σ) :
    List (Token × Doc) → Except ReadError (List String × σ)
  | [] => .ok (seen, s)
  | (t, d) :: es => do
    let key ← t.read
    match shape.fields.find? (·.name == key) with
    | some field =>
      if key ∈ seen then throw (.mismatch (.duplicateField key))
      let s ← field.read s d
      byName shape (key :: seen) s es
    | none =>
      if shape.closed then throw (.mismatch (.unknownField key (shape.fields.map (·.name))))
      match d.skipFault? with
      | some f => throw (.fault f)
      | none => byName shape seen s es

/-- Reads fields by position; what is left over is returned. -/
def byPosition (expected : String) (flaw : Option Flaw) (index : Nat) (s : σ) :
    List (Field σ) → List Doc → Except ReadError (σ × List Doc)
  | [], ds => .ok (s, ds)
  | field :: fields, [] => do
    closing flaw
    if field.required then throw (.mismatch (.invalidLength index expected))
    byPosition expected flaw (index + 1) s fields []
  | field :: fields, d :: ds => do
    let s ← field.read s d
    byPosition expected flaw (index + 1) s fields ds

def elementCount (n : Nat) : String :=
  if n = 1 then "1 element" else toString n ++ " elements"

def record (shape : Shape σ) : Reader σ
  | .object entries flaw => do
    let (seen, s) ← byName shape [] shape.start entries
    closing flaw
    match shape.fields.find? fun field => field.required && !seen.contains field.name with
    | some field => throw (.mismatch (.missingField field.name))
    | none => pure s
  | .list items flaw => do
    let expected := "struct " ++ shape.name ++ " with " ++ elementCount shape.fields.length
    let (s, rest) ← byPosition expected flaw 0 shape.start shape.fields items
    match rest, flaw with
    | [], none => pure s
    | [], some ⟨.endInList, _⟩ => throw (.fault .endInList)
    | [], some ⟨.trailingComma, _⟩ => throw (.fault .trailingComma)
    | _, _ => throw (.fault .trailingText)
  | d => .error (d.wrongType ("struct " ++ shape.name))

def ofText (read : Reader α) (s : String) : Except ReadError α := do
  let document := Document.ofText s
  let a ← read document.value
  match document.trailing with
  | some f => throw (.fault f)
  | none => pure a

end Reader

/-! ## Untyped values -/

mutual

def Doc.toJson? : Doc → Option Json
  | .missing _ | .broken _ _ => none
  | .null => some .null
  | .bool b => some (.bool b)
  | .number n =>
    match n.value? with
    | some (.integer i) => some (.int i)
    | some (.float x) => some (.float x)
    | none => none
  | .string t => t.text.toOption.map .string
  | .list items none => (items?  items).map .list
  | .list _ (some _) => none
  | .object entries none => (entries? entries).map .object
  | .object _ (some _) => none

def items? : List Doc → Option (List Json)
  | [] => some []
  | d :: ds => do
    let v ← d.toJson?
    let vs ← items? ds
    pure (v :: vs)

def entries? : List (Token × Doc) → Option (List (String × Json))
  | [] => some []
  | (t, d) :: es => do
    let key ← t.text.toOption
    let v ← d.toJson?
    let vs ← entries? es
    pure ((key, v) :: vs)

end

def parse? (s : String) : Option Json :=
  let document := Document.ofText s
  if document.trailing.isNone then document.value.toJson? else none

end LazyBundle.Json

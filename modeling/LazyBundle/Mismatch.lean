import LazyBundle.Text.Quoted

/-!
# Mismatches

How a well-formed value can fail to have the shape that its reader expects,
whatever the text format it comes from.
-/

namespace LazyBundle

inductive Found
  | null
  | bool (value : Bool)
  | integer (value : Int)
  /-- An integer that takes more than 64 bits. -/
  | wideInteger (value : Int)
  | float (text : String)
  | string (value : String)
  | sequence
  | map
deriving DecidableEq, Repr

def Found.text : Found → String
  | null => "null"
  | bool b => "boolean `" ++ toString b ++ "`"
  | integer n => "integer `" ++ toString n ++ "`"
  | wideInteger n => "integer `" ++ toString n ++ (if n < Int.pow 2 127 then "` as i128" else "` as u128")
  | float t => "floating point `" ++ t ++ "`"
  | string s => "string " ++ Text.quote s
  | sequence => "sequence"
  | map => "map"

inductive Mismatch
  | invalidType (found : Found) (expected : String)
  | invalidValue (found : Found) (expected : String)
  | invalidLength (length : Nat) (expected : String)
  | missingField (name : String)
  | duplicateField (name : String)
  | unknownField (name : String) (known : List String)
  | unknownVariant (name : String) (known : List String)
  /-- A choice that is given neither by name nor by a table. -/
  | choiceExpected
  /-- A choice that is given by a table with no entry, or with more than one. -/
  | oneEntryExpected (empty : Bool)
deriving DecidableEq, Repr

namespace Mismatch

def tick (s : String) : String :=
  "`" ++ s ++ "`"

def oneOf : List String → String
  | [] => "there are no fields"
  | [a] => "expected " ++ tick a
  | [a, b] => "expected " ++ tick a ++ " or " ++ tick b
  | names => "expected one of " ++ ", ".intercalate (names.map tick)

def message : Mismatch → String
  | invalidType found expected => "invalid type: " ++ found.text ++ ", expected " ++ expected
  | invalidValue found expected => "invalid value: " ++ found.text ++ ", expected " ++ expected
  | invalidLength n expected => "invalid length " ++ toString n ++ ", expected " ++ expected
  | missingField name => "missing field " ++ tick name
  | duplicateField name => "duplicate field " ++ tick name
  | unknownField name known => "unknown field " ++ tick name ++ ", " ++ oneOf known
  | unknownVariant name known => "unknown variant " ++ tick name ++ ", " ++ oneOf known
  | choiceExpected => "wanted string or table"
  | oneEntryExpected true => "wanted exactly 1 element, found 0 elements"
  | oneEntryExpected false => "wanted exactly 1 element, more than 1 element"

end Mismatch

end LazyBundle

/-!
# Faults of a text

What can be wrong with a text that should hold one value. A reader that wants
the value and a reader that skips it may name the same place differently, so a
`Flaw` carries both names.
-/

namespace LazyBundle.Json

inductive Fault
  | endInValue
  | endInString
  | endInList
  | endInObject
  | expectedValue
  | expectedWord
  | expectedColon
  | expectedItemEnd
  | expectedEntryEnd
  | keyNotString
  | trailingComma
  | trailingText
  | badEscape
  | unfinishedPair
  | lonePair
  | controlCharacter
  | badNumber
  | numberTooLarge
deriving DecidableEq, Repr

namespace Fault

def isEnd : Fault → Bool
  | endInValue | endInString | endInList | endInObject => true
  | _ => false

def message : Fault → String
  | endInValue => "EOF while parsing a value"
  | endInString => "EOF while parsing a string"
  | endInList => "EOF while parsing a list"
  | endInObject => "EOF while parsing an object"
  | expectedValue => "expected value"
  | expectedWord => "expected ident"
  | expectedColon => "expected `:`"
  | expectedItemEnd => "expected `,` or `]`"
  | expectedEntryEnd => "expected `,` or `\x7d`"
  | keyNotString => "key must be a string"
  | trailingComma => "trailing comma"
  | trailingText => "trailing characters"
  | badEscape => "invalid escape"
  | unfinishedPair => "unexpected end of hex escape"
  | lonePair => "lone leading surrogate in hex escape"
  | controlCharacter => "control character (\\u0000-\\u001F) found while parsing a string"
  | badNumber => "invalid number"
  | numberTooLarge => "number out of range"

end Fault

structure Flaw where
  whenRead : Fault
  whenSkipped : Fault
deriving DecidableEq, Repr

def Flaw.both (f : Fault) : Flaw :=
  ⟨f, f⟩

end LazyBundle.Json

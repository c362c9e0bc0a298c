import LazyBundle.Json.Basic
import LazyBundle.Json.Token

/-!
# Documents

A document is a text as far as it can be read: well-formed parts are a tree, and
the first flaw stands in the tree where the text breaks off. Whoever walks the
tree in the order of the text meets a value of the wrong shape and a flaw in the
order in which they occur.
-/

namespace LazyBundle.Json

inductive Doc
  /-- The text breaks off where the value should begin. -/
  | missing (fault : Fault)
  /-- The text breaks off inside the value. -/
  | broken (first : Char) (flaw : Flaw)
  | null
  | bool (value : Bool)
  | number (value : Numeral)
  | string (token : Token)
  | list (items : List Doc) (flaw : Option Flaw)
  | object (entries : List (Token × Doc)) (flaw : Option Flaw)

def isSpace (c : Char) : Bool :=
  c == ' ' || c == '\n' || c == '\t' || c == '\r'

def skipSpace (cs : List Char) : List Char :=
  cs.dropWhile isSpace

def scanWord (first : Char) (word : List Char) (value : Doc) (cs : List Char) :
    Doc × Option (List Char) :=
  match word, cs with
  | [], cs => (value, some cs)
  | _ :: _, [] => (.broken first (.both .endInValue), none)
  | w :: ws, c :: cs =>
    if w = c then scanWord first ws value cs else (.broken first (.both .expectedWord), none)

mutual

/-- One value and what follows it, unless the text is broken inside it. -/
def scanValue : Nat → List Char → Doc × Option (List Char)
  | 0, _ => (.missing .endInValue, none)
  | fuel + 1, cs =>
    match skipSpace cs with
    | [] => (.missing .endInValue, none)
    | 'n' :: cs => scanWord 'n' ['u', 'l', 'l'] .null cs
    | 't' :: cs => scanWord 't' ['r', 'u', 'e'] (.bool true) cs
    | 'f' :: cs => scanWord 'f' ['a', 'l', 's', 'e'] (.bool false) cs
    | '"' :: cs => let r := scanToken cs; (.string r.1, r.2)
    | '[' :: cs =>
      match skipSpace cs with
      | [] => (.list [] (some (.both .endInList)), none)
      | ']' :: cs => (.list [] none, some cs)
      | cs => let r := scanItems fuel cs; (.list r.1 r.2.1, r.2.2)
    | '\x7b' :: cs =>
      match skipSpace cs with
      | [] => (.object [] (some (.both .endInObject)), none)
      | '\x7d' :: cs => (.object [] none, some cs)
      | '"' :: cs => let r := scanEntries fuel cs; (.object r.1 r.2.1, r.2.2)
      | _ => (.object [] (some (.both .keyNotString)), none)
    | '-' :: cs =>
      match scanNumeral true cs with
      | .ok (n, rest) => (.number n, some rest)
      | .error f => (.broken '-' f, none)
    | c :: cs =>
      if c.isDigit then
        match scanNumeral false (c :: cs) with
        | .ok (n, rest) => (.number n, some rest)
        | .error f => (.broken c f, none)
      else (.broken c (.both .expectedValue), none)

/-- The items of a list that is not empty, and the flaw at its end. -/
def scanItems : Nat → List Char → List Doc × Option Flaw × Option (List Char)
  | 0, _ => ([], some (.both .endInList), none)
  | fuel + 1, cs =>
    match scanValue fuel cs with
    | (d, none) => ([d], none, none)
    | (d, some cs) =>
      match skipSpace cs with
      | [] => ([d], some (.both .endInList), none)
      | ']' :: cs => ([d], none, some cs)
      | ',' :: cs =>
        match skipSpace cs with
        | [] => ([d], some (.both .endInValue), none)
        | ']' :: _ => ([d], some ⟨.trailingComma, .expectedValue⟩, none)
        | cs => let r := scanItems fuel cs; (d :: r.1, r.2)
      | _ => ([d], some (.both .expectedItemEnd), none)

def scanEntries : Nat → List Char → List (Token × Doc) × Option Flaw × Option (List Char)
  | 0, _ => ([], some (.both .endInObject), none)
  | fuel + 1, cs =>
    match scanToken cs with
    | (key, none) => ([(key, .missing .endInString)], none, none)
    | (key, some cs) =>
      match skipSpace cs with
      | [] => ([(key, .missing .endInObject)], none, none)
      | ':' :: cs =>
        match scanValue fuel cs with
        | (d, none) => ([(key, d)], none, none)
        | (d, some cs) =>
          match skipSpace cs with
          | [] => ([(key, d)], some (.both .endInObject), none)
          | '\x7d' :: cs => ([(key, d)], none, some cs)
          | ',' :: cs =>
            match skipSpace cs with
            | [] => ([(key, d)], some ⟨.endInValue, .endInObject⟩, none)
            | '"' :: cs => let r := scanEntries fuel cs; ((key, d) :: r.1, r.2)
            | '\x7d' :: _ => ([(key, d)], some ⟨.trailingComma, .keyNotString⟩, none)
            | _ => ([(key, d)], some (.both .keyNotString), none)
          | _ => ([(key, d)], some (.both .expectedEntryEnd), none)
      | _ => ([(key, .missing .expectedColon)], none, none)

end

/-- A whole text: its value, and the fault of what follows the value. -/
structure Document where
  value : Doc
  trailing : Option Fault

/-- Every call of the scanner that does not read a character is followed by one that does. -/
def Document.ofChars (cs : List Char) : Document :=
  match scanValue (2 * cs.length + 1) cs with
  | (d, none) => ⟨d, none⟩
  | (d, some rest) => ⟨d, if skipSpace rest = [] then none else some .trailingText⟩

def Document.ofText (s : String) : Document :=
  ofChars s.toList

mutual

def Doc.skipFault? : Doc → Option Fault
  | .missing f => some f
  | .broken _ f => some f.whenSkipped
  | .null => none
  | .bool _ => none
  | .number _ => none
  | .string t => t.whenSkipped
  | .list items f => (skipItems? items).or (f.map Flaw.whenSkipped)
  | .object entries f => (skipEntries? entries).or (f.map Flaw.whenSkipped)

def skipItems? : List Doc → Option Fault
  | [] => none
  | d :: ds => d.skipFault?.or (skipItems? ds)

def skipEntries? : List (Token × Doc) → Option Fault
  | [] => none
  | (t, d) :: es => (t.whenSkipped.or d.skipFault?).or (skipEntries? es)

end

end LazyBundle.Json

import LazyBundle.Shell.Basic

/-!
# Options of programs

A program has options of one letter, which may stand together behind a dash,
and options with names, which may be cut short as long as they stay apart from
each other. Arguments that are no options are operands.
-/

namespace LazyBundle.Shell

inductive Need
  | nothing
  | argument
  /-- An argument only where it is joined to the option. -/
  | joined
deriving DecidableEq, Repr

structure OptionTable where
  letters : List (Char × Need)
  /-- Names, each with the letter that it means. -/
  names : List (String × Need × Char) := []
  /-- Whether options may stand behind operands. -/
  anywhere : Bool := true
deriving Repr

inductive OptionFault
  | unknownLetter (c : Char)
  | noArgument (c : Char)
  | unknownName (text : Bytes)
  | ambiguous (text : Bytes) (names : List String)
  | needless (name : String)
  | noNamedArgument (name : String)
deriving Repr

def OptionFault.message : OptionFault → Bytes
  | unknownLetter c => ofText "invalid option -- '" ++ [c, '\'']
  | noArgument c => ofText "option requires an argument -- '" ++ [c, '\'']
  | unknownName text => ofText "unrecognized option '--" ++ text ++ ['\'']
  | ambiguous text names =>
    ofText "option '--" ++ text ++ ofText "' is ambiguous; possibilities:" ++
      names.flatMap fun n => ofText (" '--" ++ n ++ "'")
  | needless name => ofText ("option '--" ++ name ++ "' doesn't allow an argument")
  | noNamedArgument name => ofText ("option '--" ++ name ++ "' requires an argument")

structure Chosen where
  options : List (Char × Bytes) := []
  operands : List Bytes := []
  /-- What is wrong behind the options, if anything is. -/
  fault : Option OptionFault := none
deriving Repr

namespace Chosen

def has (c : Chosen) (letter : Char) : Bool :=
  c.options.any (·.1 == letter)

def last? (c : Chosen) (letter : Char) : Option Bytes :=
  (c.options.reverse.find? (·.1 == letter)).map (·.2)

def all (c : Chosen) (letter : Char) : List Bytes :=
  (c.options.filter (·.1 == letter)).map (·.2)

def withOption (c : Chosen) (letter : Char) (argument : Bytes) : Chosen :=
  { c with options := (letter, argument) :: c.options }

end Chosen

namespace OptionTable

def named (t : OptionTable) (text name : Bytes) : Except OptionFault (String × Need × Char) :=
  match t.names.find? fun e => ofText e.1 == name with
  | some e => .ok e
  | none =>
    match t.names.filter fun e => name.isPrefixOf (ofText e.1) with
    | [] => .error (.unknownName text)
    | e :: es =>
      if es.all fun o => o.2 == e.2 then .ok e
      else .error (.ambiguous text ((e :: es).map (·.1)))

/-- The letters behind a dash, up to one that is at fault; tells whether the next argument was
taken. -/
def cluster (t : OptionTable) (next : Option Bytes) :
    Bytes → List (Char × Bytes) × Except OptionFault Bool
  | [] => ([], .ok false)
  | c :: cs =>
    match t.letters.lookup c with
    | none => ([], .error (.unknownLetter c))
    | some .nothing =>
      let (more, took) := cluster t next cs
      ((c, []) :: more, took)
    | some .joined => ([(c, cs)], .ok false)
    | some .argument =>
      if !cs.isEmpty then ([(c, cs)], .ok false)
      else match next with
        | some a => ([(c, a)], .ok true)
        | none => ([], .error (.noArgument c))

/-- An option with a name; tells whether the next argument was taken. -/
def long (t : OptionTable) (next : Option Bytes) (text : Bytes) :
    Except OptionFault ((Char × Bytes) × Bool) := do
  let name := text.takeWhile (· != '=')
  let value := text.dropWhile (· != '=')
  let (full, need, letter) ← t.named text name
  match need, value with
  | .nothing, [] => pure ((letter, []), false)
  | .nothing, _ => throw (.needless full)
  | .joined, value => pure ((letter, value.drop 1), false)
  | .argument, [] =>
    match next with
    | some a => pure ((letter, a), true)
    | none => throw (.noNamedArgument full)
  | .argument, value => pure ((letter, value.drop 1), false)

/-- Reads arguments up to one that is at fault; the flag tells that the first one was taken by an
option. -/
def readFrom (t : OptionTable) : Bool → List Bytes → Chosen
  | _, [] => {}
  | true, _ :: args => readFrom t false args
  | false, arg :: args =>
    match arg with
    | ['-', '-'] => { operands := args }
    | '-' :: '-' :: text =>
      match t.long args.head? text with
      | .error f => { fault := some f }
      | .ok (o, took) => (readFrom t took args).withOption o.1 o.2
    | '-' :: c :: cs =>
      match t.cluster args.head? (c :: cs) with
      | (os, .error f) => { options := os, fault := some f }
      | (os, .ok took) =>
        let more := readFrom t took args
        { more with options := os ++ more.options }
    | operand =>
      if t.anywhere then
        let more := readFrom t false args
        { more with operands := operand :: more.operands }
      else { operands := operand :: args }

def read (t : OptionTable) (args : List Bytes) : Except OptionFault Chosen :=
  let chosen := readFrom t false args
  match chosen.fault with
  | some f => .error f
  | none => .ok chosen

end OptionTable

end LazyBundle.Shell

import LazyBundle.Regex.Machine
import LazyBundle.Shell.Basic

/-!
# Edits

A list of edits is carried out on every line of the input. An edit can be
limited to the lines that an address or a range between two addresses selects.
-/

namespace LazyBundle.Shell.Edit

/-- Lines by their number, their place or their text. An expression that is left out stands for the
one that was used last. -/
inductive Address
  | line (n : Nat)
  | step (first every : Nat)
  | last
  | matching (machine : Option Regex.Machine)
  /-- So many lines on. -/
  | further (n : Nat)
  /-- Up to a line whose number is a multiple. -/
  | multiple (n : Nat)
deriving Inhabited

structure Scope where
  first : Option Address := none
  second : Option Address := none
  negated : Bool := false
deriving Inhabited

structure Casing where
  /-- Whether letters become large ones, or small ones. -/
  all : Option Bool := none
  next : Option Bool := none
deriving DecidableEq, Repr, Inhabited

inductive ImagePart
  | text (cs : Bytes)
  | group (n : Nat)
  /-- All letters from here on. -/
  | casing (upper : Option Bool)
  /-- The next letter alone. -/
  | casingNext (upper : Bool)
deriving DecidableEq, Repr, Inhabited

structure Substitution where
  machine : Option Regex.Machine
  image : List ImagePart
  /-- The first match that is replaced. -/
  start : Nat := 1
  /-- Whether the matches after that are replaced too. -/
  all : Bool := false
  /-- Whether the result is carried out as a command. -/
  runs : Bool := false
  /-- Whether the result is printed, before it is carried out or after. -/
  printsBefore : Bool := false
  printsAfter : Bool := false
  target : Option Bytes := none
deriving Inhabited

inductive Condition
  | always
  | replaced
  | notReplaced
deriving DecidableEq, Repr, Inhabited

inductive Action
  /-- A block that ends before a position. -/
  | block (stop : Nat)
  | nothing
  | jump (condition : Condition) (target : Nat)
  | append (text : Bytes)
  | insert (text : Bytes)
  | change (text : Bytes)
  | delete
  | deleteFirst
  | number
  | fileName
  | get
  | getMore
  | hold
  | holdMore
  | exchange
  | show (width : Option Nat)
  | next
  | nextMore
  | print
  | printFirst
  | quit (code : Nat)
  | quitSilently (code : Nat)
  | readFile (name : Bytes)
  /-- Writes a file at once. -/
  | readBefore (name : Bytes)
  | readLine (name : Bytes)
  | substitute (s : Substitution)
  | transliterate (table : List (Char × Char))
  | write (name : Bytes)
  | writeFirst (name : Bytes)
  | clear
  | run (text : Bytes)
deriving Inhabited

structure Instruction where
  scope : Scope
  action : Action
deriving Inhabited

/-- The edits of all scripts, and whether lines are printed only on demand. -/
structure Script where
  edits : Array Instruction := #[]
  quiet : Bool := false
deriving Inhabited

end LazyBundle.Shell.Edit

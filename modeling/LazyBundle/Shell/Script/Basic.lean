import LazyBundle.Shell.Basic

/-!
# Scripts

A script is a tree of commands. Their words consist of parts that are expanded
when the command runs: characters, values of parameters, outputs of other
scripts and sums.
-/

namespace LazyBundle.Shell

inductive Change
  | none
  | length
  /-- Takes a word where there is no value; a colon counts an empty value as none. -/
  | otherwise (colon : Bool)
  /-- Takes a word where there is a value. -/
  | instead (colon : Bool)
  | demand (colon : Bool)
  | assign (colon : Bool)
  /-- Takes away what matches at the front, the longest or the shortest part. -/
  | trimFront (long : Bool)
  | trimBack (long : Bool)
  | bad
deriving DecidableEq, Repr, Inhabited

inductive Stream
  | read
  | write
  /-- Writes over files even where that is forbidden. -/
  | overwrite
  | append
  | readWrite
deriving DecidableEq, Repr, Inhabited

mutual

inductive Part
  | char (c : Char) (quoted : Bool)
  /-- A place where quotes begin or end. -/
  | mark
  | parameter (name : Bytes) (change : Change) (word : List Part) (quoted : Bool)
  | output (script : Script) (quoted : Bool)
  | sum (parts : List Part) (quoted : Bool)

inductive Redirect
  | file (descriptor : Nat) (stream : Stream) (name : List Part)
  | copy (descriptor : Nat) (from_ : List Part)
  /-- A document that stands in the script. -/
  | document (descriptor : Nat) (index : Nat)

inductive Arm
  | mk (patterns : List (List Part)) (body : Script)

inductive Script
  | nothing
  | simple (line : Nat) (assignments : List (List Part)) (words : List (List Part))
      (redirects : List Redirect)
  | pipe (stages : List Script) (background : Bool)
  | sequence (first second : Script)
  | both (first second : Script)
  | either (first second : Script)
  | negated (script : Script)
  | subshell (line : Nat) (body : Script) (redirects : List Redirect)
  | background (line : Nat) (body : Script) (redirects : List Redirect)
  | redirected (line : Nat) (body : Script) (redirects : List Redirect)
  | choose (condition yes no : Script)
  | loop (while_ : Bool) (condition body : Script)
  | forEach (line : Nat) (name : Bytes) (words : List (List Part)) (body : Script)
  | select (line : Nat) (word : List Part) (arms : List Arm)
  | define (line : Nat) (name : Bytes) (body : Script)

end

instance : Inhabited Part := ⟨.mark⟩

instance : Inhabited Script := ⟨.nothing⟩

abbrev Word := List Part

structure Document where
  parts : Word
deriving Inhabited

/-- The characters of a word that has nothing else in it and no quotes. -/
def plainText? (w : Word) : Option Bytes :=
  w.mapM fun p => match p with
    | .char c false => some c
    | _ => none

def isNameStart (c : Char) : Bool := c.isAlpha || c == '_'

def isNameChar (c : Char) : Bool := c.isAlphanum || c == '_'

def isName : Bytes → Bool
  | c :: cs => isNameStart c && cs.all isNameChar
  | [] => false

/-- Whether a parameter has a single character that is no letter for its name. -/
def isSpecial (c : Char) : Bool := "#?$!-*@".contains c || c.isDigit

def specialNames : List Bytes :=
  [".", ":", "break", "continue", "eval", "exec", "exit", "export", "readonly", "return", "set",
    "shift", "times", "trap", "unset"].map ofText

def assignment? (w : Word) : Option (Bytes × Word) :=
  let name := w.takeWhile fun p => match p with
    | .char c false => isNameChar c
    | _ => false
  match plainText? name, w.drop name.length with
  | some text, .char '=' false :: value => if isName text then some (text, value) else none
  | _, _ => none

end LazyBundle.Shell

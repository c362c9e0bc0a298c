/-!
# Language levels

The two levels of the language that a build can produce. Only the older one
needs its code lowered.
-/

namespace LazyBundle

inductive Target
  | es2017
  | es5
deriving DecidableEq, Repr, Inhabited

namespace Target

def all : List Target := [es2017, es5]

def name : Target → String
  | es2017 => "es2017"
  | es5 => "es5"

def isLegacy : Target → Bool
  | es5 => true
  | es2017 => false

def ofName? (s : String) : Option Target :=
  all.find? fun t => t.name == s

/-- Reads a name in any case of the ASCII letters. The error is the name in lower case. -/
def parse (s : String) : Except String Target :=
  match ofName? s.toLower with
  | some t => .ok t
  | none => .error s.toLower

@[simp] theorem ofName?_name (t : Target) : ofName? t.name = some t := by
  cases t <;> decide

end Target

end LazyBundle

import LazyBundle.Shell.Copy

/-!
# Lines and fields

What programs on lines share: how a text splits into lines, and which characters
stand between the fields of a line.
-/

namespace LazyBundle.Shell.Lines

/-- The lines of a text that end in a mark; the last one may lack it. -/
def linesBy (mark : Char) (cs : Bytes) : List Bytes :=
  (splitAfter mark cs).map fun l => if l.getLast? = some mark then l.dropLast else l

def isBlank (c : Char) : Bool := c == ' ' || c == '\t'

/-- What stands between fields that have no separator of their own. -/
def isGap (c : Char) : Bool := isBlank c || c == '\n'

def dropFields : Nat → Bytes → Bytes
  | 0, cs => cs
  | n + 1, cs => dropFields n ((cs.dropWhile isGap).dropWhile fun c => !isGap c)

end LazyBundle.Shell.Lines

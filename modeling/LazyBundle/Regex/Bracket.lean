/-!
# Sets as text

Where a set between brackets ends in the text of an expression, and whether it
looks like the name of a class that lacks its second brackets.
-/

namespace LazyBundle.Regex.Bracket

/-- The characters of a set up to its closing bracket; `depth` goes through the names in it. -/
def insideSet : Nat → Nat → Char → List Char → List Char × List Char
  | 0, _, _, cs => ([], cs)
  | _, _, _, [] => ([], [])
  | fuel + 1, depth, mark, c :: cs =>
    let go (depth : Nat) (mark : Char) :=
      let (text, rest) := insideSet fuel depth mark cs
      (c :: text, rest)
    if c = '\n' then ([], c :: cs)
    else if c = '.' ∨ c = ':' ∨ c = '=' then
      if depth = 1 then go 2 c
      else if depth = 2 ∧ c = mark then go 3 mark
      else go (depth - depth % 2) mark
    else if c = '[' then go (if depth = 0 then 1 else depth) mark
    else if c = ']' then
      if depth = 0 ∨ depth = 1 then ([c], cs)
      else go (if depth = 3 then 0 else depth) mark
    else go (depth - depth % 2) mark

def take (cs : List Char) : List Char × List Char :=
  let (front, cs) := match cs with
    | '^' :: cs => (['^'], cs)
    | cs => ([], cs)
  let (front, cs) := match cs with
    | ']' :: cs => (front ++ [']'], cs)
    | cs => (front, cs)
  let (text, rest) := insideSet (cs.length + 1) 0 ' ' cs
  (front ++ text, rest)

def looksNamed (set : List Char) : Bool :=
  let body := match set with
    | '^' :: cs => cs
    | cs => cs
  body.head? = some ':' && body.getLast? = some ':' && body.any (· != ':') &&
    !(body.contains '[') && !((body.drop 1).dropLast.contains '-')

def setsIn : Nat → List Char → List (List Char)
  | 0, _ => []
  | _, [] => []
  | fuel + 1, '\\' :: _ :: cs => setsIn fuel cs
  | fuel + 1, '[' :: cs =>
    let (text, rest) := take cs
    text.dropLast :: setsIn fuel rest
  | fuel + 1, _ :: cs => setsIn fuel cs

end LazyBundle.Regex.Bracket

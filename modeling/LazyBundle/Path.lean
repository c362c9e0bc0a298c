/-!
# Paths

A path is a text whose segments are separated by slashes. Two paths name the
same file of an in-memory store when their segments agree, whatever their
spelling. `join` puts a name into a directory; an absolute name stands alone.
-/

namespace LazyBundle

structure Path where
  text : String
deriving DecidableEq, Repr, Inhabited

namespace Path

inductive Segment
  | root
  | here
  | up
  | name (chars : List Char)
deriving DecidableEq, Repr

def isAbsolute (p : Path) : Bool :=
  p.text.toList.head? == some '/'

/-- A piece between slashes as a segment; an empty piece and a single dot are none. -/
def segment? (piece : List Char) : Option Segment :=
  if piece = [] ∨ piece = ['.'] then none
  else if piece = ['.', '.'] then some .up
  else some (.name piece)

/-- A dot counts only as the first piece of a relative path. -/
def segmentsOf (chars : List Char) : List Segment :=
  let pieces := chars.splitOn '/'
  let body := pieces.filterMap segment?
  if chars.head? = some '/' then .root :: body
  else if pieces.head? = some ['.'] then .here :: body
  else body

def segments (p : Path) : List Segment :=
  segmentsOf p.text.toList

/-- Whether two spellings name the same file of a store. -/
def Same (p q : Path) : Prop :=
  p.segments = q.segments

instance (p q : Path) : Decidable (p.Same q) :=
  inferInstanceAs (Decidable (p.segments = q.segments))

theorem Same.refl (p : Path) : p.Same p := rfl

theorem Same.symm {p q : Path} (h : p.Same q) : q.Same p := Eq.symm h

theorem Same.trans {p q r : Path} (h : p.Same q) (h' : q.Same r) : p.Same r := Eq.trans h h'

def join (dir : Path) (name : String) : Path :=
  if name.toList.head? = some '/' then ⟨name⟩
  else if dir.text.toList = [] ∨ dir.text.toList.getLast? = some '/' then ⟨dir.text ++ name⟩
  else ⟨dir.text ++ "/" ++ name⟩

/-- Drops the empty and single-dot pieces at the end of a reversed list of pieces. -/
def dropBlanks (pieces : List (List Char)) : List (List Char) :=
  pieces.dropWhile fun piece => piece.isEmpty || piece == ['.']

/-- The path without its last segment; the root and the empty path have none. -/
def parent? (p : Path) : Option Path :=
  match p.text.toList.splitOn '/' with
  | [] => none
  | first :: rest =>
    match dropBlanks rest.reverse with
    | [] => if first.isEmpty then none else some ⟨""⟩
    | _ :: before =>
      let kept := (dropBlanks before).reverse
      if first.isEmpty ∧ kept.isEmpty then some ⟨"/"⟩
      else some ⟨String.ofList (first ++ kept.flatMap ('/' :: ·))⟩

example : (Path.mk "a//b/./").segments = (Path.mk "a/b").segments := by decide

end Path

end LazyBundle

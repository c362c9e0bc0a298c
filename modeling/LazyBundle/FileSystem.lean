import LazyBundle.IoError
import LazyBundle.Path

/-!
# Writing files

The one operation a build needs of a file system, in any monad: write a text
at a path. `writeAll` puts a file into every destination, in order, attempts
all of them, and reports the first refusal.
-/

namespace LazyBundle

inductive WriteError
  | createDirectory (directory : Path) (cause : IoError)
  | writeFile (path : Path) (cause : IoError)
  | refused (path : Path)
  /-- A module writer that refuses a mode. -/
  | refusedMode (mode : String)
deriving DecidableEq, Repr

def WriteError.message : WriteError → String
  | createDirectory directory cause =>
    "Failed to create directory " ++ directory.text ++ ": " ++ cause.message
  | writeFile path cause => "Failed to write " ++ path.text ++ ": " ++ cause.message
  | refused path => "refused to write " ++ path.text
  | refusedMode mode => "writer refused mode " ++ mode

structure FileSystem (m : Type → Type) where
  write : Path → String → m (Except WriteError Unit)

/-- The first error of a list of outcomes, or all their values. -/
def collect {ε α : Type} : List (Except ε α) → Except ε (List α)
  | [] => .ok []
  | .error e :: _ => .error e
  | .ok a :: rest => (collect rest).map (a :: ·)

namespace FileSystem

variable {m : Type → Type} [Monad m]

def writeAll (fs : FileSystem m) (code fileName : String) (destinations : List Path) :
    m (Except WriteError Unit) := do
  let outcomes ← destinations.mapM fun d => fs.write (d.join fileName) code
  pure ((collect outcomes).map fun _ => ())

end FileSystem

section collect

variable {ε α : Type}

@[simp] theorem collect_nil : collect ([] : List (Except ε α)) = .ok [] := rfl

@[simp] theorem collect_ok_cons (a : α) (l : List (Except ε α)) :
    collect (.ok a :: l) = (collect l).map (a :: ·) := rfl

@[simp] theorem collect_error_cons (e : ε) (l : List (Except ε α)) :
    collect (.error e :: l) = .error e := rfl

theorem collect_map_ok (l : List α) : collect (ε := ε) (l.map .ok) = .ok l := by
  induction l with
  | nil => rfl
  | cons a l ih => simp [ih, Except.map]

end collect

end LazyBundle

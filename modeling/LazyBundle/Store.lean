import LazyBundle.FileSystem

/-!
# In-memory store

Files in the order in which their paths were first written. A later write to
the same path replaces the content and keeps place and spelling.
-/

namespace LazyBundle

structure Store where
  entries : List (Path × String) := []
deriving DecidableEq, Repr, Inhabited

namespace Store

/-- Replaces the content of the first entry with the same path, else appends one. -/
def insertEntry (p : Path) (content : String) : List (Path × String) → List (Path × String)
  | [] => [(p, content)]
  | (q, old) :: rest =>
    if q.Same p then (q, content) :: rest else (q, old) :: insertEntry p content rest

def write (s : Store) (p : Path) (content : String) : Store :=
  ⟨insertEntry p content s.entries⟩

def read? (s : Store) (p : Path) : Option String :=
  (s.entries.find? fun e => e.1.Same p).map (·.2)

def paths (s : Store) : List Path :=
  s.entries.map (·.1)

def size (s : Store) : Nat :=
  s.entries.length

def isEmpty (s : Store) : Bool :=
  s.entries.isEmpty

/-- The store as a file system that refuses the locked paths and leaves nothing there. -/
def fileSystem (locked : Path → Bool) : FileSystem (StateM Store) where
  write p content := fun s =>
    if locked p then (.error (.refused p), s) else (.ok (), s.write p content)

/-! ## Look-up after a write -/

theorem find?_insertEntry (p q : Path) (content : String) (l : List (Path × String)) :
    ((insertEntry p content l).find? fun e => e.1.Same q).map (·.2) =
      if p.Same q then some content else (l.find? fun e => e.1.Same q).map (·.2) := by
  induction l with
  | nil => by_cases h : p.Same q <;> simp [insertEntry, h]
  | cons e l ih =>
    obtain ⟨r, old⟩ := e
    simp only [insertEntry]
    by_cases hr : r.Same p
    · rw [if_pos hr]
      by_cases h : p.Same q
      · simp [h, hr.trans h]
      · have hrq : ¬ r.Same q := fun hrq => h (hr.symm.trans hrq)
        simp [h, hrq]
    · rw [if_neg hr]
      by_cases hrq : r.Same q
      · have h : ¬ p.Same q := fun h => hr (hrq.trans h.symm)
        simp [h, hrq]
      · simp only [List.find?_cons, hrq, decide_false]
        exact ih

/-- A write decides what its path and all other spellings of it hold, and nothing else. -/
theorem read?_write (s : Store) (p q : Path) (content : String) :
    (s.write p content).read? q = if p.Same q then some content else s.read? q :=
  find?_insertEntry p q content s.entries

@[simp] theorem read?_empty (q : Path) : (Store.mk []).read? q = none := rfl

theorem isEmpty_iff (s : Store) : s.isEmpty ↔ s.size = 0 := by
  simp [isEmpty, size, List.isEmpty_iff]

end Store

end LazyBundle

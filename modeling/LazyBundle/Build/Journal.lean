import LazyBundle.ModuleWriter

/-!
# Journals

A journal lists the calls that a build makes to its file system and to its module
writer, in order, each with its refusal if there was one. Recording adds the
journal to the state that the calls work on; outcomes and state stay the same.
-/

namespace LazyBundle

inductive Call
  | file (path : Path) (content : String)
  | entry (entryKey modeName code : String)
deriving DecidableEq, Repr

structure Attempt where
  call : Call
  refusal : Option WriteError
deriving DecidableEq, Repr

structure Journal (σ : Type) where
  state : σ
  attempts : List Attempt := []

variable {σ α : Type}

def Journal.calls (j : Journal σ) : List Call :=
  j.attempts.map (·.call)

def refusalOf {ε : Type} : Except ε α → Option ε
  | .ok _ => none
  | .error e => some e

section refusalOf

variable {ε β : Type}

theorem refusalOf_bind (x : Except ε α) (y : Except ε β) :
    refusalOf (x.bind fun _ => y) = (refusalOf x).or (refusalOf y) := by
  cases x <;> rfl

theorem refusalOf_map (f : α → β) (x : Except ε α) : refusalOf (x.map f) = refusalOf x := by
  cases x <;> rfl

theorem refusalOf_eq_some_iff {x : Except ε α} {e : ε} : refusalOf x = some e ↔ x = .error e := by
  cases x <;> simp [refusalOf]

theorem refusalOf_eq_none_iff {x : Except ε α} : refusalOf x = none ↔ ∃ a, x = .ok a := by
  cases x <;> simp [refusalOf]

end refusalOf

def Journal.record (call : Call) (action : StateM σ (Except WriteError α)) :
    StateM (Journal σ) (Except WriteError α) := fun j =>
  let r := action.run j.state
  (r.1, ⟨r.2, j.attempts ++ [⟨call, refusalOf r.1⟩]⟩)

def FileSystem.recorded (fs : FileSystem (StateM σ)) : FileSystem (StateM (Journal σ)) where
  write p content := Journal.record (.file p content) (fs.write p content)

def ModuleWriter.recorded (w : ModuleWriter (StateM σ)) : ModuleWriter (StateM (Journal σ)) where
  write destinations entry code mode :=
    Journal.record (.entry entry.entryKey mode code) (w.write destinations entry code mode)
  wait := w.wait

section record

variable (call : Call) (action : StateM σ (Except WriteError α)) (j : Journal σ)

@[simp] theorem Journal.record_result : (Journal.record call action j).1 = (action j.state).1 := rfl

@[simp] theorem Journal.record_state :
    (Journal.record call action j).2.state = (action j.state).2 := rfl

@[simp] theorem Journal.record_attempts :
    (Journal.record call action j).2.attempts =
      j.attempts ++ [⟨call, refusalOf (action j.state).1⟩] := rfl

end record

end LazyBundle

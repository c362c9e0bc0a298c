import LazyBundle.Build.Host

/-!
# Ledgers

A ledger lists what a module writer has given, output by output, with the call
that each came from. Keeping it adds to the state that the calls work on;
outcomes and state stay the same.
-/

namespace LazyBundle

structure Delivery where
  entryModule : EntryModule
  code : String
  modeName : String
  output : ModeOutput
deriving DecidableEq, Repr

structure Ledger (σ : Type) where
  state : σ
  deliveries : List Delivery := []

namespace Ledger

variable {σ : Type}

def delivered (e : EntryModule) (code modeName : String) : Except WriteError ModeOutput → List Delivery
  | .ok output => [⟨e, code, modeName, output⟩]
  | .error _ => []

def files (fs : FileSystem (StateM σ)) : FileSystem (StateM (Ledger σ)) where
  write p content := fun ledger =>
    let r := fs.write p content ledger.state
    (r.1, { ledger with state := r.2 })

def writer (w : ModuleWriter (StateM σ)) : ModuleWriter (StateM (Ledger σ)) where
  write destinations e code modeName := fun ledger =>
    let r := w.write destinations e code modeName ledger.state
    (r.1, ⟨r.2, ledger.deliveries ++ delivered e code modeName r.1⟩)
  wait := w.wait

def host (h : Host (StateM σ)) : Host (StateM (Ledger σ)) where
  stages := h.stages
  files := files h.files
  writer := writer h.writer
  threshold := h.threshold

end Ledger

end LazyBundle

import LazyBundle.Diagnostic
import LazyBundle.Target

/-!
# Stages

The two stages that finish code: lowering to an older language level and
minification. A stage that reports a diagnostic leaves the code as it is, and so
does a minifier without output. No stage fails a build.
-/

namespace LazyBundle

structure Transformed where
  code : String
  diagnostics : Log
deriving DecidableEq, Repr

structure Optimized where
  output : Option String
  diagnostics : Log
deriving DecidableEq, Repr

structure Stages where
  transform : String → Target → Transformed
  optimize : String → Target → Optimized

inductive Unchanged
  | reported (count : Nat)
  | noOutput
deriving DecidableEq, Repr

inductive StageOutcome
  | transformed (code : String)
  | unchanged (reason : Unchanged)
deriving DecidableEq, Repr

def StageOutcome.code (previous : String) : StageOutcome → String
  | transformed code => code
  | unchanged _ => previous

namespace Transformed

def outcome (t : Transformed) : StageOutcome :=
  match t.diagnostics with
  | [] => .transformed t.code
  | ds => .unchanged (.reported ds.length)

end Transformed

namespace Optimized

def outcome (o : Optimized) : StageOutcome :=
  match o.diagnostics, o.output with
  | [], some code => .transformed code
  | [], none => .unchanged .noOutput
  | ds, _ => .unchanged (.reported ds.length)

end Optimized

structure Finished where
  code : String
  diagnostics : Log
deriving DecidableEq, Repr

namespace Stages

def downlevel (s : Stages) (code : String) (target : Target) : Finished :=
  if target.isLegacy then
    let t := s.transform code target
    ⟨t.outcome.code code, t.diagnostics⟩
  else ⟨code, []⟩

def minify (s : Stages) (enabled : Bool) (code : String) (target : Target) : Finished :=
  if enabled then
    let o := s.optimize code target
    ⟨o.outcome.code code, o.diagnostics⟩
  else ⟨code, []⟩

/-- Lowering first, where the target asks for it, then minification of its result. -/
def finish (s : Stages) (code : String) (target : Target) (minified : Bool) : Finished :=
  let lowered := s.downlevel code target
  let small := s.minify minified lowered.code target
  ⟨small.code, lowered.diagnostics ++ small.diagnostics⟩

end Stages

end LazyBundle

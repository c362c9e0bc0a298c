import LazyBundle.Build.Journal
import LazyBundle.Proofs.ReportedStages

/-!
# Commands that fail

A command gives a text when its process starts, takes its input or closes it,
is awaited, ends with success and writes UTF-8. In every other case there is one
error diagnostic, and the stage leaves its code alone. So a build with commands
goes as one whose stages give the same code and have nothing to report
(`run_failSoft`).
-/

namespace LazyBundle

namespace Command

variable (runner : Runner) (c : Command) (code : String) (target : Target)

def Delivers (s : String) : Prop :=
  ∃ program args completion output, c.words = program :: args ∧
    runner program args code target = .ok completion ∧
    (completion.input = .ok () ∨ completion.input = .error .brokenPipe) ∧
    completion.output = .ok output ∧ output.status = .exited 0 ∧ output.stdout = s.toUTF8

theorem isSuccess_iff (status : ExitStatus) : status.isSuccess ↔ status = .exited 0 := by
  unfold ExitStatus.isSuccess
  split
  · exact ⟨fun _ => rfl, fun _ => rfl⟩
  · rename_i hne
    exact ⟨fun h => (by cases h), fun h => absurd h hne⟩

theorem readOutput_eq_ok_iff {program : String} {output : Output} {s : String} :
    readOutput program output = .ok s ↔ output.status = .exited 0 ∧ output.stdout = s.toUTF8 := by
  rw [← isSuccess_iff, ← Text.fromUTF8?_eq_some_iff]
  unfold readOutput
  cases output.status.isSuccess with
  | false => simp
  | true =>
    cases String.fromUTF8? output.stdout with
    | none => simp
    | some s' => simp

/-- The output is judged where the input was taken or the pipe was closed before its end. -/
theorem judge_of_input {program : String} {input : Except IoError Unit} {output : Except IoError Output}
    (h : input = .ok () ∨ input = .error .brokenPipe) :
    judge program (.ok ⟨input, output⟩) = (output.mapError (.notAwaited program)).bind (readOutput program) := by
  rcases h with rfl | rfl <;> cases output <;> rfl

theorem judge_of_lost_input {program : String} {input : Except IoError Unit} {output : Except IoError Output}
    (h : ¬(input = .ok () ∨ input = .error .brokenPipe)) :
    ∃ cause, judge program (.ok ⟨input, output⟩) = .error (.inputLost cause) := by
  cases input with
  | ok u => exact absurd (.inl rfl) h
  | error cause =>
    refine ⟨cause, ?_⟩
    cases cause with
    | brokenPipe => exact absurd (.inr rfl) h
    | _ => rfl

theorem judge_eq_ok_iff {program : String} {outcome : ProcessOutcome} {s : String} :
    judge program outcome = .ok s ↔ ∃ completion output, outcome = .ok completion ∧
      (completion.input = .ok () ∨ completion.input = .error .brokenPipe) ∧
      completion.output = .ok output ∧ output.status = .exited 0 ∧ output.stdout = s.toUTF8 := by
  cases outcome with
  | error cause => exact ⟨fun h => (by cases h), fun ⟨_, _, h, _⟩ => (by cases h)⟩
  | ok completion =>
    obtain ⟨input, output⟩ := completion
    by_cases hinput : input = .ok () ∨ input = .error .brokenPipe
    · rw [judge_of_input hinput]
      refine bind_eq_ok_iff.trans ?_
      simp only [mapError_eq_ok_iff, readOutput_eq_ok_iff]
      constructor
      · rintro ⟨output, rfl, h⟩
        exact ⟨_, output, rfl, hinput, rfl, h⟩
      · rintro ⟨_, output, ⟨⟩, -, rfl, h⟩
        exact ⟨output, rfl, h⟩
    · have hlost : ∃ cause, judge program (.ok ⟨input, output⟩) = .error (.inputLost cause) :=
        judge_of_lost_input hinput
      obtain ⟨cause, hjudge⟩ := hlost
      rw [hjudge]
      refine ⟨fun h => (by cases h), ?_⟩
      rintro ⟨_, _, ⟨⟩, h, -⟩
      exact absurd h hinput

theorem run_eq_ok_iff {s : String} : c.run runner code target = .ok s ↔ c.Delivers runner code target s := by
  obtain ⟨header, words⟩ := c
  unfold run Delivers
  cases words with
  | nil => exact ⟨fun h => (by cases h), fun ⟨_, _, _, _, h, _⟩ => (by cases h)⟩
  | cons program args =>
    simp only [mapError_eq_ok_iff, judge_eq_ok_iff]
    constructor
    · rintro ⟨completion, output, h⟩
      exact ⟨program, args, completion, output, rfl, h⟩
    · rintro ⟨_, _, completion, output, ⟨⟩, h⟩
      exact ⟨completion, output, h⟩

theorem run_error {d : Diagnostic} (h : c.run runner code target = .error d) :
    d.level = .error ∧ d.header = c.header ∧ d.file = none := by
  unfold run at h
  obtain ⟨failure, -, rfl⟩ := mapError_eq_error_iff.mp h
  exact ⟨rfl, rfl, rfl⟩

/-! ## As a transformer and as an optimizer -/

theorem optimize_eq :
    c.optimize runner code target =
      ⟨(c.run runner code target).toOption, (refusalOf (c.run runner code target)).toList⟩ := by
  unfold optimize
  cases c.run runner code target <;> rfl

theorem transform_eq :
    c.transform runner code target =
      ⟨(c.run runner code target).toOption.getD code, (refusalOf (c.run runner code target)).toList⟩ := by
  unfold transform
  cases c.run runner code target <;> rfl

end Command

/-! ## In a build -/

namespace Stages

variable (runner : Runner)

def leftBy (header : String) (words : Option (List String)) (code : String) (target : Target) : String :=
  match words with
  | none => code
  | some words => ((Command.mk header words).run runner code target).toOption.getD code

def reportedBy (header : String) (words : Option (List String)) (code : String) (target : Target) : Log :=
  match words with
  | none => [unavailable header target]
  | some words => (refusalOf ((Command.mk header words).run runner code target)).toList

/-- Stages that leave the same code as commands and report nothing. -/
def unreported (transpile minify : Option (List String)) : Stages where
  transform code target := ⟨leftBy runner "Transpile" transpile code target, []⟩
  optimize code target := ⟨some (leftBy runner "Minify" minify code target), []⟩

variable (transpile minify : Option (List String)) (code : String) (target : Target) (minified : Bool)

theorem downlevel_ofCommands :
    (ofCommands runner transpile minify).downlevel code target =
      if target.isLegacy then
        ⟨leftBy runner "Transpile" transpile code target, reportedBy runner "Transpile" transpile code target⟩
      else ⟨code, []⟩ := by
  unfold downlevel
  congr 1
  simp only [Transformed.code_outcome, ofCommands, transformWith]
  cases transpile with
  | none => rfl
  | some words =>
    simp only [Command.transform_eq, leftBy, reportedBy]
    cases (Command.mk "Transpile" words).run runner code target <;> rfl

theorem minify_ofCommands :
    (ofCommands runner transpile minify).minify minified code target =
      if minified then
        ⟨leftBy runner "Minify" minify code target, reportedBy runner "Minify" minify code target⟩
      else ⟨code, []⟩ := by
  unfold Stages.minify
  congr 1
  simp only [Optimized.code_outcome, ofCommands, optimizeWith]
  cases minify with
  | none => rfl
  | some words =>
    simp only [Command.optimize_eq, leftBy, reportedBy]
    cases (Command.mk "Minify" words).run runner code target <;> rfl

theorem finish_ofCommands :
    (ofCommands runner transpile minify).finish code target minified =
      let lowered := if target.isLegacy then leftBy runner "Transpile" transpile code target else code
      { code := if minified then leftBy runner "Minify" minify lowered target else lowered
        diagnostics := (if target.isLegacy then reportedBy runner "Transpile" transpile code target else []) ++
          if minified then reportedBy runner "Minify" minify lowered target else [] } := by
  simp only [finish, downlevel_ofCommands, minify_ofCommands]
  cases target.isLegacy <;> cases minified <;> rfl

theorem code_finish_unreported :
    ((unreported runner transpile minify).finish code target minified).code =
      ((ofCommands runner transpile minify).finish code target minified).code := by
  rw [finish_ofCommands]
  unfold finish downlevel Stages.minify
  cases target.isLegacy <;> cases minified <;> rfl

end Stages

/-- A command gives a text exactly when its process goes well, and else one error diagnostic with its
header. As a transformer and as an optimizer it does the same to the code and reports the same. Finished code is
what the commands leave, and nothing that they report has an influence on a build. -/
theorem Command.run_failSoft {σ : Type} (runner : Runner) (c : Command) (code : String) (target : Target)
    (minified : Bool) (transpile minify : Option (List String)) (config : Config) (host : Host (StateM σ))
    (modules : List EntryModule) (artifacts : List Artifact) (s : σ) :
    let result := c.run runner code target
    let transformed := c.transform runner code target
    let optimized := c.optimize runner code target
    let stages := Stages.ofCommands runner transpile minify
    let lowered := if target.isLegacy then Stages.leftBy runner "Transpile" transpile code target else code
    let run := fun stages : Stages => Build.generate ⟨config, { host with stages := stages }⟩ modules artifacts s
    (∀ text, result = .ok text ↔ c.Delivers runner code target text) ∧
    ((∃ text, result = .ok text) ∨
      ∃ d, result = .error d ∧ d.level = .error ∧ d.header = c.header ∧ d.file = none) ∧
    (optimized.output = result.toOption ∧ transformed.code = optimized.output.getD code ∧
      optimized.diagnostics = (refusalOf result).toList ∧ transformed.diagnostics = optimized.diagnostics) ∧
    stages.finish code target minified =
      { code := if minified then Stages.leftBy runner "Minify" minify lowered target else lowered
        diagnostics :=
          (if target.isLegacy then Stages.reportedBy runner "Transpile" transpile code target else []) ++
          if minified then Stages.reportedBy runner "Minify" minify lowered target else [] } ∧
    (run stages).1.result = (run (.unreported runner transpile minify)).1.result ∧
    (run stages).2 = (run (.unreported runner transpile minify)).2 := by
  intro result transformed optimized stages lowered run
  refine ⟨fun _ => c.run_eq_ok_iff runner code target, ?_, ?_, ?_, ?_⟩
  · cases h : result with
    | ok text => exact .inl ⟨text, rfl⟩
    | error d => exact .inr ⟨d, rfl, c.run_error runner code target h⟩
  · unfold optimized transformed
    rw [c.optimize_eq, c.transform_eq]
    exact ⟨rfl, rfl, rfl, rfl⟩
  · exact Stages.finish_ofCommands runner transpile minify code target minified
  · let b : Build (StateM σ) := ⟨config, { host with stages := stages }⟩
    have hany : Log.Additive fun _ _ => True := ⟨fun _ => trivial, fun _ _ => trivial⟩
    have hcode : ∀ code, (b.finish code).code =
        ((b.refinished config.target config.minify (.unreported runner transpile minify)).finish code).code := by
      intro code
      exact (Stages.code_finish_unreported runner transpile minify code config.target config.minify).symm
    obtain ⟨hmatches, hstate⟩ := Build.generate_refinished hany hcode (fun _ => trivial) modules artifacts s
    exact ⟨hmatches.result, hstate⟩

end LazyBundle

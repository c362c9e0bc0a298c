import LazyBundle.Proofs.LoaderData
import LazyBundle.Proofs.Script
import LazyBundle.Store

/-!
# Placeholders

The data take the place of the first placeholder in the code of a core bundle,
and what stands before and after it stays (`inject_of_first`). Code without a
placeholder stays as it is. Empty data for a placeholder at an end of the code
are put in too, but the core bundle then counts as one without placeholder
(`injectLazyData_report`). The data of a build are never empty, so there the
core bundles that count as such are those without placeholder
(`injectLazyData_of_lazyData`).
-/

namespace LazyBundle

namespace Text

/-- A text is cut at the first occurrence of the pattern, and at no other. -/
theorem splitFirst_eq_some_iff {pat s before after : List Char} :
    splitFirst pat s = some (before, after) ↔
      s = before ++ pat ++ after ∧ ∀ b a, s = b ++ pat ++ a → before.length ≤ b.length := by
  constructor
  · intro h
    exact ⟨splitFirst_append h, fun b a => splitFirst_first h⟩
  · rintro ⟨hs, hfirst⟩
    cases hc : splitFirst pat s with
    | none => exact absurd ⟨before, after, hs.symm⟩ (splitFirst_eq_none hc)
    | some parts =>
      obtain ⟨b, a⟩ := parts
      have hs' := splitFirst_append hc
      -- each of the two cuts is the first one, so they are at the same place
      have hlen : b.length = before.length :=
        Nat.le_antisymm (splitFirst_first hc hs) (hfirst b a hs')
      rw [hs, List.append_assoc, List.append_assoc] at hs'
      obtain ⟨rfl, hrest⟩ := List.append_inj hs' hlen.symm
      rw [List.append_cancel_left hrest]

end Text

/-- The first placeholder of a code stands between two parts of it. -/
structure FirstPlaceholder (code before after : String) : Prop where
  eq : code = before ++ placeholder ++ after
  first : ∀ b a, code = b ++ placeholder ++ a → before.length ≤ b.length

theorem splitFirst_placeholder_iff {code before after : String} :
    Text.splitFirst placeholder.toList code.toList = some (before.toList, after.toList) ↔
      FirstPlaceholder code before after := by
  have hcut : ∀ b a : String,
      code.toList = b.toList ++ placeholder.toList ++ a.toList ↔ code = b ++ placeholder ++ a := by
    intro b a
    rw [← String.toList_inj, String.toList_append, String.toList_append]
  rw [Text.splitFirst_eq_some_iff, hcut]
  constructor
  · rintro ⟨heq, hfirst⟩
    refine ⟨heq, ?_⟩
    intro b a h
    have hle := hfirst b.toList a.toList ((hcut b a).mpr h)
    rwa [String.length_toList, String.length_toList] at hle
  · rintro ⟨heq, hfirst⟩
    refine ⟨heq, ?_⟩
    intro b a h
    have hle := hfirst (String.ofList b) (String.ofList a) ((hcut _ _).mp (by simpa using h))
    rwa [← String.length_toList, ← String.length_toList, String.toList_ofList] at hle

/-- Code with a placeholder has a first one. -/
theorem exists_firstPlaceholder {code before after : String} (h : code = before ++ placeholder ++ after) :
    ∃ b a, FirstPlaceholder code b a := by
  cases hs : Text.splitFirst placeholder.toList code.toList with
  | none =>
    have hin : placeholder.toList <:+: code.toList := ⟨before.toList, after.toList, by simp [h]⟩
    exact absurd hin (Text.splitFirst_eq_none hs)
  | some parts =>
    refine ⟨String.ofList parts.1, String.ofList parts.2, splitFirst_placeholder_iff.mp ?_⟩
    simpa using hs

theorem inject_of_first {code before after : String} (h : FirstPlaceholder code before after) (data : String) :
    inject code data =
      if data = "" ∧ (before = "" ∨ after = "") then .missing (before ++ after)
      else .replaced (before ++ data ++ after) := by
  rw [inject, splitFirst_placeholder_iff.mpr h]
  by_cases hdata : data = ""
  · subst hdata
    simp
  · simp [hdata, String.ofList_append, String.append_assoc]

theorem inject_of_absent {code : String} (h : ¬ ∃ before after, code = before ++ placeholder ++ after)
    (data : String) : inject code data = .missing code := by
  rw [inject]
  cases hs : Text.splitFirst placeholder.toList code.toList with
  | none => rfl
  | some parts =>
    have hfirst : FirstPlaceholder code (String.ofList parts.1) (String.ofList parts.2) :=
      splitFirst_placeholder_iff.mp (by simpa using hs)
    exact absurd ⟨_, _, hfirst.eq⟩ h

namespace Build

section

variable {m : Type → Type} (b : Build m)

def unplacedReport (fileName code : String) : Report String :=
  if b.config.requirePlaceholder then { result := .error (.missingPlaceholder fileName), log := [] }
  else
    { result := .ok code,
      log := [{ level := .warning, header := "Lazy bundle data",
                message := "placeholder [/*!__LAZY_BUNDLE_DATA__*/] not found", file := some fileName }],
      unplaced := [fileName] }

theorem injectLazyData_of_missing {core : Artifact} {data code : String} (h : inject core.code data = .missing code) :
    b.injectLazyData core data = b.unplacedReport core.fileName code := by
  have hwarning : unplacedWarning core.fileName =
      { level := .warning, header := "Lazy bundle data",
        message := "placeholder [/*!__LAZY_BUNDLE_DATA__*/] not found", file := some core.fileName } := rfl
  rw [injectLazyData, h, unplacedReport, hwarning]

/-- Data are put in for the first placeholder, and nothing is reported, unless the data are empty and the
placeholder stands at an end of the code. That case and the one of no placeholder are reported alike. -/
theorem injectLazyData_report (core : Artifact) (data : String) :
    (∃ before after, FirstPlaceholder core.code before after ∧
        b.injectLazyData core data =
          if data = "" ∧ (before = "" ∨ after = "") then b.unplacedReport core.fileName (before ++ after)
          else { result := .ok (before ++ data ++ after), log := [] }) ∨
      (¬ ∃ before after, core.code = before ++ placeholder ++ after) ∧
        b.injectLazyData core data = b.unplacedReport core.fileName core.code := by
  by_cases hin : ∃ before after, core.code = before ++ placeholder ++ after
  · left
    obtain ⟨_, _, hcode⟩ := hin
    obtain ⟨before, after, hfirst⟩ := exists_firstPlaceholder hcode
    refine ⟨before, after, hfirst, ?_⟩
    have hinject := inject_of_first hfirst data
    split
    · rename_i hend
      rw [if_pos hend] at hinject
      exact b.injectLazyData_of_missing hinject
    · rename_i hend
      rw [if_neg hend] at hinject
      rw [injectLazyData, hinject]
  · right
    exact ⟨hin, b.injectLazyData_of_missing (inject_of_absent hin data)⟩

/-- With the data of a build, a core bundle counts as one without placeholder exactly when it is one. -/
theorem injectLazyData_of_lazyData {threshold : Nat} {defaultMode : String} {bundles : List Bundle} {data : String}
    (h : Bundle.lazyData threshold defaultMode bundles = .ok data) (core : Artifact) :
    (∃ before after, FirstPlaceholder core.code before after ∧
        b.injectLazyData core data = { result := .ok (before ++ data ++ after), log := [] }) ∨
      (¬ ∃ before after, core.code = before ++ placeholder ++ after) ∧
        b.injectLazyData core data = b.unplacedReport core.fileName core.code := by
  have hne : data ≠ "" := by
    rintro rfl
    exact absurd (Bundle.lazyData_read h).1 (by decide)
  rcases b.injectLazyData_report core data with ⟨before, after, hfirst, hreport⟩ | hnone
  · left
    refine ⟨before, after, hfirst, ?_⟩
    rw [hreport, if_neg (fun hend => hne hend.1)]
  · exact .inr hnone

end

/-- Empty data for a placeholder at the beginning of the code are put in, and yet it is reported that there
is none. -/
theorem injectLazyData_misses_placeholder :
    ¬ ∀ (b : Build (StateM Store)) (core : Artifact) (data before after : String),
      FirstPlaceholder core.code before after →
        b.injectLazyData core data = { result := .ok (before ++ data ++ after), log := [] } := by
  intro h
  have hfirst : FirstPlaceholder "[/*!__LAZY_BUNDLE_DATA__*/];" "" ";" :=
    ⟨by decide +kernel, fun _ _ _ => Nat.zero_le _⟩
  have hreport := h (standard {} .identity (Store.fileSystem fun _ => false) Literal.defaultThreshold)
    ⟨"core.js", "[/*!__LAZY_BUNDLE_DATA__*/];", none, .core⟩ "" "" ";" hfirst
  have hmissing : inject "[/*!__LAZY_BUNDLE_DATA__*/];" "" = .missing ";" := by
    rw [inject_of_first hfirst]
    rfl
  rw [injectLazyData_of_missing _ hmissing] at hreport
  have hlog := congrArg Report.log hreport
  cases hlog

end Build

end LazyBundle

import LazyBundle.Cli.Args
import LazyBundle.Proofs.LastEntry
import LazyBundle.Proofs.Outcomes
import Mathlib.Data.String.Basic

/-!
# Asking for a dry run

What is read from arguments does not depend on whether a dry run is asked for,
apart from the switch itself. So `--dry-run` may be put wherever an option can
stand, and changes nothing else (`parseArgs_dryRun`).
-/

namespace LazyBundle.Cli

def dryRunArg : String := "--dry-run"

def Options.withDryRun (o : Options) (dryRun : Bool) : Options :=
  { o with dryRun }

section withDryRun

variable (o : Options) (dryRun : Bool)

theorem once_withDryRun (given : Bool) :
    once given (o.withDryRun dryRun) = (once given o).map (·.withDryRun dryRun) := by
  cases given <;> rfl

theorem turnOn_withDryRun {s : Switch} (h : s ≠ .dryRun) :
    (o.withDryRun dryRun).turnOn s = (o.turnOn s).map (·.withDryRun dryRun) := by
  cases s with
  | minify => exact once_withDryRun { o with minify := true } dryRun o.minify
  | hash => exact once_withDryRun { o with hash := true } dryRun o.hash
  | dryRun => exact absurd rfl h
  | verbose => rfl
  | help => rfl
  | version => rfl

theorem put_withDryRun (slot : Slot) (value : String) :
    (o.withDryRun dryRun).put slot value = (o.put slot value).map (·.withDryRun dryRun) := by
  unfold Options.put
  split
  · rfl
  · cases slot with
    | manifest => exact once_withDryRun { o with manifest := some ⟨value⟩ } dryRun o.manifest.isSome
    | outDir => rfl
    | config => exact once_withDryRun { o with config := some ⟨value⟩ } dryRun o.config.isSome
    | target =>
      cases Target.ofName? value with
      | none => rfl
      | some target => exact once_withDryRun { o with target := some target } dryRun o.target.isSome

def Reading.withDryRun (r : Reading) (dryRun : Bool) : Reading :=
  (r.1.withDryRun dryRun, r.2)

theorem map_bind_withDryRun {x x' : Except Stop Options} (hx : x' = x.map (·.withDryRun dryRun))
    {f : Options → Except Stop Reading}
    (hf : ∀ o : Options, f (o.withDryRun dryRun) = (f o).map (Reading.withDryRun · dryRun)) :
    x' >>= f = (x >>= f).map (Reading.withDryRun · dryRun) := by
  subst hx
  cases x with
  | error stop => rfl
  | ok o => exact hf o

theorem switchLetters_ne_dryRun {c : Char} {s : Switch} (h : switchLetters.lookup c = some s) : s ≠ .dryRun := by
  rintro rfl
  unfold switchLetters at h
  simp only [List.lookup_cons, List.lookup_nil] at h
  split at h
  · cases h
  split at h
  · cases h
  split at h <;> cases h

theorem readLetters_withDryRun (letters : List Char) :
    readLetters (o.withDryRun dryRun) letters = (readLetters o letters).map (Reading.withDryRun · dryRun) := by
  induction letters generalizing o with
  | nil => rfl
  | cons c letters ih =>
    unfold readLetters
    cases hs : switchLetters.lookup c with
    | some s => exact map_bind_withDryRun dryRun (turnOn_withDryRun o dryRun (switchLetters_ne_dryRun hs)) ih
    | none =>
      cases slotLetters.lookup c with
      | none => rfl
      | some slot =>
        simp only
        split
        · rfl
        · exact map_bind_withDryRun dryRun (put_withDryRun o dryRun slot _) fun _ => rfl
        · exact map_bind_withDryRun dryRun (put_withDryRun o dryRun slot _) fun _ => rfl

theorem readName_withDryRun {chars : List Char} (h : chars ≠ "dry-run".toList) :
    readName (o.withDryRun dryRun) chars = (readName o chars).map (Reading.withDryRun · dryRun) := by
  unfold readName
  simp only
  cases hs : switchNames.lookup (String.ofList (chars.takeWhile (· != '='))) with
  | none =>
    cases slotNames.lookup (String.ofList (chars.takeWhile (· != '='))) with
    | none => rfl
    | some slot =>
      cases (chars.dropWhile (· != '=')).tail? with
      | none => rfl
      | some value => exact map_bind_withDryRun dryRun (put_withDryRun o dryRun slot _) fun _ => rfl
  | some s =>
    cases hvalue : (chars.dropWhile (· != '=')).tail? with
    | some value => cases slotNames.lookup (String.ofList (chars.takeWhile (· != '='))) <;> rfl
    | none =>
      refine map_bind_withDryRun dryRun (turnOn_withDryRun o dryRun ?_) fun _ => rfl
      -- without an equals sign all characters belong to the name
      have hwhole : chars.takeWhile (· != '=') = chars := by
        have hrest : chars.dropWhile (· != '=') = [] := by
          cases hd : chars.dropWhile (· != '=') with
          | nil => rfl
          | cons c rest => rw [hd] at hvalue; cases hvalue
        have hall := List.takeWhile_append_dropWhile (p := (· != '=')) (l := chars)
        rwa [hrest, List.append_nil] at hall
      rintro rfl
      have hname : String.ofList chars = "dry-run" := by
        have hmem := Json.mem_of_lookup hs
        rw [hwhole] at hmem
        simpa [switchNames] using hmem
      exact h (String.ofList_eq.mp hname)

theorem readArg_withDryRun {arg : String} (h : arg ≠ dryRunArg) :
    readArg (o.withDryRun dryRun) arg = (readArg o arg).map (Reading.withDryRun · dryRun) := by
  unfold readArg
  split
  · rename_i name hname
    refine readName_withDryRun o dryRun ?_
    rintro rfl
    exact h (String.toList_inj.mp hname)
  · exact readLetters_withDryRun o dryRun _
  · rfl

theorem readArgs_none_cons {arg : String} {args : List String} (h : ¬(arg = "--" ∧ args = [])) :
    readArgs o none (arg :: args) = readArg o arg >>= fun r => readArgs r.1 r.2 args := by
  rw [readArgs]
  rintro rfl rfl
  exact h ⟨rfl, rfl⟩

theorem readArgs_withDryRun {pending : Option Slot} {args : List String} (h : dryRunArg ∉ args) :
    readArgs (o.withDryRun dryRun) pending args = (readArgs o pending args).map (·.withDryRun dryRun) := by
  induction args generalizing o pending with
  | nil => cases pending <;> rfl
  | cons arg args ih =>
    obtain ⟨harg, hargs⟩ := not_or.mp (mt List.mem_cons.mpr h)
    cases pending with
    | some slot =>
      unfold readArgs
      split
      · rfl
      · rw [put_withDryRun]
        cases o.put slot arg with
        | error stop => rfl
        | ok o' => exact ih o' hargs
    | none =>
      by_cases hend : arg = "--" ∧ args = []
      · obtain ⟨rfl, rfl⟩ := hend
        rfl
      · rw [readArgs_none_cons _ hend, readArgs_none_cons _ hend, readArg_withDryRun o dryRun fun h => harg h.symm]
        cases readArg o arg with
        | error stop => rfl
        | ok r => exact ih r.1 hargs

end withDryRun

/-- A dry run can be asked for behind these arguments: an option is expected there, and it has not been
asked for. -/
def AsksBehind (o : Options) (pending : Option Slot) (before : List String) : Prop :=
  ∃ o', readArgs o pending (before ++ [dryRunArg]) = .ok o'

theorem readArg_dashes (o : Options) : readArg o "--" = .error .usage := by
  have hname : readArg o "--" = readName o [] := by simp [readArg]
  rw [hname]
  rfl

theorem readArg_dryRun (o : Options) :
    readArg o dryRunArg = (once o.dryRun (o.withDryRun true)).map fun o => (o, none) := by
  have hname : readArg o dryRunArg = readName o "dry-run".toList := by simp [readArg, dryRunArg]
  rw [hname]
  cases o with
  | mk manifest outDirs target minify hash config dryRun verbosity => cases dryRun <;> rfl

theorem readArgs_insert {o : Options} {pending : Option Slot} {before after : List String}
    (hplace : AsksBehind o pending before) (hafter : dryRunArg ∉ after) :
    readArgs o pending (before ++ dryRunArg :: after) =
      (readArgs o pending (before ++ after)).map (·.withDryRun true) := by
  induction before generalizing o pending with
  | nil =>
    obtain ⟨o', ho'⟩ := hplace
    cases pending with
    | some slot => cases ho'
    | none =>
      have hlong : ∀ rest : List String, ¬(dryRunArg = "--" ∧ rest = []) := fun rest h => absurd h.1 (by decide)
      rw [List.nil_append, readArgs_none_cons o (hlong _), readArg_dryRun] at ho' ⊢
      cases hd : o.dryRun with
      | true => rw [hd] at ho'; cases ho'
      | false => exact readArgs_withDryRun o true hafter
  | cons arg before ih =>
    obtain ⟨o', ho'⟩ := hplace
    cases pending with
    | some slot =>
      simp only [List.cons_append, readArgs] at ho' ⊢
      split
      · rfl
      · rename_i hvalue
        rw [if_neg hvalue] at ho'
        cases hput : o.put slot arg with
        | error stop => rfl
        | ok o₁ =>
          rw [hput] at ho'
          exact ih ⟨o', ho'⟩
    | none =>
      have hlong : ∀ rest, ¬(arg = "--" ∧ before ++ dryRunArg :: rest = []) := by simp
      rw [List.cons_append, readArgs_none_cons o (hlong [])] at ho'
      have hend : ¬(arg = "--" ∧ before ++ after = []) := by
        rintro ⟨rfl, -⟩
        rw [readArg_dashes] at ho'
        cases ho'
      rw [List.cons_append, List.cons_append, readArgs_none_cons o (hlong after), readArgs_none_cons o hend]
      cases hread : readArg o arg with
      | error stop => rfl
      | ok r =>
        rw [hread] at ho'
        exact ih ⟨o', ho'⟩

/-- A dry run that is asked for changes nothing else in what is read. -/
theorem parseArgs_dryRun {before after : List String} (hplace : AsksBehind {} none before)
    (hafter : dryRunArg ∉ after) :
    parseArgs (before ++ dryRunArg :: after) =
      (parseArgs (before ++ after)).map fun parsed => (parsed.1, parsed.2.withDryRun true) := by
  unfold parseArgs
  rw [readArgs_insert hplace hafter]
  cases readArgs {} none (before ++ after) with
  | error stop => rfl
  | ok o =>
    have hmanifest : (o.withDryRun true).manifest = o.manifest := rfl
    simp only [Except.map, bind, Except.bind, hmanifest]
    cases o.manifest <;> rfl

theorem parseArgs_plain {args : List String} (h : dryRunArg ∉ args) {manifest : Path} {o : Options}
    (hparse : parseArgs args = .ok (manifest, o)) : o.dryRun = false := by
  obtain ⟨o', hread, hmanifest⟩ := bind_eq_ok_iff.mp hparse
  have hsame : o' = o := by
    cases hm : o'.manifest with
    | none => rw [hm] at hmanifest; cases hmanifest
    | some p => rw [hm] at hmanifest; cases hmanifest; rfl
  subst hsame
  have hplain : readArgs {} none args = (readArgs {} none args).map (·.withDryRun false) :=
    readArgs_withDryRun {} false h
  rw [hread] at hplain
  exact congrArg Options.dryRun (Except.ok.inj hplain)

end LazyBundle.Cli

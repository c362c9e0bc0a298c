import LazyBundle.Config.Layer
import LazyBundle.Proofs.Outcomes
import LazyBundle.Proofs.SortedData
import Mathlib.Tactic.MkIffOfInductiveProp

/-!
# Layers and what sets them

Layers put over a configuration leave each setting as the last of them that sets
it has it (`foldl_applyTo_eq_iff`). A settings file sets what it has entries for, and the
environment what it has variables for.
-/

namespace LazyBundle

/-! ## The last layer that sets a setting -/

namespace Layer

section last

variable {α : Type} (part : Layer → Option α)

/-- A setting that was `start` has the value of the last layer that sets it. -/
def Settles (layers : List Layer) (start value : α) : Prop :=
  (∃ before l after, layers = before ++ l :: after ∧ part l = some value ∧ ∀ l' ∈ after, part l' = none) ∨
    (∀ l ∈ layers, part l = none) ∧ value = start

theorem settles_nil {start value : α} : Settles part [] start value ↔ value = start := by
  simp [Settles]

theorem settles_cons {l : Layer} {layers : List Layer} {start value : α} :
    Settles part (l :: layers) start value ↔ Settles part layers ((part l).getD start) value := by
  constructor
  · rintro (⟨before, l', after, heq, hset, hafter⟩ | ⟨hnone, rfl⟩)
    · cases before with
      | nil =>
        cases heq
        exact .inr ⟨hafter, by rw [hset]; rfl⟩
      | cons b before =>
        cases heq
        exact .inl ⟨before, l', after, rfl, hset, hafter⟩
    · rw [List.forall_mem_cons] at hnone
      exact .inr ⟨hnone.2, by rw [hnone.1]; rfl⟩
  · rintro (⟨before, l', after, rfl, hset, hafter⟩ | ⟨hnone, rfl⟩)
    · exact .inl ⟨l :: before, l', after, rfl, hset, hafter⟩
    · cases hl : part l with
      | none => exact .inr ⟨List.forall_mem_cons.mpr ⟨hl, hnone⟩, rfl⟩
      | some value => exact .inl ⟨[], l, layers, rfl, hl, hnone⟩

end last

attribute [ext] Config

/-- Each setting of a configuration is what the last layer that sets it has, and what it was at the
start where no layer sets it. A layer sets a command only to some command. -/
@[mk_iff]
structure LastSet (start : Config) (layers : List Layer) (c : Config) : Prop where
  destinations : Settles (·.destinations) layers start.destinations c.destinations
  target : Settles (·.target) layers start.target c.target
  minify : Settles (·.minify) layers start.minify c.minify
  hashFileNames : Settles (·.hashFileNames) layers start.hashFileNames c.hashFileNames
  hashLength : Settles (·.hashLength) layers start.hashLength c.hashLength
  bundleSuffix : Settles (·.bundleSuffix) layers start.bundleSuffix c.bundleSuffix
  defaultMode : Settles (·.defaultMode) layers start.defaultMode c.defaultMode
  requirePlaceholder : Settles (·.requirePlaceholder) layers start.requirePlaceholder c.requirePlaceholder
  transpileCommand : Settles (·.transpileCommand.map some) layers start.transpileCommand c.transpileCommand
  minifyCommand : Settles (·.minifyCommand.map some) layers start.minifyCommand c.minifyCommand

theorem getD_map_some {α : Type} (o o' : Option α) : (o.map some).getD o' = o.or o' := by
  cases o <;> rfl

theorem lastSet_nil {start c : Config} : LastSet start [] c ↔ c = start := by
  simp only [lastSet_iff, settles_nil, Config.ext_iff]

theorem lastSet_cons {start c : Config} {l : Layer} {layers : List Layer} :
    LastSet start (l :: layers) c ↔ LastSet (l.applyTo start) layers c := by
  simp only [lastSet_iff, settles_cons, getD_map_some, applyTo]

/-- What layers make of a configuration, one put over the other. -/
theorem foldl_applyTo_eq_iff {start c : Config} {layers : List Layer} :
    layers.foldl (fun c l => l.applyTo c) start = c ↔ LastSet start layers c := by
  induction layers generalizing start with
  | nil => rw [List.foldl_nil, lastSet_nil, eq_comm]
  | cons l layers ih => rw [List.foldl_cons, ih, lastSet_cons]

end Layer

/-! ## What a settings file sets -/

def Reads {ε α β : Type} (read : α → Except ε β) : Option α → Option β → Prop :=
  Option.Rel fun a b => read a = .ok b

theorem Reads.unique {ε α β : Type} {read : α → Except ε β} {value : Option α} {x y : Option β}
    (hx : Reads read value x) (hy : Reads read value y) : x = y := by
  cases hx with
  | none => cases hy; rfl
  | some hx =>
    cases hy with
    | some hy =>
      rw [hx] at hy
      cases hy
      rfl

namespace Toml.Reader

variable {σ β : Type} {known : List (Setting σ)} {name : String} {read : Reader β} {part : σ → Option β}

/-- The setting with a name decides a part of the record, and no other setting touches that part. -/
structure Decides (known : List (Setting σ)) (name : String) (read : Reader β) (part : σ → Option β) : Prop where
  found : ∃ put, known.find? (·.name == name) = some (.of name read put) ∧ ∀ b s, part (put b s) = some b
  others : ∀ st ∈ known, st.name ≠ name → ∀ s v t, st.read s v = .ok t → part t = part s

theorem of_read_eq_ok {put : β → σ → σ} {s t : σ} {v : Value} :
    (Setting.of name read put).read s v = .ok t ↔ ∃ b, read v = .ok b ∧ put b s = t :=
  map_eq_ok_iff

theorem settings_cons_eq_ok {s t : σ} {key : String} {v : Value} {rest : Table} :
    settings known s ((key, v) :: rest) = .ok t ↔
      ∃ st s', known.find? (·.name == key) = some st ∧ st.read s v = .ok s' ∧ settings known s' rest = .ok t := by
  rw [settings]
  cases known.find? (·.name == key) with
  | none => exact ⟨fun h => (by cases h), fun ⟨_, _, h, _⟩ => (by cases h)⟩
  | some st =>
    refine bind_eq_ok_iff.trans ⟨fun ⟨s', hr, hrest⟩ => ⟨st, s', rfl, hr, hrest⟩, ?_⟩
    rintro ⟨_, s', ⟨⟩, hr, hrest⟩
    exact ⟨s', hr, hrest⟩

theorem Decides.part_eq_of_ne (h : Decides known name read part) {s t : σ} {key : String} {v : Value}
    {st : Setting σ} (hst : known.find? (·.name == key) = some st) (hr : st.read s v = .ok t)
    (hne : name ≠ key) : part t = part s := by
  have hname : st.name = key := by simpa using List.find?_some hst
  exact h.others st (List.mem_of_find?_eq_some hst) (fun heq => hne (heq ▸ hname)) s v t hr

theorem Decides.part_eq_of_absent (h : Decides known name read part) {s t : σ} {table : Table}
    (absent : table.lookup name = none) (hok : settings known s table = .ok t) : part t = part s := by
  induction table generalizing s with
  | nil => cases hok; rfl
  | cons e rest ih =>
    obtain ⟨st, s', hst, hr, hrest⟩ := settings_cons_eq_ok.mp hok
    rw [Json.lookup_cons_eq_ite] at absent
    by_cases heq : name = e.1
    · rw [if_pos heq] at absent
      cases absent
    · rw [if_neg heq] at absent
      rw [ih absent hrest, h.part_eq_of_ne hst hr heq]

/-- A part that starts unset is what the entry with its name reads as, if there is one. -/
theorem Decides.reads (h : Decides known name read part) {s t : σ} {table : Table} (rising : Json.Rising table)
    (unset : part s = none) (hok : settings known s table = .ok t) : Reads read (table.lookup name) (part t) := by
  induction table generalizing s with
  | nil =>
    cases hok
    rw [unset]
    exact .none
  | cons e rest ih =>
    obtain ⟨st, s', hst, hr, hrest⟩ := settings_cons_eq_ok.mp hok
    rw [Json.lookup_cons_eq_ite]
    by_cases heq : name = e.1
    · rw [if_pos heq]
      obtain ⟨put, hfound, hput⟩ := h.found
      rw [heq, hst] at hfound
      cases hfound
      obtain ⟨b, hb, rfl⟩ := of_read_eq_ok.mp hr
      -- the keys rise, so no later entry has the name
      rw [h.part_eq_of_absent (rising.lookup_tail (heq ▸ String.le_refl _)) hrest, hput]
      exact .some hb
    · rw [if_neg heq]
      exact ih (List.pairwise_cons.mp rising).2 (by rw [h.part_eq_of_ne hst hr heq, unset]) hrest

theorem mem_names_of_settings_ok {s t : σ} {table : Table} (hok : settings known s table = .ok t) :
    ∀ e ∈ table, e.1 ∈ known.map (·.name) := by
  induction table generalizing s with
  | nil => exact fun _ he => nomatch he
  | cons e rest ih =>
    obtain ⟨st, s', hst, -, hrest⟩ := settings_cons_eq_ok.mp hok
    have hname : st.name = e.1 := by simpa using List.find?_some hst
    exact List.forall_mem_cons.mpr ⟨hname ▸ List.mem_map_of_mem (List.mem_of_find?_eq_some hst), ih hrest⟩

theorem settings_ok {table : Table} (s : σ)
    (h : ∀ e ∈ table, ∃ st, known.find? (·.name == e.1) = some st ∧ ∀ s, ∃ t, st.read s e.2 = .ok t) :
    ∃ t, settings known s table = .ok t := by
  induction table generalizing s with
  | nil => exact ⟨s, rfl⟩
  | cons e rest ih =>
    obtain ⟨⟨st, hst, hread⟩, hrest⟩ := List.forall_mem_cons.mp h
    obtain ⟨s', hs'⟩ := hread s
    obtain ⟨t, ht⟩ := ih s' hrest
    exact ⟨t, settings_cons_eq_ok.mpr ⟨st, s', hst, hs', ht⟩⟩

theorem Decides.entry_ok (h : Decides known name read part) {table : Table} (rising : Json.Rising table)
    {v : Value} (hv : (name, v) ∈ table) {x : Option β} (hx : Reads read (table.lookup name) x) :
    ∃ st, known.find? (·.name == name) = some st ∧ ∀ s, ∃ t, st.read s v = .ok t := by
  obtain ⟨put, hfound, -⟩ := h.found
  rw [rising.lookup_of_mem hv] at hx
  cases hx with
  | some hb => exact ⟨_, hfound, fun s => ⟨_, of_read_eq_ok.mpr ⟨_, hb, rfl⟩⟩⟩

end Toml.Reader

namespace Layer

open Toml.Reader (Decides Setting)

structure Decided (known : List (Setting Layer)) : Prop where
  destinations : Decides known "destinations" (Toml.Reader.list Path.ofSetting) (·.destinations)
  target : Decides known "source-target" (Toml.Reader.choice Target.names) (·.target)
  minify : Decides known "minify-js" Toml.Reader.bool (·.minify)
  hashFileNames : Decides known "hash-file-names" Toml.Reader.bool (·.hashFileNames)
  hashLength : Decides known "hashed-file-name-length" Toml.Reader.word (·.hashLength)
  bundleSuffix : Decides known "bundle-suffix" Toml.Reader.text (·.bundleSuffix)
  defaultMode : Decides known "default-style-mode" Toml.Reader.text (·.defaultMode)
  requirePlaceholder : Decides known "require-lazy-data-placeholder" Toml.Reader.bool (·.requirePlaceholder)
  transpileCommand : Decides known "transpile-command" command (·.transpileCommand)
  minifyCommand : Decides known "minify-command" command (·.minifyCommand)

theorem decided : Decided settings := by
  constructor
  all_goals refine ⟨⟨_, rfl, fun _ _ => rfl⟩, ?_⟩
  all_goals
    intro st hst hne s v t hr
    simp only [settings, List.mem_cons, List.not_mem_nil, or_false] at hst
    rcases hst with rfl | rfl | rfl | rfl | rfl | rfl | rfl | rfl | rfl | rfl
  all_goals first
    | exact absurd rfl hne
    | obtain ⟨b, -, rfl⟩ := Toml.Reader.of_read_eq_ok.mp hr
      rfl

def keys : List String := [
  "destinations", "source-target", "minify-js", "hash-file-names", "hashed-file-name-length",
  "bundle-suffix", "default-style-mode", "require-lazy-data-placeholder", "transpile-command",
  "minify-command"]

attribute [ext] Layer

/-- What the table of a settings file sets: each setting is what the entry with its key reads as. -/
structure OfTable (table : Toml.Table) (l : Layer) : Prop where
  known : ∀ e ∈ table, e.1 ∈ keys
  destinations : Reads (Toml.Reader.list Path.ofSetting) (table.lookup "destinations") l.destinations
  target : Reads (Toml.Reader.choice Target.names) (table.lookup "source-target") l.target
  minify : Reads Toml.Reader.bool (table.lookup "minify-js") l.minify
  hashFileNames : Reads Toml.Reader.bool (table.lookup "hash-file-names") l.hashFileNames
  hashLength : Reads Toml.Reader.word (table.lookup "hashed-file-name-length") l.hashLength
  bundleSuffix : Reads Toml.Reader.text (table.lookup "bundle-suffix") l.bundleSuffix
  defaultMode : Reads Toml.Reader.text (table.lookup "default-style-mode") l.defaultMode
  requirePlaceholder : Reads Toml.Reader.bool (table.lookup "require-lazy-data-placeholder") l.requirePlaceholder
  transpileCommand : Reads command (table.lookup "transpile-command") l.transpileCommand
  minifyCommand : Reads command (table.lookup "minify-command") l.minifyCommand

theorem settings_eq_ok_iff {table : Toml.Table} (rising : Json.Rising table) {l : Layer} :
    Toml.Reader.settings settings {} table = .ok l ↔ OfTable table l := by
  have reads {t : Layer} (h : Toml.Reader.settings settings {} table = .ok t) : OfTable table t := {
    known := Toml.Reader.mem_names_of_settings_ok h
    destinations := decided.destinations.reads rising rfl h
    target := decided.target.reads rising rfl h
    minify := decided.minify.reads rising rfl h
    hashFileNames := decided.hashFileNames.reads rising rfl h
    hashLength := decided.hashLength.reads rising rfl h
    bundleSuffix := decided.bundleSuffix.reads rising rfl h
    defaultMode := decided.defaultMode.reads rising rfl h
    requirePlaceholder := decided.requirePlaceholder.reads rising rfl h
    transpileCommand := decided.transpileCommand.reads rising rfl h
    minifyCommand := decided.minifyCommand.reads rising rfl h }
  refine ⟨reads, fun h => ?_⟩
  obtain ⟨t, ht⟩ : ∃ t, Toml.Reader.settings settings {} table = .ok t := by
    refine Toml.Reader.settings_ok _ fun e he => ?_
    obtain ⟨key, v⟩ := e
    have hkey := h.known _ he
    simp only [keys, List.mem_cons, List.not_mem_nil, or_false] at hkey
    rcases hkey with rfl | rfl | rfl | rfl | rfl | rfl | rfl | rfl | rfl | rfl
    · exact decided.destinations.entry_ok rising he h.destinations
    · exact decided.target.entry_ok rising he h.target
    · exact decided.minify.entry_ok rising he h.minify
    · exact decided.hashFileNames.entry_ok rising he h.hashFileNames
    · exact decided.hashLength.entry_ok rising he h.hashLength
    · exact decided.bundleSuffix.entry_ok rising he h.bundleSuffix
    · exact decided.defaultMode.entry_ok rising he h.defaultMode
    · exact decided.requirePlaceholder.entry_ok rising he h.requirePlaceholder
    · exact decided.transpileCommand.entry_ok rising he h.transpileCommand
    · exact decided.minifyCommand.entry_ok rising he h.minifyCommand
  have ht' := reads ht
  rw [ht, show t = l from Layer.ext (ht'.destinations.unique h.destinations) (ht'.target.unique h.target)
    (ht'.minify.unique h.minify) (ht'.hashFileNames.unique h.hashFileNames)
    (ht'.hashLength.unique h.hashLength) (ht'.bundleSuffix.unique h.bundleSuffix)
    (ht'.defaultMode.unique h.defaultMode) (ht'.requirePlaceholder.unique h.requirePlaceholder)
    (ht'.transpileCommand.unique h.transpileCommand) (ht'.minifyCommand.unique h.minifyCommand)]

def OfText (text : String) (l : Layer) : Prop :=
  ∃ table, Toml.parse? text = some table ∧ OfTable table l

theorem rising_of_parse {text : String} {table : Toml.Table} (h : Toml.parse? text = some table) :
    Json.Rising table := by
  obtain ⟨nodes, -, rfl⟩ := Option.map_eq_some_iff.mp h
  exact Json.rising_sortEntries _

theorem ofToml_eq_ok_iff {text : String} {l : Layer} : ofToml text = .ok l ↔ OfText text l := by
  unfold ofToml OfText
  cases h : Toml.parse? text with
  | none => exact ⟨fun h => (by cases h), fun ⟨_, h, _⟩ => (by cases h)⟩
  | some table => simpa using settings_eq_ok_iff (rising_of_parse h)

/-! ## What the environment sets -/

structure OfVariables (env : Environment) (l : Layer) : Prop where
  destinations : l.destinations = (env "LAZYPACK_DESTINATIONS").map splitPaths
  target : Reads Target.parse (env "LAZYPACK_SOURCE_TARGET") l.target
  minify : Reads readBool (env "LAZYPACK_MINIFY_JS") l.minify
  hashFileNames : Reads readBool (env "LAZYPACK_HASH_FILE_NAMES") l.hashFileNames
  hashLength : Reads readNumber (env "LAZYPACK_HASHED_FILE_NAME_LENGTH") l.hashLength
  bundleSuffix : l.bundleSuffix = env "LAZYPACK_BUNDLE_SUFFIX"
  defaultMode : l.defaultMode = env "LAZYPACK_DEFAULT_STYLE_MODE"
  requirePlaceholder : Reads readBool (env "LAZYPACK_REQUIRE_LAZY_DATA_PLACEHOLDER") l.requirePlaceholder
  transpileCommand : l.transpileCommand = none
  minifyCommand : l.minifyCommand = none

theorem readVariable_eq_ok_iff {ε ε' α : Type} {env : Environment} {name : String} {read : String → Except ε α}
    {f : ε → ε'} {x : Option α} :
    readVariable env name (fun value => (read value).mapError f) = .ok x ↔ Reads read (env name) x := by
  unfold readVariable Reads
  cases env name with
  | none =>
    constructor
    · rintro ⟨⟩
      exact .none
    · rintro ⟨⟩
      rfl
  | some value =>
    change ((read value).mapError f).map some = .ok x ↔ _
    constructor
    · intro h
      cases hr : (read value).mapError f with
      | error e => rw [hr] at h; cases h
      | ok a =>
        rw [hr] at h
        cases h
        exact .some (mapError_eq_ok_iff.mp hr)
    · rintro (⟨hr⟩ | _)
      rw [mapError_eq_ok_iff.mpr hr]
      rfl

theorem ofEnvironment_eq_ok_iff {env : Environment} {l : Layer} :
    ofEnvironment env = .ok l ↔ OfVariables env l := by
  simp only [ofEnvironment, bind_eq_ok_iff, boolVariable, readVariable_eq_ok_iff]
  constructor
  · rintro ⟨target, ht, minify, hm, hash, hh, length, hl, placeholder, hp, ⟨⟩⟩
    exact ⟨rfl, ht, hm, hh, hl, rfl, rfl, hp, rfl, rfl⟩
  · intro h
    refine ⟨_, h.target, _, h.minify, _, h.hashFileNames, _, h.hashLength, _, h.requirePlaceholder, ?_⟩
    exact congrArg Except.ok (Layer.ext h.destinations.symm rfl rfl rfl rfl h.bundleSuffix.symm
      h.defaultMode.symm rfl h.transpileCommand.symm h.minifyCommand.symm)

end Layer

end LazyBundle

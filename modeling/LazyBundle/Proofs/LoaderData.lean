import LazyBundle.Build.Journal
import LazyBundle.Bundle
import LazyBundle.Proofs.LiteralReading
import Mathlib.Data.List.Forall2

/-!
# What the loader reads

The data of a list of bundles are read back as one pair for each bundle, in
order. The first part of a pair sends every mode of the bundle to the id of its
last output with that mode, and nothing else (`lazyData_read`). There are no
data exactly when some bundle has no outputs (`lazyData_lossless`).
-/

namespace LazyBundle

/-! ## Ids by mode -/

namespace BundleIds

open Json.Reader (insertKey)

variable {α : Type}

theorem keys_insertKey (key : String) (value : α) (l : List (String × α)) :
    (insertKey key value l).map (·.1) = if key ∈ l.map (·.1) then l.map (·.1) else l.map (·.1) ++ [key] := by
  induction l with
  | nil => simp [insertKey]
  | cons e l ih =>
    obtain ⟨k, v⟩ := e
    simp only [insertKey]
    by_cases hk : k = key
    · simp [hk]
    · rw [if_neg hk, List.map_cons, ih]
      by_cases h : key ∈ l.map (·.1) <;> simp [h, Ne.symm hk]

theorem nodup_insertKey (key : String) (value : α) {l : List (String × α)} (h : (l.map (·.1)).Nodup) :
    ((insertKey key value l).map (·.1)).Nodup := by
  rw [keys_insertKey]
  split
  · exact h
  · rename_i hk
    refine List.nodup_append.mpr ⟨h, by simp, ?_⟩
    intro k hkl k' hk' he
    rw [List.mem_singleton] at hk'
    exact hk (hk' ▸ he ▸ hkl)

def written (outputs : List ModeOutput) : List (String × String) :=
  (outputs.map fun o => (o.modeName, o.bundleId)).reverse

theorem lookup_foldl_insertKey (k : String) (outputs : List ModeOutput) (acc : List (String × String)) :
    (outputs.foldl (fun ids o => insertKey o.modeName o.bundleId ids) acc).lookup k =
      ((written outputs).lookup k).or (acc.lookup k) := by
  induction outputs generalizing acc with
  | nil => simp [written]
  | cons o outputs ih =>
    rw [List.foldl_cons, ih, Json.lookup_insertKey, written, written, List.map_cons, List.reverse_cons,
      List.lookup_append, Json.lookup_cons_eq_ite]
    by_cases h : k = o.modeName <;> simp [h]

theorem lookup_collect (k : String) (outputs : List ModeOutput) :
    (collect outputs).lookup k = (written outputs).lookup k := by
  rw [collect, lookup_foldl_insertKey]; simp

theorem nodup_collect (outputs : List ModeOutput) : ((collect outputs).map (·.1)).Nodup := by
  refine List.foldlRecOn (motive := fun ids => (List.map Prod.fst ids).Nodup) outputs _ List.nodup_nil ?_
  intro ids h o _
  exact nodup_insertKey o.modeName o.bundleId h

theorem ofOutputs?_eq_none_iff (defaultMode : String) (outputs : List ModeOutput) :
    ofOutputs? defaultMode outputs = none ↔ outputs = [] := by
  unfold ofOutputs?
  split
  · simp
  · split <;> simp
  · rename_i hne _; simpa using hne

theorem nodup_of_perMode {defaultMode : String} {outputs : List ModeOutput} {ids : List (String × String)}
    (h : ofOutputs? defaultMode outputs = some (.perMode ids)) : (ids.map (·.1)).Nodup := by
  unfold ofOutputs? at h
  split at h
  · cases h
  · rename_i only
    split at h
    · cases h
    · cases h; exact nodup_collect [only]
  · cases h; exact nodup_collect outputs

theorem lookup_byMode {defaultMode : String} {outputs : List ModeOutput} {ids : BundleIds}
    (h : ofOutputs? defaultMode outputs = some ids) (k : String) :
    (ids.byMode defaultMode).lookup k = (written outputs).lookup k := by
  unfold ofOutputs? at h
  split at h
  · cases h
  · rename_i only
    split at h
    · rename_i hm
      cases h
      simp [byMode, written, hm]
    · cases h
      exact lookup_collect k [only]
  · cases h
    exact lookup_collect k outputs

theorem exact_encode (ids : BundleIds) : ids.encode.Exact := by
  cases ids with
  | single id => rw [encode, Json.Exact]; trivial
  | perMode ids =>
    rw [encode, Json.Exact, Json.exactEntries_iff]
    intro e he
    obtain ⟨p, -, rfl⟩ := List.mem_map.mp he
    rw [Json.Exact]; trivial

theorem mapM_readId? (ids : List (String × String)) :
    (ids.map fun e => (e.1, Json.string e.2)).mapM readId? = some ids := by
  induction ids with
  | nil => rfl
  | cons e ids ih => rw [List.map_cons, List.mapM_cons, ih]; rfl

/-- The ids of a bundle are read from their sorted form, each mode once, and the loader finds the last id
of every mode. -/
theorem decode?_sorted {defaultMode : String} {outputs : List ModeOutput} {ids : BundleIds}
    (h : ofOutputs? defaultMode outputs = some ids) :
    ∃ read, decode? ids.encode.sorted = some read ∧ ((read.byMode defaultMode).map (·.1)).Nodup ∧
      ∀ k, (read.byMode defaultMode).lookup k = (written outputs).lookup k := by
  cases ids with
  | single id => exact ⟨.single id, rfl, List.pairwise_singleton _ _, lookup_byMode h⟩
  | perMode ids =>
    refine ⟨.perMode (Json.sortEntries ids), ?_, (Json.rising_sortEntries ids).nodup, fun k => ?_⟩
    · have hs : (ids.map fun e => (e.1, Json.string e.2)).map (fun e => (e.1, e.2.sorted)) =
          ids.map fun e => (e.1, Json.string e.2) := by
        rw [List.map_map]; rfl
      rw [encode, Json.sorted, Json.sortedValues_eq_map, hs, Json.sortEntries_map Json.string, decode?,
        mapM_readId?]
      rfl
    · rw [← lookup_byMode h, byMode, byMode, Json.lookup_sortEntries, Json.lookup_reverse (nodup_of_perMode h)]

/-- The ids are one text exactly for a single output in the default mode. -/
theorem sorted_eq_string_iff {defaultMode : String} {outputs : List ModeOutput} {ids : BundleIds}
    (h : ofOutputs? defaultMode outputs = some ids) :
    (∃ id, ids.encode.sorted = .string id) ↔ ∃ o, outputs = [o] ∧ o.modeName = defaultMode := by
  have hobject : ∀ l, ¬ ∃ id, (perMode l).encode.sorted = .string id := by
    rintro l ⟨id, hid⟩
    cases hid
  unfold ofOutputs? at h
  split at h
  · cases h
  · rename_i only
    split at h
    · rename_i hmode
      cases h
      exact ⟨fun _ => ⟨only, rfl, hmode⟩, fun _ => ⟨only.bundleId, rfl⟩⟩
    · rename_i hmode
      cases h
      refine ⟨fun hs => absurd hs (hobject _), ?_⟩
      rintro ⟨o, ho, hdefault⟩
      cases ho
      exact absurd hdefault hmode
  · rename_i hsingle
    cases h
    refine ⟨fun hs => absurd hs (hobject _), ?_⟩
    rintro ⟨o, ho, -⟩
    exact absurd ho (hsingle o)

end BundleIds

/-! ## Components -/

theorem exact_nat {n : Nat} (h : n ≤ Json.Numeral.maxWord) : (Json.nat n).Exact := by
  rw [Json.nat, Json.Exact]; exact Json.isWord_ofNat h

theorem flag_le (set : Bool) (bit : Nat) : flag set bit ≤ bit := by
  cases set <;> simp [flag]

theorem Member.kindFlag_le (m : Member) : m.kindFlag ≤ 256 := by
  unfold Member.kindFlag
  split
  · split <;> decide
  all_goals decide

theorem Member.flags_le (m : Member) : m.flags ≤ Json.Numeral.maxWord := by
  have hk := m.kindFlag_le
  have h1 := flag_le m.reflect 512
  have h2 := flag_le m.isMutable 1024
  rw [Json.maxWord_eq, Member.flags]
  omega

theorem Listener.flags_le (l : Listener) : l.flags ≤ Json.Numeral.maxWord := by
  have ht : (l.target.map ListenTarget.flag).getD 0 ≤ 32 := by
    cases l.target with
    | none => decide
    | some t => cases t <;> decide
  have h1 := flag_le l.passive 1
  have h2 := flag_le l.capture 2
  rw [Json.maxWord_eq, Listener.flags]
  omega

theorem Component.flags_le (c : Component) (withSlot : Bool) :
    c.flags withSlot ≤ Json.Numeral.maxWord := by
  have he : c.encapsulation.flag ≤ 2 := by cases c.encapsulation <;> decide
  have h1 := flag_le (withSlot && c.hasSlot && c.encapsulation != .shadow) 4
  have h2 := flag_le c.hasMode 32
  rw [Json.maxWord_eq, Component.flags]
  omega

theorem Member.exact_encode (m : Member) : m.encode.Exact := by
  have hf := exact_nat m.flags_le
  unfold Member.encode
  split <;> simp [Json.Exact, Json.ExactItems, hf]

theorem Listener.exact_encode (l : Listener) : l.encode.Exact := by
  have hf := exact_nat l.flags_le
  simp [Listener.encode, Json.Exact, Json.ExactItems, hf]

theorem Component.exact_encode (c : Component) (withMethods withSlot : Bool) :
    (c.encode withMethods withSlot).Exact := by
  have hf := exact_nat (c.flags_le withSlot)
  have hm : Json.ExactEntries
      (Json.sortEntries ((c.keptMembers withMethods).map fun e => (e.1, e.2.encode))) := by
    rw [Json.exactEntries_iff]
    intro e he
    obtain ⟨p, -, rfl⟩ := List.mem_map.mp (Json.mem_of_mem_sortEntries he)
    exact p.2.exact_encode
  have hl : Json.ExactItems (c.listeners.map Listener.encode) := by
    rw [Json.exactItems_iff]
    intro v hv
    obtain ⟨l, -, rfl⟩ := List.mem_map.mp hv
    exact l.exact_encode
  unfold Component.encode
  simp only [Json.Exact, Json.ExactItems, hf, true_and]
  split <;> simp [Json.Exact, Json.ExactItems, hm, hl]

theorem Member.sorted_encode (m : Member) : m.encode.sorted = m.encode := by
  unfold Member.encode
  split <;> rfl

theorem sorted_members (members : List (String × Member)) :
    (Json.object (Json.sortEntries (members.map fun e => (e.1, e.2.encode)))).sorted =
      .object (Json.sortEntries (members.map fun e => (e.1, e.2.encode))) := by
  have hvalues : Json.sortedValues (Json.sortEntries (members.map fun e => (e.1, e.2.encode))) =
      Json.sortEntries (members.map fun e => (e.1, e.2.encode)) := by
    rw [Json.sortedValues_eq_map]
    refine (List.map_congr_left fun e he => ?_).trans (List.map_id _)
    obtain ⟨p, -, rfl⟩ := List.mem_map.mp (Json.mem_of_mem_sortEntries he)
    exact Prod.ext rfl p.2.sorted_encode
  rw [Json.sorted, hvalues, Json.sortEntries_of_rising (Json.rising_sortEntries _)]

theorem sorted_listeners (listeners : List Listener) :
    (Json.list (listeners.map Listener.encode)).sorted = .list (listeners.map Listener.encode) := by
  rw [Json.sorted, Json.sortedItems_eq_map, List.map_map]
  rfl

/-- The form of a component has its keys in order already. -/
theorem Component.sorted_encode (c : Component) (withMethods withSlot : Bool) :
    (c.encode withMethods withSlot).sorted = c.encode withMethods withSlot := by
  unfold Component.encode
  simp only [Json.sorted, Json.sortedItems]
  split
  · rfl
  · rw [Json.sortedItems, sorted_members]
    rfl
  · rw [Json.sortedItems, Json.sortedItems, sorted_members, sorted_listeners]
    rfl

/-! ## Bundles -/

namespace Bundle

theorem exact_runtimeData {defaultMode : String} {b : Bundle} {d : RuntimeData}
    (h : b.runtimeData defaultMode = .ok d) : d.encode.Exact := by
  unfold runtimeData at h
  split at h
  · cases h
  · rename_i ids _
    cases h
    simp only [RuntimeData.encode, Json.Exact, Json.ExactItems, ids.exact_encode, Json.exactItems_iff, true_and,
      and_true, List.mem_map]
    rintro v ⟨c, -, rfl⟩
    exact c.exact_encode true true

/-- What the loader reads in the pair of a bundle. The ids send every mode to the last output with it,
and nothing else; they are one text exactly for a single output in the default mode. -/
def ReadAs (defaultMode : String) (b : Bundle) (pair : Json) : Prop :=
  ∃ ids read, pair = .list [ids, .list (b.components.map fun c => c.encode true true)] ∧
    BundleIds.decode? ids = some read ∧ ((read.byMode defaultMode).map (·.1)).Nodup ∧
    (∀ mode, (read.byMode defaultMode).lookup mode = (BundleIds.written b.outputs).lookup mode) ∧
    ((∃ id, ids = .string id) ↔ ∃ o, b.outputs = [o] ∧ o.modeName = defaultMode)

theorem readAs_sorted {defaultMode : String} {b : Bundle} {d : RuntimeData}
    (h : b.runtimeData defaultMode = .ok d) : b.ReadAs defaultMode d.encode.sorted := by
  unfold runtimeData at h
  split at h
  · cases h
  · rename_i ids hids
    cases h
    obtain ⟨read, hread, hnodup, hlookup⟩ := BundleIds.decode?_sorted hids
    refine ⟨ids.encode.sorted, read, ?_, hread, hnodup, hlookup, BundleIds.sorted_eq_string_iff hids⟩
    simp only [RuntimeData.encode, Json.sorted, Json.sortedItems, Json.sortedItems_eq_map, List.map_map,
      Function.comp_def, Component.sorted_encode]

theorem encodeAll_cons {defaultMode : String} {b : Bundle} {bs : List Bundle} {data : List Json}
    (h : encodeAll defaultMode (b :: bs) = .ok data) :
    ∃ d ds, b.runtimeData defaultMode = .ok d ∧ encodeAll defaultMode bs = .ok ds ∧
      data = d.encode :: ds := by
  rw [encodeAll] at h
  cases hd : b.runtimeData defaultMode with
  | error e => rw [hd] at h; cases h
  | ok d =>
    cases hds : encodeAll defaultMode bs with
    | error e => rw [hd, hds] at h; cases h
    | ok ds => rw [hd, hds] at h; cases h; exact ⟨d, ds, rfl, rfl, rfl⟩

theorem encodeAll_read {defaultMode : String} {bs : List Bundle} {data : List Json}
    (h : encodeAll defaultMode bs = .ok data) :
    Json.ExactItems data ∧ List.Forall₂ (ReadAs defaultMode) bs (Json.sortedItems data) := by
  induction bs generalizing data with
  | nil => cases h; exact ⟨by rw [Json.ExactItems]; trivial, .nil⟩
  | cons b bs ih =>
    obtain ⟨d, ds, hd, hds, rfl⟩ := encodeAll_cons h
    obtain ⟨he, hr⟩ := ih hds
    exact ⟨⟨exact_runtimeData hd, he⟩, .cons (readAs_sorted hd) hr⟩

/-- The data are no empty text, and are read as one pair for each bundle. -/
theorem lazyData_read {threshold : Nat} {defaultMode : String} {bs : List Bundle} {text : String}
    (h : lazyData threshold defaultMode bs = .ok text) :
    text.isEmpty = false ∧ ∃ pairs, Literal.decode? text = some (.list pairs) ∧
      List.Forall₂ (ReadAs defaultMode) bs pairs := by
  unfold lazyData at h
  cases hd : encodeAll defaultMode bs with
  | error e => rw [hd] at h; cases h
  | ok data =>
    rw [hd] at h
    cases h
    obtain ⟨he, hr⟩ := encodeAll_read hd
    have hx : (Json.list data).Exact := by rw [Json.Exact]; exact he
    refine ⟨Literal.render_isEmpty threshold hx, _, ?_, hr⟩
    rw [Literal.decode?_render threshold hx, Json.sorted]

def emptyKey? (b : Bundle) : Option String :=
  if b.outputs = [] then some b.entryKey else none

theorem emptyKey?_eq_none_iff {b : Bundle} : b.emptyKey? = none ↔ b.outputs ≠ [] := by
  by_cases h : b.outputs = [] <;> simp [emptyKey?, h]

theorem emptyKey?_eq_some_iff {b : Bundle} {key : String} :
    b.emptyKey? = some key ↔ b.outputs = [] ∧ b.entryKey = key := by
  by_cases h : b.outputs = [] <;> simp [emptyKey?, h]

theorem refusalOf_runtimeData (defaultMode : String) (b : Bundle) :
    refusalOf (b.runtimeData defaultMode) = b.emptyKey? := by
  have hiff := BundleIds.ofOutputs?_eq_none_iff defaultMode b.outputs
  rw [runtimeData, emptyKey?]
  cases ho : BundleIds.ofOutputs? defaultMode b.outputs with
  | none =>
    rw [if_pos (hiff.mp ho)]
    rfl
  | some ids =>
    have hne : b.outputs ≠ [] := fun h => by rw [hiff.mpr h] at ho; cases ho
    rw [if_neg hne]
    rfl

theorem refusalOf_encodeAll (defaultMode : String) (bundles : List Bundle) :
    refusalOf (encodeAll defaultMode bundles) = (bundles.filterMap emptyKey?).head? := by
  induction bundles with
  | nil => rfl
  | cons b bundles ih =>
    have hcons : refusalOf (encodeAll defaultMode (b :: bundles)) =
        (refusalOf (b.runtimeData defaultMode)).or (refusalOf (encodeAll defaultMode bundles)) := by
      rw [encodeAll]
      cases b.runtimeData defaultMode <;> cases encodeAll defaultMode bundles <;> rfl
    rw [hcons, ih, refusalOf_runtimeData, List.filterMap_cons]
    cases b.emptyKey? <;> rfl

/-- The data of bundles fail with the key of the first bundle without outputs. -/
theorem refusalOf_lazyData (threshold : Nat) (defaultMode : String) (bundles : List Bundle) :
    refusalOf (lazyData threshold defaultMode bundles) = (bundles.filterMap emptyKey?).head? := by
  rw [lazyData, refusalOf_map, refusalOf_encodeAll]

theorem outputs_ne_nil {threshold : Nat} {defaultMode : String} {bs : List Bundle} {text : String}
    (h : lazyData threshold defaultMode bs = .ok text) : ∀ b ∈ bs, b.outputs ≠ [] := by
  have hn := refusalOf_lazyData threshold defaultMode bs
  rw [h] at hn
  intro b hb
  exact emptyKey?_eq_none_iff.mp (List.filterMap_eq_nil_iff.mp (List.head?_eq_none_iff.mp hn.symm) b hb)

/-- There are no data when a bundle has no outputs, and the first such bundle is named. Otherwise the data
are read as one pair for each bundle, in order. -/
theorem lazyData_lossless (threshold : Nat) (defaultMode : String) (bundles : List Bundle) :
    match lazyData threshold defaultMode bundles with
    | .error key => ∃ before b after, bundles = before ++ b :: after ∧ (∀ b' ∈ before, b'.outputs ≠ []) ∧
        b.outputs = [] ∧ b.entryKey = key
    | .ok text => (∀ b ∈ bundles, b.outputs ≠ []) ∧ ∃ pairs, Literal.decode? text = some (.list pairs) ∧
        List.Forall₂ (ReadAs defaultMode) bundles pairs := by
  cases h : lazyData threshold defaultMode bundles with
  | error key =>
    have hfirst := refusalOf_lazyData threshold defaultMode bundles
    rw [h, List.head?_filterMap] at hfirst
    obtain ⟨before, b, after, hsplit, hb, hbefore⟩ := List.findSome?_eq_some_iff.mp hfirst.symm
    obtain ⟨hempty, hkey⟩ := emptyKey?_eq_some_iff.mp hb
    exact ⟨before, b, after, hsplit, fun b' hb' => emptyKey?_eq_none_iff.mp (hbefore b' hb'), hempty, hkey⟩
  | ok text => exact ⟨outputs_ne_nil h, (lazyData_read h).2⟩

end Bundle

end LazyBundle

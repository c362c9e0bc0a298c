import LazyBundle.Proofs.LastEntry

/-!
# Values as data

Sorted entries have rising keys, and entries with rising keys are equal when the
same is looked up in them (`eq_of_lookup`). Two values are the same data when
the same is found at every path inside them, where the last entry of a key
counts. That is so exactly when their sorted forms are equal
(`same_iff_sorted`).
-/

namespace LazyBundle.Json

/-! ## Rising keys -/

section rising

variable {α : Type}

def Rising (l : List (String × α)) : Prop :=
  l.Pairwise fun a b => a.1 < b.1

theorem rising_insertSorted (key : String) (value : α) {l : List (String × α)} (h : Rising l) :
    Rising (insertSorted key value l) := by
  induction l with
  | nil => exact List.pairwise_singleton _ _
  | cons e l ih =>
    obtain ⟨k, v⟩ := e
    obtain ⟨hk, hl⟩ := List.pairwise_cons.mp h
    simp only [insertSorted]
    split
    · rename_i heq
      subst heq
      exact List.pairwise_cons.mpr ⟨hk, hl⟩
    split
    · rename_i hlt
      refine List.pairwise_cons.mpr ⟨fun e he => ?_, h⟩
      rcases List.mem_cons.mp he with rfl | he
      · exact hlt
      · exact String.lt_trans hlt (hk e he)
    · rename_i hne hnlt
      refine List.pairwise_cons.mpr ⟨fun e he => ?_, ih hl⟩
      rcases mem_of_mem_insertSorted he with rfl | he
      · exact Std.lt_of_le_of_ne (String.not_lt.mp hnlt) (Ne.symm hne)
      · exact hk e he

theorem rising_sortEntries (l : List (String × α)) : Rising (sortEntries l) :=
  List.foldlRecOn l _ List.Pairwise.nil fun _ h e _ => rising_insertSorted e.1 e.2 h

theorem Rising.nodup {l : List (String × α)} (h : Rising l) : (l.map (·.1)).Nodup := by
  refine List.pairwise_map.mpr (h.imp fun hlt heq => ?_)
  rw [heq] at hlt
  exact String.lt_irrefl _ hlt

theorem Rising.lookup_of_mem {l : List (String × α)} (h : Rising l) {k : String} {v : α} (hm : (k, v) ∈ l) :
    l.lookup k = some v := by
  induction l with
  | nil => cases hm
  | cons e l ih =>
    rw [lookup_cons_eq_ite]
    rcases List.mem_cons.mp hm with rfl | hm
    · rw [if_pos rfl]
    · have hlt : e.1 < k := (List.pairwise_cons.mp h).1 _ hm
      rw [if_neg fun heq => String.lt_irrefl _ (heq ▸ hlt)]
      exact ih (List.pairwise_cons.mp h).2 hm

/-- The key at the head of rising entries is not found in what follows, nor is any smaller key. -/
theorem Rising.lookup_tail {e : String × α} {l : List (String × α)} (h : Rising (e :: l)) {k : String}
    (hk : k ≤ e.1) : l.lookup k = none := by
  cases hl : l.lookup k with
  | none => rfl
  | some v =>
    have hlt := (List.pairwise_cons.mp h).1 (k, v) (mem_of_lookup hl)
    exact absurd hlt (String.not_lt.mpr hk)

theorem eq_of_lookup {l l' : List (String × α)} (h : Rising l) (h' : Rising l')
    (hl : ∀ k, l.lookup k = l'.lookup k) : l = l' := by
  induction l generalizing l' with
  | nil =>
    cases l' with
    | nil => rfl
    | cons e' l' =>
      have hk := hl e'.1
      rw [lookup_cons_eq_ite, if_pos rfl] at hk
      cases hk
  | cons e l ih =>
    cases l' with
    | nil =>
      have hk := hl e.1
      rw [lookup_cons_eq_ite, if_pos rfl] at hk
      cases hk
    | cons e' l' =>
      have hkey : e.1 = e'.1 := by
        -- the smaller of two different heads would be found in one list only
        refine Classical.byContradiction fun hne => ?_
        rcases String.le_total e.1 e'.1 with hle | hle
        · have hk := hl e.1
          rw [lookup_cons_eq_ite, lookup_cons_eq_ite, if_pos rfl, if_neg hne, h'.lookup_tail hle] at hk
          cases hk
        · have hk := hl e'.1
          rw [lookup_cons_eq_ite, lookup_cons_eq_ite, if_pos rfl, if_neg (Ne.symm hne), h.lookup_tail hle] at hk
          cases hk
      have hvalue : e.2 = e'.2 := by
        have hk := hl e.1
        rwa [lookup_cons_eq_ite, lookup_cons_eq_ite, if_pos rfl, if_pos hkey, Option.some.injEq] at hk
      have htail : ∀ k, l.lookup k = l'.lookup k := by
        intro k
        have hk := hl k
        rw [lookup_cons_eq_ite, lookup_cons_eq_ite, ← hkey] at hk
        by_cases heq : k = e.1
        · have hle : k ≤ e.1 := heq ▸ String.le_refl k
          rw [h.lookup_tail hle, h'.lookup_tail (hkey ▸ hle)]
        · rwa [if_neg heq, if_neg heq] at hk
      rw [Prod.ext hkey hvalue, ih (List.pairwise_cons.mp h).2 (List.pairwise_cons.mp h').2 htail]

theorem sortEntries_of_rising {l : List (String × α)} (h : Rising l) : sortEntries l = l :=
  eq_of_lookup (rising_sortEntries l) h fun k => by rw [lookup_sortEntries, lookup_reverse h.nodup]

theorem sortEntries_eq_iff {l l' : List (String × α)} :
    sortEntries l = sortEntries l' ↔ ∀ k, l.reverse.lookup k = l'.reverse.lookup k := by
  constructor
  · intro h k
    rw [← lookup_sortEntries, h, lookup_sortEntries]
  · intro h
    refine eq_of_lookup (rising_sortEntries l) (rising_sortEntries l') fun k => ?_
    rw [lookup_sortEntries, lookup_sortEntries, h k]

end rising

/-! ## Data at a path -/

inductive Place
  | item (index : Nat)
  | entry (key : String)

inductive Node
  | null
  | bool (value : Bool)
  | int (value : Int)
  | float (value : Float)
  | string (value : String)
  | list (length : Nat)
  | object

def node : Json → Node
  | .null => .null
  | .bool b => .bool b
  | .int n => .int n
  | .float x => .float x
  | .string s => .string s
  | .list items => .list items.length
  | .object _ => .object

/-- The part at a place; the last entry of a key counts. -/
def part? : Json → Place → Option Json
  | .list items, .item i => items[i]?
  | .object entries, .entry k => entries.reverse.lookup k
  | _, _ => none

def at? (v : Json) : List Place → Option Json
  | [] => some v
  | place :: path => (v.part? place).bind fun w => w.at? path

/-- The same is found at every path: objects are compared as maps, lists in their order. -/
def Same (v w : Json) : Prop :=
  ∀ path, (v.at? path).map node = (w.at? path).map node

theorem Same.symm {v w : Json} (h : v.Same w) : w.Same v := fun path => (h path).symm

theorem Same.trans {v w x : Json} (h : v.Same w) (h' : w.Same x) : v.Same x := fun path => (h path).trans (h' path)

/-! ## Sorting keeps the data -/

theorem node_sorted (v : Json) : v.sorted.node = v.node := by
  cases v with
  | list items => rw [sorted, node, node, sortedItems_eq_map, List.length_map]
  | _ => rfl

/-- What is found in the sorted entries of an object. -/
theorem lookup_sorted (k : String) (entries : List (String × Json)) :
    (sortEntries (sortedValues entries)).lookup k = (entries.reverse.lookup k).map sorted := by
  rw [lookup_sortEntries, sortedValues_eq_map, ← List.map_reverse, lookup_map]

theorem part?_sorted (v : Json) (place : Place) : v.sorted.part? place = (v.part? place).map sorted := by
  cases v with
  | list items =>
    cases place with
    | item i => rw [sorted, part?, part?, sortedItems_eq_map, List.getElem?_map]
    | entry k => rfl
  | object entries =>
    cases place with
    | item i => rfl
    | entry k => rw [sorted, part?, part?, lookup_reverse (rising_sortEntries _).nodup, lookup_sorted]
  | _ => rfl

theorem at?_sorted (v : Json) (path : List Place) : v.sorted.at? path = (v.at? path).map sorted := by
  induction path generalizing v with
  | nil => rfl
  | cons place path ih =>
    rw [at?, at?, part?_sorted]
    cases v.part? place with
    | none => rfl
    | some w => exact ih w

theorem same_sorted (v : Json) : v.Same v.sorted := by
  intro path
  rw [at?_sorted, Option.map_map]
  exact congrArg (Option.map · _) (funext fun w => (node_sorted w).symm)

/-! ## The data decide the sorted form -/

theorem Same.part {v w : Json} (h : v.Same w) (place : Place) :
    (v.part? place = none ∧ w.part? place = none) ∨
      ∃ v' w', v.part? place = some v' ∧ w.part? place = some w' ∧ v'.Same w' := by
  have hnode := h [place]
  simp only [at?] at hnode
  cases hv : v.part? place with
  | none =>
    cases hw : w.part? place with
    | none => exact .inl ⟨rfl, rfl⟩
    | some w' => rw [hv, hw] at hnode; cases hnode
  | some v' =>
    cases hw : w.part? place with
    | none => rw [hv, hw] at hnode; cases hnode
    | some w' =>
      refine .inr ⟨v', w', rfl, rfl, fun path => ?_⟩
      have hpath := h (place :: path)
      rw [at?, at?, hv, hw] at hpath
      exact hpath

theorem sizeOf_part? {v w : Json} {place : Place} (h : v.part? place = some w) : sizeOf w < sizeOf v := by
  cases v with
  | list items =>
    cases place with
    | item i =>
      have hw := List.sizeOf_lt_of_mem (List.mem_of_getElem? h)
      rw [list.sizeOf_spec]
      omega
    | entry k => cases h
  | object entries =>
    cases place with
    | item i => cases h
    | entry k =>
      have hw := List.sizeOf_lt_of_mem (List.mem_reverse.mp (mem_of_lookup h))
      rw [Prod.mk.sizeOf_spec] at hw
      rw [object.sizeOf_spec]
      omega
  | _ => cases h

theorem sorted_eq_of_same (v w : Json) (h : v.Same w) : v.sorted = w.sorted := by
  -- parts at one place are the same data and smaller, so their sorted forms are equal
  have hparts : ∀ place, (v.part? place).map sorted = (w.part? place).map sorted := by
    intro place
    rcases h.part place with ⟨hv, hw⟩ | ⟨v', w', hv, hw, hsame⟩
    · rw [hv, hw]
    · have hsize := sizeOf_part? hv
      rw [hv, hw, Option.map_some, Option.map_some, sorted_eq_of_same v' w' hsame]
  have hnode : v.node = w.node := Option.some.inj (h [])
  cases v with
  | list items =>
    cases w with
    | list items' =>
      rw [sorted, sorted, sortedItems_eq_map, sortedItems_eq_map]
      refine congrArg list (List.ext_getElem? fun i => ?_)
      rw [List.getElem?_map, List.getElem?_map]
      exact hparts (.item i)
    | _ => cases hnode
  | object entries =>
    cases w with
    | object entries' =>
      rw [sorted, sorted]
      refine congrArg object (eq_of_lookup (rising_sortEntries _) (rising_sortEntries _) fun k => ?_)
      rw [lookup_sorted, lookup_sorted]
      exact hparts (.entry k)
    | _ => cases hnode
  | null => cases w <;> cases hnode; rfl
  | bool b => cases w <;> cases hnode; rfl
  | int n => cases w <;> cases hnode; rfl
  | float x => cases w <;> cases hnode; rfl
  | string s => cases w <;> cases hnode; rfl
termination_by sizeOf v

/-- Values are the same data exactly when their sorted forms are equal. -/
theorem same_iff_sorted {v w : Json} : v.Same w ↔ v.sorted = w.sorted := by
  refine ⟨sorted_eq_of_same v w, fun h => ?_⟩
  have hw := (same_sorted w).symm
  rw [← h] at hw
  exact (same_sorted v).trans hw

end LazyBundle.Json

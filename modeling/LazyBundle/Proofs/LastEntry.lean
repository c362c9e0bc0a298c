import LazyBundle.Json.Decode
import LazyBundle.Proofs.JsonRoundTrip

/-!
# The last entry of a key

Two lists of entries with keys: one keeps the order in which the keys first come
(`insertKey`), the other the order of the keys (`insertSorted`). In both the
last entry with a key is the one that is found, and no other keys are found.
-/

namespace LazyBundle.Json

variable {α β : Type}

theorem lookup_cons_eq_ite (k : String) (e : String × α) (l : List (String × α)) :
    (e :: l).lookup k = if k = e.1 then some e.2 else l.lookup k := by
  rw [List.lookup_cons]
  by_cases h : k = e.1
  · simp [h]
  · rw [if_neg h, beq_false_of_ne h]

theorem mem_of_lookup {k : String} {v : α} {l : List (String × α)} (h : l.lookup k = some v) : (k, v) ∈ l := by
  obtain ⟨before, after, rfl, -⟩ := List.lookup_eq_some_iff.mp h
  exact List.mem_append_right _ List.mem_cons_self

theorem lookup_map (f : α → β) (k : String) (l : List (String × α)) :
    (l.map fun e => (e.1, f e.2)).lookup k = (l.lookup k).map f := by
  induction l with
  | nil => rfl
  | cons e l ih =>
    rw [List.map_cons, lookup_cons_eq_ite, lookup_cons_eq_ite, ih]
    split <;> rfl

theorem lookup_reverse {l : List (String × α)} (h : (l.map (·.1)).Nodup) (k : String) :
    l.reverse.lookup k = l.lookup k := by
  induction l with
  | nil => rfl
  | cons e l ih =>
    rw [List.map_cons, List.nodup_cons] at h
    rw [List.reverse_cons, List.lookup_append, ih h.2, lookup_cons_eq_ite, lookup_cons_eq_ite]
    by_cases hk : k = e.1
    · have hn : l.lookup k = none := by
        rw [List.lookup_eq_none_iff]
        intro p hp
        have : p.1 ≠ e.1 := fun he => h.1 (he ▸ List.mem_map_of_mem hp)
        simpa [hk] using Ne.symm this
      simp only [hn, if_pos hk, Option.none_or]
    · simp [hk]

theorem lookup_insertKey (key k : String) (value : α) (l : List (String × α)) :
    (Reader.insertKey key value l).lookup k = if k = key then some value else l.lookup k := by
  induction l with
  | nil => exact lookup_cons_eq_ite k (key, value) []
  | cons e l ih =>
    obtain ⟨k', v⟩ := e
    simp only [Reader.insertKey]
    by_cases hk : k' = key
    · subst hk
      rw [if_pos rfl, lookup_cons_eq_ite, lookup_cons_eq_ite]
      by_cases h : k = k' <;> simp [h]
    · rw [if_neg hk, lookup_cons_eq_ite, lookup_cons_eq_ite, ih]
      by_cases h : k = k'
      · simp [h, hk]
      · simp [h]

theorem lookup_insertSorted (key k : String) (value : α) (l : List (String × α)) :
    (insertSorted key value l).lookup k = if k = key then some value else l.lookup k := by
  induction l with
  | nil => exact lookup_cons_eq_ite k (key, value) []
  | cons e l ih =>
    obtain ⟨k', v⟩ := e
    simp only [insertSorted]
    split
    · rename_i hk; subst hk
      rw [lookup_cons_eq_ite, lookup_cons_eq_ite]
      by_cases h : k = key <;> simp [h]
    split
    · exact lookup_cons_eq_ite k (key, value) _
    · rename_i hk _
      rw [lookup_cons_eq_ite, lookup_cons_eq_ite, ih]
      by_cases h : k = k'
      · simp [h, Ne.symm hk]
      · simp [h]

/-- Sorting changes what is found only where a key is repeated. -/
theorem lookup_foldl_insertSorted (k : String) (l acc : List (String × α)) :
    (l.foldl (fun sorted e => insertSorted e.1 e.2 sorted) acc).lookup k =
      (l.reverse.lookup k).or (acc.lookup k) := by
  induction l generalizing acc with
  | nil => simp
  | cons e l ih =>
    rw [List.foldl_cons, ih, lookup_insertSorted, List.reverse_cons, List.lookup_append, lookup_cons_eq_ite]
    by_cases h : k = e.1 <;> simp [h]

theorem lookup_sortEntries (k : String) (l : List (String × α)) :
    (sortEntries l).lookup k = l.reverse.lookup k := by
  rw [sortEntries, lookup_foldl_insertSorted]; simp

theorem insertSorted_map (f : α → β) (key : String) (value : α) (l : List (String × α)) :
    insertSorted key (f value) (l.map fun e => (e.1, f e.2)) =
      (insertSorted key value l).map fun e => (e.1, f e.2) := by
  induction l with
  | nil => rfl
  | cons e l ih =>
    obtain ⟨k', v⟩ := e
    simp only [List.map_cons, insertSorted]
    split
    · rfl
    split
    · rfl
    · rw [ih, List.map_cons]

theorem sortEntries_map (f : α → β) (l : List (String × α)) :
    sortEntries (l.map fun e => (e.1, f e.2)) = (sortEntries l).map fun e => (e.1, f e.2) := by
  have step : ∀ (l acc : List (String × α)),
      (l.map fun e => (e.1, f e.2)).foldl (fun sorted e => insertSorted e.1 e.2 sorted)
          (acc.map fun e => (e.1, f e.2)) =
        (l.foldl (fun sorted e => insertSorted e.1 e.2 sorted) acc).map fun e => (e.1, f e.2) := by
    intro l
    induction l with
    | nil => intro acc; rfl
    | cons e l ih =>
      intro acc
      rw [List.map_cons, List.foldl_cons, List.foldl_cons, ← ih, ← insertSorted_map]
  exact step l []

theorem mem_of_mem_insertSorted {key : String} {value : α} {e : String × α} {l : List (String × α)}
    (h : e ∈ insertSorted key value l) : e = (key, value) ∨ e ∈ l := by
  induction l with
  | nil => exact .inl (by simpa [insertSorted] using h)
  | cons e' l ih =>
    obtain ⟨k', v⟩ := e'
    simp only [insertSorted] at h
    split at h
    · rcases List.mem_cons.mp h with h | h
      · exact .inl h
      · exact .inr (List.mem_cons_of_mem _ h)
    split at h
    · rcases List.mem_cons.mp h with h | h
      · exact .inl h
      · exact .inr h
    · rcases List.mem_cons.mp h with h | h
      · exact .inr (h ▸ List.mem_cons_self)
      · exact (ih h).imp_right (List.mem_cons_of_mem _)

theorem mem_of_mem_sortEntries {e : String × α} {l : List (String × α)} (h : e ∈ sortEntries l) : e ∈ l := by
  refine List.foldlRecOn (motive := fun sorted => e ∈ sorted → e ∈ l) l _ ?_ ?_ h
  · intro hnil
    cases hnil
  · intro sorted ih e' he' hin
    rcases mem_of_mem_insertSorted hin with rfl | hin
    · exact he'
    · exact ih hin

/-! ## Sorted values -/

mutual

theorem exact_sorted : ∀ v : Json, v.Exact → v.sorted.Exact
  | .list items, h => by
    rw [Exact] at h; rw [sorted, Exact]
    exact exactItems_sorted items h
  | .object entries, h => by
    rw [Exact] at h; rw [sorted, Exact]
    have hs := exactEntries_iff.mp (exactEntries_sorted entries h)
    exact exactEntries_iff.mpr fun e he => hs e (mem_of_mem_sortEntries he)
  | .null, h => h
  | .bool _, h => h
  | .int _, h => h
  | .float _, h => h
  | .string _, h => h

theorem exactItems_sorted : ∀ vs : List Json, ExactItems vs → ExactItems (sortedItems vs)
  | [], h => h
  | v :: vs, h => by
    rw [ExactItems] at h; rw [sortedItems, ExactItems]
    exact ⟨exact_sorted v h.1, exactItems_sorted vs h.2⟩

theorem exactEntries_sorted : ∀ es : List (String × Json), ExactEntries es → ExactEntries (sortedValues es)
  | [], h => h
  | (k, v) :: es, h => by
    rw [ExactEntries] at h; rw [sortedValues, ExactEntries]
    exact ⟨exact_sorted v h.1, exactEntries_sorted es h.2⟩

end

theorem sortedItems_eq_map (vs : List Json) : sortedItems vs = vs.map sorted := by
  induction vs with
  | nil => rfl
  | cons v vs ih => rw [sortedItems, ih, List.map_cons]

theorem sortedValues_eq_map (es : List (String × Json)) :
    sortedValues es = es.map fun e => (e.1, e.2.sorted) := by
  induction es with
  | nil => rfl
  | cons e es ih => obtain ⟨k, v⟩ := e; rw [sortedValues, ih, List.map_cons]

end LazyBundle.Json

import LazyBundle.Proofs.PathSpellings
import LazyBundle.Proofs.Steps
import LazyBundle.Store
import Mathlib.Data.List.Dedup
import Mathlib.Data.List.Induction

/-!
# Files that were written to a store

After any sequence of writes a store holds for each path the content of the last
write to it, and lists each path once, in the spelling and at the place of the
first write to it (`store_of_writes`).
-/

namespace LazyBundle

/-- The paths of a list before which no spelling of the same path stands. -/
def Path.firsts (ps : List Path) : List Path :=
  (ps.zipIdx.filter fun e : Path × Nat => ¬ ∃ q ∈ ps.take e.2, q.Same e.1).map (·.1)

namespace Path

theorem firsts_concat (ps : List Path) (p : Path) :
    firsts (ps ++ [p]) = if ∃ q ∈ ps, q.Same p then firsts ps else firsts ps ++ [p] := by
  have hkept : ∀ e ∈ ps.zipIdx, (ps ++ [p]).take e.2 = ps.take e.2 := by
    intro e he
    have hlt := (List.mem_zipIdx' he).1
    exact List.take_append_of_le_length (Nat.le_of_lt hlt)
  have hfilter : (ps.zipIdx.filter fun e : Path × Nat => ¬ ∃ q ∈ (ps ++ [p]).take e.2, q.Same e.1) =
      ps.zipIdx.filter fun e : Path × Nat => ¬ ∃ q ∈ ps.take e.2, q.Same e.1 := by
    apply List.filter_congr
    intro e he
    rw [hkept e he]
  have hall : (ps ++ [p]).take (0 + ps.length) = ps := by simp
  rw [firsts, List.zipIdx_append, List.filter_append, hfilter, List.map_append, List.zipIdx_singleton,
    List.filter_cons, hall]
  by_cases h : ∃ q ∈ ps, q.Same p
  · simp [firsts, h]
  · simp [firsts, h]

theorem exists_mem_firsts_iff (ps : List Path) (p : Path) :
    (∃ q ∈ firsts ps, q.Same p) ↔ ∃ q ∈ ps, q.Same p := by
  induction ps using List.reverseRecOn with
  | nil => simp [firsts]
  | append_singleton ps r ih =>
    rw [firsts_concat]
    split
    · rename_i h
      obtain ⟨q, hq, hr⟩ := h
      rw [ih]
      constructor
      · rintro ⟨q', hq', hs⟩
        exact ⟨q', List.mem_append_left _ hq', hs⟩
      · rintro ⟨q', hq', hs⟩
        rcases List.mem_append.mp hq' with hq' | hq'
        · exact ⟨q', hq', hs⟩
        · obtain rfl := List.mem_singleton.mp hq'
          exact ⟨q, hq, hr.trans hs⟩
    · simp only [List.mem_append, or_and_right, exists_or, ih]

theorem firsts_subset (ps : List Path) : firsts ps ⊆ ps := by
  intro p hp
  obtain ⟨e, he, rfl⟩ := List.mem_map.mp hp
  exact List.fst_mem_of_mem_zipIdx (List.mem_filter.mp he).1

/-- No two of the first paths are the same. -/
theorem pairwise_firsts (ps : List Path) : (firsts ps).Pairwise fun p q => ¬ p.Same q := by
  induction ps using List.reverseRecOn with
  | nil => simp [firsts]
  | append_singleton ps r ih =>
    rw [firsts_concat]
    split
    · exact ih
    · rename_i h
      rw [List.pairwise_append]
      refine ⟨ih, List.pairwise_singleton _ _, ?_⟩
      intro p hp q hq hs
      obtain rfl := List.mem_singleton.mp hq
      exact h ((exists_mem_firsts_iff ps q).mp ⟨p, hp, hs⟩)

/-- There are as many first paths as there are different paths. -/
theorem length_firsts (ps : List Path) : (firsts ps).length = (ps.map segments).dedup.length := by
  have hnodup : ((firsts ps).map segments).Nodup := by
    rw [List.Nodup, List.pairwise_map]
    exact pairwise_firsts ps
  have hperm : ((firsts ps).map segments).Perm (ps.map segments).dedup := by
    rw [List.perm_ext_iff_of_nodup hnodup (List.nodup_dedup _)]
    intro segs
    rw [List.mem_dedup, List.mem_map, List.mem_map]
    constructor
    · rintro ⟨p, hp, rfl⟩
      exact (exists_mem_firsts_iff ps p).mp ⟨p, hp, .refl p⟩
    · rintro ⟨p, hp, rfl⟩
      exact (exists_mem_firsts_iff ps p).mpr ⟨p, hp, .refl p⟩
  rw [← hperm.length_eq, List.length_map]

end Path

namespace Store

theorem map_insertEntry (p : Path) (content : String) (l : List (Path × String)) :
    (insertEntry p content l).map (·.1) =
      if ∃ q ∈ l.map (·.1), q.Same p then l.map (·.1) else l.map (·.1) ++ [p] := by
  induction l with
  | nil => simp [insertEntry]
  | cons e l ih =>
    obtain ⟨r, old⟩ := e
    by_cases hr : r.Same p
    · simp [insertEntry, hr]
    · have hcons : (∃ q ∈ ((r, old) :: l).map (·.1), q.Same p) ↔ ∃ q ∈ l.map (·.1), q.Same p := by
        simp [hr]
      rw [insertEntry, if_neg hr, List.map_cons, ih]
      by_cases h : ∃ q ∈ l.map (·.1), q.Same p
      · rw [if_pos h, if_pos (hcons.mpr h)]
        rfl
      · rw [if_neg h, if_neg (mt hcons.mp h)]
        rfl

theorem paths_write (s : Store) (p : Path) (content : String) :
    (s.write p content).paths = if ∃ q ∈ s.paths, q.Same p then s.paths else s.paths ++ [p] :=
  map_insertEntry p content s.entries

def writeAll (s : Store) (writes : List (Path × String)) : Store :=
  writes.foldl (fun s w => s.write w.1 w.2) s

theorem writeAll_concat (s : Store) (writes : List (Path × String)) (w : Path × String) :
    s.writeAll (writes ++ [w]) = (s.writeAll writes).write w.1 w.2 :=
  List.foldl_concat ..

theorem mapM_write (writes : List (Path × String)) (s : Store) :
    (writes.mapM fun w => (fileSystem fun _ => false).write w.1 w.2) s =
      (writes.map fun _ => .ok (), s.writeAll writes) := by
  induction writes generalizing s with
  | nil => rfl
  | cons w writes ih =>
    rw [List.mapM_cons, Step.bind_apply, Step.bind_apply, ih]
    rfl

theorem read?_writeAll (writes : List (Path × String)) (p : Path) :
    (writeAll {} writes).read? p = (writes.reverse.find? fun w => w.1.Same p).map (·.2) := by
  induction writes using List.reverseRecOn with
  | nil => rfl
  | append_singleton writes w ih =>
    rw [writeAll_concat, read?_write, ih, List.reverse_append, List.reverse_singleton, List.singleton_append,
      List.find?_cons]
    by_cases h : w.1.Same p <;> simp [h]

theorem paths_writeAll (writes : List (Path × String)) :
    (writeAll {} writes).paths = Path.firsts (writes.map (·.1)) := by
  induction writes using List.reverseRecOn with
  | nil => rfl
  | append_singleton writes w ih =>
    rw [writeAll_concat, paths_write, ih, List.map_append, List.map_singleton, Path.firsts_concat]
    simp only [Path.exists_mem_firsts_iff]

theorem size_eq_length_paths (s : Store) : s.size = s.paths.length := by
  simp [size, paths]

theorem isEmpty_writeAll (writes : List (Path × String)) : (writeAll {} writes).isEmpty ↔ writes = [] := by
  rw [isEmpty_iff, size_eq_length_paths, paths_writeAll, List.length_eq_zero_iff]
  constructor
  · intro h
    cases writes with
    | nil => rfl
    | cons w writes =>
      obtain ⟨q, hq, -⟩ := (Path.exists_mem_firsts_iff ((w :: writes).map (·.1)) w.1).mpr
        ⟨w.1, List.mem_cons_self, .refl w.1⟩
      rw [h] at hq
      cases hq
  · rintro rfl
    rfl

/-- A store holds the last content of each path, and lists each path once, as it was first written and in
the order of the first writes. Paths are the same when they differ in repeated slashes, in dots behind a slash
and in a slash at the end; steps up and a dot in front count. -/
theorem store_of_writes (writes : List (Path × String)) :
    let run := (writes.mapM fun w => (fileSystem fun _ => false).write w.1 w.2) {}
    let written := writes.map (·.1)
    run.1 = writes.map (fun _ => .ok ()) ∧
      (∀ p, run.2.read? p = (writes.reverse.find? fun w => w.1.Same p).map (·.2)) ∧
      run.2.paths = Path.firsts written ∧
      (∀ p ∈ written, ∃ q ∈ run.2.paths, q.Same p) ∧
      (run.2.paths.Pairwise fun p q => ¬ p.Same q) ∧
      run.2.size = (written.map Path.segments).dedup.length ∧
      (run.2.isEmpty ↔ writes = []) ∧
      (∀ p q : Path, p.Same q ↔ Path.SpeltAlike p.text.toList q.text.toList) ∧
      (∀ before after, ¬ (Path.mk (before ++ "/../" ++ after)).Same ⟨before ++ "/" ++ after⟩) ∧
      ∀ rest, (Path.mk ("./" ++ rest)).Same ⟨rest⟩ ↔ rest = "." ∨ ∃ more, rest = "./" ++ more := by
  intro run written
  have hrun : run = (writes.map fun _ => .ok (), writeAll {} writes) := mapM_write writes {}
  have hpaths : run.2.paths = Path.firsts written := by rw [hrun, paths_writeAll]
  refine ⟨by rw [hrun], ?_, hpaths, ?_, ?_, ?_, ?_, ?_⟩
  · intro p
    rw [hrun, read?_writeAll]
  · intro p hp
    rw [hpaths]
    exact (Path.exists_mem_firsts_iff written p).mpr ⟨p, hp, .refl p⟩
  · rw [hpaths]
    exact Path.pairwise_firsts written
  · rw [size_eq_length_paths, hpaths, Path.length_firsts]
  · rw [hrun]
    exact isEmpty_writeAll writes
  · exact ⟨fun p q => Path.same_iff_respelled, Path.not_same_without_up, Path.same_without_dot_iff⟩

example : (writeAll {} [(⟨"a/b.js"⟩, "1"), (⟨"c.js"⟩, "2"), (⟨"a//./b.js"⟩, "3")]).entries =
    [(⟨"a/b.js"⟩, "3"), (⟨"c.js"⟩, "2")] := by
  decide

end Store

end LazyBundle

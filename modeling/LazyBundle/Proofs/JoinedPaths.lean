import LazyBundle.ModuleWriter

/-!
# Joined paths

A relative name adds its segments to those of the directory it is joined to
(`segments_join_relative`). A plain name adds one segment, so two joined paths
name the same file only when the directories and the names agree
(`same_join_iff`).
-/

namespace LazyBundle.Path

structure Plain (name : String) : Prop where
  noSlash : '/' ∉ name.toList
  ne_nil : name.toList ≠ []
  ne_here : name.toList ≠ ['.']
  ne_up : name.toList ≠ ['.', '.']

theorem Plain.segment? {name : String} (h : Plain name) : segment? name.toList = some (.name name.toList) := by
  rw [Path.segment?, if_neg (not_or.mpr ⟨h.ne_nil, h.ne_here⟩), if_neg h.ne_up]

theorem Plain.head {name : String} (h : Plain name) : name.toList.head? ≠ some '/' :=
  fun hs => h.noSlash (List.mem_of_mem_head? hs)

theorem segmentsOf_nil : segmentsOf [] = [] := by decide

theorem segment?_nil : segment? [] = none := rfl

theorem first_piece (chars : List Char) (rest : List (List Char)) :
    (chars.splitOn '/' ++ rest).head? = (chars.splitOn '/').head? := by
  cases h : chars.splitOn '/' with
  | nil => exact absurd h (List.splitOn_ne_nil _ _)
  | cons p ps => rfl

theorem Plain.segmentsOf {name : String} (h : Plain name) : segmentsOf name.toList = [.name name.toList] := by
  have hp : name.toList.splitOn '/' = [name.toList] := List.splitOn_eq_singleton h.noSlash
  simp only [Path.segmentsOf, hp, List.filterMap_cons, h.segment?, List.filterMap_nil, if_neg h.head, List.head?_cons,
    Option.some.injEq, if_neg h.ne_here]

/-- A slash at the end of a text adds no segment, unless it is the whole text. -/
theorem segmentsOf_slash {chars : List Char} (h : chars ≠ []) : segmentsOf (chars ++ ['/']) = segmentsOf chars := by
  have hhead : (chars ++ ['/']).head? = chars.head? := by
    cases chars with
    | nil => exact absurd rfl h
    | cons c chars => rfl
  have hpieces : ((chars ++ ['/']).splitOn '/') = chars.splitOn '/' ++ [[]] :=
    List.splitOn_append_cons_self chars []
  simp only [segmentsOf, hhead, hpieces, first_piece, List.filterMap_append, List.filterMap_cons, segment?_nil,
    List.filterMap_nil, List.append_nil]

def bodyOf (chars : List Char) : List Segment :=
  (chars.splitOn '/').filterMap Path.segment?

theorem Plain.bodyOf {name : String} (h : Plain name) : bodyOf name.toList = [.name name.toList] := by
  have hp : name.toList.splitOn '/' = [name.toList] := List.splitOn_eq_singleton h.noSlash
  rw [Path.bodyOf, hp, List.filterMap_cons_some h.segment?, List.filterMap_nil]

theorem segmentsOf_append_slash (chars name : List Char) :
    segmentsOf (chars ++ '/' :: name) = segmentsOf (chars ++ ['/']) ++ bodyOf name := by
  have hhead : (chars ++ '/' :: name).head? = (chars ++ ['/']).head? := by cases chars <;> rfl
  have hpieces : ∀ rest, (chars ++ '/' :: rest).splitOn '/' = chars.splitOn '/' ++ rest.splitOn '/' :=
    List.splitOn_append_cons_self chars
  have hnil : ([] : List Char).splitOn '/' = [[]] := rfl
  simp only [segmentsOf, bodyOf, hhead, hpieces, first_piece, hnil, List.filterMap_append, List.filterMap_cons,
    segment?_nil, List.filterMap_nil, List.append_nil]
  split
  · rfl
  · split <;> rfl

/-- What a relative name adds to a directory. A dot in front counts only where nothing is before it. -/
def added (dir : Path) (name : String) : List Segment :=
  if dir.text.toList = [] then segmentsOf name.toList else bodyOf name.toList

theorem Plain.added {name : String} (h : Plain name) (dir : Path) : dir.added name = [.name name.toList] := by
  rw [Path.added, h.segmentsOf, h.bodyOf, ite_self]

theorem segments_join_relative (dir : Path) {name : String} (h : name.toList.head? ≠ some '/') :
    (dir.join name).segments = dir.segments ++ dir.added name := by
  rw [join, if_neg h, added]
  by_cases hd : dir.text.toList = []
  · rw [if_pos (.inl hd), if_pos hd, segments, segments, String.toList_append, hd, segmentsOf_nil]
    rfl
  · rw [if_neg hd]
    by_cases hl : dir.text.toList.getLast? = some '/'
    · obtain ⟨chars, hc⟩ := List.getLast?_eq_some_iff.mp hl
      rw [if_pos (.inr hl), segments, segments, String.toList_append, hc, List.append_assoc, List.singleton_append,
        segmentsOf_append_slash]
    · rw [if_neg (not_or.mpr ⟨hd, hl⟩), segments, segments, String.toList_append, String.toList_append,
        List.append_assoc]
      rw [show "/".toList ++ name.toList = '/' :: name.toList from rfl, segmentsOf_append_slash, segmentsOf_slash hd]

theorem segments_join (dir : Path) {name : String} (h : Plain name) :
    (dir.join name).segments = dir.segments ++ [.name name.toList] := by
  rw [segments_join_relative dir h.head, h.added]

theorem same_join_iff {dir dir' : Path} {name name' : String} (h : Plain name) (h' : Plain name') :
    (dir.join name).Same (dir'.join name') ↔ dir.Same dir' ∧ name = name' := by
  rw [Same, Same, segments_join dir h, segments_join dir' h']
  constructor
  · intro he
    obtain ⟨hd, hn⟩ := List.append_inj' he rfl
    rw [List.cons.injEq, Segment.name.injEq] at hn
    exact ⟨hd, String.toList_inj.mp hn.1⟩
  · rintro ⟨hd, rfl⟩
    rw [hd]

theorem plain_entryFileName {id : String} (h : '/' ∉ id.toList) : Plain (entryFileName id) := by
  have hlist : (entryFileName id).toList = id.toList ++ ".entry.js".toList := String.toList_append
  have hlen : 9 ≤ (entryFileName id).toList.length := by
    rw [hlist, List.length_append]
    exact Nat.le_add_left 9 _
  refine ⟨?_, ?_, ?_, ?_⟩
  · rw [hlist, List.mem_append, not_or]
    exact ⟨h, by decide⟩
  all_goals
    intro he
    rw [he] at hlen
    simp at hlen

end LazyBundle.Path

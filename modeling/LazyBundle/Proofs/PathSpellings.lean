import LazyBundle.Proofs.JoinedPaths
import Mathlib.Logic.Relation

/-!
# Spellings of a path

A path can be spelled in many ways: a slash may be repeated, a dot may stand
behind a slash, and a slash may stand at the end. Two texts spell the same path
exactly when they differ in nothing else (`same_iff_respelled`). So steps up
always count (`not_same_without_up`), and a dot in front counts unless one
follows it (`same_without_dot_iff`).
-/

namespace LazyBundle.Path

inductive Respelled : List Char → List Char → Prop
  | slashes (before after : List Char) : Respelled (before ++ '/' :: '/' :: after) (before ++ '/' :: after)
  | innerDot (before after : List Char) : Respelled (before ++ '/' :: '.' :: '/' :: after) (before ++ '/' :: after)
  | lastDot (before : List Char) : Respelled (before ++ ['/', '.']) (before ++ ['/'])
  | lastSlash {before : List Char} (h : before ≠ []) : Respelled (before ++ ['/']) before

abbrev SpeltAlike : List Char → List Char → Prop :=
  Relation.EqvGen Respelled

/-! ## Changes of spelling keep the segments -/

theorem bodyOf_slash (chars : List Char) : bodyOf ('/' :: chars) = bodyOf chars := by
  have hp : ('/' :: chars).splitOn '/' = [] :: chars.splitOn '/' := List.splitOn_append_cons_self [] chars
  rw [bodyOf, bodyOf, hp, List.filterMap_cons_none segment?_nil]

theorem bodyOf_dot (chars : List Char) : bodyOf ('.' :: '/' :: chars) = bodyOf chars := by
  have hp : ('.' :: '/' :: chars).splitOn '/' = ['.'] :: chars.splitOn '/' :=
    List.splitOn_append_cons_self ['.'] chars
  have hdot : segment? ['.'] = none := by decide
  rw [bodyOf, bodyOf, hp, List.filterMap_cons_none hdot]

theorem Respelled.segmentsOf_eq {a b : List Char} (h : Respelled a b) : segmentsOf a = segmentsOf b := by
  cases h with
  | slashes before after =>
    rw [segmentsOf_append_slash, segmentsOf_append_slash before after, bodyOf_slash]
  | innerDot before after =>
    rw [segmentsOf_append_slash, segmentsOf_append_slash before after, bodyOf_dot]
  | lastDot before =>
    rw [segmentsOf_append_slash, show bodyOf ['.'] = [] by decide, List.append_nil]
  | lastSlash hne => exact segmentsOf_slash hne

theorem SpeltAlike.segmentsOf_eq {a b : List Char} (h : SpeltAlike a b) : segmentsOf a = segmentsOf b := by
  induction h with
  | rel a b h => exact h.segmentsOf_eq
  | refl a => rfl
  | symm a b _ ih => exact ih.symm
  | trans a b c _ _ ih ih' => exact ih.trans ih'

/-! ## One spelling for each list of segments -/

def Segment.chars : Segment → List Char
  | root => []
  | here => ['.']
  | up => ['.', '.']
  | name chars => chars

def spelling : List Segment → List Char
  | [] => []
  | [.root] => ['/']
  | s :: ss => s.chars ++ ss.flatMap ('/' :: ·.chars)

theorem spelling_cons {s : Segment} (h : s ≠ .root) (ss : List Segment) :
    spelling (s :: ss) = s.chars ++ ss.flatMap ('/' :: ·.chars) := by
  cases s with
  | root => exact absurd rfl h
  | here => rfl
  | up => rfl
  | name chars => rfl

theorem spelling_root_cons (s : Segment) (ss : List Segment) :
    spelling (.root :: s :: ss) = '/' :: s.chars ++ ss.flatMap ('/' :: ·.chars) := by
  simp [spelling, show Segment.root.chars = [] from rfl]

theorem chars_of_segment? {piece : List Char} {s : Segment} (h : segment? piece = some s) : s.chars = piece := by
  unfold segment? at h
  split at h
  · cases h
  · split at h
    · rename_i hup
      cases h
      exact hup.symm
    · cases h
      rfl

theorem segment?_eq_none {piece : List Char} (h : segment? piece = none) : piece = [] ∨ piece = ['.'] := by
  unfold segment? at h
  split at h
  · assumption
  · split at h <;> cases h

/-- A piece that is no segment can be left out where another piece follows. -/
theorem alike_skip {piece : List Char} (h : segment? piece = none) (before after : List Char) :
    SpeltAlike (before ++ '/' :: (piece ++ '/' :: after)) (before ++ '/' :: after) := by
  rcases segment?_eq_none h with rfl | rfl
  · exact .rel _ _ (.slashes before after)
  · exact .rel _ _ (.innerDot before after)

theorem alike_last {piece : List Char} (h : segment? piece = none) (before : List Char) :
    SpeltAlike (before ++ '/' :: piece) (before ++ ['/']) := by
  rcases segment?_eq_none h with rfl | rfl
  · exact .refl _
  · exact .rel _ _ (.lastDot before)

-- The induction is on the pieces behind the text; a piece that is a segment joins the text.
theorem alike_relative {before : List Char} (hne : before ≠ []) (pieces : List (List Char)) :
    SpeltAlike (before ++ pieces.flatMap ('/' :: ·))
      (before ++ (pieces.filterMap segment?).flatMap ('/' :: ·.chars)) := by
  induction pieces generalizing before with
  | nil => exact .refl _
  | cons piece pieces ih =>
    cases hs : segment? piece with
    | some s =>
      have hnonempty : before ++ '/' :: piece ≠ [] := by simp
      have hjoin := ih hnonempty
      simpa [hs, chars_of_segment? hs] using hjoin
    | none =>
      have hrest := ih hne
      rw [List.filterMap_cons_none hs]
      refine .trans _ _ _ ?_ hrest
      cases pieces with
      | nil =>
        simp only [List.flatMap_cons, List.flatMap_nil, List.append_nil]
        exact .trans _ _ _ (alike_last hs before) (.rel _ _ (.lastSlash hne))
      | cons next pieces =>
        have hskip := alike_skip hs before (next ++ pieces.flatMap ('/' :: ·))
        simpa using hskip

theorem alike_absolute {pieces : List (List Char)} (hne : pieces ≠ []) :
    SpeltAlike (pieces.flatMap ('/' :: ·)) (spelling (.root :: pieces.filterMap segment?)) := by
  induction pieces with
  | nil => exact absurd rfl hne
  | cons piece pieces ih =>
    cases hs : segment? piece with
    | some s =>
      have hrest := alike_relative (List.cons_ne_nil '/' piece) pieces
      rw [List.filterMap_cons_some hs, spelling_root_cons, chars_of_segment? hs]
      exact hrest
    | none =>
      rw [List.filterMap_cons_none hs]
      cases pieces with
      | nil =>
        have hlast := alike_last hs []
        simpa [spelling] using hlast
      | cons next pieces =>
        refine .trans _ _ _ ?_ (ih (by simp))
        have hskip := alike_skip hs [] (next ++ pieces.flatMap ('/' :: ·))
        simpa using hskip

theorem intercalate_slash (first : List Char) (rest : List (List Char)) :
    ['/'].intercalate (first :: rest) = first ++ rest.flatMap ('/' :: ·) := by
  induction rest generalizing first with
  | nil => simp [List.intercalate]
  | cons next rest ih =>
    have h := ih next
    simp only [List.intercalate, List.intersperse, List.flatten_cons] at h ⊢
    simp [h]

theorem exists_pieces (chars : List Char) : ∃ first rest,
    chars.splitOn '/' = first :: rest ∧ chars = first ++ rest.flatMap ('/' :: ·) := by
  have hjoin : ['/'].intercalate (chars.splitOn '/') = chars := List.intercalate_splitOn '/'
  cases h : chars.splitOn '/' with
  | nil => exact absurd h (List.splitOn_ne_nil _ _)
  | cons first rest =>
    rw [h, intercalate_slash] at hjoin
    exact ⟨first, rest, rfl, hjoin.symm⟩

theorem segment?_ne_root {piece : List Char} : segment? piece ≠ some .root := by
  unfold segment?
  split
  · simp
  · split <;> simp

/-- Every text can be changed into the shortest spelling of its path. -/
theorem alike_spelling (chars : List Char) : SpeltAlike chars (spelling (segmentsOf chars)) := by
  obtain ⟨first, rest, hp, hc⟩ := exists_pieces chars
  cases first with
  | nil =>
    cases rest with
    | nil =>
      rw [hc]
      exact .refl _
    | cons piece rest =>
      have hhead : chars.head? = some '/' := by simp [hc]
      have hs : segmentsOf chars = .root :: (piece :: rest).filterMap segment? := by
        simp only [segmentsOf, hhead, hp, if_true, List.filterMap_cons_none segment?_nil]
      rw [hs, hc]
      exact alike_absolute (by simp)
  | cons c first =>
    have hhead : chars.head? ≠ some '/' := by
      intro h
      obtain ⟨cs, rfl⟩ := List.head?_eq_some_iff.mp h
      have hempty : ('/' :: cs).splitOn '/' = [] :: cs.splitOn '/' := List.splitOn_append_cons_self [] cs
      rw [hempty] at hp
      cases hp
    have hrest := alike_relative (List.cons_ne_nil c first) rest
    rw [← hc] at hrest
    have hs : ∃ s, s ≠ .root ∧ s.chars = c :: first ∧ segmentsOf chars = s :: rest.filterMap segment? := by
      by_cases hdot : c :: first = ['.']
      · refine ⟨.here, by simp, hdot.symm, ?_⟩
        have hnone : segment? ['.'] = none := by decide
        rw [segmentsOf, if_neg hhead, hp, hdot, List.head?_cons, if_pos rfl, List.filterMap_cons_none hnone]
      · cases hseg : segment? (c :: first) with
        | none =>
          have hblank := segment?_eq_none hseg
          simp [hdot] at hblank
        | some s =>
          refine ⟨s, ?_, chars_of_segment? hseg, ?_⟩
          · rintro rfl
            exact segment?_ne_root hseg
          · rw [segmentsOf, if_neg hhead, hp, if_neg (by simpa using hdot), List.filterMap_cons_some hseg]
    obtain ⟨s, hroot, hchars, hsegments⟩ := hs
    rw [hsegments, spelling_cons hroot, hchars]
    exact hrest

/-- Two texts spell the same path exactly when repeated slashes, dots behind a slash and a slash at the end
are all that they differ in. -/
theorem same_iff_respelled {p q : Path} : p.Same q ↔ SpeltAlike p.text.toList q.text.toList := by
  constructor
  · intro h
    have hq := alike_spelling q.text.toList
    rw [← show segmentsOf p.text.toList = segmentsOf q.text.toList from h] at hq
    exact .trans _ _ _ (alike_spelling p.text.toList) (.symm _ _ hq)
  · exact fun h => h.segmentsOf_eq

theorem segment?_ne_here {piece : List Char} : segment? piece ≠ some .here := by
  unfold segment?
  split
  · simp
  · split <;> simp

theorem bodyOf_filter (chars : List Char) :
    (bodyOf chars).filter (fun s => s ≠ .root ∧ s ≠ .here) = bodyOf chars := by
  refine List.filter_eq_self.mpr fun s hs => decide_eq_true ⟨?_, ?_⟩
  · rintro rfl
    obtain ⟨piece, -, hpiece⟩ := List.mem_filterMap.mp hs
    exact segment?_ne_root hpiece
  · rintro rfl
    obtain ⟨piece, -, hpiece⟩ := List.mem_filterMap.mp hs
    exact segment?_ne_here hpiece

theorem segmentsOf_filter (chars : List Char) :
    (segmentsOf chars).filter (fun s => s ≠ .root ∧ s ≠ .here) = bodyOf chars := by
  have hbody := bodyOf_filter chars
  unfold segmentsOf
  change (if _ then Segment.root :: bodyOf chars else if _ then .here :: bodyOf chars else bodyOf chars).filter _ = _
  split
  · rw [List.filter_cons_of_neg (by decide), hbody]
  · split
    · rw [List.filter_cons_of_neg (by decide), hbody]
    · exact hbody

theorem Same.bodyOf_eq {p q : Path} (h : p.Same q) : bodyOf p.text.toList = bodyOf q.text.toList := by
  rw [← segmentsOf_filter p.text.toList, ← segmentsOf_filter q.text.toList]
  exact congrArg _ h

theorem root_mem_segments_iff (p : Path) : Segment.root ∈ p.segments ↔ p.isAbsolute := by
  have hbody : Segment.root ∉ bodyOf p.text.toList := by
    intro hroot
    obtain ⟨piece, -, hpiece⟩ := List.mem_filterMap.mp hroot
    exact segment?_ne_root hpiece
  unfold segments segmentsOf isAbsolute
  change Segment.root ∈ (if _ then Segment.root :: bodyOf _ else if _ then .here :: bodyOf _ else bodyOf _) ↔ _
  by_cases habsolute : p.text.toList.head? = some '/'
  · simp [habsolute]
  · rw [if_neg habsolute]
    split <;> simp [hbody, habsolute]

theorem Same.isAbsolute_eq {p q : Path} (h : p.Same q) : p.isAbsolute = q.isAbsolute := by
  have hroot : Segment.root ∈ p.segments ↔ Segment.root ∈ q.segments := by rw [show p.segments = q.segments from h]
  rw [root_mem_segments_iff, root_mem_segments_iff] at hroot
  exact Bool.eq_iff_iff.mpr hroot

/-! ## What counts -/

/-- A step up is never left out. -/
theorem not_same_without_up (before after : String) :
    ¬ (Path.mk (before ++ "/../" ++ after)).Same ⟨before ++ "/" ++ after⟩ := by
  have hup : bodyOf ('.' :: '.' :: '/' :: after.toList) = .up :: bodyOf after.toList := by
    have hp : ('.' :: '.' :: '/' :: after.toList).splitOn '/' = ['.', '.'] :: after.toList.splitOn '/' :=
      List.splitOn_append_cons_self ['.', '.'] after.toList
    rw [bodyOf, bodyOf, hp, List.filterMap_cons_some (show segment? ['.', '.'] = some .up by decide)]
  intro h
  simp only [Same, segments, String.toList_append, List.append_assoc] at h
  rw [show "/../".toList = ['/', '.', '.', '/'] by decide, show "/".toList = ['/'] by decide] at h
  simp only [List.cons_append, List.nil_append] at h
  rw [segmentsOf_append_slash, segmentsOf_append_slash before.toList after.toList, hup] at h
  have hlen := congrArg List.length h
  simp at hlen

theorem segmentsOf_dot_slash (chars : List Char) : segmentsOf ('.' :: '/' :: chars) = .here :: bodyOf chars :=
  segmentsOf_append_slash ['.'] chars

/-- A dot in front of a path counts unless another one stands behind it. -/
theorem same_without_dot_iff (rest : String) :
    (Path.mk ("./" ++ rest)).Same ⟨rest⟩ ↔ rest = "." ∨ ∃ more, rest = "./" ++ more := by
  have hdot : ("./" ++ rest).toList = '.' :: '/' :: rest.toList := String.toList_append
  constructor
  · intro h
    have hsegments : .here :: bodyOf rest.toList = segmentsOf rest.toList := by
      rw [← segmentsOf_dot_slash, ← hdot]
      exact h
    obtain ⟨first, pieces, hp, hc⟩ := exists_pieces rest.toList
    rw [segmentsOf, hp] at hsegments
    split at hsegments
    · cases hsegments
    · split at hsegments
      · rename_i hfirst
        obtain rfl : first = ['.'] := by simpa using hfirst
        cases pieces with
        | nil =>
          left
          rw [← String.toList_inj, hc]
          rfl
        | cons piece pieces =>
          right
          refine ⟨String.ofList (piece ++ pieces.flatMap ('/' :: ·)), ?_⟩
          simp [← String.toList_inj, hc]
      · -- without a dot in front the path has one segment less
        have hlen := congrArg List.length hsegments
        rw [bodyOf, hp, List.length_cons] at hlen
        omega
  · rintro (rfl | ⟨more, rfl⟩)
    · decide
    · have hmore : ("./" ++ more).toList = '.' :: '/' :: more.toList := String.toList_append
      show segmentsOf _ = segmentsOf _
      rw [hdot, hmore, segmentsOf_dot_slash, segmentsOf_dot_slash, bodyOf_dot]

end LazyBundle.Path

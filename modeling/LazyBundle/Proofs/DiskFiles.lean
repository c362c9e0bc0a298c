import LazyBundle.Disk
import LazyBundle.Proofs.Outcomes
import LazyBundle.Proofs.PathSpellings
import LazyBundle.Text.Utf8
import Mathlib.Data.List.Find
import Mathlib.Data.String.Basic

/-!
# Files on a disk

A write leaves the directories that are there and makes some, so a path that
leads to a file goes on to do so. After any writes that go well a file holds what
the last of them has put there, by whatever path (`Writes.readText`).
-/

namespace LazyBundle.Disk

theorem readText_eq_ok_iff {disk : Disk} {p : Path} {s : String} :
    disk.readText p = .ok s ↔ disk.find p = .ok (.file s.toUTF8) := by
  unfold readText
  cases hkind : disk.find p with
  | error e => exact ⟨fun h => (by cases h), fun h => (by cases h)⟩
  | ok kind =>
    cases kind with
    | directory => exact ⟨fun h => (by cases h), fun h => (by cases h)⟩
    | file content =>
      have hfile : (Except.ok (Kind.file content) : Except IoError Kind) = .ok (.file s.toUTF8) ↔
          String.fromUTF8? content = some s := by
        rw [Text.fromUTF8?_eq_some_iff, Except.ok.injEq, Kind.file.injEq]
      rw [hfile]
      simp only [bind, Except.bind]
      cases String.fromUTF8? content with
      | none => exact ⟨fun h => (by cases h), fun h => (by cases h)⟩
      | some s' => exact ⟨fun h => (by cases h; rfl), fun h => (by cases h; rfl)⟩

/-! ## Paths that lead to files -/

/-- The directories that are there stay, and so does the working directory. -/
structure Extends (d d' : Disk) : Prop where
  working : d'.working = d.working
  directory : ∀ place, d.lookup? place = some .directory → d'.lookup? place = some .directory

theorem Extends.trans {d d' d'' : Disk} (h : d.Extends d') (h' : d'.Extends d'') : d.Extends d'' :=
  ⟨h'.working.trans h.working, fun place hp => h'.directory place (h.directory place hp)⟩

/-- Where the file of a path is, or would be. -/
def fileAt? (d : Disk) (p : Path) : Option (List String) :=
  match d.goal p with
  | .ok (.named place name false) => if name.utf8ByteSize ≤ maxName then some (place ++ [name]) else none
  | _ => none

section goal

variable {d d' : Disk} (h : d.Extends d') {p : Path}
include h

theorem Extends.walk {pieces place goal : List String} (hw : d.walk place pieces = .ok goal) :
    d'.walk place pieces = .ok goal := by
  induction pieces generalizing place with
  | nil => exact hw
  | cons piece pieces ih =>
    rw [Disk.walk] at hw ⊢
    split
    · rename_i hskip
      rw [if_pos hskip] at hw
      exact ih hw
    · rename_i hskip
      rw [if_neg hskip] at hw
      split
      · rename_i hup
        rw [if_pos hup] at hw
        exact ih hw
      · rename_i hup
        rw [if_neg hup] at hw
        split
        · rename_i hlong
          rw [if_pos hlong] at hw
          cases hw
        · rename_i hlong
          rw [if_neg hlong] at hw
          -- the walk goes on in directories only, and these have stayed
          cases hl : d.lookup? (place ++ [piece]) with
          | none => simp only [hl] at hw; cases hw
          | some kind =>
            cases kind with
            | file content => simp only [hl] at hw; cases hw
            | directory =>
              simp only [hl] at hw
              simp only [h.directory _ hl]
              exact ih hw

theorem Extends.goal {goal : Goal} (hg : d.goal p = .ok goal) : d'.goal p = .ok goal := by
  unfold Disk.goal at hg ⊢
  rw [h.working]
  by_cases hempty : p.text.isEmpty
  · rw [if_pos hempty] at hg
    cases hg
  by_cases hzero : p.text.toList.contains '\x00'
  · rw [if_neg hempty, if_pos hzero] at hg
    cases hg
  by_cases hlong : maxPath < p.text.utf8ByteSize
  · rw [if_neg hempty, if_neg hzero, if_pos hlong] at hg
    cases hg
  rw [if_neg hempty, if_neg hzero, if_neg hlong] at hg ⊢
  simp only at hg ⊢
  split
  · rename_i hnone
    simpa only [hnone] using hg
  · rename_i last hsome
    simp only [hsome] at hg
    obtain ⟨place, hwalk, hrest⟩ := bind_eq_ok_iff.mp hg
    exact bind_eq_ok_iff.mpr ⟨place, h.walk hwalk, hrest⟩

theorem Extends.fileAt? {place : List String} (hp : d.fileAt? p = some place) : d'.fileAt? p = some place := by
  unfold Disk.fileAt? at hp ⊢
  split at hp
  · rename_i goal hgoal
    rw [h.goal hgoal]
    exact hp
  · cases hp

end goal

theorem readText_of_fileAt? {d : Disk} {p : Path} {place : List String} {content : String}
    (hp : d.fileAt? p = some place) (hc : d.lookup? place = some (.file content.toUTF8)) :
    d.readText p = .ok content := by
  unfold fileAt? at hp
  split at hp
  · rename_i directory name hgoal
    split at hp
    · rename_i hname
      obtain rfl := Option.some.inj hp
      rw [readText_eq_ok_iff]
      refine bind_eq_ok_iff.mpr ⟨_, hgoal, bind_eq_ok_iff.mpr ⟨some (.file content.toUTF8), ?_, rfl⟩⟩
      unfold entry
      rw [if_neg (Nat.not_lt.mpr hname), hc]
    · cases hp
  · cases hp

/-! ## Spellings of a path on a disk -/

def keptPiece (piece : String) : Bool :=
  piece ≠ "" && piece ≠ "."

theorem walk_filter (d : Disk) (place pieces : List String) :
    d.walk place (pieces.filter keptPiece) = d.walk place pieces := by
  induction pieces generalizing place with
  | nil => rfl
  | cons piece pieces ih =>
    by_cases hskip : piece = "" ∨ piece = "."
    · have hdrop : ¬ keptPiece piece := by simpa [keptPiece, imp_iff_not_or] using hskip
      rw [List.filter_cons_of_neg hdrop, ih, walk, if_pos hskip]
    · have hkeep : keptPiece piece := by simpa [keptPiece] using hskip
      rw [List.filter_cons_of_pos hkeep, walk, walk, if_neg hskip, if_neg hskip]
      simp only [ih]

theorem keptPiece_ofList (piece : List Char) : keptPiece (String.ofList piece) = (Path.segment? piece).isSome := by
  have hempty : String.ofList piece = "" ↔ piece = [] := String.ofList_eq_empty_iff
  have hdot : String.ofList piece = "." ↔ piece = ['.'] := String.ofList_eq
  unfold keptPiece Path.segment?
  by_cases hskip : piece = [] ∨ piece = ['.']
  · rw [if_pos hskip]
    rcases hskip with rfl | rfl <;> decide
  · obtain ⟨h1, h2⟩ := not_or.mp hskip
    rw [if_neg hskip]
    split <;> simp [hempty, hdot, h1, h2]

theorem filter_pieces (p : Path) :
    (pieces p).filter keptPiece = (Path.bodyOf p.text.toList).map fun s => String.ofList s.chars := by
  unfold pieces Path.bodyOf
  induction p.text.toList.splitOn '/' with
  | nil => rfl
  | cons piece pieces ih =>
    rw [List.map_cons, List.filter_cons, keptPiece_ofList, ih]
    cases hs : Path.segment? piece with
    | none => simp [hs]
    | some s => simp [hs, Path.chars_of_segment? hs]

def start (d : Disk) (p : Path) : List String :=
  if p.isAbsolute then [] else d.working

section slash

variable {all : List String} (h : decide ((all.reverse.dropWhile (· == "")).reverse.length < all.length) = false)
include h

/-- No slash at the end of a path is dropped when the rest is as long as the path. -/
theorem body_of_length : (all.reverse.dropWhile (· == "")).reverse = all := by
  have hlength : all.reverse.length ≤ (all.reverse.dropWhile (· == "")).length := by
    simpa using h
  rw [(List.dropWhile_suffix _).eq_of_length_le hlength, List.reverse_reverse]

theorem ne_empty_of_length {last : String} (hlast : all.getLast? = some last) : last ≠ "" := by
  rintro rfl
  have hbody := body_of_length h
  rw [List.reverse_eq_iff] at hbody
  obtain ⟨init, rfl⟩ := List.getLast?_eq_some_iff.mp hlast
  have hsuffix := List.dropWhile_suffix (l := init.reverse) (· == "")
  rw [List.reverse_append, List.reverse_singleton, List.singleton_append, List.dropWhile_cons_of_pos rfl] at hbody
  have hle := hsuffix.length_le
  rw [hbody] at hle
  simp only [List.length_cons, List.length_reverse] at hle
  omega

end slash

theorem pieces_of_goal {d : Disk} {p : Path} {directory : List String} {name : String}
    (h : d.goal p = .ok (.named directory name false)) :
    ∃ names, pieces p = names ++ [name] ∧ keptPiece name ∧ d.walk (d.start p) names = .ok directory := by
  unfold goal at h
  split at h
  · cases h
  split at h
  · cases h
  split at h
  · cases h
  simp only at h
  split at h
  · cases h
  · rename_i last hlast
    obtain ⟨place, hwalk, h⟩ := bind_eq_ok_iff.mp h
    split at h
    · cases h
    rename_i hdot
    split at h
    · cases h
    simp only [pure, Except.pure, Except.ok.injEq, Goal.named.injEq] at h
    obtain ⟨rfl, rfl, hslash⟩ := h
    rw [body_of_length hslash] at hlast hwalk
    have hempty : last ≠ "" := ne_empty_of_length hslash hlast
    obtain ⟨names, hnames⟩ := List.getLast?_eq_some_iff.mp hlast
    refine ⟨names, hnames, ?_, ?_⟩
    · simp [keptPiece, hempty, hdot]
    · rwa [hnames, List.dropLast_concat] at hwalk

/-- A path that leads to a file ends with the name of the file, and the names in front of it lead to its
directory. -/
theorem walk_of_fileAt? {d : Disk} {p : Path} {place : List String} (h : d.fileAt? p = some place) :
    ∃ names name directory, (pieces p).filter keptPiece = names ++ [name] ∧
      d.walk (d.start p) names = .ok directory ∧ place = directory ++ [name] := by
  unfold fileAt? at h
  split at h
  · rename_i directory name hgoal
    split at h
    · obtain rfl := Option.some.inj h
      obtain ⟨names, hpieces, hkeep, hwalk⟩ := pieces_of_goal hgoal
      refine ⟨names.filter keptPiece, name, directory, ?_, (walk_filter d _ names).trans hwalk, rfl⟩
      rw [hpieces, List.filter_append, List.filter_cons_of_pos hkeep, List.filter_nil]
    · cases h
  · cases h

theorem fileAt?_same {d : Disk} {p q : Path} (h : p.Same q) {place place' : List String}
    (hp : d.fileAt? p = some place) (hq : d.fileAt? q = some place') : place = place' := by
  obtain ⟨names, name, directory, hnames, hwalk, rfl⟩ := walk_of_fileAt? hp
  obtain ⟨names', name', directory', hnames', hwalk', rfl⟩ := walk_of_fileAt? hq
  rw [filter_pieces, h.bodyOf_eq, ← filter_pieces, hnames'] at hnames
  obtain ⟨rfl, hname⟩ := List.append_inj' hnames rfl
  have hstart : d.start p = d.start q := by rw [start, start, h.isAbsolute_eq]
  rw [hstart, hwalk'] at hwalk
  rw [Except.ok.inj hwalk, hname]

/-! ## What a write does -/

theorem lookup_setFile (place q : List String) (content : ByteArray) (files : List (List String × ByteArray)) :
    (setFile place content files).lookup q = if q = place then some content else files.lookup q := by
  induction files with
  | nil =>
    rw [setFile, List.lookup_cons]
    by_cases hq : q = place
    · rw [if_pos hq, beq_iff_eq.mpr hq]
    · rw [if_neg hq, beq_false_of_ne hq]
  | cons f files ih =>
    obtain ⟨r, old⟩ := f
    rw [setFile]
    by_cases hr : r = place
    · subst hr
      rw [if_pos rfl, List.lookup_cons, List.lookup_cons]
      by_cases hq : q = r
      · rw [if_pos hq, beq_iff_eq.mpr hq]
      · rw [if_neg hq, beq_false_of_ne hq]
    · rw [if_neg hr, List.lookup_cons, List.lookup_cons, ih]
      by_cases hq : q = r
      · have hplace : q ≠ place := fun h => hr (hq.symm.trans h)
        simp only [beq_iff_eq.mpr hq, if_neg hplace]
      · simp only [beq_false_of_ne hq]

def withFile (d : Disk) (place : List String) (content : ByteArray) : Disk :=
  { d with files := setFile place content d.files }

theorem lookup?_withFile (d : Disk) (place q : List String) (content : ByteArray) :
    (d.withFile place content).lookup? q = if q = place then some (.file content) else d.lookup? q := by
  unfold lookup? withFile
  simp only [lookup_setFile]
  by_cases hq : q = place <;> simp [hq]

theorem extends_withFile {d : Disk} {place : List String} {content : ByteArray}
    (h : d.lookup? place ≠ some .directory) : d.Extends (d.withFile place content) where
  working := rfl
  directory q hq := by
    have hne : q ≠ place := by
      rintro rfl
      exact h hq
    rw [lookup?_withFile, if_neg hne, hq]

/-- Directories were added, and nothing else has changed. -/
structure Grown (d d' : Disk) : Prop where
  files : d'.files = d.files
  working : d'.working = d.working
  directories : d.directories ⊆ d'.directories

theorem Grown.refl (d : Disk) : d.Grown d :=
  ⟨rfl, rfl, List.Subset.refl _⟩

theorem Grown.trans {d d' d'' : Disk} (h : d.Grown d') (h' : d'.Grown d'') : d.Grown d'' :=
  ⟨h'.files.trans h.files, h'.working.trans h.working, List.Subset.trans h.directories h'.directories⟩

theorem Grown.lookup_file {d d' : Disk} (h : d.Grown d') {place : List String} {content : ByteArray}
    (hp : d.lookup? place = some (.file content)) : d'.lookup? place = some (.file content) := by
  unfold lookup? at hp ⊢
  rw [h.files]
  cases hf : d.files.lookup place with
  | none =>
    rw [hf] at hp
    simp only at hp
    split at hp <;> cases hp
  | some old =>
    rw [hf] at hp
    exact hp

theorem Grown.extends {d d' : Disk} (h : d.Grown d') : d.Extends d' where
  working := h.working
  directory place hp := by
    unfold lookup? at hp ⊢
    rw [h.files, h.working]
    cases hf : d.files.lookup place with
    | some old => rw [hf] at hp; cases hp
    | none =>
      rw [hf] at hp
      simp only at hp ⊢
      split at hp
      · rename_i hthere
        refine if_pos ?_
        rcases hthere with hroot | hmem | hworking
        · exact .inl hroot
        · exact .inr (.inl (h.directories hmem))
        · exact .inr (.inr hworking)
      · cases hp

theorem grown_makeDirectory {d d' : Disk} {p : Path} (h : d.makeDirectory p = .ok d') : d.Grown d' := by
  obtain ⟨goal, -, h⟩ := bind_eq_ok_iff.mp h
  cases goal with
  | known place => cases h
  | named place name slash =>
    obtain ⟨kind, -, h⟩ := bind_eq_ok_iff.mp h
    cases kind with
    | some kind => cases h
    | none =>
      cases h
      exact ⟨rfl, rfl, List.subset_append_left _ _⟩

theorem grown_makeDirectories (fuel : Nat) (d : Disk) (p : Path) : d.Grown (makeDirectories fuel d p).1 := by
  induction fuel generalizing d p with
  | zero =>
    unfold makeDirectories
    split
    · rename_i d' hmade
      exact grown_makeDirectory hmade
    · exact .refl d
    · exact .refl d
  | succ fuel ih =>
    unfold makeDirectories
    split
    · rename_i d' hmade
      exact grown_makeDirectory hmade
    · cases p.parent? with
      | none => exact .refl d
      | some above =>
        simp only
        split
        · exact .refl d
        · -- the directories above it come first
          have habove := ih d above
          split
          · rename_i hfailed
            rw [hfailed] at habove
            exact habove
          · rename_i hmade
            rw [hmade] at habove
            split
            · rename_i hlast
              exact habove.trans (grown_makeDirectory hlast)
            · exact habove
    · exact .refl d

theorem putFile_ok {d d' : Disk} {p : Path} {content : ByteArray} (h : d.putFile p content = .ok d') :
    ∃ place, d.fileAt? p = some place ∧ d.lookup? place ≠ some .directory ∧ d' = d.withFile place content := by
  obtain ⟨goal, hgoal, h⟩ := bind_eq_ok_iff.mp h
  cases goal with
  | known place => cases h
  | named directory name slash =>
    cases slash with
    | true => cases h
    | false =>
      obtain ⟨kind, hkind, h⟩ := bind_eq_ok_iff.mp h
      unfold entry at hkind
      split at hkind
      · cases hkind
      · rename_i hname
        have hlookup : d.lookup? (directory ++ [name]) = kind := by
          cases hkind
          rfl
        refine ⟨directory ++ [name], ?_, ?_, ?_⟩
        · unfold fileAt?
          rw [hgoal]
          exact if_pos (Nat.not_lt.mp hname)
        · rw [hlookup]
          rintro rfl
          cases h
        · cases kind with
          | none => cases h; rfl
          | some kind =>
            cases kind with
            | directory => cases h
            | file old => cases h; rfl

/-- A write that goes well makes directories and then puts the file where its path leads. -/
theorem write_ok {d d' : Disk} {p : Path} {content : String} (h : d.write p content = (d', .ok ())) :
    ∃ d₁ place, d.Grown d₁ ∧ d₁.fileAt? p = some place ∧ d₁.lookup? place ≠ some .directory ∧
      d' = d₁.withFile place content.toUTF8 := by
  have hput : ∀ d₁ : Disk, d₁.writeIn p content.toUTF8 = (d', .ok ()) → d₁.putFile p content.toUTF8 = .ok d' := by
    intro d₁ hw
    unfold writeIn at hw
    split at hw
    · rename_i d'' hd
      cases hw
      exact hd
    · cases hw
  unfold write at h
  split at h
  · obtain ⟨place, hplace⟩ := putFile_ok (hput d h)
    exact ⟨d, place, .refl d, hplace⟩
  · rename_i above _
    split at h
    · obtain ⟨place, hplace⟩ := putFile_ok (hput d h)
      exact ⟨d, place, .refl d, hplace⟩
    · have hgrown := grown_makeDirectories above.text.length d above
      split at h
      · cases h
      · rename_i d₁ hmade
        rw [hmade] at hgrown
        obtain ⟨place, hplace⟩ := putFile_ok (hput d₁ h)
        exact ⟨d₁, place, hgrown, hplace⟩

/-! ## What writes leave behind -/

/-- The disk is what these writes, none of them refused, make of the other one. -/
inductive Writes (d : Disk) : List (Path × String) → Disk → Prop
  | nil : Writes d [] d
  | snoc {writes : List (Path × String)} {d₁ d₂ : Disk} {p : Path} {content : String} (before : Writes d writes d₁)
    (last : d₁.write p content = (d₂, .ok ())) : Writes d (writes ++ [(p, content)]) d₂

def lastAt? (d : Disk) (writes : List (Path × String)) (place : List String) : Option String :=
  (writes.reverse.find? fun w => d.fileAt? w.1 = some place).map (·.2)

theorem lastAt?_snoc {d d' : Disk} {writes : List (Path × String)} {p : Path} {content : String}
    {target place : List String} (hlast : d'.fileAt? p = some target)
    (hkept : ∀ w ∈ writes, d'.fileAt? w.1 = d.fileAt? w.1) :
    d'.lastAt? (writes ++ [(p, content)]) place = if target = place then some content else d.lastAt? writes place := by
  unfold lastAt?
  rw [List.reverse_append, List.reverse_singleton, List.singleton_append, List.find?_cons, hlast]
  by_cases htarget : target = place
  · simp [htarget]
  · have hfind : (writes.reverse.find? fun w => d'.fileAt? w.1 = some place) =
        writes.reverse.find? fun w => d.fileAt? w.1 = some place := by
      refine List.find?_congr fun w hw => ?_
      simp only [hkept w (List.mem_reverse.mp hw)]
    simp [htarget, hfind]

theorem Writes.held {d d' : Disk} {writes : List (Path × String)} (h : Writes d writes d') {w : Path × String}
    (hw : w ∈ writes) :
    ∃ place content, d'.fileAt? w.1 = some place ∧ d'.lastAt? writes place = some content ∧
      d'.lookup? place = some (.file content.toUTF8) := by
  induction h generalizing w with
  | nil => cases hw
  | @snoc writes d₁ d₂ p content before last ih =>
    obtain ⟨d₁', target, hgrown, htarget, hfree, rfl⟩ := write_ok last
    have hput : d₁'.Extends (d₁'.withFile target content.toUTF8) := extends_withFile hfree
    have hlast := hput.fileAt? htarget
    -- the earlier writes lead where they have led before
    have hkept : ∀ v ∈ writes, (d₁'.withFile target content.toUTF8).fileAt? v.1 = d₁.fileAt? v.1 := by
      intro v hv
      obtain ⟨place, _, hplace, -⟩ := ih hv
      rw [hplace]
      exact (hgrown.extends.trans hput).fileAt? hplace
    have hfound : ∀ place, (d₁'.withFile target content.toUTF8).lastAt? (writes ++ [(p, content)]) place =
        if target = place then some content else d₁.lastAt? writes place := fun _ => lastAt?_snoc hlast hkept
    rcases List.mem_append.mp hw with hw | hw
    · obtain ⟨place, old, hplace, hold, hthere⟩ := ih hw
      by_cases hsame : target = place
      · refine ⟨place, content, (hkept w hw).trans hplace, ?_, ?_⟩
        · rw [hfound, if_pos hsame]
        · rw [lookup?_withFile, if_pos hsame.symm]
      · refine ⟨place, old, (hkept w hw).trans hplace, ?_, ?_⟩
        · rw [hfound, if_neg hsame, hold]
        · rw [lookup?_withFile, if_neg (Ne.symm hsame)]
          exact hgrown.lookup_file hthere
    · obtain rfl := List.mem_singleton.mp hw
      refine ⟨target, content, hlast, ?_, ?_⟩
      · rw [hfound, if_pos rfl]
      · rw [lookup?_withFile, if_pos rfl]

/-- After writes that go well each path reads as the last of them that leads to the same file. -/
theorem Writes.readText {d d' : Disk} {writes : List (Path × String)} (h : Writes d writes d') {w : Path × String}
    (hw : w ∈ writes) :
    ∃ place content, d'.fileAt? w.1 = some place ∧ d'.lastAt? writes place = some content ∧
      d'.readText w.1 = .ok content := by
  obtain ⟨place, content, hplace, hlast, hthere⟩ := h.held hw
  exact ⟨place, content, hplace, hlast, readText_of_fileAt? hplace hthere⟩

end LazyBundle.Disk

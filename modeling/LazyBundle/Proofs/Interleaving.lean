import LazyBundle.Build.Session
import LazyBundle.Proofs.CoresLast
import Mathlib.Logic.Relation

/-!
# Artifacts of several kinds

Artifacts are split by kind, and the order within each kind stays. How the kinds
are mixed has no influence on a build: lists that differ only by exchanges of
neighbours of different kinds are built alike (`generateIn_interleaved`).
-/

namespace LazyBundle

def ofKind (kind : ArtifactKind) (artifacts : List Artifact) : List Artifact :=
  artifacts.filter (·.kind == kind)

section ofKind

variable {kind kind' : ArtifactKind} {a : Artifact} {l : List Artifact}

theorem mem_ofKind : a ∈ ofKind kind l ↔ a ∈ l ∧ a.kind = kind := by
  simp [ofKind]

theorem ofKind_append (l l' : List Artifact) : ofKind kind (l ++ l') = ofKind kind l ++ ofKind kind l' :=
  List.filter_append ..

theorem ofKind_cons_of_eq (h : a.kind = kind) : ofKind kind (a :: l) = a :: ofKind kind l :=
  List.filter_cons_of_pos (by simp [h])

theorem ofKind_cons_of_ne (h : a.kind ≠ kind) : ofKind kind (a :: l) = ofKind kind l :=
  List.filter_cons_of_neg (by simp [h])

theorem ofKind_eq_self (h : ∀ a ∈ l, a.kind = kind) : ofKind kind l = l :=
  List.filter_eq_self.mpr fun a ha => by simp [h a ha]

theorem ofKind_eq_nil (h : ∀ a ∈ l, a.kind = kind') (hne : kind' ≠ kind) : ofKind kind l = [] :=
  List.filter_eq_nil_iff.mpr fun a ha => by simp [h a ha, hne]

end ofKind

/-! ## The classes of a list -/

structure Classes.Split (artifacts : List Artifact) (classes : Classes) : Prop where
  all : (classes.entries ++ classes.chunks ++ classes.cores).Perm artifacts
  entries : classes.entries.Sublist artifacts ∧ ∀ a ∈ classes.entries, a.kind = .componentEntry
  chunks : classes.chunks.Sublist artifacts ∧ ∀ a ∈ classes.chunks, a.kind = .chunk
  cores : classes.cores.Sublist artifacts ∧ ∀ a ∈ classes.cores, a.kind = .core

theorem perm_ofKind (artifacts : List Artifact) :
    (ofKind .componentEntry artifacts ++ ofKind .chunk artifacts ++ ofKind .core artifacts).Perm artifacts := by
  induction artifacts with
  | nil => exact .nil
  | cons a artifacts ih =>
    cases hk : a.kind with
    | componentEntry =>
      rw [ofKind_cons_of_eq hk, ofKind_cons_of_ne (by simp [hk]), ofKind_cons_of_ne (by simp [hk])]
      exact ih.cons a
    | chunk =>
      rw [ofKind_cons_of_ne (by simp [hk]), ofKind_cons_of_eq hk, ofKind_cons_of_ne (by simp [hk])]
      rw [List.append_assoc] at ih ⊢
      exact List.perm_middle.trans (ih.cons a)
    | core =>
      rw [ofKind_cons_of_ne (by simp [hk]), ofKind_cons_of_ne (by simp [hk]), ofKind_cons_of_eq hk]
      exact List.perm_middle.trans (ih.cons a)

theorem ofKind_sublist (kind : ArtifactKind) (artifacts : List Artifact) :
    (ofKind kind artifacts).Sublist artifacts ∧ ∀ a ∈ ofKind kind artifacts, a.kind = kind :=
  ⟨List.filter_sublist, fun _ ha => (mem_ofKind.mp ha).2⟩

theorem split_classify (artifacts : List Artifact) : (classify artifacts).Split artifacts where
  all := perm_ofKind artifacts
  entries := ofKind_sublist .componentEntry artifacts
  chunks := ofKind_sublist .chunk artifacts
  cores := ofKind_sublist .core artifacts

theorem eq_ofKind_of_sublist {kind : ArtifactKind} {l artifacts : List Artifact}
    (h : l.Sublist artifacts ∧ ∀ a ∈ l, a.kind = kind) (hlength : l.length = (ofKind kind artifacts).length) :
    l = ofKind kind artifacts := by
  have hsub : (ofKind kind l).Sublist (ofKind kind artifacts) := h.1.filter _
  rw [ofKind_eq_self h.2] at hsub
  exact hsub.eq_of_length hlength

/-- There is no other way to split. -/
theorem Classes.Split.eq_classify {artifacts : List Artifact} {classes : Classes} (h : classes.Split artifacts) :
    classes = classify artifacts := by
  have hlength : ∀ kind, (ofKind kind classes.entries).length + (ofKind kind classes.chunks).length +
      (ofKind kind classes.cores).length = (ofKind kind artifacts).length := by
    intro kind
    rw [← List.length_append, ← List.length_append, ← ofKind_append, ← ofKind_append]
    exact (h.all.filter _).length_eq
  have hentries : classes.entries = ofKind .componentEntry artifacts := by
    have hsum := hlength .componentEntry
    rw [ofKind_eq_self h.entries.2, ofKind_eq_nil h.chunks.2 (by decide), ofKind_eq_nil h.cores.2 (by decide)] at hsum
    exact eq_ofKind_of_sublist h.entries hsum
  have hchunks : classes.chunks = ofKind .chunk artifacts := by
    have hsum := hlength .chunk
    rw [ofKind_eq_nil h.entries.2 (by decide), ofKind_eq_self h.chunks.2, ofKind_eq_nil h.cores.2 (by decide)] at hsum
    exact eq_ofKind_of_sublist h.chunks ((Nat.zero_add _).symm.trans hsum)
  have hcores : classes.cores = ofKind .core artifacts := by
    have hsum := hlength .core
    rw [ofKind_eq_nil h.entries.2 (by decide), ofKind_eq_nil h.chunks.2 (by decide), ofKind_eq_self h.cores.2] at hsum
    exact eq_ofKind_of_sublist h.cores ((Nat.zero_add _).symm.trans hsum)
  obtain ⟨entries, chunks, cores⟩ := classes
  simp only at hentries hchunks hcores
  rw [hentries, hchunks, hcores]
  rfl

/-! ## Exchanges of neighbours -/

/-- Two neighbours of different kinds change places. -/
inductive Exchange : List Artifact → List Artifact → Prop
  | swap (before after : List Artifact) {a b : Artifact} (different : a.kind ≠ b.kind) :
    Exchange (before ++ a :: b :: after) (before ++ b :: a :: after)

theorem Exchange.cons {l l' : List Artifact} (a : Artifact) (h : Exchange l l') : Exchange (a :: l) (a :: l') := by
  cases h with
  | swap before after different => exact .swap (a :: before) after different

theorem Exchange.ofKind_eq {l l' : List Artifact} (h : Exchange l l') (kind : ArtifactKind) :
    ofKind kind l = ofKind kind l' := by
  cases h with
  | @swap before after a b different =>
    rw [ofKind_append, ofKind_append]
    congr 1
    by_cases ha : a.kind = kind
    · have hb : b.kind ≠ kind := fun hb => different (ha.trans hb.symm)
      rw [ofKind_cons_of_eq ha, ofKind_cons_of_ne hb, ofKind_cons_of_ne hb, ofKind_cons_of_eq ha]
    · rw [ofKind_cons_of_ne ha]
      by_cases hb : b.kind = kind
      · rw [ofKind_cons_of_eq hb, ofKind_cons_of_eq hb, ofKind_cons_of_ne ha]
      · rw [ofKind_cons_of_ne hb, ofKind_cons_of_ne hb, ofKind_cons_of_ne ha]

theorem ofKind_eq_of_exchanges {l l' : List Artifact} (h : Relation.ReflTransGen Exchange l l') (kind : ArtifactKind) :
    ofKind kind l = ofKind kind l' := by
  induction h with
  | refl => rfl
  | tail _ hlast ih => exact ih.trans (hlast.ofKind_eq kind)

/-- An artifact comes to the front when nothing of its kind stands before it. -/
theorem exchanges_to_front {a : Artifact} {before : List Artifact} (h : ∀ b ∈ before, b.kind ≠ a.kind)
    (after : List Artifact) : Relation.ReflTransGen Exchange (before ++ a :: after) (a :: (before ++ after)) := by
  induction before with
  | nil => exact .refl
  | cons b before ih =>
    have hrest := ih fun c hc => h c (List.mem_cons_of_mem _ hc)
    have hfront := hrest.lift (b :: ·) fun _ _ => Exchange.cons b
    exact hfront.tail (.swap [] (before ++ after) (h b List.mem_cons_self))

theorem exchanges_of_ofKind_eq {l l' : List Artifact} (h : ∀ kind, ofKind kind l = ofKind kind l') :
    Relation.ReflTransGen Exchange l' l := by
  induction l generalizing l' with
  | nil =>
    have hnil : l' = [] := by
      refine List.eq_nil_iff_forall_not_mem.mpr fun a ha => ?_
      have hmem : a ∈ ofKind a.kind l' := mem_ofKind.mpr ⟨ha, rfl⟩
      rw [← h a.kind] at hmem
      cases hmem
    rw [hnil]
  | cons a l ih =>
    -- the other list has the artifact too, behind artifacts of other kinds only
    have hfirst : ofKind a.kind l' = a :: ofKind a.kind l := by rw [← h a.kind, ofKind_cons_of_eq rfl]
    obtain ⟨before, after, rfl, hbefore, -, -⟩ := List.filter_eq_cons_iff.mp hfirst
    have hfront := exchanges_to_front (fun b hb => by simpa using hbefore b hb) after
    refine hfront.trans ((ih fun kind => ?_).lift (a :: ·) fun _ _ => Exchange.cons a)
    have hkind := (h kind).trans (ofKind_eq_of_exchanges hfront kind)
    by_cases ha : a.kind = kind
    · rw [ofKind_cons_of_eq ha, ofKind_cons_of_eq ha] at hkind
      exact (List.cons.inj hkind).2
    · rwa [ofKind_cons_of_ne ha, ofKind_cons_of_ne ha] at hkind

/-! ## Builds of mixed artifacts -/

namespace Build

theorem generate_of_classify_eq {m : Type → Type} [Monad m] (b : Build m) (modules : List EntryModule)
    {artifacts artifacts' : List Artifact} (h : classify artifacts = classify artifacts') :
    b.generate modules artifacts = b.generate modules artifacts' := by
  unfold generate
  rw [h]

/-- Artifacts have exactly one split by kinds. Lists that agree on each kind are those between which exchanges
of neighbours lead, and a build makes no difference between them: it ends alike, makes the same calls and
reports the same. -/
theorem generateIn_interleaved {σ : Type} (config : Config) (stages : Stages) (fs : FileSystem (StateM σ))
    (w : ModuleWriter (StateM σ)) (threshold : Nat) (modules : List EntryModule) (artifacts : List Artifact)
    (session : Session (Journal σ)) :
    (∀ classes : Classes, classes.Split artifacts ↔ classes = classify artifacts) ∧
    ∀ artifacts',
      ((∀ kind, ofKind kind artifacts' = ofKind kind artifacts) ↔
        Relation.ReflTransGen Exchange artifacts artifacts') ∧
      ((∀ kind, ofKind kind artifacts' = ofKind kind artifacts) →
        let run := fun artifacts =>
          (recorded config stages fs w threshold).generateIn modules artifacts session
        (run artifacts').1 = (run artifacts).1 ∧
        (run artifacts').2.state.calls = (run artifacts).2.state.calls ∧
        (run artifacts').2.state.state = (run artifacts).2.state.state ∧
        (run artifacts').2.log = (run artifacts).2.log) := by
  refine ⟨fun classes => ⟨Classes.Split.eq_classify, ?_⟩, fun artifacts' => ⟨⟨exchanges_of_ofKind_eq, ?_⟩, ?_⟩⟩
  · rintro rfl
    exact split_classify artifacts
  · exact fun h kind => (ofKind_eq_of_exchanges h kind).symm
  · intro h run
    have hclasses : classify artifacts' = classify artifacts := by
      show Classes.mk (ofKind .componentEntry artifacts') (ofKind .chunk artifacts') (ofKind .core artifacts') = _
      rw [h, h, h]
      rfl
    have hrun : run artifacts' = run artifacts := by
      unfold run generateIn
      rw [(recorded config stages fs w threshold).generate_of_classify_eq modules hclasses]
    rw [hrun]
    exact ⟨rfl, rfl, rfl, rfl⟩

theorem generateIn_interleaved_mixed :
    let icon : Artifact := ⟨"icon.js", "icon", some "icon", .componentEntry⟩
    let core : Artifact := ⟨"core.js", placeholder, none, .core⟩
    let artifacts := [⟨"a.js", "1", none, .chunk⟩, icon, core, ⟨"b.js", "2", none, .chunk⟩]
    let artifacts' := [core, ⟨"a.js", "1", none, .chunk⟩, ⟨"b.js", "2", none, .chunk⟩, icon]
    let fs := Store.fileSystem fun _ => false
    let b := recorded {} .identity fs (.ofConfig {} fs) Literal.defaultThreshold
    let run := fun artifacts => b.generateIn [⟨"icon", ["ios", "md"], []⟩] artifacts ⟨⟨{}, []⟩, []⟩
    (∀ kind, ofKind kind artifacts' = ofKind kind artifacts) ∧
      (run artifacts').1 = (run artifacts).1 ∧
      (run artifacts').2.state.calls = (run artifacts).2.state.calls ∧
      (run artifacts').2.state.state = (run artifacts).2.state.state ∧
      (run artifacts').2.log = (run artifacts).2.log := by
  intro icon core artifacts artifacts' fs b run
  have h : ∀ kind, ofKind kind artifacts' = ofKind kind artifacts := by
    intro kind
    cases kind <;> rfl
  exact ⟨h, ((generateIn_interleaved {} .identity fs (.ofConfig {} fs) Literal.defaultThreshold
    [⟨"icon", ["ios", "md"], []⟩] artifacts ⟨⟨{}, []⟩, []⟩).2 artifacts').2 h⟩

end Build

end LazyBundle

import LazyBundle.Job
import Mathlib.Data.List.Forall2

/-!
# Joined jobs

Jobs that wait equally long run in the order of the list, so joining them is
running them one after the other (`joinAll_eq_mapM`, `joinGroups_eq`). Otherwise
the order changes but every job runs once, and its result comes back at its
place: `joinGroups_emits` follows what the jobs add to a log. Results that do not
depend on the state are the same for all waits (`joinGroups_results`).
-/

namespace LazyBundle

/-! ## Sorting -/

section sorting

variable {α : Type} {r : α → α → Prop} [DecidableRel r] (htrans : ∀ a b c, r a b → r b c → r a c)
  (htotal : ∀ a b, r a b ∨ r b a)
include htrans htotal

theorem pairwise_mergeSort_of (l : List α) : (l.mergeSort fun a b => r a b).Pairwise r := by
  have hs : (l.mergeSort fun a b => r a b).Pairwise fun a b => decide (r a b) :=
    List.pairwise_mergeSort (by simpa using htrans) (by simpa using htotal) l
  exact hs.imp fun h => by simpa using h

/-- A list can be sorted in one way only when no two elements of it come at the same place. -/
theorem mergeSort_of_perm {l l' : List α} (h : l.Perm l') (hanti : ∀ a ∈ l, ∀ b ∈ l, r a b → r b a → a = b) :
    (l.mergeSort fun a b => r a b) = l'.mergeSort fun a b => r a b := by
  have hperm : (l.mergeSort fun a b => r a b).Perm (l'.mergeSort fun a b => r a b) :=
    (List.mergeSort_perm l _).trans (h.trans (List.mergeSort_perm l' _).symm)
  refine hperm.eq_of_pairwise ?_ (pairwise_mergeSort_of htrans htotal l) (pairwise_mergeSort_of htrans htotal l')
  intro a b ha hb
  exact hanti a (List.mem_mergeSort.mp ha) b (h.mem_iff.mpr (List.mem_mergeSort.mp hb))

end sorting

end LazyBundle

namespace LazyBundle.Job

/-! ## Equal waits -/

theorem schedule_of_wait {m : Type → Type} {α : Type} {jobs : List (Job m α)} {w : Nat}
    (h : ∀ j ∈ jobs, j.wait = w) : schedule jobs = jobs.zipIdx := by
  refine List.mergeSort_of_pairwise (List.pairwise_of_forall_mem_list ?_)
  intro a ha b hb
  have h1 := h a.1 (List.fst_mem_of_mem_zipIdx ha)
  have h2 := h b.1 (List.fst_mem_of_mem_zipIdx hb)
  simp [h1, h2]

theorem pairwise_zipIdx {α : Type} (as : List α) (n : Nat) :
    (as.zipIdx n).Pairwise fun a b => a.2 < b.2 := by
  have h : ((as.zipIdx n).map (·.2)).Pairwise (· < ·) := by
    rw [List.zipIdx_map_snd]; exact List.pairwise_lt_range'
  exact List.pairwise_map.mp h

theorem mergeSort_zipIdx {α : Type} (as : List α) :
    ((as.zipIdx).mergeSort fun a b => a.2 ≤ b.2).map (·.1) = as := by
  rw [List.mergeSort_of_pairwise, List.zipIdx_map_fst]
  exact (pairwise_zipIdx as 0).imp fun h => by simpa using Nat.le_of_lt h

section lawful

variable {m : Type → Type} [Monad m] [LawfulMonad m] {α β γ ι : Type}

theorem mapM_zipIdx (jobs : List (Job m α)) (n : Nat) :
    (jobs.zipIdx n).mapM (fun j => (fun a => (a, j.2)) <$> j.1.run) =
      (fun as => as.zipIdx n) <$> jobs.mapM (·.run) := by
  induction jobs generalizing n with
  | nil => simp
  | cons j jobs ih => simp [ih, List.zipIdx_cons]

theorem joinAll_eq_mapM {jobs : List (Job m α)} {w : Nat} (h : ∀ j ∈ jobs, j.wait = w) :
    joinAll jobs = jobs.mapM (·.run) := by
  rw [joinAll, schedule_of_wait h, mapM_zipIdx]
  simp [mergeSort_zipIdx]

theorem mapM_map_result (f : α → β) (x : ι → m α) (l : List ι) :
    (l.mapM fun i => f <$> x i) = List.map f <$> l.mapM x := by
  induction l with
  | nil => simp
  | cons i l ih => simp [ih]

theorem mapM_bind_congr (x : ι → m α) (l : List ι) {k k' : List α → m β}
    (h : ∀ r, r.length = l.length → k r = k' r) : l.mapM x >>= k = l.mapM x >>= k' := by
  induction l generalizing k k' with
  | nil => simpa using h [] rfl
  | cons i l ih =>
    simp only [List.mapM_cons, bind_assoc, pure_bind]
    exact bind_congr fun a => ih fun r hr => h (a :: r) (by simp [hr])

theorem regroup_mapM (x : ι → m α) (groups : List (List ι)) :
    regroup groups <$> groups.flatten.mapM x = groups.mapM fun g => g.mapM x := by
  induction groups with
  | nil => simp [regroup]
  | cons g gs ih =>
    rw [List.flatten_cons, List.mapM_append, List.mapM_cons, ← ih, map_eq_pure_bind, bind_assoc]
    refine mapM_bind_congr x g fun r hr => ?_
    simp [regroup, ← hr]

theorem joinGroups_eq {groups : List (List (Job m α))} {singles : List (Job m β)} {w : Nat}
    (hg : ∀ g ∈ groups, ∀ j ∈ g, j.wait = w) (hs : ∀ j ∈ singles, j.wait = w) :
    joinGroups groups singles =
      (groups.mapM fun g => g.mapM (·.run)) >>= fun rs => (rs, ·) <$> singles.mapM (·.run) := by
  have hw : ∀ j ∈ groups.flatten.map (map Sum.inl) ++ singles.map (map Sum.inr), j.wait = w := by
    intro j hj
    rcases List.mem_append.mp hj with hj | hj
    · obtain ⟨j', hj', rfl⟩ := List.mem_map.mp hj
      obtain ⟨g, hgm, hjg⟩ := List.mem_flatten.mp hj'
      exact hg g hgm j' hjg
    · obtain ⟨j', hj', rfl⟩ := List.mem_map.mp hj
      exact hs j' hj'
  rw [joinGroups, joinAll_eq_mapM hw, List.mapM_append, List.mapM_map, List.mapM_map]
  have hl : (fun j : Job m (α ⊕ β) => j.run) ∘ map Sum.inl = fun j => Sum.inl <$> j.run := rfl
  have hr : (fun j : Job m (α ⊕ β) => j.run) ∘ map Sum.inr = fun j => Sum.inr <$> j.run := rfl
  rw [hl, hr, mapM_map_result, mapM_map_result, ← regroup_mapM]
  simp [List.filterMap_append, Function.comp_def]

end lawful

/-! ## Any waits -/

section emits

variable {σ κ α β γ ι ι' : Type} (log : σ → List κ)

/-- The action adds entries to the log, which go with its result as `P` says. -/
def Emits (x : StateM σ α) (P : α → List κ → Prop) : Prop :=
  ∀ s, ∃ ks, log (x s).2 = log s ++ ks ∧ P (x s).1 ks

def Rows (P : ι → α → List κ → Prop) (l : List ι) (rows : List (ι × α × List κ)) : Prop :=
  rows.map (·.1) = l ∧ ∀ r ∈ rows, P r.1 r.2.1 r.2.2

theorem Rows.map_flatMap {c : κ → γ} {f : ι → List γ} {P : ι → α → List κ → Prop}
    (hP : ∀ i a ks, P i a ks → ks.map c = f i) {l : List ι} {rows : List (ι × α × List κ)} (h : Rows P l rows) :
    (rows.flatMap (·.2.2)).map c = l.flatMap f := by
  rw [List.map_flatMap, ← h.1, List.flatMap_map, List.flatMap, List.flatMap]
  exact congrArg List.flatten (List.map_congr_left fun r hr => hP _ _ _ (h.2 r hr))

theorem Rows.append {P : ι → α → List κ → Prop} {l l' : List ι} {rows rows' : List (ι × α × List κ)}
    (h : Rows P l rows) (h' : Rows P l' rows') : Rows P (l ++ l') (rows ++ rows') :=
  ⟨by rw [List.map_append, h.1, h'.1], List.forall_mem_append.mpr ⟨h.2, h'.2⟩⟩

theorem rows_of_parts {P : ι → α → List κ → Prop} {groups : List (List ι)} {parts : List (List (ι × α × List κ))}
    (h : List.Forall₂ (Rows P) groups parts) : Rows P groups.flatten parts.flatten := by
  induction h with
  | nil => exact ⟨rfl, by simp⟩
  | cons h _ ih => exact h.append ih

theorem mapM_emits {x : ι → StateM σ α} {P : ι → α → List κ → Prop} {l : List ι}
    (h : ∀ i ∈ l, Emits log (x i) (P i)) :
    Emits log (l.mapM x) fun as ks => ∃ rows, Rows P l rows ∧ as = rows.map (·.2.1) ∧
      ks = rows.flatMap (·.2.2) := by
  induction l with
  | nil => exact fun s => ⟨[], (List.append_nil _).symm, [], ⟨rfl, by simp⟩, rfl, rfl⟩
  | cons i l ih =>
    intro s
    obtain ⟨ks, hks, hP⟩ := h i List.mem_cons_self s
    obtain ⟨ks', hks', rows, ⟨hl, hr⟩, has, hk⟩ := ih (fun i hi => h i (List.mem_cons_of_mem _ hi)) (x i s).2
    refine ⟨ks ++ ks', ?_, (i, (x i s).1, ks) :: rows, ⟨by rw [List.map_cons, hl], ?_⟩, ?_, ?_⟩
    · rw [List.mapM_cons, ← List.append_assoc, ← hks]
      exact hks'
    · intro r hr'
      rcases List.mem_cons.mp hr' with rfl | hr'
      · exact hP
      · exact hr r hr'
    · rw [List.mapM_cons, List.map_cons, ← has]
      rfl
    · rw [List.flatMap_cons, ← hk]

theorem schedule_map {m : Type → Type} (job : ι → Job m α) (l : List ι) :
    schedule (l.map job) =
      (l.zipIdx.mergeSort fun a b => (job a.1).wait ≤ (job b.1).wait).map fun p => (job p.1, p.2) := by
  rw [schedule, List.zipIdx_map, List.map_mergeSort]
  · rfl
  · intro a _ b _; rfl

theorem mergeSort_place {l : List ι} {l' : List (ι × Nat)} (h : l'.Perm l.zipIdx) :
    l'.mergeSort (fun a b => a.2 ≤ b.2) = l.zipIdx := by
  have hplaces : ∀ a ∈ l', ∀ b ∈ l', a.2 ≤ b.2 → b.2 ≤ a.2 → a = b := by
    intro a ha b hb h1 h2
    have ha' := List.mem_zipIdx_iff_getElem?.mp (h.mem_iff.mp ha)
    have hb' := List.mem_zipIdx_iff_getElem?.mp (h.mem_iff.mp hb)
    have he : a.2 = b.2 := Nat.le_antisymm h1 h2
    rw [he, hb', Option.some.injEq] at ha'
    exact Prod.ext ha'.symm he
  rw [mergeSort_of_perm (r := fun a b : ι × Nat => a.2 ≤ b.2) (fun _ _ _ => Nat.le_trans)
    (fun _ _ => Nat.le_total _ _) h hplaces]
  exact List.mergeSort_of_pairwise ((pairwise_zipIdx l 0).imp fun h => by simpa using Nat.le_of_lt h)

/-- Every joined job runs once and gives its result at its place. -/
theorem joinAll_emits {job : ι → Job (StateM σ) α} {P : ι → α → List κ → Prop} {l : List ι}
    (h : ∀ i ∈ l, Emits log (job i).run (P i)) :
    Emits log (joinAll (l.map job)) fun as ks => ∃ rows, Rows P l rows ∧ as = rows.map (·.2.1) ∧
      ks.Perm (rows.flatMap (·.2.2)) := by
  intro s
  let order := l.zipIdx.mergeSort fun a b => (job a.1).wait ≤ (job b.1).wait
  have horder : order.Perm l.zipIdx := List.mergeSort_perm _ _
  have hx : ∀ p ∈ order, Emits log ((fun a => (a, p.2)) <$> (job p.1).run)
      (fun a ks => a.2 = p.2 ∧ P p.1 a.1 ks) := by
    intro p hp s
    have hl := List.fst_mem_of_mem_zipIdx (horder.mem_iff.mp hp)
    obtain ⟨ks, hks, hP⟩ := h p.1 hl s
    exact ⟨ks, hks, rfl, hP⟩
  obtain ⟨ks, hks, rows, ⟨hrows, hP⟩, hres, hk⟩ := mapM_emits log hx s
  -- the rows in the order of the list
  let sorted := rows.mergeSort fun a b => a.1.2 ≤ b.1.2
  have hsorted : sorted.Perm rows := List.mergeSort_perm _ _
  have hplace : sorted.map (·.1) = l.zipIdx := by
    rw [← mergeSort_place horder, ← hrows]
    exact List.map_mergeSort fun _ _ _ _ => rfl
  have hresult : sorted.map (·.2.1) = (rows.map (·.2.1)).mergeSort fun a b => a.2 ≤ b.2 := by
    refine List.map_mergeSort fun a ha b hb => ?_
    rw [(hP a ha).1, (hP b hb).1]
  refine ⟨ks, ?_, sorted.map fun r => (r.1.1, r.2.1.1, r.2.2), ⟨?_, ?_⟩, ?_, ?_⟩
  · rw [joinAll, schedule_map, List.mapM_map]
    exact hks
  · rw [List.map_map]
    have := congrArg (List.map (·.1)) hplace
    rwa [List.map_map, List.zipIdx_map_fst] at this
  · intro r hr
    obtain ⟨r', hr', rfl⟩ := List.mem_map.mp hr
    exact (hP r' (hsorted.mem_iff.mp hr')).2
  · rw [joinAll, schedule_map, List.mapM_map]
    have := congrArg (List.map (·.1)) hresult
    rw [List.map_map, ← hres] at this
    rw [List.map_map]
    exact this.symm
  · rw [hk, List.flatMap_map]
    exact (hsorted.symm.flatMap_right _)

/-! ## Groups and single jobs -/

/-- What holds of the results of two kinds of jobs that run together. -/
def both (P : ι → α → List κ → Prop) (Q : ι' → β → List κ → Prop) : ι ⊕ ι' → α ⊕ β → List κ → Prop
  | .inl i, .inl a, ks => P i a ks
  | .inr i, .inr b, ks => Q i b ks
  | _, _, _ => False

theorem rows_of_embedding {ι₂ α₂ : Type} {P : ι → α → List κ → Prop} {R : ι₂ → α₂ → List κ → Prop}
    {f : ι → ι₂} {g : α → α₂} (hR : ∀ i y ks, R (f i) y ks → ∃ a, y = g a ∧ P i a ks) {l : List ι}
    {rows : List (ι₂ × α₂ × List κ)} (h : Rows R (l.map f) rows) :
    ∃ rows₁, Rows P l rows₁ ∧ rows = rows₁.map fun r => (f r.1, g r.2.1, r.2.2) := by
  induction l generalizing rows with
  | nil =>
    have : rows = [] := by simpa using h.1
    exact ⟨[], ⟨rfl, by simp⟩, this⟩
  | cons i l ih =>
    obtain ⟨r, rows, rfl, hr, hl⟩ := List.map_eq_cons_iff.mp h.1
    obtain ⟨rows₁, ⟨h₁, hP₁⟩, rfl⟩ := ih ⟨hl, fun r hr => h.2 r (List.mem_cons_of_mem _ hr)⟩
    obtain ⟨x, y, ks⟩ := r
    obtain rfl : x = f i := hr
    obtain ⟨a, rfl, hP⟩ := hR i y ks (h.2 _ List.mem_cons_self)
    refine ⟨(i, a, ks) :: rows₁, ⟨by rw [List.map_cons, h₁], ?_⟩, rfl⟩
    intro r hr
    rcases List.mem_cons.mp hr with rfl | hr
    · exact hP
    · exact hP₁ r hr

theorem both_inl {P : ι → α → List κ → Prop} {Q : ι' → β → List κ → Prop} (i : ι) (y : α ⊕ β) (ks : List κ)
    (h : both P Q (.inl i) y ks) : ∃ a, y = .inl a ∧ P i a ks := by
  cases y with
  | inl a => exact ⟨a, rfl, h⟩
  | inr b => exact h.elim

theorem both_inr {P : ι → α → List κ → Prop} {Q : ι' → β → List κ → Prop} (i : ι') (y : α ⊕ β) (ks : List κ)
    (h : both P Q (.inr i) y ks) : ∃ b, y = .inr b ∧ Q i b ks := by
  cases y with
  | inl a => exact h.elim
  | inr b => exact ⟨b, rfl, h⟩

theorem rows_flatten {P : ι → α → List κ → Prop} {groups : List (List ι)} {rows : List (ι × α × List κ)}
    (h : Rows P groups.flatten rows) :
    ∃ parts, List.Forall₂ (Rows P) groups parts ∧ rows = parts.flatten := by
  induction groups generalizing rows with
  | nil =>
    have : rows = [] := by simpa using h.1
    exact ⟨[], .nil, this⟩
  | cons g gs ih =>
    obtain ⟨r₁, r₂, rfl, h₁, h₂⟩ := List.map_eq_append_iff.mp h.1
    obtain ⟨parts, hp, rfl⟩ := ih ⟨h₂, fun r hr => h.2 r (List.mem_append_right _ hr)⟩
    exact ⟨r₁ :: parts, .cons ⟨h₁, fun r hr => h.2 r (List.mem_append_left _ hr)⟩ hp, rfl⟩

theorem regroup_flatten {groups : List (List γ)} {parts : List (List α)}
    (h : List.Forall₂ (fun g p => p.length = g.length) groups parts) :
    regroup groups parts.flatten = parts := by
  induction h with
  | nil => rfl
  | cons hl _ ih => simp [regroup, ← hl, ih]

theorem regroup_map (f : β → γ) (groups : List (List β)) (as : List α) :
    regroup (groups.map (·.map f)) as = regroup groups as := by
  induction groups generalizing as with
  | nil => rfl
  | cons g gs ih => rw [List.map_cons, regroup, regroup, ih, List.length_map]

/-- Groups and single jobs are joined as one list of jobs. -/
theorem joinGroups_map {m : Type → Type} [Monad m] [LawfulMonad m] (job : ι → Job m α) (job' : ι' → Job m β)
    (groups : List (List ι)) (singles : List ι') :
    joinGroups (groups.map (·.map job)) (singles.map job') =
      (fun results => (regroup groups (results.filterMap Sum.getLeft?), results.filterMap Sum.getRight?)) <$>
        joinAll ((groups.flatten.map Sum.inl ++ singles.map Sum.inr).map
          (Sum.elim (map Sum.inl ∘ job) (map Sum.inr ∘ job'))) := by
  have hjobs : (groups.map (·.map job)).flatten.map (map Sum.inl) ++ (singles.map job').map (map Sum.inr) =
      (groups.flatten.map Sum.inl ++ singles.map Sum.inr).map (Sum.elim (map Sum.inl ∘ job) (map Sum.inr ∘ job')) := by
    simp [List.map_flatten, Function.comp_def]
  rw [joinGroups, hjobs, map_eq_pure_bind]
  simp only [regroup_map]

/-- The groups get their results back group by group, whatever ran in between. -/
theorem joinGroups_emits (job : ι → Job (StateM σ) α) (job' : ι' → Job (StateM σ) β)
    {P : ι → α → List κ → Prop} {Q : ι' → β → List κ → Prop} {groups : List (List ι)} {singles : List ι'}
    (hg : ∀ g ∈ groups, ∀ i ∈ g, Emits log (job i).run (P i))
    (hs : ∀ i ∈ singles, Emits log (job' i).run (Q i)) :
    Emits log (joinGroups (groups.map (·.map job)) (singles.map job')) fun r ks =>
      ∃ parts rows, List.Forall₂ (Rows P) groups parts ∧ Rows Q singles rows ∧
        r = (parts.map (·.map (·.2.1)), rows.map (·.2.1)) ∧
        ks.Perm (parts.flatten.flatMap (·.2.2) ++ rows.flatMap (·.2.2)) := by
  let jobs : ι ⊕ ι' → Job (StateM σ) (α ⊕ β) := Sum.elim (map Sum.inl ∘ job) (map Sum.inr ∘ job')
  let l : List (ι ⊕ ι') := groups.flatten.map Sum.inl ++ singles.map Sum.inr
  have hx : ∀ i ∈ l, Emits log (jobs i).run (both P Q i) := by
    intro i hi s
    rcases List.mem_append.mp hi with hi | hi
    · obtain ⟨i', hi', rfl⟩ := List.mem_map.mp hi
      obtain ⟨g, hgm, hig⟩ := List.mem_flatten.mp hi'
      exact hg g hgm i' hig s
    · obtain ⟨i', hi', rfl⟩ := List.mem_map.mp hi
      exact hs i' hi' s
  rw [joinGroups_map]
  intro s
  obtain ⟨ks, hks, rows, hrows, hres, hperm⟩ := joinAll_emits log hx s
  obtain ⟨r₁, r₂, rfl, h₁, h₂⟩ := List.map_eq_append_iff.mp hrows.1
  obtain ⟨rows₁, hr₁, rfl⟩ := rows_of_embedding both_inl ⟨h₁, fun r hr => hrows.2 r (List.mem_append_left _ hr)⟩
  obtain ⟨rows₂, hr₂, rfl⟩ := rows_of_embedding both_inr ⟨h₂, fun r hr => hrows.2 r (List.mem_append_right _ hr)⟩
  obtain ⟨parts, hparts, rfl⟩ := rows_flatten hr₁
  refine ⟨ks, hks, parts, rows₂, hparts, hr₂, ?_, ?_⟩
  · have hlen : List.Forall₂ (fun g p => p.length = g.length) groups (parts.map (·.map (·.2.1))) := by
      rw [List.forall₂_map_right_iff]
      exact hparts.imp fun g p h => by simp [← h.1]
    show (regroup groups (List.filterMap Sum.getLeft? (joinAll (l.map jobs) s).1),
      List.filterMap Sum.getRight? (joinAll (l.map jobs) s).1) = _
    rw [hres, ← regroup_flatten hlen]
    simp [List.filterMap_append, List.filterMap_map, Function.comp_def, List.map_flatten]
  · rw [List.flatMap_append, List.flatMap_map, List.flatMap_map] at hperm
    exact hperm

theorem Rows.results {f : ι → α} {P : ι → α → List κ → Prop} (hP : ∀ i a ks, P i a ks → a = f i) {l : List ι}
    {rows : List (ι × α × List κ)} (h : Rows P l rows) : rows.map (·.2.1) = l.map f := by
  rw [← h.1, List.map_map]
  exact List.map_congr_left fun r hr => hP _ _ _ (h.2 r hr)

end emits

/-- Results that the state has no part in are the same in whatever order the jobs run. -/
theorem joinGroups_results {σ α β ι ι' : Type} (job : ι → Job (StateM σ) α) (job' : ι' → Job (StateM σ) β)
    {f : ι → α} {g : ι' → β} (hf : ∀ i s, ((job i).run s).1 = f i) (hg : ∀ i s, ((job' i).run s).1 = g i)
    (groups : List (List ι)) (singles : List ι') (s : σ) :
    (joinGroups (groups.map (·.map job)) (singles.map job') s).1 = (groups.map (·.map f), singles.map g) := by
  -- the log stays empty, only the results count
  let log : σ → List Unit := fun _ => []
  have hjob : ∀ i, Emits log (job i).run fun a _ => a = f i := fun i s => ⟨[], rfl, hf i s⟩
  have hjob' : ∀ i, Emits log (job' i).run fun a _ => a = g i := fun i s => ⟨[], rfl, hg i s⟩
  obtain ⟨-, -, parts, rows, hparts, hrows, hres, -⟩ :=
    joinGroups_emits log job job' (fun g (_ : g ∈ groups) i _ => hjob i) (fun i (_ : i ∈ singles) => hjob' i) s
  rw [hres, hrows.results fun _ _ _ h => h]
  congr 1
  clear hres
  induction hparts with
  | nil => rfl
  | cons hpart _ ih => rw [List.map_cons, List.map_cons, ih, hpart.results fun _ _ _ h => h]

end LazyBundle.Job

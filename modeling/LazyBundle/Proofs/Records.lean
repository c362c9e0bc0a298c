import LazyBundle.Json.Decode
import LazyBundle.Proofs.Outcomes
import Mathlib.Data.List.Nodup

/-!
# Records

A record is read from an object, by the names of its fields, or from a list, by
their positions. Either way a field of the record is what the document gives for
it, or keeps its default where the document gives nothing (`Fills.given`).
-/

namespace LazyBundle.Json

def Doc.field? (index : Nat) (name : String) : Doc → Option Doc
  | .object entries _ => (entries.find? fun e => e.1.text.toOption == some name).map (·.2)
  | .list items _ => items[index]?
  | _ => none

/-- A document gives something for a field, and not null. -/
def Doc.Gives (d : Doc) (index : Nat) (name : String) : Prop :=
  ∃ v, d.field? index name = some v ∧ v ≠ .null

def Doc.Says {α : Type} (d : Doc) (index : Nat) (name : String) (read : Reader α) (a : α) : Prop :=
  ∃ v, d.field? index name = some v ∧ read v = .ok a

theorem Doc.Says.unique {α : Type} {d : Doc} {index : Nat} {name : String} {read : Reader α} {a b : α}
    (ha : d.Says index name read a) (hb : d.Says index name read b) : a = b := by
  obtain ⟨v, hv, ha⟩ := ha
  obtain ⟨w, hw, hb⟩ := hb
  rw [hv] at hw
  cases hw
  rw [ha] at hb
  cases hb
  rfl

theorem Doc.Says.gives {α : Type} {d : Doc} {index : Nat} {name : String} {read : Reader α} {a : α}
    (h : d.Says index name read a) (hnull : ∀ a, read .null ≠ .ok a) : d.Gives index name := by
  obtain ⟨v, hv, ha⟩ := h
  refine ⟨v, hv, ?_⟩
  rintro rfl
  exact hnull a ha

namespace Reader

variable {α β σ : Type}

def Given (read : Reader β) (default : β) : Option Doc → β → Prop
  | none, b => b = default
  | some d, b => read d = .ok b

/-- A field of a record fills a part of it, and no other field touches that part. -/
structure Fills (shape : Shape σ) (index : Nat) (name : String) (read : Reader β) (part : σ → β) : Prop where
  field : ∃ f, shape.fields[index]? = some f ∧ f.name = name ∧ ∀ s d t, f.read s d = .ok t → read d = .ok (part t)
  others : ∀ f ∈ shape.fields, f.name ≠ name → ∀ s d t, f.read s d = .ok t → part t = part s

theorem of_read_eq_ok {name : String} {required : Bool} {read : Reader β} {put : β → σ → σ} {s t : σ} {d : Doc} :
    (Field.of name required read put).read s d = .ok t ↔ ∃ b, read d = .ok b ∧ put b s = t :=
  map_eq_ok_iff

theorem Fills.of_field {shape : Shape σ} {index : Nat} {name : String} {required : Bool} {read : Reader β}
    {put : β → σ → σ} {part : σ → β} (hfield : shape.fields[index]? = some (.of name required read put))
    (hput : ∀ b s, part (put b s) = b)
    (others : ∀ f ∈ shape.fields, f.name ≠ name → ∀ s d t, f.read s d = .ok t → part t = part s) :
    Fills shape index name read part := by
  refine ⟨⟨_, hfield, rfl, ?_⟩, others⟩
  intro s d t h
  obtain ⟨b, hb, rfl⟩ := of_read_eq_ok.mp h
  rw [hput]
  exact hb

theorem token_read_eq_ok {t : Token} {s : String} : t.read = .ok s ↔ t.text = .ok s :=
  mapError_eq_ok_iff

/-! ## Fields by name -/

section byName

variable {shape : Shape σ} {index : Nat} {name : String} {read : Reader β} {part : σ → β}

/-- An entry of an object that is read is known and new, or skipped. -/
theorem byName_cons_ok {seen seen' : List String} {s t : σ} {token : Token} {d : Doc} {es : List (Token × Doc)}
    (h : byName shape seen s ((token, d) :: es) = .ok (seen', t)) :
    ∃ key, token.text = .ok key ∧
      ((∃ f ∈ shape.fields, f.name = key ∧ key ∉ seen ∧
          ∃ s', f.read s d = .ok s' ∧ byName shape (key :: seen) s' es = .ok (seen', t)) ∨
        (∀ f ∈ shape.fields, f.name ≠ key) ∧ byName shape seen s es = .ok (seen', t)) := by
  rw [byName] at h
  obtain ⟨key, hkey, h⟩ := bind_eq_ok_iff.mp h
  refine ⟨key, token_read_eq_ok.mp hkey, ?_⟩
  cases hf : shape.fields.find? (·.name == key) with
  | some f =>
    rw [hf] at h
    have hname : f.name = key := by simpa using List.find?_some hf
    by_cases hseen : key ∈ seen
    · simp only [if_pos hseen] at h
      cases h
    · simp only [if_neg hseen] at h
      obtain ⟨s', hs', hrest⟩ := bind_eq_ok_iff.mp h
      exact .inl ⟨f, List.mem_of_find?_eq_some hf, hname, hseen, s', hs', hrest⟩
  | none =>
    rw [hf] at h
    have hunknown : ∀ f ∈ shape.fields, f.name ≠ key := by simpa using hf
    by_cases hclosed : shape.closed
    · simp only [if_pos hclosed] at h
      cases h
    · simp only [if_neg hclosed] at h
      cases hskip : d.skipFault? with
      | some f => rw [hskip] at h; cases h
      | none =>
        rw [hskip] at h
        exact .inr ⟨hunknown, h⟩

/-- Once a field has been read, its part stays. -/
theorem Fills.kept (h : Fills shape index name read part) {seen seen' : List String} {s t : σ}
    {es : List (Token × Doc)} (hseen : name ∈ seen) (hok : byName shape seen s es = .ok (seen', t)) :
    part t = part s ∧ name ∈ seen' := by
  induction es generalizing seen s with
  | nil =>
    rw [byName] at hok
    cases hok
    exact ⟨rfl, hseen⟩
  | cons e es ih =>
    obtain ⟨key, -, hcase⟩ := byName_cons_ok hok
    rcases hcase with ⟨f, hf, hname, hnew, s', hs', hrest⟩ | ⟨-, hrest⟩
    · have hne : f.name ≠ name := by
        rintro rfl
        exact hnew (hname ▸ hseen)
      obtain ⟨hpart, hmem⟩ := ih (List.mem_cons_of_mem _ hseen) hrest
      exact ⟨hpart.trans (h.others f hf hne s _ s' hs'), hmem⟩
    · exact ih hseen hrest

-- The induction is on the entries. Until the one with the name comes, the part stays as it was; what is
-- read of that entry stays to the end.
theorem Fills.given_byName (h : Fills shape index name read part) (hnames : (shape.fields.map (·.name)).Nodup)
    {seen seen' : List String} {s t : σ} {es : List (Token × Doc)} (hseen : name ∉ seen)
    (hok : byName shape seen s es = .ok (seen', t)) (flaw : Option Flaw) :
    Given read (part s) ((Doc.object es flaw).field? index name) (part t) ∧
      (name ∈ seen' ↔ ((Doc.object es flaw).field? index name).isSome) := by
  obtain ⟨g, hg, hgname, hgread⟩ := h.field
  have hgmem : g ∈ shape.fields := List.mem_of_getElem? hg
  induction es generalizing seen s with
  | nil =>
    rw [byName] at hok
    cases hok
    simp [Doc.field?, Given, hseen]
  | cons e es ih =>
    obtain ⟨token, d⟩ := e
    obtain ⟨key, hkey, hcase⟩ := byName_cons_ok hok
    rcases hcase with ⟨f, hf, hname, hnew, s', hs', hrest⟩ | ⟨hunknown, hrest⟩
    · by_cases heq : key = name
      · subst heq
        obtain rfl : f = g := List.inj_on_of_nodup_map hnames hf hgmem (hname.trans hgname.symm)
        obtain ⟨hpart, hmem⟩ := h.kept List.mem_cons_self hrest
        have hfound : (Doc.object ((token, d) :: es) flaw).field? index key = some d := by
          simp [Doc.field?, hkey, Except.toOption]
        rw [hfound, Given, hpart]
        exact ⟨hgread s d s' hs', by simp [hmem]⟩
      · have hskip : (Doc.object ((token, d) :: es) flaw).field? index name =
            (Doc.object es flaw).field? index name := by
          simp [Doc.field?, hkey, Except.toOption, heq]
        have hsame : part s' = part s := h.others f hf (fun hn => heq (hname.symm.trans hn)) s d s' hs'
        rw [hskip, ← hsame]
        exact ih (by simp [Ne.symm heq, hseen]) hrest
    · have heq : key ≠ name := fun heq => hunknown g hgmem (hgname.trans heq.symm)
      have hskip : (Doc.object ((token, d) :: es) flaw).field? index name =
          (Doc.object es flaw).field? index name := by
        simp [Doc.field?, hkey, Except.toOption, heq]
      rw [hskip]
      exact ih hseen hrest

/-! ## Fields by position -/

section byPosition

variable {expected : String} {flaw : Option Flaw} {position : Nat} {s t : σ} {f : Field σ} {fields : List (Field σ)}
  {ds rest : List Doc}

theorem byPosition_nil_ok (hok : byPosition expected flaw position s (f :: fields) [] = .ok (t, rest)) :
    f.required = false ∧ byPosition expected flaw (position + 1) s fields [] = .ok (t, rest) := by
  rw [byPosition] at hok
  obtain ⟨_, -, hok⟩ := bind_eq_ok_iff.mp hok
  by_cases hf : f.required
  · simp only [if_pos hf] at hok
    cases hok
  · simp only [if_neg hf] at hok
    exact ⟨by simpa using hf, hok⟩

theorem byPosition_cons_ok {d : Doc}
    (hok : byPosition expected flaw position s (f :: fields) (d :: ds) = .ok (t, rest)) :
    ∃ s', f.read s d = .ok s' ∧ byPosition expected flaw (position + 1) s' fields ds = .ok (t, rest) := by
  rw [byPosition] at hok
  exact bind_eq_ok_iff.mp hok

theorem Fills.kept_byPosition (h : Fills shape index name read part) (hsub : ∀ f ∈ fields, f ∈ shape.fields)
    (hother : name ∉ fields.map (·.name)) (hok : byPosition expected flaw position s fields ds = .ok (t, rest)) :
    part t = part s := by
  induction fields generalizing ds position s with
  | nil =>
    rw [byPosition] at hok
    cases hok
    rfl
  | cons f fields ih =>
    rw [List.map_cons, List.mem_cons, not_or] at hother
    have hrest := fun f hf => hsub f (List.mem_cons_of_mem _ hf)
    cases ds with
    | nil => exact ih hrest hother.2 (byPosition_nil_ok hok).2
    | cons d ds =>
      obtain ⟨s', hs', hok⟩ := byPosition_cons_ok hok
      rw [ih hrest hother.2 hok]
      exact h.others f (hsub f List.mem_cons_self) (Ne.symm hother.1) s d s' hs'

-- The induction is on the fields, with the index that the field has among those that are left.
theorem Fills.given_byPosition (h : Fills shape index name read part) {i : Nat} {g : Field σ}
    (hsub : ∀ f ∈ fields, f ∈ shape.fields) (hnames : (fields.map (·.name)).Nodup) (hg : fields[i]? = some g)
    (hgname : g.name = name) (hgread : ∀ s d t, g.read s d = .ok t → read d = .ok (part t))
    (hok : byPosition expected flaw position s fields ds = .ok (t, rest)) :
    Given read (part s) ds[i]? (part t) ∧ (g.required → ds[i]?.isSome) := by
  induction fields generalizing i ds position s with
  | nil => cases hg
  | cons f fields ih =>
    rw [List.map_cons, List.nodup_cons] at hnames
    have hrest := fun f hf => hsub f (List.mem_cons_of_mem _ hf)
    cases i with
    | zero =>
      obtain rfl : f = g := by simpa using hg
      have hother : name ∉ fields.map (·.name) := hgname ▸ hnames.1
      cases ds with
      | nil =>
        obtain ⟨hoptional, hok⟩ := byPosition_nil_ok hok
        exact ⟨h.kept_byPosition hrest hother hok, by simp [hoptional]⟩
      | cons d ds =>
        obtain ⟨s', hs', hok⟩ := byPosition_cons_ok hok
        refine ⟨?_, by simp⟩
        show read d = .ok (part t)
        rw [h.kept_byPosition hrest hother hok]
        exact hgread s d s' hs'
    | succ i =>
      have hg' : fields[i]? = some g := by simpa using hg
      cases ds with
      | nil =>
        have hrec := ih hrest hnames.2 hg' (byPosition_nil_ok hok).2
        simpa using hrec
      | cons d ds =>
        obtain ⟨s', hs', hok⟩ := byPosition_cons_ok hok
        have hne : f.name ≠ name := by
          intro heq
          exact hnames.1 (List.mem_map.mpr ⟨g, List.mem_of_getElem? hg', hgname.trans heq.symm⟩)
        rw [← h.others f (hsub f List.mem_cons_self) hne s d s' hs']
        have hrec := ih (i := i) hrest hnames.2 hg' hok
        simpa using hrec

end byPosition

/-- A part of a record that is read is what the document gives for its field, or else its default. What is
required is given. -/
theorem Fills.given (h : Fills shape index name read part) (hnames : (shape.fields.map (·.name)).Nodup) {d : Doc}
    {t : σ} (hok : record shape d = .ok t) :
    Given read (part shape.start) (d.field? index name) (part t) ∧
      ∀ g ∈ shape.fields, g.name = name → g.required → (d.field? index name).isSome := by
  obtain ⟨f, hf, hfname, hfread⟩ := h.field
  have hfmem : f ∈ shape.fields := List.mem_of_getElem? hf
  unfold record at hok
  split at hok
  · rename_i entries flaw
    obtain ⟨⟨seen, t'⟩, hbyName, hok⟩ := bind_eq_ok_iff.mp hok
    obtain ⟨_, -, hok⟩ := bind_eq_ok_iff.mp hok
    obtain ⟨hgiven, hmem⟩ := h.given_byName hnames List.not_mem_nil hbyName flaw
    cases hmissing : shape.fields.find? fun field => field.required && !seen.contains field.name with
    | some field =>
      simp only [hmissing] at hok
      cases hok
    | none =>
      simp only [hmissing] at hok
      cases hok
      refine ⟨hgiven, ?_⟩
      intro g hg hgname hrequired
      have hseen := List.find?_eq_none.mp hmissing g hg
      rw [← hmem, ← hgname]
      simpa [hrequired] using hseen
  · rename_i items flaw
    obtain ⟨⟨t', rest⟩, hbyPosition, hok⟩ := bind_eq_ok_iff.mp hok
    obtain ⟨hgiven, hrequired⟩ := h.given_byPosition (fun _ hf => hf) hnames hf hfname hfread hbyPosition
    have ht : t' = t := by
      simp only at hok
      split at hok <;> cases hok
      rfl
    subst ht
    refine ⟨hgiven, ?_⟩
    intro g hg hgname hgrequired
    obtain rfl : g = f := List.inj_on_of_nodup_map hnames hg hfmem (hgname.trans hfname.symm)
    exact hrequired hgrequired
  · cases hok

end byName

theorem Fills.says {shape : Shape σ} {index : Nat} {name : String} {read : Reader β} {part : σ → β}
    (h : Fills shape index name read part) (hnames : (shape.fields.map (·.name)).Nodup) {f : Field σ}
    (hf : f ∈ shape.fields) (hname : f.name = name) (hrequired : f.required) {d : Doc} {t : σ}
    (hok : record shape d = .ok t) : d.Says index name read (part t) := by
  obtain ⟨hgiven, hsome⟩ := h.given hnames hok
  obtain ⟨v, hv⟩ := Option.isSome_iff_exists.mp (hsome f hf hname hrequired)
  rw [hv] at hgiven
  exact ⟨v, hv, hgiven⟩

/-! ## Values that may be null -/

theorem optional_ok {read : Reader α} {d : Doc} {o : Option α} (h : optional read d = .ok o) :
    d = .null ∧ o = none ∨ d ≠ .null ∧ ∃ a, o = some a ∧ read d = .ok a := by
  unfold optional at h
  split at h
  · cases h
    exact .inl ⟨rfl, rfl⟩
  · cases h
  · rename_i hnull _
    obtain ⟨a, ha, rfl⟩ := map_eq_ok_iff.mp h
    exact .inr ⟨hnull, a, rfl, ha⟩

theorem given_optional {read : Reader α} {d : Doc} {index : Nat} {name : String} {o : Option α}
    (h : Given (optional read) none (d.field? index name) o) :
    ¬d.Gives index name ∧ o = none ∨ d.Gives index name ∧ ∃ a, o = some a ∧ d.Says index name read a := by
  cases hv : d.field? index name with
  | none =>
    rw [hv] at h
    refine .inl ⟨?_, h⟩
    rintro ⟨w, hw, -⟩
    rw [hv] at hw
    cases hw
  | some v =>
    rw [hv] at h
    rcases optional_ok h with ⟨rfl, rfl⟩ | ⟨hnull, a, rfl, ha⟩
    · refine .inl ⟨?_, rfl⟩
      rintro ⟨w, hw, hnull⟩
      rw [hv] at hw
      cases hw
      exact hnull rfl
    · exact .inr ⟨⟨v, hv, hnull⟩, a, rfl, v, hv, ha⟩

/-! ## Lists -/

theorem readAll_ok {read : Reader α} {ds : List Doc} {as : List α} (h : readAll read ds = .ok as) :
    List.Forall₂ (fun d a => read d = .ok a) ds as := by
  induction ds generalizing as with
  | nil =>
    rw [readAll] at h
    cases h
    exact .nil
  | cons d ds ih =>
    rw [readAll] at h
    obtain ⟨a, ha, h⟩ := bind_eq_ok_iff.mp h
    obtain ⟨as', has, h⟩ := bind_eq_ok_iff.mp h
    cases h
    exact .cons ha (ih has)

/-- A list that is read is read item by item. -/
theorem list_ok {read : Reader α} {d : Doc} {as : List α} (h : list read d = .ok as) :
    ∃ items, d = .list items none ∧ List.Forall₂ (fun d a => read d = .ok a) items as := by
  unfold list at h
  split at h
  · rename_i items flaw
    obtain ⟨as', has, h⟩ := bind_eq_ok_iff.mp h
    obtain ⟨_, hclosing, h⟩ := bind_eq_ok_iff.mp h
    cases h
    cases flaw with
    | some f => cases hclosing
    | none => exact ⟨items, rfl, readAll_ok has⟩
  · cases h

def ItemsOf : Option Doc → List Doc → Prop
  | none, items => items = []
  | some d, items => d = .list items none

theorem given_list {read : Reader α} {o : Option Doc} {as : List α} (h : Given (list read) [] o as) :
    ∃ items, ItemsOf o items ∧ List.Forall₂ (fun d a => read d = .ok a) items as := by
  cases o with
  | none =>
    rw [Given] at h
    subst h
    exact ⟨[], rfl, .nil⟩
  | some d => exact list_ok h

end Reader

end LazyBundle.Json

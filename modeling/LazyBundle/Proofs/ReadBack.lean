import LazyBundle.EntryModule
import LazyBundle.Proofs.JsonRoundTrip
import LazyBundle.Proofs.Records

/-!
# Components read back

An entry module is written as the text of a value and read from a text. Reading
what was written gives the entry module again, with its members in their order
(`EntryModule.ofText_toJson_text`). For each kind of field one lemma says so on
documents, and a record is read field by field.
-/

namespace LazyBundle

namespace Json.Reader

variable {α σ : Type}

def ReadsBack (write : α → Json) (read : Reader α) (a : α) : Prop :=
  read (write a).doc = .ok a

/-! ## Kinds of fields -/

theorem readsBack_text (s : String) : ReadsBack .string text s := rfl

theorem readsBack_bool (b : Bool) : ReadsBack .bool bool b := rfl

theorem readsBack_choice [BEq α] {names : List (String × α)} {a : α} (h : names.lookup (nameIn names a) = some a) :
    ReadsBack (fun a => .string (nameIn names a)) (choice names) a := by
  show choose names (nameIn names a) = .ok a
  rw [choose, h]

-- What is written for a value must not be null itself, so the lemma is about strings.
theorem readsBack_optional {write : α → String} {read : Reader α}
    (h : ∀ a, ReadsBack (fun a => .string (write a)) read a) (o : Option α) :
    ReadsBack (Json.optional fun a => .string (write a)) (optional read) o := by
  cases o with
  | none => rfl
  | some a => exact congrArg (Except.map some) (h a)

theorem readAll_itemDocs {write : α → Json} {read : Reader α} {as : List α} (h : ∀ a ∈ as, ReadsBack write read a) :
    readAll read (itemDocs (as.map write)) = .ok as := by
  induction as with
  | nil => rfl
  | cons a as ih =>
    obtain ⟨ha, has⟩ := List.forall_mem_cons.mp h
    rw [List.map_cons, itemDocs, readAll, ha, ih has]
    rfl

theorem readsBack_list {write : α → Json} {read : Reader α} {as : List α} (h : ∀ a ∈ as, ReadsBack write read a) :
    ReadsBack (fun as => .list (as.map write)) (list read) as := by
  show list read (.list (itemDocs (as.map write)) none) = .ok as
  rw [list, readAll_itemDocs h]
  rfl

theorem insertKey_of_notMem {key : String} {known : List (String × α)} (h : key ∉ known.map (·.1)) (a : α) :
    insertKey key a known = known ++ [(key, a)] := by
  induction known with
  | nil => rfl
  | cons e known ih =>
    rw [List.map_cons, List.mem_cons, not_or] at h
    rw [insertKey, if_neg (Ne.symm h.1), ih h.2]
    rfl

theorem readEntries_entryDocs {write : α → Json} {read : Reader α} {es : List (String × α)} (known : List (String × α))
    (hnames : ((known ++ es).map (·.1)).Nodup) (h : ∀ e ∈ es, ReadsBack write read e.2) :
    readEntries read known (entryDocs (es.map fun (name, a) => (name, write a))) = .ok (known ++ es) := by
  induction es generalizing known with
  | nil => rw [List.append_nil]; rfl
  | cons e es ih =>
    obtain ⟨name, a⟩ := e
    obtain ⟨ha, hes⟩ := List.forall_mem_cons.mp h
    have hnew : name ∉ known.map (·.1) := by
      intro hmem
      rw [List.map_append, List.nodup_append] at hnames
      exact hnames.2.2 name hmem name (by simp) rfl
    have hassoc : known ++ (name, a) :: es = (known ++ [(name, a)]) ++ es := by simp
    rw [List.map_cons, entryDocs, readEntries, ha]
    simp only [Token.read, Except.mapError, bind, Except.bind]
    rw [insertKey_of_notMem hnew, hassoc]
    exact ih _ (hassoc ▸ hnames) hes

theorem readsBack_dictionary {write : α → Json} {read : Reader α} {es : List (String × α)}
    (hnames : (es.map (·.1)).Nodup) (h : ∀ e ∈ es, ReadsBack write read e.2) :
    ReadsBack (fun es => .object (es.map fun (name, a) => (name, write a))) (dictionary read) es := by
  show dictionary read (.object (entryDocs (es.map fun (name, a) => (name, write a))) none) = .ok es
  rw [dictionary, readEntries_entryDocs [] hnames h]
  rfl

/-! ## Fields in their order -/

/-- What is written for the fields of a record, in their order, takes it from one value to another. -/
inductive Restores : List (Field σ) → List (String × Json) → σ → σ → Prop
  | nil {s : σ} : Restores [] [] s s
  | cons {β : Type} {name : String} {required : Bool} {read : Reader β} {put : β → σ → σ} {v : Json} {b : β}
      {fields : List (Field σ)} {es : List (String × Json)} {s t : σ} (hread : read v.doc = .ok b)
      (hrest : Restores fields es (put b s) t) : Restores (.of name required read put :: fields) ((name, v) :: es) s t

theorem find?_name {fields : List (Field σ)} (hnames : (fields.map (·.name)).Nodup) {f : Field σ} (hf : f ∈ fields) :
    fields.find? (·.name == f.name) = some f := by
  cases h : fields.find? (·.name == f.name) with
  | none => exact absurd (List.find?_eq_none.mp h f hf) (by simp)
  | some g =>
    have hname : g.name = f.name := by simpa using List.find?_some h
    rw [List.inj_on_of_nodup_map hnames (List.mem_of_find?_eq_some h) hf hname]

theorem Restores.byName {shape : Shape σ} (hnames : (shape.fields.map (·.name)).Nodup) {fields : List (Field σ)}
    {es : List (String × Json)} {s t : σ} (h : Restores fields es s t) (seen : List String)
    (hsub : ∀ f ∈ fields, f ∈ shape.fields) (hnew : (fields.map (·.name)).Nodup)
    (hseen : ∀ f ∈ fields, f.name ∉ seen) :
    byName shape seen s (entryDocs es) = .ok ((fields.map (·.name)).reverse ++ seen, t) := by
  induction h generalizing seen with
  | nil => rfl
  | @cons β name required read put v b fields es s t hread _ ih =>
    have hfound := find?_name hnames (hsub _ List.mem_cons_self)
    have hname : name ∉ seen := hseen _ List.mem_cons_self
    rw [List.map_cons, List.nodup_cons] at hnew
    have hrest : ∀ f ∈ fields, f.name ∉ name :: seen := by
      intro f hf hmem
      rcases List.mem_cons.mp hmem with heq | hmem
      · exact hnew.1 (List.mem_map.mpr ⟨f, hf, heq⟩)
      · exact hseen f (List.mem_cons_of_mem _ hf) hmem
    have hrec := ih (name :: seen) (fun f hf => hsub f (List.mem_cons_of_mem _ hf)) hnew.2 hrest
    have hput : (Field.of name required read put).read s v.doc = .ok (put b s) := of_read_eq_ok.mpr ⟨b, hread, rfl⟩
    rw [entryDocs, Reader.byName]
    simp only [Token.read, Except.mapError, bind, Except.bind]
    rw [show shape.fields.find? (·.name == name) = some (Field.of name required read put) from hfound]
    simp only [if_neg hname, hput, hrec]
    simp [Field.of]

/-- An object that gives all fields of a record in their order is read as what they restore. -/
theorem Restores.record {shape : Shape σ} {es : List (String × Json)} {t : σ}
    (h : Restores shape.fields es shape.start t) (hnames : (shape.fields.map (·.name)).Nodup) :
    record shape (Json.object es).doc = .ok t := by
  have hbyName := h.byName hnames [] (fun _ hf => hf) hnames fun _ _ => List.not_mem_nil
  have hmissing : (shape.fields.find? fun field =>
      field.required && !((shape.fields.map fun f : Field σ => f.name).reverse ++ []).contains field.name) = none := by
    rw [List.find?_eq_none]
    intro f hf
    have hmem : f.name ∈ shape.fields.map (·.name) := List.mem_map_of_mem hf
    simp [hmem]
  rw [doc, Reader.record, hbyName]
  simp only [bind, Except.bind, closing, hmissing]
  rfl

end Json.Reader

open Json.Reader

/-! ## Names of choices -/

theorem Encapsulation.lookup_nameIn (e : Encapsulation) : names.lookup (nameIn names e) = some e := by
  cases e <;> rfl

theorem MemberKind.lookup_nameIn (k : MemberKind) : names.lookup (nameIn names k) = some k := by
  cases k <;> rfl

theorem PropType.lookup_nameIn (t : PropType) : names.lookup (nameIn names t) = some t := by
  cases t <;> rfl

theorem ListenTarget.lookup_nameIn (t : ListenTarget) : names.lookup (nameIn names t) = some t := by
  cases t <;> rfl

/-! ## Components -/

theorem Member.readsBack (m : Member) : ReadsBack Member.toJson Member.reader m := by
  refine Restores.record ?_ (by decide)
  apply Restores.cons (readsBack_choice (MemberKind.lookup_nameIn m.kind))
  apply Restores.cons (readsBack_choice (PropType.lookup_nameIn m.propType))
  apply Restores.cons (readsBack_optional readsBack_text m.attributeName)
  apply Restores.cons (readsBack_bool m.reflect)
  apply Restores.cons (readsBack_bool m.isMutable)
  exact .nil

theorem Listener.readsBack (l : Listener) : ReadsBack Listener.toJson Listener.reader l := by
  have htarget : ∀ t, ReadsBack (fun t => .string (nameIn ListenTarget.names t)) (choice ListenTarget.names) t :=
    fun t => readsBack_choice (ListenTarget.lookup_nameIn t)
  refine Restores.record ?_ (by decide)
  apply Restores.cons (readsBack_text l.event)
  apply Restores.cons (readsBack_text l.method)
  apply Restores.cons (readsBack_optional htarget l.target)
  apply Restores.cons (readsBack_bool l.capture)
  apply Restores.cons (readsBack_bool l.passive)
  exact .nil

theorem Component.readsBack {c : Component} (hnames : (c.members.map (·.1)).Nodup) :
    ReadsBack Component.toJson Component.reader c := by
  refine Restores.record ?_ (by decide)
  apply Restores.cons (readsBack_text c.tagName)
  apply Restores.cons (readsBack_choice (Encapsulation.lookup_nameIn c.encapsulation))
  apply Restores.cons (readsBack_bool c.hasSlot)
  apply Restores.cons (readsBack_bool c.hasMode)
  apply Restores.cons (readsBack_dictionary hnames fun e _ => e.2.readsBack)
  apply Restores.cons (readsBack_list fun l _ => l.readsBack)
  exact .nil

theorem EntryModule.readsBack {e : EntryModule} (hnames : ∀ c ∈ e.components, (c.members.map (·.1)).Nodup) :
    ReadsBack EntryModule.toJson EntryModule.reader e := by
  refine Restores.record ?_ (by decide)
  apply Restores.cons (readsBack_text e.entryKey)
  apply Restores.cons (readsBack_list fun s _ => readsBack_text s)
  apply Restores.cons (readsBack_list fun c hc => Component.readsBack (hnames c hc))
  exact .nil

/-- Reading the text of an entry module gives the entry module. -/
theorem EntryModule.ofText_toJson_text (e : EntryModule) (hnames : ∀ c ∈ e.components, (c.members.map (·.1)).Nodup) :
    ofText EntryModule.reader e.toJson.text = .ok e := by
  have hread : EntryModule.reader e.toJson.doc = .ok e := EntryModule.readsBack hnames
  rw [ofText, Json.ofText_text]
  simp only [hread]
  rfl

theorem EntryModule.ofText_toJson_text_icon :
    let icon : Component := {
      tagName := "ü-\"icon\"\n"
      encapsulation := .scoped
      members := [("size", { kind := .prop, propType := .number, attributeName := some "größe" }),
        ("name", { kind := .state, isMutable := true })]
      listeners := [{ event := "click", method := "open", target := some .body },
        { event := "key\u0000", method := "close", passive := true }] }
    let e : EntryModule := ⟨"icon", ["$", "日本"], [icon, {}]⟩
    ofText EntryModule.reader e.toJson.text = .ok e := by
  intro icon e
  exact EntryModule.ofText_toJson_text e (by decide)

end LazyBundle

import LazyBundle.Proofs.LoaderData

/-!
# What the form of a component keeps

Flags are packed into numbers and read back from them, and a form that leaves
parts out still tells which ones it has. So two components have one form exactly
when the loader need not tell them apart (`Component.encode_eq_iff_alike`): the order
of the members is lost, and so is what only a property has.
-/

namespace LazyBundle

/-- A flag above smaller numbers is read back from the sum. -/
theorem flag_inj {a b : Bool} {x y bit : Nat} (hx : x < bit) (hy : y < bit)
    (h : x + flag a bit = y + flag b bit) : x = y ∧ a = b := by
  cases a <;> cases b <;> simp only [flag, if_true, if_false, Bool.false_eq_true] at h
  · exact ⟨h, rfl⟩
  · omega
  · omega
  · exact ⟨Nat.add_right_cancel h, rfl⟩

/-! ## Members -/

/-- Members that the loader does not tell apart: only a property has a type and an attribute. -/
def Member.Alike (m n : Member) : Prop :=
  m.kind = n.kind ∧ m.reflect = n.reflect ∧ m.isMutable = n.isMutable ∧
    (m.kind = .prop → m.propType = n.propType ∧ m.attributeName = n.attributeName)

def MemberKind.ofFlag : Nat → MemberKind × PropType
  | 1 => (.prop, .string)
  | 2 => (.prop, .number)
  | 4 => (.prop, .boolean)
  | 16 => (.prop, .unknown)
  | 32 => (.state, .any)
  | 64 => (.method, .any)
  | 128 => (.event, .any)
  | 256 => (.element, .any)
  | _ => (.prop, .any)

theorem MemberKind.ofFlag_kindFlag (m : Member) :
    ofFlag m.kindFlag = (m.kind, if m.kind = .prop then m.propType else .any) := by
  obtain ⟨kind, propType, attributeName, reflect, isMutable⟩ := m
  cases kind with
  | prop => cases propType <;> rfl
  | _ => rfl

theorem Member.kindFlag_inj {m n : Member} (h : m.kindFlag = n.kindFlag) :
    m.kind = n.kind ∧ (m.kind = .prop → m.propType = n.propType) := by
  have hpair := congrArg MemberKind.ofFlag h
  rw [MemberKind.ofFlag_kindFlag, MemberKind.ofFlag_kindFlag, Prod.mk.injEq] at hpair
  obtain ⟨hkind, htype⟩ := hpair
  refine ⟨hkind, fun hprop => ?_⟩
  rwa [if_pos hprop, if_pos (hkind ▸ hprop)] at htype

theorem Member.flags_inj {m n : Member} (h : m.flags = n.flags) :
    m.kindFlag = n.kindFlag ∧ m.reflect = n.reflect ∧ m.isMutable = n.isMutable := by
  have hm := m.kindFlag_le
  have hn := n.kindFlag_le
  have hmr := flag_le m.reflect 512
  have hnr := flag_le n.reflect 512
  obtain ⟨hlow, hmutable⟩ := flag_inj (by omega) (by omega) h
  obtain ⟨hkind, hreflect⟩ := flag_inj (by omega) (by omega) hlow
  exact ⟨hkind, hreflect, hmutable⟩

theorem Member.encode_eq (m : Member) :
    m.encode = .list (.nat m.flags ::
      if m.kind = .prop then (m.attributeName.map Json.string).toList else []) := by
  obtain ⟨kind, propType, attributeName, reflect, isMutable⟩ := m
  cases kind with
  | prop => cases attributeName <;> rfl
  | _ => rfl

theorem Member.encode_eq_iff {m n : Member} : m.encode = n.encode ↔ m.Alike n := by
  rw [encode_eq, encode_eq]
  constructor
  · intro h
    obtain ⟨hflags, hrest⟩ := by simpa only [Json.list.injEq, List.cons.injEq, Json.nat, Json.int.injEq] using h
    obtain ⟨hkindFlag, hreflect, hmutable⟩ := flags_inj (Int.ofNat_inj.mp hflags)
    obtain ⟨hkind, htype⟩ := kindFlag_inj hkindFlag
    refine ⟨hkind, hreflect, hmutable, fun hprop => ⟨htype hprop, ?_⟩⟩
    rw [if_pos hprop, if_pos (hkind ▸ hprop)] at hrest
    have hname := congrArg List.head? hrest
    rw [Option.head?_toList, Option.head?_toList] at hname
    exact Option.map_injective (fun _ _ => Json.string.inj) hname
  · rintro ⟨hkind, hreflect, hmutable, hprop⟩
    have hkindFlag : m.kindFlag = n.kindFlag := by
      unfold kindFlag
      rw [← hkind]
      cases hk : m.kind with
      | prop => simp only [(hprop hk).1]
      | _ => rfl
    rw [flags, flags, hkindFlag, hreflect, hmutable, ← hkind]
    by_cases hk : m.kind = .prop
    · rw [if_pos hk, if_pos hk, (hprop hk).2]
    · rw [if_neg hk, if_neg hk]

/-! ## Listeners -/

theorem Listener.targetFlag_inj {t u : Option ListenTarget}
    (h : (t.map ListenTarget.flag).getD 0 = (u.map ListenTarget.flag).getD 0) : t = u := by
  cases t with
  | none => cases u with
    | none => rfl
    | some u => cases u <;> cases h
  | some t => cases u with
    | none => cases t <;> cases h
    | some u => cases t <;> cases u <;> first | rfl | cases h

theorem Listener.targetFlag_dvd (t : Option ListenTarget) : 4 ∣ (t.map ListenTarget.flag).getD 0 := by
  cases t with
  | none => exact Nat.dvd_zero 4
  | some t => cases t <;> decide

theorem Listener.flags_inj {l k : Listener} (h : l.flags = k.flags) :
    l.passive = k.passive ∧ l.capture = k.capture ∧ l.target = k.target := by
  unfold flags at h
  -- the target decides the bits from 4 on, the other two flags those below
  have hl := targetFlag_dvd l.target
  have hk := targetFlag_dvd k.target
  have hlp := flag_le l.passive 1
  have hkp := flag_le k.passive 1
  have hlc := flag_le l.capture 2
  have hkc := flag_le k.capture 2
  have htarget : (l.target.map ListenTarget.flag).getD 0 = (k.target.map ListenTarget.flag).getD 0 := by omega
  have hlow : flag l.passive 1 + flag l.capture 2 = flag k.passive 1 + flag k.capture 2 := by omega
  obtain ⟨hone, hcapture⟩ := flag_inj (by omega) (by omega) hlow
  have hone' : 0 + flag l.passive 1 = 0 + flag k.passive 1 := by omega
  obtain ⟨-, hpassive⟩ := flag_inj Nat.one_pos Nat.one_pos hone'
  exact ⟨hpassive, hcapture, targetFlag_inj htarget⟩

theorem Listener.encode_inj {l k : Listener} (h : l.encode = k.encode) : l = k := by
  obtain ⟨hflags, hevent, hmethod⟩ := by
    simpa only [encode, Json.list.injEq, List.cons.injEq, Json.nat, Json.int.injEq, Json.string.injEq,
      and_true] using h
  obtain ⟨hpassive, hcapture, htarget⟩ := flags_inj (Int.ofNat_inj.mp hflags)
  obtain ⟨event, method, target, capture, passive⟩ := l
  obtain ⟨event', method', target', capture', passive'⟩ := k
  simp only at hevent hmethod hpassive hcapture htarget
  rw [hevent, hmethod, hpassive, hcapture, htarget]

/-! ## Components -/

namespace Component

/-- The member with a name. If a name is repeated, the last one has it. -/
def member? (c : Component) (name : String) : Option Member :=
  c.members.reverse.lookup name

structure Alike (c d : Component) : Prop where
  tagName : c.tagName = d.tagName
  encapsulation : c.encapsulation = d.encapsulation
  hasMode : c.hasMode = d.hasMode
  hasSlot : c.encapsulation ≠ .shadow → c.hasSlot = d.hasSlot
  listeners : c.listeners = d.listeners
  members : ∀ name, Option.Rel Member.Alike (c.member? name) (d.member? name)

def limited (c : Component) (withMethods withSlot : Bool) : Component :=
  { c with
    members := if withMethods then c.members else c.members.filter fun e => e.2.kind != .method
    hasSlot := withSlot && c.hasSlot }

theorem encapsulationFlag_inj {a b : Encapsulation} (h : a.flag = b.flag) : a = b := by
  cases a <;> cases b <;> first | rfl | cases h

theorem flags_eq_iff {c d : Component} :
    c.flags true = d.flags true ↔ c.encapsulation = d.encapsulation ∧ c.hasMode = d.hasMode ∧
      (c.encapsulation ≠ .shadow → c.hasSlot = d.hasSlot) := by
  constructor
  · intro h
    have hle : ∀ e : Encapsulation, e.flag ≤ 2 := fun e => by cases e <;> decide
    have hc := hle c.encapsulation
    have hd := hle d.encapsulation
    have hcs := flag_le (true && c.hasSlot && c.encapsulation != .shadow) 4
    have hds := flag_le (true && d.hasSlot && d.encapsulation != .shadow) 4
    obtain ⟨hlow, hmode⟩ := flag_inj (by omega) (by omega) h
    obtain ⟨hflag, hslot⟩ := flag_inj (by omega) (by omega) hlow
    have hencapsulation := encapsulationFlag_inj hflag
    refine ⟨hencapsulation, hmode, fun hne => ?_⟩
    have hshadow : (c.encapsulation != .shadow) = true := bne_iff_ne.mpr hne
    rw [← hencapsulation, hshadow] at hslot
    simpa using hslot
  · rintro ⟨hencapsulation, hmode, hslot⟩
    rw [flags, flags, ← hencapsulation, hmode]
    by_cases hs : c.encapsulation = .shadow
    · simp [hs]
    · rw [hslot hs]

def trailing (members : List (String × Json)) (listeners : List Json) : List Json :=
  match members, listeners with
  | [], [] => []
  | _, [] => [.object members]
  | _, _ => [.object members, .list listeners]

theorem trailing_inj {members members' : List (String × Json)} {listeners listeners' : List Json}
    (h : trailing members listeners = trailing members' listeners') :
    members = members' ∧ listeners = listeners' := by
  -- the number of parts tells which lists are empty
  cases members <;> cases listeners <;> cases members' <;> cases listeners' <;> simp_all [trailing]

theorem encode_true (c : Component) :
    c.encode true true = .list (.nat (c.flags true) :: .string c.tagName ::
      trailing (Json.sortEntries (c.members.map fun e => (e.1, e.2.encode))) (c.listeners.map Listener.encode)) := by
  have hkept : c.keptMembers true = c.members := by simp [keptMembers]
  rw [encode, hkept]
  rfl

theorem members_eq_iff {c d : Component} :
    Json.sortEntries (c.members.map fun e => (e.1, e.2.encode)) =
        Json.sortEntries (d.members.map fun e => (e.1, e.2.encode)) ↔
      ∀ name, Option.Rel Member.Alike (c.member? name) (d.member? name) := by
  rw [Json.sortEntries_eq_iff]
  refine forall_congr' fun name => ?_
  rw [← List.map_reverse, ← List.map_reverse, Json.lookup_map, Json.lookup_map]
  show (c.member? name).map Member.encode = (d.member? name).map Member.encode ↔ _
  cases c.member? name with
  | none => cases d.member? name <;> simp
  | some m => cases d.member? name <;> simp [Member.encode_eq_iff]

/-- The forms of two components are equal exactly when the loader need not tell them apart, and a form
with less in it is the form of the component that has less. -/
theorem encode_eq_iff_alike :
    (∀ c d : Component, c.encode true true = d.encode true true ↔ c.Alike d) ∧
      ∀ (c : Component) (withMethods withSlot : Bool),
        c.encode withMethods withSlot = (c.limited withMethods withSlot).encode true true := by
  refine ⟨fun c d => ?_, fun c withMethods withSlot => ?_⟩
  · rw [encode_true, encode_true]
    constructor
    · intro h
      obtain ⟨hflags, htag, hrest⟩ := by
        simpa only [Json.list.injEq, List.cons.injEq, Json.nat, Json.int.injEq, Json.string.injEq] using h
      obtain ⟨hencapsulation, hmode, hslot⟩ := flags_eq_iff.mp (Int.ofNat_inj.mp hflags)
      obtain ⟨hmembers, hlisteners⟩ := trailing_inj hrest
      exact ⟨htag, hencapsulation, hmode, hslot, List.map_injective_iff.mpr (fun _ _ => Listener.encode_inj) hlisteners,
        members_eq_iff.mp hmembers⟩
    · intro h
      rw [flags_eq_iff.mpr ⟨h.encapsulation, h.hasMode, h.hasSlot⟩, h.tagName, members_eq_iff.mpr h.members,
        h.listeners]
  · have hkept : (c.limited withMethods withSlot).keptMembers true = c.keptMembers withMethods := by
      cases withMethods <;> simp [limited, keptMembers]
    have hflags : (c.limited withMethods withSlot).flags true = c.flags withSlot := by
      simp [limited, flags]
    rw [encode, encode, hkept, hflags]
    rfl

end Component

end LazyBundle

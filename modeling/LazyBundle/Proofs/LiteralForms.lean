import LazyBundle.Proofs.LiteralReading

/-!
# The two forms of a literal in the engine

A wrapped literal makes the tree of its value. A plain one makes the tree in
which every entry with the key of the prototype is missing. The two are equal
exactly when that key is nowhere in the tree (`render_forms`).
-/

namespace LazyBundle

open Literal (Tree)

/-! ## Trees of values -/

namespace Json

mutual

/-- The value in the engine when every entry creates a property. -/
def tree : Json → Tree
  | .null => .null
  | .bool b => .bool b
  | .int n => .number (intNumeral n)
  | .float x => .number (Decimal.numeral x)
  | .string s => .string s
  | .list items => .list (itemTrees items)
  | .object entries => .object (sortEntries (entryTrees entries))

def itemTrees : List Json → List Tree
  | [] => []
  | v :: vs => v.tree :: itemTrees vs

def entryTrees : List (String × Json) → List (String × Tree)
  | [] => []
  | (k, v) :: es => (k, v.tree) :: entryTrees es

end

theorem entryTrees_eq_map (es : List (String × Json)) : entryTrees es = es.map fun e => (e.1, e.2.tree) := by
  induction es with
  | nil => rfl
  | cons e es ih => obtain ⟨k, v⟩ := e; rw [entryTrees, ih, List.map_cons]

mutual

theorem tree?_doc : ∀ v : Json, Literal.tree? v.doc = some v.tree
  | .null => rfl
  | .bool _ => rfl
  | .int _ => rfl
  | .float _ => rfl
  | .string _ => rfl
  | .list items => by
    rw [doc, Literal.tree?, itemTrees?_itemDocs items]
    rfl
  | .object entries => by
    rw [doc, Literal.tree?, properties?_entryDocs entries]
    rfl

theorem itemTrees?_itemDocs : ∀ vs : List Json, Literal.itemTrees? (itemDocs vs) = some (itemTrees vs)
  | [] => rfl
  | v :: vs => by
    rw [itemDocs, Literal.itemTrees?, tree?_doc v, itemTrees?_itemDocs vs]
    rfl

theorem properties?_entryDocs : ∀ es : List (String × Json),
    Literal.properties? (entryDocs es) = some (entryTrees es)
  | [] => rfl
  | (k, v) :: es => by
    rw [entryDocs, Literal.properties?, tree?_doc v, properties?_entryDocs es]
    rfl

end

mutual

/-- Sorting changes nothing for the engine. -/
theorem tree_sorted : ∀ v : Json, v.sorted.tree = v.tree
  | .null => rfl
  | .bool _ => rfl
  | .int _ => rfl
  | .float _ => rfl
  | .string _ => rfl
  | .list items => by
    rw [sorted, tree, tree, itemTrees_sorted items]
  | .object entries => by
    have hmap : entryTrees (sortEntries (sortedValues entries)) = sortEntries (entryTrees (sortedValues entries)) := by
      rw [entryTrees_eq_map, entryTrees_eq_map, sortEntries_map]
    rw [sorted, tree, tree, hmap, entryTrees_sorted entries, sortEntries_of_rising (rising_sortEntries _)]

theorem itemTrees_sorted : ∀ vs : List Json, itemTrees (sortedItems vs) = itemTrees vs
  | [] => rfl
  | v :: vs => by
    rw [sortedItems, itemTrees, itemTrees, tree_sorted v, itemTrees_sorted vs]

theorem entryTrees_sorted : ∀ es : List (String × Json), entryTrees (sortedValues es) = entryTrees es
  | [] => rfl
  | (k, v) :: es => by
    rw [sortedValues, entryTrees, entryTrees, tree_sorted v, entryTrees_sorted es]

end

end Json

namespace Literal

/-! ## Own properties -/

namespace Tree

theorem length_ownProperties (properties : List (String × Tree)) :
    (ownProperties properties).length ≤ properties.length := by
  induction properties with
  | nil => exact Nat.le_refl 0
  | cons property properties ih =>
    obtain ⟨key, t⟩ := property
    rw [ownProperties]
    by_cases h : key = prototypeKey
    · rw [if_pos h]
      exact Nat.le_succ_of_le ih
    · rw [if_neg h]
      exact Nat.succ_le_succ ih

mutual

theorem own_eq_iff : ∀ t : Tree, t.own = t ↔ prototypeKey ∉ t.keys
  | .null => by simp [own, keys]
  | .bool _ => by simp [own, keys]
  | .number _ => by simp [own, keys]
  | .string _ => by simp [own, keys]
  | .list items => by
    rw [own, keys, list.injEq]
    exact ownItems_eq_iff items
  | .object properties => by
    rw [own, keys, object.injEq]
    exact ownProperties_eq_iff properties

theorem ownItems_eq_iff : ∀ ts : List Tree, ownItems ts = ts ↔ prototypeKey ∉ itemKeys ts
  | [] => by simp [ownItems, itemKeys]
  | t :: ts => by
    rw [ownItems, itemKeys, List.cons.injEq, own_eq_iff t, ownItems_eq_iff ts, List.mem_append, not_or]

theorem ownProperties_eq_iff : ∀ properties : List (String × Tree),
    ownProperties properties = properties ↔ prototypeKey ∉ propertyKeys properties
  | [] => by simp [ownProperties, propertyKeys]
  | (key, t) :: properties => by
    rw [ownProperties, propertyKeys, List.cons_append, List.mem_cons, List.mem_append]
    by_cases h : key = prototypeKey
    · rw [if_pos h]
      constructor
      · -- a list with one property less is not the same list
        intro heq
        have hlength := length_ownProperties properties
        rw [heq, List.length_cons] at hlength
        omega
      · intro hkeys
        exact absurd (.inl h.symm) hkeys
    · rw [if_neg h, List.cons.injEq, Prod.mk.injEq, own_eq_iff t, ownProperties_eq_iff properties]
      have h' : prototypeKey ≠ key := Ne.symm h
      simp only [true_and, h', false_or, not_or]

end

end Tree

/-! ## Literals -/

theorem parsed?_text (v : Json) : parsed? v.text = some v.tree := by
  rw [parsed?, Json.ofText_text]
  exact Json.tree?_doc v

theorem evaluate?_wrapped {threshold : Nat} {v : Json} (h : threshold < v.sorted.text.utf8ByteSize) :
    evaluate? (render threshold v) = some v.tree := by
  rw [render, if_pos h, evaluate?, wrapped?_wrap]
  simp only [parsed?_text, Json.tree_sorted]

theorem evaluate?_plain {threshold : Nat} {v : Json} (h : v.sorted.text.utf8ByteSize ≤ threshold) :
    evaluate? (render threshold v) = some v.tree.own := by
  rw [render, if_neg (Nat.not_lt.mpr h), evaluate?, wrapped?_text]
  simp only [parsed?_text, Json.tree_sorted, Option.map_some]

/-- A wrapped literal makes the whole tree of the value. A plain one makes its own properties only, and
that is the same tree exactly when the key of the prototype is nowhere in it. -/
theorem render_forms (v : Json) {low high : Nat} (hlow : low < v.sorted.text.utf8ByteSize)
    (hhigh : v.sorted.text.utf8ByteSize ≤ high) :
    evaluate? (render low v) = some v.tree ∧ evaluate? (render high v) = some v.tree.own ∧
      (evaluate? (render low v) = evaluate? (render high v) ↔ prototypeKey ∉ v.tree.keys) := by
  have hwrapped := evaluate?_wrapped hlow
  have hplain := evaluate?_plain hhigh
  refine ⟨hwrapped, hplain, ?_⟩
  rw [hwrapped, hplain, Option.some.injEq, eq_comm]
  exact v.tree.own_eq_iff

/-! An object with the key of the prototype beside another key. -/

def prototyped : Json :=
  .object [(prototypeKey, .string "x"), ("a", .list [.bool true])]

theorem prototyped_low : 10 < prototyped.sorted.text.utf8ByteSize := by decide +kernel

theorem prototyped_high : prototyped.sorted.text.utf8ByteSize ≤ defaultThreshold := by decide +kernel

theorem render_forms_prototyped :
    evaluate? (render 10 prototyped) = some prototyped.tree ∧
      evaluate? (render defaultThreshold prototyped) = some prototyped.tree.own ∧
      (evaluate? (render 10 prototyped) = evaluate? (render defaultThreshold prototyped) ↔
        prototypeKey ∉ prototyped.tree.keys) :=
  render_forms prototyped prototyped_low prototyped_high

/-- The form of a literal can be told apart by what it makes. -/
theorem render_forms_differ :
    ¬ ∀ (v : Json) (low high : Nat), low < v.sorted.text.utf8ByteSize → v.sorted.text.utf8ByteSize ≤ high →
      evaluate? (render low v) = evaluate? (render high v) := by
  intro h
  have heq := h prototyped 10 defaultThreshold prototyped_low prototyped_high
  rw [evaluate?_wrapped prototyped_low, evaluate?_plain prototyped_high, Option.some.injEq, eq_comm,
    Tree.own_eq_iff] at heq
  exact heq (by decide +kernel)

end Literal

end LazyBundle

import LazyBundle.Literal.Reading
import LazyBundle.Proofs.SortedData
import LazyBundle.Text.Search

/-!
# Literals read back

A literal is read as the sorted form of its value, whether it is wrapped or not.
The two forms are told apart by their first character: no value begins like the
name of a function. So the literal is the same for values that are the same data
and for no others (`render_lossless`).
-/

namespace LazyBundle.Literal

theorem isSuffixOf?_append (pat front : List Char) : pat.isSuffixOf? (front ++ pat) = some front := by
  show (pat.reverse.isPrefixOf? (front ++ pat).reverse).map List.reverse = some front
  rw [List.reverse_append, Text.isPrefixOf?_append, Option.map_some, List.reverse_reverse]

theorem wrapped?_wrap (s : String) :
    wrapped? (openingText ++ (Json.string s).text ++ closingText) = some s := by
  have hp : openingText.toList.isPrefixOf?
      (openingText ++ (Json.string s).text ++ closingText).toList =
        some ((Json.string s).text.toList ++ closingText.toList) := by
    rw [String.toList_append, String.toList_append, List.append_assoc]
    exact Text.isPrefixOf?_append _ _
  have hv : Json.parse? (Json.string s).text = some (.string s) := Json.parse?_text (by simp [Json.Exact])
  simp only [wrapped?, hp, Option.bind_eq_bind, Option.bind_some, isSuffixOf?_append, String.ofList_toList, hv]
  rfl

theorem wrapped?_text (v : Json) : wrapped? v.text = none := by
  obtain ⟨c, cs, hc, -, -, hJ⟩ := Json.chars_head v
  have hp : openingText.toList.isPrefixOf? v.text.toList = none := by
    rw [Json.text, String.toList_ofList, hc]
    have ho : openingText.toList = 'J' :: ['S', 'O', 'N', '.', 'p', 'a', 'r', 's', 'e', '('] := by decide
    rw [ho, Text.isPrefixOf?_cons_cons, if_neg]
    simpa using Ne.symm hJ
  simp [wrapped?, hp]

/-- What a literal says is its value with the last entry of every key, in the order of the keys. -/
theorem decode?_render (threshold : Nat) {v : Json} (h : v.Exact) :
    decode? (render threshold v) = some v.sorted := by
  have hs := Json.exact_sorted v h
  rw [render]
  split
  · rw [decode?, wrapped?_wrap, Option.getD_some]
    exact Json.parse?_text hs
  · rw [decode?, wrapped?_text, Option.getD_none]
    exact Json.parse?_text hs

theorem decode?_empty : decode? "" = none := by
  have hw : wrapped? "" = none := by simp [wrapped?, openingText, Text.isPrefixOf?_cons_nil]
  rw [decode?, hw]
  decide

theorem render_isEmpty (threshold : Nat) {v : Json} (h : v.Exact) : (render threshold v).isEmpty = false := by
  cases he : (render threshold v).isEmpty with
  | false => rfl
  | true =>
    have hd := decode?_render threshold h
    rw [String.isEmpty_iff.mp he, decode?_empty] at hd
    cases hd

theorem render_inj (threshold : Nat) {v w : Json} (hv : v.Exact) (hw : w.Exact) :
    render threshold v = render threshold w ↔ v.Same w := by
  rw [Json.same_iff_sorted]
  constructor
  · intro h
    have hd := decode?_render threshold hv
    rw [h, decode?_render threshold hw, Option.some.injEq] at hd
    exact hd.symm
  · intro h
    rw [render, render, h]

/-- A literal is the compact text of its value or, when the text is longer than the threshold, a call
that parses the text from a string. The text is read back as the value, and two values have one
literal exactly when they are the same data. -/
theorem render_lossless (threshold : Nat) (v : Json) (h : v.Exact) :
    let text := v.sorted.text
    (text.utf8ByteSize ≤ threshold → render threshold v = text) ∧
      (threshold < text.utf8ByteSize → ∃ quoted, render threshold v = "JSON.parse(" ++ quoted ++ ")" ∧
        Json.parse? quoted = some (.string text)) ∧
      (∃ w, Json.parse? text = some w ∧ w.Same v) ∧
      ∀ w, w.Exact → (render threshold v = render threshold w ↔ v.Same w) := by
  intro text
  refine ⟨fun hshort => ?_, fun hlong => ⟨(Json.string text).text, ?_, ?_⟩, ?_, fun w hw => ?_⟩
  · exact if_neg (Nat.not_lt.mpr hshort)
  · exact if_pos hlong
  · exact Json.parse?_text (by rw [Json.Exact]; trivial)
  · exact ⟨v.sorted, Json.parse?_text (Json.exact_sorted v h), (Json.same_sorted v).symm⟩
  · exact render_inj threshold h hw

/-! Two spellings of one object, with a key that is repeated, escapes and numbers at the limits. -/

def spelled : Json :=
  .object [("n", .null), ("text", .string "\"\\\n\x00\u2028é"), ("n", .list [.int (-9223372036854775808)])]

def respelled : Json :=
  .object [("n", .list [.int (-9223372036854775808)]), ("text", .string "\"\\\n\x00\u2028é")]

theorem render_lossless_spelled :
    (∃ quoted, render 10 spelled = "JSON.parse(" ++ quoted ++ ")" ∧
        Json.parse? quoted = some (.string spelled.sorted.text)) ∧
      render 1000 spelled = spelled.sorted.text ∧
      (∃ w, Json.parse? spelled.sorted.text = some w ∧ w.Same spelled) ∧
      (render 10 spelled = render 10 respelled ↔ spelled.Same respelled) := by
  have hv : spelled.Exact := by simp [spelled, Json.Exact, Json.ExactEntries, Json.ExactItems, Json.IsWord]
  have hw : respelled.Exact := by simp [respelled, Json.Exact, Json.ExactEntries, Json.ExactItems, Json.IsWord]
  obtain ⟨-, hlong, hread, hinj⟩ := render_lossless 10 spelled hv
  obtain ⟨hshort, -⟩ := render_lossless 1000 spelled hv
  exact ⟨hlong (by decide +kernel), hshort (by decide +kernel), hread, hinj respelled hw⟩

end LazyBundle.Literal

import LazyBundle.Literal.Reading
import LazyBundle.Proofs.DecimalNumerals

/-!
# The characters of a literal

Every character of a literal that is not a printable one of ASCII comes from a
key or a string of the value (`mem_render_iff`). Control characters are escaped,
so the literal never holds one. All others stand in the literal as they are, and
two of them end a line.
-/

namespace LazyBundle.Json

/-! ## Texts inside a value -/

mutual

def texts : Json → List String
  | .null => []
  | .bool _ => []
  | .int _ => []
  | .float _ => []
  | .string s => [s]
  | .list items => itemTexts items
  | .object entries => entryTexts entries

def itemTexts : List Json → List String
  | [] => []
  | v :: vs => v.texts ++ itemTexts vs

def entryTexts : List (String × Json) → List String
  | [] => []
  | (k, v) :: es => k :: v.texts ++ entryTexts es

end

/-! ## Printable characters -/

def isPrintable (c : Char) : Bool :=
  32 ≤ c.toNat && c.toNat ≤ 126

theorem isPrintable_iff {c : Char} : isPrintable c ↔ 32 ≤ c.toNat ∧ c.toNat ≤ 126 := by
  simp [isPrintable]

theorem isPrintable_of_isDigit {c : Char} (h : c.isDigit) : isPrintable c := by
  obtain ⟨hlow, hhigh⟩ := Char.isDigit_iff_toNat.mp h
  exact isPrintable_iff.mpr ⟨Nat.le_trans (by decide) hlow, Nat.le_trans hhigh (by decide)⟩

theorem isPrintable_hexDigit : ∀ n < 16, isPrintable (Text.hexDigit n) := by decide

/-- A short escape stands for a character that is printable itself or below all that are. -/
theorem isPrintable_escaped? {e c : Char} (h : escaped? e = some c) :
    isPrintable e ∧ (isPrintable c ∨ c.toNat < 32) := by
  unfold escaped? at h
  split at h <;> cases h <;> decide

section unprintable

variable {c : Char} (hc : isPrintable c = false)
include hc

theorem ne_of_printable {d : Char} (hd : isPrintable d) : c ≠ d := by
  rintro rfl
  rw [hc] at hd
  cases hd

theorem mem_escapeChar_iff (d : Char) : c ∈ escapeChar d ↔ c = d ∧ 32 ≤ c.toNat := by
  have hback : c ≠ '\\' := ne_of_printable hc (by decide)
  rcases escapeChar_cases d with ⟨e, he, -, hd⟩ | ⟨hd, he⟩ | ⟨hd, -, -, he⟩
  · obtain ⟨hpe, hpd⟩ := isPrintable_escaped? hd
    have hce : c ≠ e := ne_of_printable hc hpe
    rw [he]
    constructor
    · intro h
      simp [hback, hce] at h
    · rintro ⟨rfl, h32⟩
      rcases hpd with hpd | hpd
      · exact absurd rfl (ne_of_printable hc hpd)
      · omega
  · have hu : c ≠ 'u' := ne_of_printable hc (by decide)
    have h0 : c ≠ '0' := ne_of_printable hc (by decide)
    have hhigh : c ≠ Text.hexDigit (d.toNat / 16) := ne_of_printable hc (isPrintable_hexDigit _ (by omega))
    have hlow : c ≠ Text.hexDigit (d.toNat % 16) := ne_of_printable hc (isPrintable_hexDigit _ (by omega))
    rw [he]
    constructor
    · intro h
      simp [hback, hu, h0, hhigh, hlow] at h
    · rintro ⟨rfl, h32⟩
      omega
  · rw [he, List.mem_singleton]
    constructor
    · rintro rfl
      exact ⟨rfl, hd⟩
    · exact And.left

theorem mem_stringChars_iff (s : String) : c ∈ stringChars s ↔ 32 ≤ c.toNat ∧ c ∈ s.toList := by
  have hquote : c ≠ '"' := ne_of_printable hc (by decide)
  rw [stringChars]
  simp only [List.cons_append, List.mem_cons, List.mem_append, List.mem_flatMap, hquote, List.not_mem_nil, or_false,
    false_or]
  constructor
  · rintro ⟨d, hd, hcd⟩
    obtain ⟨rfl, h32⟩ := (mem_escapeChar_iff hc d).mp hcd
    exact ⟨h32, hd⟩
  · rintro ⟨h32, hs⟩
    exact ⟨c, hs, (mem_escapeChar_iff hc c).mpr ⟨rfl, h32⟩⟩

theorem notMem_of_printable {cs : List Char} (hcs : cs.all isPrintable) : c ∉ cs :=
  fun h => ne_of_printable hc (List.all_eq_true.mp hcs c h) rfl

theorem notMem_digits {ds : List Char} (hds : ∀ d ∈ ds, d.isDigit) : c ∉ ds :=
  fun h => ne_of_printable hc (isPrintable_of_isDigit (hds c h)) rfl

theorem notMem_numeral {n : Numeral} (h : n.Proper) : c ∉ n.chars := by
  have hminus : c ≠ '-' := ne_of_printable hc (by decide)
  have hplus : c ≠ '+' := ne_of_printable hc (by decide)
  have hwhole : c ∉ n.whole := notMem_digits hc h.whole_digits
  have hfraction : c ∉ Numeral.fractionChars n.fraction := by
    have hpoint : c ≠ '.' := ne_of_printable hc (by decide)
    have hdigits := notMem_digits hc h.fraction_digits
    cases hf : n.fraction with
    | nil => exact List.not_mem_nil
    | cons d ds =>
      rw [hf] at hdigits
      rw [Numeral.fractionChars, List.mem_cons, not_or]
      exact ⟨hpoint, hdigits⟩
  have hexponent : c ∉ Numeral.exponentChars n.exponent := by
    have he : c ≠ 'e' := ne_of_printable hc (by decide)
    cases hx : n.exponent with
    | none => exact List.not_mem_nil
    | some p =>
      obtain ⟨minus, ds⟩ := p
      have hdigits := notMem_digits hc (h.exponent_digits (minus, ds) hx).2
      cases minus <;> simp [Numeral.exponentChars, he, hminus, hplus, hdigits]
  have hunsigned : c ∉ n.unsignedChars := by
    simp [Numeral.unsignedChars, hwhole, hfraction, hexponent]
  rw [Numeral.chars]
  split
  · rw [List.mem_cons, not_or]
    exact ⟨hminus, hunsigned⟩
  · exact hunsigned

theorem mem_entry_iff {k : String} {v : Json} {es : List (String × Json)}
    (hv : c ∈ v.chars ↔ 32 ≤ c.toNat ∧ ∃ s ∈ v.texts, c ∈ s.toList)
    (hes : c ∈ moreEntries es ↔ 32 ≤ c.toNat ∧ ∃ s ∈ entryTexts es, c ∈ s.toList) :
    c ∈ stringChars k ++ ':' :: v.chars ++ moreEntries es ↔
      32 ≤ c.toNat ∧ ∃ s ∈ entryTexts ((k, v) :: es), c ∈ s.toList := by
  have hcolon : c ≠ ':' := ne_of_printable hc (by decide)
  rw [List.mem_append, List.mem_append, List.mem_cons, mem_stringChars_iff hc, hv, hes, or_assoc]
  simp only [hcolon, false_or, entryTexts, List.cons_append, List.mem_cons, List.mem_append, or_and_right, exists_or,
    exists_eq_left, and_or_left]

mutual

-- The induction is on the value. All brackets, commas and words are printable, so what is left of a
-- text are the texts of its parts.
theorem mem_chars_iff : ∀ v : Json, c ∈ v.chars ↔ 32 ≤ c.toNat ∧ ∃ s ∈ v.texts, c ∈ s.toList
  | .null => by
    have hword : c ∉ chars .null := notMem_of_printable hc (by decide)
    simp [texts, hword]
  | .bool b => by
    have hword : c ∉ chars (.bool b) := by cases b <;> exact notMem_of_printable hc (by decide)
    simp [texts, hword]
  | .int n => by
    have hnumeral := notMem_numeral hc (proper_intNumeral n)
    rw [chars_intNumeral] at hnumeral
    simp [chars, texts, hnumeral]
  | .float x => by
    have hnumeral := notMem_numeral hc (Decimal.proper_numeral x)
    rw [Decimal.chars_numeral] at hnumeral
    simp [chars, texts, hnumeral]
  | .string s => by
    simp [chars, texts, mem_stringChars_iff hc]
  | .list [] => by
    have hbrackets : c ∉ chars (.list []) := notMem_of_printable hc (by decide)
    simp [texts, itemTexts, hbrackets]
  | .list (v :: vs) => by
    have hbracket : c ≠ '[' := ne_of_printable hc (by decide)
    rw [chars, List.cons_append, List.mem_cons, List.mem_append, mem_chars_iff v, mem_moreItems_iff vs]
    simp only [hbracket, false_or, texts, itemTexts, List.mem_append, or_and_right, exists_or, and_or_left]
  | .object [] => by
    have hbraces : c ∉ chars (.object []) := notMem_of_printable hc (by decide)
    simp [texts, entryTexts, hbraces]
  | .object ((k, v) :: es) => by
    have hbrace : c ≠ '\x7b' := ne_of_printable hc (by decide)
    have hentry := mem_entry_iff hc (k := k) (mem_chars_iff v) (mem_moreEntries_iff es)
    rw [chars, List.cons_append, List.cons_append, List.mem_cons, or_iff_right hbrace, texts]
    exact hentry

theorem mem_moreItems_iff : ∀ vs : List Json, c ∈ moreItems vs ↔ 32 ≤ c.toNat ∧ ∃ s ∈ itemTexts vs, c ∈ s.toList
  | [] => by
    have hbracket : c ∉ moreItems [] := notMem_of_printable hc (by decide)
    simp [itemTexts, hbracket]
  | v :: vs => by
    have hcomma : c ≠ ',' := ne_of_printable hc (by decide)
    rw [moreItems, List.cons_append, List.mem_cons, List.mem_append, mem_chars_iff v, mem_moreItems_iff vs]
    simp only [hcomma, false_or, itemTexts, List.mem_append, or_and_right, exists_or, and_or_left]

theorem mem_moreEntries_iff : ∀ es : List (String × Json),
    c ∈ moreEntries es ↔ 32 ≤ c.toNat ∧ ∃ s ∈ entryTexts es, c ∈ s.toList
  | [] => by
    have hbrace : c ∉ moreEntries [] := notMem_of_printable hc (by decide)
    simp [entryTexts, hbrace]
  | (k, v) :: es => by
    have hcomma : c ≠ ',' := ne_of_printable hc (by decide)
    have hentry := mem_entry_iff hc (k := k) (mem_chars_iff v) (mem_moreEntries_iff es)
    rw [moreEntries, List.cons_append, List.cons_append, List.mem_cons, or_iff_right hcomma]
    exact hentry

end

end unprintable

end LazyBundle.Json

namespace LazyBundle.Literal

theorem mem_render_iff (threshold : Nat) (v : Json) {c : Char} (hc : Json.isPrintable c = false) :
    c ∈ (render threshold v).toList ↔ 32 ≤ c.toNat ∧ ∃ s ∈ v.sorted.texts, c ∈ s.toList := by
  have htext : c ∈ v.sorted.text.toList ↔ 32 ≤ c.toNat ∧ ∃ s ∈ v.sorted.texts, c ∈ s.toList := by
    rw [Json.text, String.toList_ofList]
    exact Json.mem_chars_iff hc v.sorted
  rw [render]
  by_cases hlong : threshold < v.sorted.text.utf8ByteSize
  · have hopening : c ∉ openingText.toList := Json.notMem_of_printable hc (by decide)
    have hclosing : c ∉ closingText.toList := Json.notMem_of_printable hc (by decide)
    have hquoted : c ∈ (Json.string v.sorted.text).text.toList ↔ 32 ≤ c.toNat ∧ c ∈ v.sorted.text.toList := by
      rw [Json.text, String.toList_ofList, Json.chars]
      exact Json.mem_stringChars_iff hc v.sorted.text
    rw [if_pos hlong, String.toList_append, String.toList_append, List.mem_append, List.mem_append,
      or_iff_left hclosing, or_iff_right hopening, hquoted, htext, ← and_assoc, and_self]
  · rw [if_neg hlong, htext]

/-- The line terminators that a literal holds. Line feeds and carriage returns are always escaped; the
other two stand in the literal exactly when a key or a string of the value holds them. -/
theorem render_lineTerminator_iff (threshold : Nat) (v : Json) (c : Char) :
    c ∈ (render threshold v).toList ∧ isLineTerminator c ↔
      (c = '\u2028' ∨ c = '\u2029') ∧ ∃ s ∈ v.sorted.texts, c ∈ s.toList := by
  have hsplit : isLineTerminator c ↔ (c = '\n' ∨ c = '\r') ∨ c = '\u2028' ∨ c = '\u2029' := by
    simp [isLineTerminator, or_assoc]
  constructor
  · rintro ⟨hmem, hline⟩
    rcases hsplit.mp hline with (rfl | rfl) | hsep
    · have h := (mem_render_iff threshold v (by decide)).mp hmem
      exact absurd h.1 (by decide)
    · have h := (mem_render_iff threshold v (by decide)).mp hmem
      exact absurd h.1 (by decide)
    · have hc : Json.isPrintable c = false := by rcases hsep with rfl | rfl <;> decide
      exact ⟨hsep, ((mem_render_iff threshold v hc).mp hmem).2⟩
  · rintro ⟨hsep, htexts⟩
    have hc : Json.isPrintable c = false ∧ 32 ≤ c.toNat := by rcases hsep with rfl | rfl <;> decide
    exact ⟨(mem_render_iff threshold v hc.1).mpr ⟨hc.2, htexts⟩, hsplit.mpr (.inr hsep)⟩

theorem render_holds_separator :
    ¬ ∀ (threshold : Nat) (v : Json), ∀ c ∈ (render threshold v).toList, isLineTerminator c = false := by
  intro h
  have hmem : '\u2028' ∈ (render defaultThreshold (.string "\u2028")).toList := by
    rw [mem_render_iff _ _ (by decide)]
    exact ⟨by decide, "\u2028", List.mem_singleton_self _, by decide⟩
  exact absurd (h defaultThreshold (.string "\u2028") '\u2028' hmem) (by decide)

end LazyBundle.Literal

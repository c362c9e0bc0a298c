import LazyBundle.Json.Decode
import LazyBundle.Proofs.DecimalNumerals

/-!
# Values read back

`ofText_text`: the compact text of a value is scanned as the document of that
value, entry by entry and in the same order, with every number as a numeral. The
scanner is bounded by fuel; twice the length of the text is enough. The document
is read as the value itself if its numbers are integers of 64 bits (`Exact`).
-/

namespace LazyBundle.Json

open Numeral

/-! ## Numbers -/

theorem maxWord_eq : Numeral.maxWord = 18446744073709551615 := rfl

theorem minWord_eq : Nat.pow 2 63 = 9223372036854775808 := rfl

def IsWord (n : Int) : Prop :=
  -(Nat.pow 2 63 : Nat) ≤ n ∧ n ≤ Numeral.maxWord

theorem isWord_ofNat {n : Nat} (h : n ≤ Numeral.maxWord) : IsWord n := by
  constructor <;> omega

theorem le_ofDigitChars (ds : List Char) (init : Nat) : init ≤ Nat.ofDigitChars 10 ds init := by
  induction ds generalizing init with
  | nil => simp
  | cons d ds ih =>
    rw [Nat.ofDigitChars_cons]
    exact Nat.le_trans (by omega) (ih _)

theorem readWord_digits (ds : List Char) (start : Nat)
    (h : Nat.ofDigitChars 10 ds start ≤ Numeral.maxWord) :
    Numeral.readWord start ds = (Nat.ofDigitChars 10 ds start, ds.length) := by
  induction ds generalizing start with
  | nil => simp [Numeral.readWord]
  | cons d ds ih =>
    rw [Nat.ofDigitChars_cons] at h ⊢
    have hd : start * 10 + Numeral.digitValue d = 10 * start + (d.toNat - '0'.toNat) := by
      rw [Numeral.digitValue, Nat.mul_comm]; rfl
    have hle := Nat.le_trans (le_ofDigitChars ds _) h
    simp only [Numeral.readWord, hd, if_pos hle, ih _ h, List.length_cons]

theorem value?_natural {n : Nat} (h : n ≤ Numeral.maxWord) :
    Numeral.value? ⟨false, Nat.toDigits 10 n, [], none⟩ = some (.integer n) := by
  have hr := readWord_digits (Nat.toDigits 10 n) 0 (by rw [Nat.ofDigitChars_ten_toDigits]; exact h)
  rw [Nat.ofDigitChars_ten_toDigits] at hr
  simp [Numeral.value?, hr]

theorem value?_negative {n : Nat} (h0 : 0 < n) (h : n ≤ Nat.pow 2 63) :
    Numeral.value? ⟨true, Nat.toDigits 10 n, [], none⟩ = some (.integer (-n)) := by
  rw [minWord_eq] at h
  have hr := readWord_digits (Nat.toDigits 10 n) 0
    (by rw [Nat.ofDigitChars_ten_toDigits, maxWord_eq]; omega)
  rw [Nat.ofDigitChars_ten_toDigits] at hr
  have hzero : n ≠ 0 := Nat.ne_of_gt h0
  simp [Numeral.value?, hr, hzero, h]

/-! ## Exact values -/

mutual

/-- All numbers of the value are integers of 64 bits. -/
def Exact : Json → Prop
  | .int n => IsWord n
  | .float _ => False
  | .list items => ExactItems items
  | .object entries => ExactEntries entries
  | .null => True
  | .bool _ => True
  | .string _ => True

def ExactItems : List Json → Prop
  | [] => True
  | v :: vs => v.Exact ∧ ExactItems vs

def ExactEntries : List (String × Json) → Prop
  | [] => True
  | (_, v) :: es => v.Exact ∧ ExactEntries es

end

theorem exactItems_iff {vs : List Json} : ExactItems vs ↔ ∀ v ∈ vs, v.Exact := by
  induction vs with
  | nil => simp [ExactItems]
  | cons v vs ih => simp [ExactItems, ih]

theorem exactEntries_iff {es : List (String × Json)} : ExactEntries es ↔ ∀ e ∈ es, e.2.Exact := by
  induction es with
  | nil => simp [ExactEntries]
  | cons e es ih => obtain ⟨k, v⟩ := e; simp [ExactEntries, ih]

/-! ## Documents -/

mutual

def doc : Json → Doc
  | .null => .null
  | .bool b => .bool b
  | .int n => .number (intNumeral n)
  | .float x => .number (Decimal.numeral x)
  | .string s => .string ⟨.ok s, none⟩
  | .list items => .list (itemDocs items) none
  | .object entries => .object (entryDocs entries) none

def itemDocs : List Json → List Doc
  | [] => []
  | v :: vs => v.doc :: itemDocs vs

def entryDocs : List (String × Json) → List (Token × Doc)
  | [] => []
  | (k, v) :: es => (⟨.ok k, none⟩, v.doc) :: entryDocs es

end

theorem digit_ne {c : Char} (h : c.isDigit) : isSpace c = false ∧ c ≠ ']' ∧ c ≠ 'J' := by
  refine ⟨?_, ?_, ?_⟩
  · cases hs : isSpace c with
    | false => rfl
    | true =>
      simp only [isSpace, Bool.or_eq_true, beq_iff_eq] at hs
      rcases hs with ((rfl | rfl) | rfl) | rfl <;> simp at h
  · rintro rfl; simp at h
  · rintro rfl; simp at h

theorem Numeral.Proper.head {n : Numeral} (h : n.Proper) : ∃ c cs, n.unsignedChars = c :: cs ∧ c.isDigit := by
  cases hw : n.whole with
  | nil => exact absurd hw h.whole_ne_nil
  | cons d ds =>
    refine ⟨d, ds ++ (fractionChars n.fraction ++ exponentChars n.exponent), ?_, ?_⟩
    · rw [unsignedChars, hw, List.cons_append]
    · exact h.whole_digits d (by rw [hw]; exact List.mem_cons_self)

theorem Numeral.Proper.chars_head {n : Numeral} (h : n.Proper) :
    ∃ c cs, n.chars = c :: cs ∧ isSpace c = false ∧ c ≠ ']' ∧ c ≠ 'J' := by
  obtain ⟨c, cs, hc, hdigit⟩ := h.head
  cases hneg : n.negative with
  | false => exact ⟨c, cs, by rw [chars, hneg, hc]; rfl, digit_ne hdigit⟩
  | true => exact ⟨'-', c :: cs, by rw [chars, hneg, hc]; rfl, by decide⟩

/-- No value begins with a blank, like the end of a list or like the name of a function. -/
theorem chars_head (v : Json) : ∃ c cs, v.chars = c :: cs ∧ isSpace c = false ∧ c ≠ ']' ∧ c ≠ 'J' := by
  cases v with
  | null => exact ⟨'n', _, rfl, rfl, by decide⟩
  | bool b => cases b <;> exact ⟨_, _, rfl, rfl, by decide⟩
  | int n =>
    rw [chars, ← chars_intNumeral]
    exact (proper_intNumeral n).chars_head
  | float x =>
    rw [chars, ← Decimal.chars_numeral]
    exact (Decimal.proper_numeral x).chars_head
  | string s => exact ⟨'"', _, rfl, rfl, by decide⟩
  | list vs => cases vs <;> exact ⟨'[', _, rfl, rfl, by decide⟩
  | object es =>
    cases es with
    | nil => exact ⟨_, _, rfl, rfl, by decide⟩
    | cons e es => exact ⟨'\x7b', _, rfl, rfl, by decide⟩

theorem skipSpace_cons {c : Char} (h : isSpace c = false) (cs : List Char) :
    skipSpace (c :: cs) = c :: cs := by
  simp [skipSpace, h]

theorem scanValue_digit (fuel : Nat) {c : Char} (h : c.isDigit) {cs rest : List Char} {n : Numeral}
    (hn : scanNumeral false (c :: cs) = .ok (n, rest)) :
    scanValue (fuel + 1) (c :: cs) = (.number n, some rest) := by
  rw [scanValue, skipSpace_cons (digit_ne h).1]
  split <;> simp_all

theorem scanValue_numeral {n : Numeral} (h : n.Proper) (fuel : Nat) {rest : List Char} (hr : NumeralEnds rest) :
    scanValue (fuel + 1) (n.chars ++ rest) = (.number n, some rest) := by
  have hs := scanNumeral_unsignedChars h hr
  obtain ⟨c, cs, hc, hdigit⟩ := h.head
  rw [hc, List.cons_append] at hs
  cases hneg : n.negative with
  | false =>
    rw [hneg] at hs
    rw [Numeral.chars, hneg, if_neg Bool.false_ne_true, hc, List.cons_append]
    exact scanValue_digit fuel hdigit hs
  | true =>
    rw [hneg] at hs
    rw [Numeral.chars, hneg, if_pos rfl, hc, List.cons_append, List.cons_append, scanValue,
      skipSpace_cons (by decide)]
    simp only [hs]

theorem numeralEnds_moreItems (vs : List Json) (rest : List Char) :
    NumeralEnds (moreItems vs ++ rest) := by
  cases vs <;> exact numeralEnds_cons (by decide) _

theorem numeralEnds_moreEntries (es : List (String × Json)) (rest : List Char) :
    NumeralEnds (moreEntries es ++ rest) := by
  cases es with
  | nil => exact numeralEnds_cons (by decide) _
  | cons e es => exact numeralEnds_cons (by decide) _

mutual

-- The induction is on the value. To go into a list and to take an item of it cost one unit of fuel
-- each, and both have a character of their own, so twice the length is enough.
theorem scanValue_chars : ∀ (v : Json) (fuel : Nat) (rest : List Char),
    2 * v.chars.length ≤ fuel → NumeralEnds rest → scanValue fuel (v.chars ++ rest) = (v.doc, some rest)
  | v, 0, rest, hf, _ => by
    obtain ⟨c, cs, hc, -⟩ := chars_head v
    rw [hc] at hf
    simp at hf
  | .null, fuel + 1, rest, _, _ => rfl
  | .bool true, fuel + 1, rest, _, _ => rfl
  | .bool false, fuel + 1, rest, _, _ => rfl
  | .int n, fuel + 1, rest, _, hr => by
    rw [chars, ← chars_intNumeral, doc]
    exact scanValue_numeral (proper_intNumeral n) fuel hr
  | .float x, fuel + 1, rest, _, hr => by
    rw [chars, ← Decimal.chars_numeral, doc]
    exact scanValue_numeral (Decimal.proper_numeral x) fuel hr
  | .string s, fuel + 1, rest, _, _ => by
    rw [chars, stringChars, List.cons_append, List.cons_append, List.append_assoc, List.singleton_append,
      scanValue, skipSpace_cons (by decide)]
    simp only [scanToken_string, doc]
  | .list [], fuel + 1, rest, _, _ => rfl
  | .list (v :: vs), fuel + 1, rest, hf, _ => by
    rw [chars, List.length_append, List.length_cons] at hf
    have hs := scanItems_chars v vs fuel rest (by omega)
    obtain ⟨c, cs, hc, hsp, hend, -⟩ := chars_head v
    rw [chars, List.cons_append, List.cons_append, List.append_assoc, scanValue, skipSpace_cons (by decide), doc]
    rw [hc, List.cons_append] at hs ⊢
    simp only [skipSpace_cons hsp]
    split
    · simp_all
    · simp_all
    · rw [hs]
  | .object [], fuel + 1, rest, _, _ => rfl
  | .object ((k, v) :: es), fuel + 1, rest, hf, _ => by
    rw [chars, stringChars] at hf
    simp only [List.length_append, List.length_cons, List.length_nil] at hf
    have hs := scanEntries_chars k v es fuel rest (by omega)
    rw [chars, stringChars, doc]
    simp only [List.cons_append, List.append_assoc, List.nil_append]
    rw [scanValue, skipSpace_cons (by decide)]
    simp only [skipSpace_cons (show isSpace '"' = false by decide), hs]

theorem scanItems_chars : ∀ (v : Json) (vs : List Json) (fuel : Nat) (rest : List Char),
    2 * (v.chars.length + (moreItems vs).length) + 1 ≤ fuel →
    scanItems fuel (v.chars ++ (moreItems vs ++ rest)) = (itemDocs (v :: vs), none, some rest)
  | v, [], fuel + 1, rest, hf => by
    have hs := scanValue_chars v fuel (moreItems [] ++ rest) (by omega) (numeralEnds_moreItems [] rest)
    rw [scanItems, hs]
    rfl
  | v, w :: ws, fuel + 1, rest, hf => by
    rw [moreItems, List.length_append, List.length_cons] at hf
    have hs := scanValue_chars v fuel (moreItems (w :: ws) ++ rest) (by omega)
      (numeralEnds_moreItems (w :: ws) rest)
    have hss := scanItems_chars w ws fuel rest (by omega)
    obtain ⟨c, cs, hc, hsp, hend, -⟩ := chars_head w
    rw [scanItems, hs, moreItems, List.cons_append, List.cons_append, List.append_assoc, itemDocs]
    simp only [skipSpace_cons (show isSpace ',' = false by decide)]
    rw [hc, List.cons_append] at hss ⊢
    simp only [skipSpace_cons hsp]
    split
    · simp_all
    · simp_all
    · rw [hss]
  | _, _, 0, _, hf => by omega

theorem scanEntries_chars : ∀ (k : String) (v : Json) (es : List (String × Json)) (fuel : Nat)
    (rest : List Char), 2 * (v.chars.length + (moreEntries es).length) + 1 ≤ fuel →
    scanEntries fuel (k.toList.flatMap escapeChar ++ ('"' :: ':' :: (v.chars ++ (moreEntries es ++ rest)))) =
      (entryDocs ((k, v) :: es), none, some rest)
  | k, v, [], fuel + 1, rest, hf => by
    have hs := scanValue_chars v fuel (moreEntries [] ++ rest) (by omega) (numeralEnds_moreEntries [] rest)
    rw [scanEntries, scanToken_string]
    simp only [skipSpace_cons (show isSpace ':' = false by decide), hs]
    rfl
  | k, v, (l, w) :: es, fuel + 1, rest, hf => by
    rw [moreEntries, stringChars] at hf
    simp only [List.length_append, List.length_cons, List.length_nil] at hf
    have hs := scanValue_chars v fuel (moreEntries ((l, w) :: es) ++ rest) (by omega)
      (numeralEnds_moreEntries ((l, w) :: es) rest)
    have hss := scanEntries_chars l w es fuel rest (by omega)
    rw [scanEntries, scanToken_string, entryDocs]
    simp only [skipSpace_cons (show isSpace ':' = false by decide), hs]
    rw [moreEntries, stringChars]
    simp only [List.cons_append, List.append_assoc, List.nil_append,
      skipSpace_cons (show isSpace ',' = false by decide),
      skipSpace_cons (show isSpace '"' = false by decide), hss]
  | _, _, _, 0, _, hf => by omega

end

theorem ofText_text (v : Json) : Document.ofText v.text = ⟨v.doc, none⟩ := by
  have hs := scanValue_chars v (2 * v.chars.length + 1) [] (by omega) numeralEnds_nil
  rw [List.append_nil] at hs
  rw [Document.ofText, text, String.toList_ofList, Document.ofChars, hs]
  rfl

/-! ## Values -/

theorem toJson?_int {n : Int} (h : IsWord n) : (Doc.number (intNumeral n)).toJson? = some (.int n) := by
  obtain ⟨hlow, hhigh⟩ := h
  cases n with
  | ofNat n =>
    have hn : n ≤ Numeral.maxWord := Int.ofNat_le.mp hhigh
    rw [intNumeral, Doc.toJson?, value?_natural hn]
    rfl
  | negSucc n =>
    have hn : n + 1 ≤ Nat.pow 2 63 := by omega
    rw [intNumeral, Doc.toJson?, value?_negative (Nat.succ_pos n) hn]
    simp [Int.negSucc_eq]

mutual

theorem toJson?_doc : ∀ v : Json, v.Exact → v.doc.toJson? = some v
  | .null, _ => rfl
  | .bool _, _ => rfl
  | .int _, h => toJson?_int h
  | .float _, h => h.elim
  | .string _, _ => rfl
  | .list items, h => by
    rw [doc, Doc.toJson?, items?_itemDocs items h]
    rfl
  | .object entries, h => by
    rw [doc, Doc.toJson?, entries?_entryDocs entries h]
    rfl

theorem items?_itemDocs : ∀ vs : List Json, ExactItems vs → items? (itemDocs vs) = some vs
  | [], _ => rfl
  | v :: vs, h => by
    rw [itemDocs, items?, toJson?_doc v h.1, items?_itemDocs vs h.2]
    rfl

theorem entries?_entryDocs : ∀ es : List (String × Json), ExactEntries es → entries? (entryDocs es) = some es
  | [], _ => rfl
  | (k, v) :: es, h => by
    rw [entryDocs, entries?, toJson?_doc v h.1, entries?_entryDocs es h.2]
    rfl

end

theorem parse?_text {v : Json} (h : v.Exact) : parse? v.text = some v := by
  rw [parse?, ofText_text]
  exact toJson?_doc v h

end LazyBundle.Json

import LazyBundle.Proofs.EntryIds
import Mathlib.Tactic.SplitIfs

/-!
# The order of texts

Texts are ordered by their characters. Their bytes have the same order
(`toUTF8_le_iff`): a character that comes later has a first byte, or a first
byte that differs, that is greater. Texts that begin with other characters are not
the same, and a longer text begins as its first part does (`head?_toList_append`).
-/

namespace LazyBundle

theorem head?_toList_append {a : String} {c : Char} (h : a.toList.head? = some c) (b : String) :
    (a ++ b).toList.head? = some c := by
  rw [String.toList_append, List.head?_append, h]
  rfl

theorem utf8EncodeChar_append_lt {x y : Char} (h : x < y) (s t : List UInt8) :
    String.utf8EncodeChar x ++ s < String.utf8EncodeChar y ++ t := by
  have hxy : x.val.toNat < y.val.toNat := h
  have hy : y.val.toNat < 0x110000 := by
    have := y.valid
    simp only [UInt32.isValidChar, Nat.isValidChar] at this
    omega
  have hdigits : ∀ n : Nat, n / 4096 = n / 64 / 64 ∧ n / 262144 = n / 64 / 64 / 64 := by omega
  unfold String.utf8EncodeChar
  simp only [hdigits]
  generalize x.val.toNat = a at hxy
  generalize y.val.toNat = b at hxy hy
  -- one case for each pair of lengths: the longer form begins with the greater byte, and forms of
  -- one length are compared digit by digit
  split_ifs <;>
    simp only [List.cons_append, List.cons_lt_cons_iff, UInt8.lt_iff_toNat_lt, ← UInt8.toNat_inj,
      UInt8.toNat_ofNat'] <;>
    omega

theorem flatMap_utf8EncodeChar_lt {a b : List Char} (h : a < b) :
    a.flatMap String.utf8EncodeChar < b.flatMap String.utf8EncodeChar := by
  induction a generalizing b with
  | nil =>
    cases b with
    | nil => cases h
    | cons y b =>
      have hlen : 0 < (String.utf8EncodeChar y).length := by simp [Char.utf8Size_pos]
      obtain ⟨u, us, hy⟩ := List.exists_cons_of_length_pos hlen
      rw [List.flatMap_cons, hy]
      exact List.nil_lt_cons _ _
  | cons x a ih =>
    cases b with
    | nil => cases h
    | cons y b =>
      rw [List.flatMap_cons, List.flatMap_cons]
      rcases List.cons_lt_cons_iff.mp h with hxy | ⟨rfl, hab⟩
      · exact utf8EncodeChar_append_lt hxy _ _
      · exact List.append_left_lt (ih hab)

theorem toList_toUTF8 (s : String) : s.toUTF8.toList = s.toList.flatMap String.utf8EncodeChar := by
  rw [String.toUTF8_eq_toByteArray, ← String.utf8Encode_toList, List.utf8Encode, ByteArray.toList, toList_loop,
    List.data_toByteArray]
  rfl

theorem toUTF8_lt {a b : String} (h : a < b) : a.toUTF8.toList < b.toUTF8.toList := by
  rw [toList_toUTF8, toList_toUTF8]
  exact flatMap_utf8EncodeChar_lt h

/-- Texts have the order of their bytes. -/
theorem toUTF8_le_iff {a b : String} : a.toUTF8.toList ≤ b.toUTF8.toList ↔ a ≤ b := by
  constructor
  · intro h hba
    exact h (toUTF8_lt hba)
  · intro h
    by_cases hba : b ≤ a
    · rw [String.le_antisymm h hba]
      exact List.le_refl _
    · exact List.le_of_lt (toUTF8_lt (String.not_le.mp hba))

end LazyBundle

import LazyBundle.ModuleWriter

/-!
# Ids of entry files

A hashed id stands for the mode and the code as far as the digest tells texts
apart (`mode_code_of_preimage`). A readable id keeps a part of the key and the
mode: two modes of one key have different ids (`readable_bundleId_eq_iff`), but
two keys may have the same.
-/

namespace LazyBundle

/-! ## Hashed ids -/

def preimage (code modeName : String) : List UInt8 :=
  (modeName ++ "\x00" ++ code).toUTF8.toList

def shortDigest (length : Nat) (bytes : List UInt8) : List Char :=
  (Sha256.hexDigest bytes).toList.take length

theorem toList_loop (bytes : ByteArray) (i : Nat) (acc : List UInt8) :
    ByteArray.toList.loop bytes i acc = acc.reverse ++ bytes.data.toList.drop i := by
  fun_induction ByteArray.toList.loop bytes i acc with
  | case1 i acc h ih =>
    have hi : i < bytes.data.toList.length := h
    have hget : bytes.get! i = bytes.data.toList[i] := getElem!_pos bytes.data i h
    rw [ih, List.reverse_cons, hget, List.append_assoc, List.singleton_append, List.getElem_cons_drop]
  | case2 i acc h =>
    have hi : bytes.data.toList.length ≤ i := Nat.le_of_not_lt h
    rw [List.drop_eq_nil_of_le hi, List.append_nil]

theorem toList_toUTF8_inj {s t : String} (h : s.toUTF8.toList = t.toUTF8.toList) : s = t := by
  rw [ByteArray.toList, ByteArray.toList, toList_loop, toList_loop] at h
  exact String.toByteArray_inj.mp (ByteArray.ext (Array.toList_inj.mp h))

theorem split_inj {α : Type} [BEq α] [LawfulBEq α] {sep : α} {a a' b b' : List α} (ha : sep ∉ a) (ha' : sep ∉ a')
    (h : a ++ sep :: b = a' ++ sep :: b') : a = a' ∧ b = b' := by
  have hs := congrArg (List.splitOn sep) h
  rw [List.splitOn_append_cons_self_of_not_mem ha, List.splitOn_append_cons_self_of_not_mem ha', List.cons.injEq] at hs
  obtain ⟨rfl, -⟩ := hs
  exact ⟨rfl, (List.cons.inj (List.append_cancel_left h)).2⟩

theorem mode_code_of_preimage {code code' mode mode' : String} (hm : '\x00' ∉ mode.toList)
    (hm' : '\x00' ∉ mode'.toList) (h : preimage code mode = preimage code' mode') :
    mode = mode' ∧ code = code' := by
  have hs := congrArg String.toList (toList_toUTF8_inj h)
  simp only [String.toList_append, List.append_assoc] at hs
  obtain ⟨h1, h2⟩ := split_inj hm hm' hs
  exact ⟨String.toList_inj.mp h1, String.toList_inj.mp h2⟩

theorem hexDigit_ne_slash : ∀ n < 16, Text.hexDigit n ≠ '/' := by decide

theorem slash_notMem_shortDigest (length : Nat) (bytes : List UInt8) : '/' ∉ shortDigest length bytes := by
  intro h
  have h := List.mem_of_mem_take h
  rw [Sha256.hexDigest, String.toList_ofList, List.mem_flatMap] at h
  obtain ⟨byte, -, h⟩ := h
  have hb := byte.toNat_lt
  rw [Text.hexByte, List.mem_cons, List.mem_singleton] at h
  rcases h with h | h
  · exact hexDigit_ne_slash _ (by omega) h.symm
  · exact hexDigit_ne_slash _ (by omega) h.symm

section hashed

variable {config : Config} (hc : config.hashFileNames = true)
include hc

theorem toList_hashed (entryKey code modeName : String) :
    (bundleId config entryKey code modeName).toList =
      ['p', '-'] ++ shortDigest config.hashLength (preimage code modeName) ++ config.bundleSuffix.toList := by
  rw [bundleId, if_pos hc]
  simp only [hashedId, String.toList_append, String.toList_ofList]
  rfl

theorem shortDigest_of_bundleId {key key' code code' mode mode' : String}
    (h : bundleId config key code mode = bundleId config key' code' mode') :
    shortDigest config.hashLength (preimage code mode) = shortDigest config.hashLength (preimage code' mode') := by
  have h := congrArg String.toList h
  rw [toList_hashed hc, toList_hashed hc] at h
  exact List.append_cancel_left (List.append_cancel_right h)

theorem slash_notMem_hashed (hs : '/' ∉ config.bundleSuffix.toList) (key code mode : String) :
    '/' ∉ (bundleId config key code mode).toList := by
  rw [toList_hashed hc, List.mem_append, List.mem_append, not_or, not_or]
  exact ⟨⟨by decide, slash_notMem_shortDigest _ _⟩, hs⟩

end hashed

theorem entryFileName_injective {id id' : String} (h : entryFileName id = entryFileName id') : id = id' :=
  (String.append_left_inj _).mp h

/-! ## Readable ids -/

theorem modePart_injective {defaultMode mode mode' : String}
    (h : modePart defaultMode mode = modePart defaultMode mode') : mode = mode' := by
  have hdash : ∀ mode, "-" ++ mode ≠ "" := by
    intro mode he
    have := congrArg String.toList he
    simp at this
  unfold modePart at h
  split at h <;> split at h
  · rename_i h1 h2; rw [h1, h2]
  · exact absurd h.symm (hdash _)
  · exact absurd h (hdash _)
  · exact (String.append_right_inj _).mp h

section readable

variable {config : Config} (hhash : config.hashFileNames = false)
include hhash

theorem readable_bundleId_inj {key key' mode mode' : String} (code code' : String) :
    bundleId config key code mode = bundleId config key' code' mode' ↔
      keyPart key ++ modePart config.defaultMode mode = keyPart key' ++ modePart config.defaultMode mode' := by
  simp only [bundleId, hhash, Bool.false_eq_true, if_false, readableId, String.append_left_inj]

/-- The ids of one key tell its modes apart, and nothing else. -/
theorem readable_bundleId_eq_iff (key code code' mode mode' : String) :
    bundleId config key code mode = bundleId config key code' mode' ↔ mode = mode' := by
  rw [readable_bundleId_inj hhash, String.append_right_inj]
  exact ⟨modePart_injective, congrArg _⟩

end readable

end LazyBundle

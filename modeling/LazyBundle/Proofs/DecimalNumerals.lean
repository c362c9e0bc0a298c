import LazyBundle.Decimal.Binary64
import LazyBundle.Proofs.JsonStrings

/-!
# Floating-point numbers as numerals

The compact text of a floating-point number is a numeral (`chars_numeral`), so
whoever reads the text finds one number and knows where it ends.
-/

namespace LazyBundle.Decimal

open Json (Numeral isDigit_toDigits head?_toDigits)

/-! ## Digits -/

/-- Digits without a zero in front, except for the number zero. -/
structure Leading (ds : List Char) (e : Int) : Prop where
  ne_nil : ds ≠ []
  digits : ∀ c ∈ ds, c.isDigit
  zero : ds.head? = some '0' → ds = ['0'] ∧ e = 0

theorem head?_toDigits_ne {n : Nat} (hn : n ≠ 0) : (Nat.toDigits 10 n).head? ≠ some '0' := by
  intro h
  have hvalue := Nat.ofDigitChars_ten_toDigits (n := n)
  rw [head?_toDigits h] at hvalue
  simp [Nat.ofDigitChars] at hvalue
  exact hn hvalue.symm

theorem takeWhile_length_lt {ds : List Char} {c : Char} (hc : ds.head? = some c) (h0 : c ≠ '0') :
    (ds.reverse.takeWhile (· == '0')).length < ds.length := by
  have hprefix : ds.reverse.takeWhile (· == '0') <+: ds.reverse := List.takeWhile_prefix _
  have hle := hprefix.length_le
  rw [List.length_reverse] at hle
  refine Nat.lt_of_le_of_ne hle fun heq => ?_
  -- otherwise all of them are zeros, and so is the first
  have hall := hprefix.eq_of_length (heq.trans List.length_reverse.symm)
  have hmem : c ∈ ds.reverse.takeWhile (· == '0') := by
    rw [hall]
    exact List.mem_reverse.mpr (List.mem_of_head? hc)
  exact h0 (by simpa using List.all_eq_true.mp List.all_takeWhile c hmem)

theorem leading_digitChars (s : Scaled) : Leading s.digitChars.1 s.digitChars.2 := by
  by_cases h : s.digits = 0
  · have hs : s.digitChars = (['0'], 0) := by simp [Scaled.digitChars, h]
    rw [hs]
    exact ⟨by simp, by simp, fun _ => ⟨rfl, rfl⟩⟩
  · let ds := Nat.toDigits 10 s.digits
    let zeros := (ds.reverse.takeWhile (· == '0')).length
    have hs : s.digitChars = (ds.take (ds.length - zeros), s.exponent + zeros) := by
      simp [Scaled.digitChars, h, ds, zeros]
    rw [hs]
    have hhead : ds.head? ≠ some '0' := head?_toDigits_ne h
    obtain ⟨c, hc⟩ : ∃ c, ds.head? = some c := by
      cases hd : ds with
      | nil => exact absurd hd Nat.toDigits_ne_nil
      | cons c _ => exact ⟨c, rfl⟩
    have hlt : zeros < ds.length := takeWhile_length_lt hc fun h0 => hhead (h0 ▸ hc)
    have htake : (ds.take (ds.length - zeros)).head? = some c := by
      rw [List.head?_take, if_neg (by omega), hc]
    refine ⟨?_, fun c hc => isDigit_toDigits (List.mem_of_mem_take hc), ?_⟩
    · intro hnil
      rw [show ds.take (ds.length - zeros) = [] from hnil] at htake
      cases htake
    · intro hzero
      rw [htake] at hzero
      exact absurd (hc.trans hzero) hhead

theorem leading_decompose (tie : Tie) (x : Float) : Leading (decompose tie x).2.1 (decompose tie x).2.2 := by
  unfold decompose
  exact leading_digitChars _

/-! ## Numerals -/

def positionalNumeral (negative : Bool) (ds : List Char) (e : Int) : Numeral :=
  let places := (-e).toNat
  if 0 ≤ e then ⟨negative, ds ++ List.replicate e.toNat '0', ['0'], none⟩
  else if places < ds.length then
    ⟨negative, ds.take (ds.length - places), ds.drop (ds.length - places), none⟩
  else ⟨negative, ['0'], List.replicate (places - ds.length) '0' ++ ds, none⟩

def scientificNumeral (negative : Bool) (ds : List Char) (e : Int) : Numeral :=
  let exponent := e + (ds.length - 1 : Nat)
  ⟨negative, ds.take 1, ds.drop 1, some (exponent < 0, Nat.toDigits 10 exponent.natAbs)⟩

def numeral (x : Float) : Numeral :=
  let (negative, ds, e) := decompose .even x
  let point := e + ds.length
  if -5 < point ∧ point ≤ 16 then positionalNumeral negative ds e else scientificNumeral negative ds e

section numerals

variable {ds : List Char} {e : Int} (h : Leading ds e) (negative : Bool)
include h

theorem proper_positionalNumeral : (positionalNumeral negative ds e).Proper := by
  unfold positionalNumeral
  by_cases he : 0 ≤ e
  · rw [if_pos he]
    refine ⟨by simp [h.ne_nil], ?_, fun hzero => ?_, by simp, by simp⟩
    · intro c hc
      rcases List.mem_append.mp hc with hc | hc
      · exact h.digits c hc
      · rw [List.eq_of_mem_replicate hc]
        rfl
    · have hhead : ds.head? = some '0' := by
        cases ds with
        | nil => exact absurd rfl h.ne_nil
        | cons d ds => exact hzero
      obtain ⟨rfl, rfl⟩ := h.zero hhead
      rfl
  · rw [if_neg he]
    by_cases hp : (-e).toNat < ds.length
    · rw [if_pos hp]
      have htake : (ds.take (ds.length - (-e).toNat)).head? = ds.head? := by
        rw [List.head?_take, if_neg (by omega)]
      refine ⟨?_, fun c hc => h.digits c (List.mem_of_mem_take hc), fun hzero => ?_,
        fun c hc => h.digits c (List.mem_of_mem_drop hc), by simp⟩
      · intro hnil
        rw [show ds.take (ds.length - (-e).toNat) = [] from hnil, List.head?_nil, eq_comm,
          List.head?_eq_none_iff] at htake
        exact h.ne_nil htake
      · -- a zero in front is the number zero, which has no places
        exact absurd (h.zero (htake ▸ hzero)).2 (by omega)
    · rw [if_neg hp]
      refine ⟨by simp, by simp, by simp, ?_, by simp⟩
      intro c hc
      rcases List.mem_append.mp hc with hc | hc
      · rw [List.eq_of_mem_replicate hc]
        rfl
      · exact h.digits c hc

theorem proper_scientificNumeral : (scientificNumeral negative ds e).Proper := by
  obtain ⟨hne, hdigits, hzero⟩ := h
  cases ds with
  | nil => exact absurd rfl hne
  | cons d ds =>
    refine ⟨by simp [scientificNumeral], ?_, ?_, ?_, ?_⟩
    · simpa [scientificNumeral] using hdigits d List.mem_cons_self
    · simp [scientificNumeral]
    · simpa [scientificNumeral] using fun c hc => hdigits c (List.mem_cons_of_mem d hc)
    · rintro p hp
      obtain rfl := Option.some.inj hp
      exact ⟨Nat.toDigits_ne_nil, fun c hc => isDigit_toDigits hc⟩

theorem chars_positionalNumeral :
    (positionalNumeral negative ds e).chars = if negative then '-' :: positional ds e else positional ds e := by
  unfold positionalNumeral positional
  by_cases he : 0 ≤ e
  · rw [if_pos he, if_pos he]
    simp [Numeral.chars, Numeral.unsignedChars, Numeral.fractionChars, Numeral.exponentChars]
  · rw [if_neg he, if_neg he]
    by_cases hp : (-e).toNat < ds.length
    · rw [if_pos hp]
      cases hd : ds.drop (ds.length - (-e).toNat) with
      | nil =>
        have := congrArg List.length hd
        rw [List.length_drop, List.length_nil] at this
        omega
      | cons d rest =>
        simp [Numeral.chars, Numeral.unsignedChars, Numeral.fractionChars, Numeral.exponentChars, hp, hd]
    · rw [if_neg hp]
      cases hd : List.replicate ((-e).toNat - ds.length) '0' ++ ds with
      | nil => exact absurd (List.append_eq_nil_iff.mp hd).2 h.ne_nil
      | cons d rest =>
        simp [Numeral.chars, Numeral.unsignedChars, Numeral.fractionChars, Numeral.exponentChars, hp, hd]

theorem chars_scientificNumeral :
    (scientificNumeral negative ds e).chars = if negative then '-' :: scientific ds e else scientific ds e := by
  cases ds with
  | nil => exact absurd rfl h.ne_nil
  | cons d ds =>
    cases ds with
    | nil => simp [scientificNumeral, scientific, Numeral.chars, Numeral.unsignedChars, Numeral.fractionChars,
        Numeral.exponentChars]
    | cons d' ds => simp [scientificNumeral, scientific, Numeral.chars, Numeral.unsignedChars, Numeral.fractionChars,
        Numeral.exponentChars]

end numerals

theorem proper_numeral (x : Float) : (numeral x).Proper := by
  have h := leading_decompose .even x
  unfold numeral
  generalize decompose .even x = parts at h ⊢
  obtain ⟨negative, ds, e⟩ := parts
  simp only at h ⊢
  split
  · exact proper_positionalNumeral h negative
  · exact proper_scientificNumeral h negative

theorem chars_numeral (x : Float) : (numeral x).chars = (compactText x).toList := by
  have h := leading_decompose .even x
  unfold numeral compactText
  generalize decompose .even x = parts at h ⊢
  obtain ⟨negative, ds, e⟩ := parts
  simp only [signed, String.toList_ofList] at h ⊢
  split
  · exact chars_positionalNumeral h negative
  · exact chars_scientificNumeral h negative

end LazyBundle.Decimal

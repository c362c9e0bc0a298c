import LazyBundle.Json.Doc

/-!
# Strings and numerals read back

The scanner gives back every string from its escaped form and every numeral from
its digits. A numeral is read to its end only if what follows cannot continue it
(`NumeralEnds`).
-/

namespace LazyBundle.Json

/-! ## Strings -/

theorem unit?_of_control {n : Nat} (h : n < 32) :
    unit? '0' '0' (Text.hexDigit (n / 16)) (Text.hexDigit (n % 16)) = some n := by
  have h1 := Text.hexValue?_hexDigit (n / 16) (by omega)
  have h2 := Text.hexValue?_hexDigit (n % 16) (by omega)
  have h0 : Text.hexValue? '0' = some 0 := by decide
  simp only [unit?, h0, h1, h2, Option.bind_eq_bind, Option.bind_some, Option.pure_def, Option.some.injEq]
  omega

theorem joinPieces_char (stop : Stop) (c : Char) (ps : List Piece) :
    joinPieces stop (.char c :: ps) = (joinPieces stop ps).map (c :: ·) := by
  rw [joinPieces]

theorem joinPieces_control (stop : Stop) {c : Char} (h : c.toNat < 32) (ps : List Piece) :
    joinPieces stop (.unit c.toNat :: ps) = (joinPieces stop ps).map (c :: ·) := by
  have ht : isTrailing c.toNat = false := by simp [isTrailing]; omega
  have hl : isLeading c.toNat = false := by simp [isLeading]; omega
  rw [joinPieces.eq_def]
  simp [ht, hl, Char.ofNat_toNat]

/-- The three forms in which a character is written: a short escape, a long one, or itself. -/
theorem escapeChar_cases (c : Char) :
    (∃ e, escapeChar c = ['\\', e] ∧ e ≠ 'u' ∧ escaped? e = some c) ∨
      (c.toNat < 32 ∧ escapeChar c =
        ['\\', 'u', '0', '0', Text.hexDigit (c.toNat / 16), Text.hexDigit (c.toNat % 16)]) ∨
      (32 ≤ c.toNat ∧ c ≠ '"' ∧ c ≠ '\\' ∧ escapeChar c = [c]) := by
  by_cases hs : c ∈ ['"', '\\', '\x08', '\t', '\n', '\x0c', '\r']
  · left
    simp only [List.mem_cons, List.not_mem_nil, or_false] at hs
    rcases hs with rfl | rfl | rfl | rfl | rfl | rfl | rfl <;> exact ⟨_, rfl, by decide, rfl⟩
  · right
    simp only [List.mem_cons, List.not_mem_nil, or_false, not_or] at hs
    obtain ⟨hq, hb, h1, h2, h3, h4, h5⟩ := hs
    by_cases hc : c.toNat < 32
    · exact .inl ⟨hc, by simp [escapeChar, hq, hb, h1, h2, h3, h4, h5, hc]⟩
    · exact .inr ⟨by omega, hq, hb, by simp [escapeChar, hq, hb, h1, h2, h3, h4, h5, hc]⟩

/-- An escaped character is scanned as one piece, which joins back to the character. -/
theorem scanPieces_escapeChar (c : Char) : ∃ p : Piece,
    (∀ cs, scanPieces (escapeChar c ++ cs) = (p :: (scanPieces cs).1, (scanPieces cs).2)) ∧
      ∀ stop ps, joinPieces stop (p :: ps) = (joinPieces stop ps).map (c :: ·) := by
  rcases escapeChar_cases c with ⟨e, he, hu, hc⟩ | ⟨hc, he⟩ | ⟨hc, hq, hb, he⟩
  · refine ⟨.char c, fun cs => ?_, fun stop ps => joinPieces_char stop c ps⟩
    rw [he, List.cons_append, List.cons_append, List.nil_append, scanPieces, hc]
    · exact fun _ _ _ _ _ h => absurd h hu
    · exact hu
  · refine ⟨.unit c.toNat, fun cs => ?_, fun stop ps => joinPieces_control stop hc ps⟩
    rw [he]
    simp only [List.cons_append, List.nil_append]
    rw [scanPieces, unit?_of_control hc]
  · refine ⟨.char c, fun cs => ?_, fun stop ps => joinPieces_char stop c ps⟩
    rw [he, List.cons_append, List.nil_append, scanPieces.eq_def]
    split <;> simp_all

theorem scanPieces_flatMap (cs rest : List Char) : ∃ ps,
    scanPieces (cs.flatMap escapeChar ++ '"' :: rest) = (ps, .quote, rest) ∧
      joinPieces .quote ps = .ok cs := by
  induction cs with
  | nil => exact ⟨[], by simp [scanPieces], by rw [joinPieces]; rfl⟩
  | cons c cs ih =>
    obtain ⟨ps, hs, hj⟩ := ih
    obtain ⟨p, hp, hpj⟩ := scanPieces_escapeChar c
    refine ⟨p :: ps, ?_, ?_⟩
    · rw [List.flatMap_cons, List.append_assoc, hp, hs]
    · rw [hpj, hj]; rfl

theorem scanToken_string (s : String) (rest : List Char) :
    scanToken (s.toList.flatMap escapeChar ++ '"' :: rest) = (⟨.ok s, none⟩, some rest) := by
  obtain ⟨ps, hs, hj⟩ := scanPieces_flatMap s.toList rest
  simp [scanToken, hs, hj, Stop.fault?, Except.map]

/-! ## Numerals -/

/-- Nothing here can continue a numeral. -/
def NumeralEnds (rest : List Char) : Prop :=
  ∀ c, rest.head? = some c → c.isDigit = false ∧ c ≠ '.' ∧ c ≠ 'e' ∧ c ≠ 'E'

theorem numeralEnds_nil : NumeralEnds [] := by
  intro c h; simp at h

theorem numeralEnds_cons {c : Char} (h : c.isDigit = false ∧ c ≠ '.' ∧ c ≠ 'e' ∧ c ≠ 'E')
    (rest : List Char) : NumeralEnds (c :: rest) := by
  intro c' h'; rw [List.head?_cons, Option.some.injEq] at h'; exact h' ▸ h

theorem isDigit_toDigits {n : Nat} {c : Char} (h : c ∈ Nat.toDigits 10 n) : c.isDigit :=
  Nat.isDigit_of_mem_toDigits (by omega) (by omega) h

theorem toDigits_eq_zero_cons {n : Nat} {ds : List Char} (h : Nat.toDigits 10 n = '0' :: ds) :
    ds = [] := by
  induction n using Nat.strongRecOn generalizing ds with
  | ind n ih =>
    by_cases hn : n < 10
    · rw [Nat.toDigits_of_lt_base hn] at h
      exact (List.cons.inj h).2.symm
    · rw [Nat.toDigits_of_base_le (by omega) (by omega)] at h
      have hd := Nat.toDigits_ne_nil (n := n / 10) (b := 10)
      cases hq : Nat.toDigits 10 (n / 10) with
      | nil => exact absurd hq hd
      | cons d ds' =>
        rw [hq, List.cons_append, List.cons.injEq] at h
        obtain ⟨rfl, -⟩ := h
        have hz := ih (n / 10) (by omega) hq
        subst hz
        have h0 := Nat.ofDigitChars_ten_toDigits (n := n / 10)
        rw [hq] at h0
        simp [Nat.ofDigitChars] at h0
        omega

theorem head?_toDigits {n : Nat} (h : (Nat.toDigits 10 n).head? = some '0') : Nat.toDigits 10 n = ['0'] := by
  cases hd : Nat.toDigits 10 n with
  | nil => exact absurd hd Nat.toDigits_ne_nil
  | cons d ds =>
    rw [hd, List.head?_cons, Option.some.injEq] at h
    subst h
    rw [toDigits_eq_zero_cons hd]

theorem takeWhile_digits {ds rest : List Char} (hd : ∀ c ∈ ds, c.isDigit)
    (hr : ∀ c, rest.head? = some c → c.isDigit = false) :
    (ds ++ rest).takeWhile Char.isDigit = ds ∧ (ds ++ rest).dropWhile Char.isDigit = rest := by
  induction ds with
  | nil =>
    cases rest with
    | nil => exact ⟨rfl, rfl⟩
    | cons c rest => simp [hr c rfl]
  | cons d ds ih =>
    have h := ih fun c hc => hd c (List.mem_cons_of_mem _ hc)
    simp [hd d List.mem_cons_self, h.1, h.2]

namespace Numeral

def fractionChars : List Char → List Char
  | [] => []
  | d :: ds => '.' :: d :: ds

def exponentChars : Option (Bool × List Char) → List Char
  | none => []
  | some (minus, ds) => 'e' :: (if minus then '-' else '+') :: ds

def unsignedChars (n : Numeral) : List Char :=
  n.whole ++ (fractionChars n.fraction ++ exponentChars n.exponent)

def chars (n : Numeral) : List Char :=
  if n.negative then '-' :: n.unsignedChars else n.unsignedChars

/-- The digits that can be written. A zero stands alone in front of the point. -/
structure Proper (n : Numeral) : Prop where
  whole_ne_nil : n.whole ≠ []
  whole_digits : ∀ c ∈ n.whole, c.isDigit
  whole_zero : n.whole.head? = some '0' → n.whole = ['0']
  fraction_digits : ∀ c ∈ n.fraction, c.isDigit
  exponent_digits : ∀ e ∈ n.exponent, e.2 ≠ [] ∧ ∀ c ∈ e.2, c.isDigit

end Numeral

open Numeral

theorem scanTail_exponentChars (negative : Bool) (whole fraction : List Char) {e : Option (Bool × List Char)}
    (he : ∀ p ∈ e, p.2 ≠ [] ∧ ∀ c ∈ p.2, c.isDigit) {rest : List Char} (hr : NumeralEnds rest) :
    scanTail negative whole fraction (exponentChars e ++ rest) = .ok (⟨negative, whole, fraction, e⟩, rest) := by
  cases e with
  | none =>
    cases rest with
    | nil => rfl
    | cons c rest =>
      obtain ⟨-, -, he, hE⟩ := hr c rfl
      rw [exponentChars, List.nil_append]
      unfold scanTail
      split <;> simp_all
  | some p =>
    obtain ⟨minus, ds⟩ := p
    obtain ⟨hne, hds⟩ := he (minus, ds) rfl
    obtain ⟨ht, hd⟩ := takeWhile_digits hds fun c hc => (hr c hc).1
    cases ds with
    | nil => exact absurd rfl hne
    | cons d ds =>
      rw [List.cons_append] at ht hd
      cases minus <;> simp [exponentChars, scanTail, scanExponent, ht, hd]

theorem head?_exponentChars {e : Option (Bool × List Char)} {rest : List Char} (hr : NumeralEnds rest) {c : Char}
    (hc : (exponentChars e ++ rest).head? = some c) : c.isDigit = false ∧ c ≠ '.' := by
  cases e with
  | none => exact ⟨(hr c hc).1, (hr c hc).2.1⟩
  | some p =>
    obtain rfl : 'e' = c := Option.some.inj hc
    decide

theorem scanFraction_fractionChars (negative : Bool) (whole : List Char) {fraction : List Char}
    (hf : ∀ c ∈ fraction, c.isDigit) {e : Option (Bool × List Char)}
    (he : ∀ p ∈ e, p.2 ≠ [] ∧ ∀ c ∈ p.2, c.isDigit) {rest : List Char} (hr : NumeralEnds rest) :
    scanFraction negative whole (fractionChars fraction ++ (exponentChars e ++ rest)) =
      .ok (⟨negative, whole, fraction, e⟩, rest) := by
  have htail := scanTail_exponentChars negative whole fraction he hr
  have hhead := fun c => head?_exponentChars (e := e) hr (c := c)
  cases fraction with
  | nil =>
    rw [fractionChars, List.nil_append]
    unfold scanFraction
    split
    · rename_i cs heq
      rw [heq] at hhead
      exact absurd rfl (hhead '.' rfl).2
    · exact htail
  | cons d ds =>
    obtain ⟨ht, hd⟩ := takeWhile_digits hf fun c hc => (hhead c hc).1
    rw [List.cons_append] at ht hd
    simp only [fractionChars, List.cons_append, scanFraction, ht, hd]
    exact htail

theorem scanNumeral_unsignedChars {n : Numeral} (h : n.Proper) {rest : List Char} (hr : NumeralEnds rest) :
    scanNumeral n.negative (n.unsignedChars ++ rest) = .ok (n, rest) := by
  obtain ⟨negative, whole, fraction, exponent⟩ := n
  obtain ⟨hne, hdigits, hzero, hfraction, hexponent⟩ := h
  simp only at hne hdigits hzero hfraction hexponent
  have hrest := scanFraction_fractionChars negative whole hfraction hexponent hr
  -- what follows the whole part does not begin with a digit
  have hhead : ∀ c, (fractionChars fraction ++ (exponentChars exponent ++ rest)).head? = some c →
      c.isDigit = false := by
    intro c hc
    cases fraction with
    | nil => exact (head?_exponentChars hr hc).1
    | cons d ds =>
      obtain rfl : '.' = c := Option.some.inj hc
      decide
  rw [unsignedChars, List.append_assoc, List.append_assoc]
  cases whole with
  | nil => exact absurd rfl hne
  | cons d ds =>
    by_cases hd : d = '0'
    · subst hd
      obtain rfl : ds = [] := (List.cons.inj (hzero rfl)).2
      rw [List.singleton_append, scanNumeral]
      cases hc : (fractionChars fraction ++ (exponentChars exponent ++ rest)).head? with
      | none => exact hrest
      | some c =>
        rw [Option.map_some, Option.getD_some, hhead c hc]
        exact hrest
    · obtain ⟨ht, hdrop⟩ := takeWhile_digits (fun c hc => hdigits c (List.mem_cons_of_mem d hc)) hhead
      rw [List.cons_append]
      unfold scanNumeral
      split
      · simp_all
      · simp_all
      · rename_i c cs _ heq
        obtain ⟨rfl, rfl⟩ := List.cons.inj heq
        rw [if_pos (hdigits d List.mem_cons_self), ht, hdrop]
        exact hrest

def intNumeral : Int → Numeral
  | .ofNat n => ⟨false, Nat.toDigits 10 n, [], none⟩
  | .negSucc n => ⟨true, Nat.toDigits 10 (n + 1), [], none⟩

theorem proper_toDigits (negative : Bool) (n : Nat) : Numeral.Proper ⟨negative, Nat.toDigits 10 n, [], none⟩ where
  whole_ne_nil := Nat.toDigits_ne_nil
  whole_digits _ hc := isDigit_toDigits hc
  whole_zero h := head?_toDigits h
  fraction_digits := by simp
  exponent_digits := by simp

theorem proper_intNumeral (n : Int) : (intNumeral n).Proper := by
  cases n <;> exact proper_toDigits _ _

theorem chars_intNumeral (n : Int) : (intNumeral n).chars = intChars n := by
  cases n <;> simp [intNumeral, Numeral.chars, unsignedChars, fractionChars, exponentChars, intChars]

end LazyBundle.Json

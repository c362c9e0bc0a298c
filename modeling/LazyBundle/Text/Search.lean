/-!
# Searching text

`splitFirst` cuts a text at the first occurrence of a pattern. The two parts
and the pattern between them give the text back, and nothing earlier matches.
-/

namespace LazyBundle.Text

/-- What stands before and after the first occurrence of `pat`. -/
def splitFirst (pat : List Char) : List Char → Option (List Char × List Char)
  | [] => if pat.isEmpty then some ([], []) else none
  | c :: cs =>
    match pat.isPrefixOf? (c :: cs) with
    | some rest => some ([], rest)
    | none => (splitFirst pat cs).map fun parts => (c :: parts.1, parts.2)

def contains (pat s : List Char) : Bool :=
  (splitFirst pat s).isSome

theorem isPrefixOf?_nil (s : List Char) : [].isPrefixOf? s = some s := by
  cases s <;> rfl

theorem isPrefixOf?_cons_nil (p : Char) (pat : List Char) : (p :: pat).isPrefixOf? [] = none := rfl

theorem isPrefixOf?_cons_cons (p c : Char) (pat s : List Char) :
    (p :: pat).isPrefixOf? (c :: s) = if p == c then pat.isPrefixOf? s else none := rfl

theorem isPrefixOf?_append (pat rest : List Char) : pat.isPrefixOf? (pat ++ rest) = some rest := by
  induction pat with
  | nil => exact isPrefixOf?_nil rest
  | cons p pat ih => simp [isPrefixOf?_cons_cons, ih]

theorem eq_append_of_isPrefixOf? {pat s rest : List Char} (h : pat.isPrefixOf? s = some rest) :
    s = pat ++ rest := by
  induction pat generalizing s with
  | nil =>
    rw [isPrefixOf?_nil, Option.some.injEq] at h
    rw [h, List.nil_append]
  | cons p pat ih =>
    cases s with
    | nil => simp [isPrefixOf?_cons_nil] at h
    | cons c s =>
      rw [isPrefixOf?_cons_cons] at h
      split at h
      · rename_i hc
        rw [ih h, beq_iff_eq.mp hc, List.cons_append]
      · simp at h

theorem splitFirst_append {pat s before after : List Char}
    (h : splitFirst pat s = some (before, after)) : s = before ++ pat ++ after := by
  induction s generalizing before with
  | nil => cases pat <;> simp_all [splitFirst]
  | cons c s ih =>
    simp only [splitFirst] at h
    split at h
    · rename_i rest hr
      obtain ⟨rfl, rfl⟩ := by simpa using h
      simpa using eq_append_of_isPrefixOf? hr
    · obtain ⟨⟨b, a⟩, hs, hp⟩ := Option.map_eq_some_iff.mp h
      obtain ⟨rfl, rfl⟩ := by simpa using hp
      simp [ih hs]

/-- No occurrence starts before the one that is found. -/
theorem splitFirst_first {pat s before after : List Char} (h : splitFirst pat s = some (before, after))
    {b a : List Char} (hs : s = b ++ pat ++ a) : before.length ≤ b.length := by
  induction s generalizing before b with
  | nil =>
    have hb : before ++ pat ++ after = [] := (splitFirst_append h).symm
    simp only [List.append_eq_nil_iff] at hb
    simp [hb.1.1]
  | cons c s ih =>
    simp only [splitFirst] at h
    split at h
    · obtain ⟨rfl, rfl⟩ := by simpa using h
      exact Nat.zero_le _
    · rename_i hp
      obtain ⟨⟨b', a'⟩, hs', hb'⟩ := Option.map_eq_some_iff.mp h
      obtain ⟨rfl, rfl⟩ := by simpa using hb'
      cases b with
      | nil => rw [hs, List.nil_append, isPrefixOf?_append] at hp; cases hp
      | cons x b =>
        rw [List.cons_append, List.cons_append, List.cons.injEq] at hs
        exact Nat.succ_le_succ (ih hs' hs.2)

theorem splitFirst_eq_none {pat s : List Char} (h : splitFirst pat s = none) : ¬ pat <:+: s := by
  rintro ⟨b, a, hs⟩
  induction s generalizing b with
  | nil =>
    simp only [List.append_eq_nil_iff] at hs
    simp [splitFirst, hs.1.2] at h
  | cons c s ih =>
    simp only [splitFirst] at h
    split at h
    · cases h
    · rename_i hp
      cases b with
      | nil => rw [← hs, List.nil_append, isPrefixOf?_append] at hp; cases hp
      | cons x b =>
        rw [List.cons_append, List.cons_append, List.cons.injEq] at hs
        exact ih (Option.map_eq_none_iff.mp h) b hs.2

theorem contains_iff {pat s : List Char} : contains pat s ↔ pat <:+: s := by
  rw [contains]
  cases h : splitFirst pat s with
  | none => simpa using splitFirst_eq_none h
  | some parts => simpa using ⟨parts.1, parts.2, (splitFirst_append h).symm⟩

end LazyBundle.Text

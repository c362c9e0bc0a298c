import LazyBundle.FileSystem

/-!
# Outcomes

When an action that may fail goes well, so do its parts, and a list of outcomes
goes well when all of them do.
-/

namespace LazyBundle

variable {ε ε' α β : Type}

theorem bind_eq_ok_iff {x : Except ε α} {f : α → Except ε β} {b : β} :
    x >>= f = .ok b ↔ ∃ a, x = .ok a ∧ f a = .ok b := by
  cases x with
  | error e => exact ⟨fun h => (by cases h), fun ⟨_, h, _⟩ => (by cases h)⟩
  | ok a =>
    refine ⟨fun h => ⟨a, rfl, h⟩, ?_⟩
    rintro ⟨_, ⟨⟩, h⟩
    exact h

theorem mapError_eq_ok_iff {f : ε → ε'} {x : Except ε α} {a : α} :
    x.mapError f = .ok a ↔ x = .ok a := by
  cases x with
  | error e => exact ⟨fun h => (by cases h), fun h => (by cases h)⟩
  | ok b => exact ⟨fun h => (by cases h; rfl), fun h => (by cases h; rfl)⟩

theorem mapError_eq_error_iff {f : ε → ε'} {x : Except ε α} {e' : ε'} :
    x.mapError f = .error e' ↔ ∃ e, x = .error e ∧ f e = e' := by
  cases x with
  | error e => exact ⟨fun h => (by cases h; exact ⟨e, rfl, rfl⟩), fun ⟨_, h, h'⟩ => (by cases h; cases h'; rfl)⟩
  | ok a => exact ⟨fun h => (by cases h), fun ⟨_, h, _⟩ => (by cases h)⟩

theorem map_eq_ok_iff {f : α → β} {x : Except ε α} {b : β} : x.map f = .ok b ↔ ∃ a, x = .ok a ∧ f a = b := by
  cases x with
  | error e => exact ⟨fun h => (by cases h), fun ⟨_, h, _⟩ => (by cases h)⟩
  | ok a =>
    constructor
    · intro h
      cases h
      exact ⟨a, rfl, rfl⟩
    · rintro ⟨_, ⟨⟩, rfl⟩
      rfl

theorem map_eq_error_iff {f : α → β} {x : Except ε α} {e : ε} : x.map f = .error e ↔ x = .error e := by
  cases x with
  | error e' => exact ⟨fun h => (by cases h; rfl), fun h => (by cases h; rfl)⟩
  | ok a => exact ⟨fun h => (by cases h), fun h => (by cases h)⟩

theorem mapError_map (g : ε → ε') (f : α → β) (o : Except ε α) : (o.map f).mapError g = (o.mapError g).map f := by
  cases o <;> rfl

/-! ## Lists of outcomes -/

theorem collect_cons (x : Except ε α) (l : List (Except ε α)) :
    collect (x :: l) = x.bind fun a => (collect l).map (a :: ·) := by
  cases x <;> rfl

theorem collect_cons_ok {x : Except ε α} {l : List (Except ε α)} {as : List α} (h : collect (x :: l) = .ok as) :
    ∃ a as', x = .ok a ∧ collect l = .ok as' ∧ as = a :: as' := by
  rw [collect_cons] at h
  cases x with
  | error e => cases h
  | ok a =>
    cases hl : collect l with
    | error e => rw [hl] at h; cases h
    | ok as' => rw [hl] at h; cases h; exact ⟨a, as', rfl, rfl, rfl⟩

theorem eq_map_of_collect {l : List (Except ε α)} {as : List α} (h : collect l = .ok as) : l = as.map .ok := by
  induction l generalizing as with
  | nil => cases h; rfl
  | cons x l ih =>
    obtain ⟨a, as', rfl, hl, rfl⟩ := collect_cons_ok h
    rw [ih hl, List.map_cons]

theorem collect_append (a b : List (Except ε α)) :
    collect (a ++ b) = (collect a).bind fun as => (collect b).map (as ++ ·) := by
  induction a with
  | nil => cases h : collect b <;> simp [Except.bind, Except.map, h]
  | cons x a ih =>
    rw [List.cons_append, collect_cons, collect_cons, ih]
    cases x <;> cases collect a <;> cases collect b <;> rfl

theorem collect_map_mapError (f : ε → ε') (l : List (Except ε α)) :
    collect (l.map (·.mapError f)) = (collect l).mapError f := by
  induction l with
  | nil => rfl
  | cons x l ih =>
    rw [List.map_cons, collect_cons, collect_cons, ih]
    cases x <;> cases collect l <;> rfl

end LazyBundle

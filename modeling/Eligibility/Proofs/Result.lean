/-!
# When a result is a value

What is put together from results is a value exactly when its parts are. These lemmas take a chain
of readings apart, one reading at a time.

* **A list of readings** (`mapM_eq_ok_iff`, `mapM_eq_error_iff`): it gives values when each reading
  does, and otherwise the fault of the first one that does not.
-/

namespace Except

universe u v

variable {ε δ : Type u} {α β : Type v}

/-- A result that is only a value is that value. -/
theorem pure_eq_ok_iff {a b : α} : (pure a : Except ε α) = .ok b ↔ a = b := by
  simp [pure, Except.pure]

/-- One result after another is a value when both are. -/
theorem bind_eq_ok_iff {x : Except ε α} {next : α → Except ε β} {b : β} :
    (x >>= next) = .ok b ↔ ∃ a, x = .ok a ∧ next a = .ok b := by
  cases x <;> simp [bind, Except.bind]

/-- One result after another is a fault when the first one is, or when it is a value and the second
one a fault. -/
theorem bind_eq_error_iff {x : Except ε α} {next : α → Except ε β} {e : ε} :
    (x >>= next) = .error e ↔ x = .error e ∨ ∃ a, x = .ok a ∧ next a = .error e := by
  cases x <;> simp [bind, Except.bind]

/-- A mapped result is a value when the result is. -/
theorem map_eq_ok_iff {x : Except ε α} {f : α → β} {b : β} :
    x.map f = .ok b ↔ ∃ a, x = .ok a ∧ f a = b := by
  cases x <;> simp [Except.map]

/-- A mapped result is a fault when the result is. -/
theorem map_eq_error_iff {x : Except ε α} {f : α → β} {e : ε} :
    x.map f = .error e ↔ x = .error e := by
  cases x <;> simp [Except.map]

/-- Values are the same under any wording of the faults. -/
theorem mapError_eq_ok_iff {x : Except ε α} {f : ε → δ} {a : α} :
    x.mapError f = .ok a ↔ x = .ok a := by
  constructor
  · intro h
    cases x with
    | error e => cases h
    | ok b => exact congrArg ok (ok.inj h)
  · rintro rfl
    rfl

/-- A fault under another wording is a fault. -/
theorem mapError_eq_error_iff {x : Except ε α} {f : ε → δ} {d : δ} :
    x.mapError f = .error d ↔ ∃ e, x = .error e ∧ f e = d := by
  constructor
  · intro h
    cases x with
    | error e => exact ⟨e, rfl, error.inj h⟩
    | ok b => cases h
  · rintro ⟨e, rfl, rfl⟩
    rfl

/-- A list of results is one of values under any wording of the faults. -/
theorem map_mapError_eq_map_ok_iff {f : ε → δ} {results : List (Except ε α)} {values : List α} :
    results.map (Except.mapError f) = values.map .ok ↔ results = values.map .ok := by
  induction results generalizing values with
  | nil => cases values <;> simp
  | cons result results ih =>
    cases values with
    | nil => simp
    | cons value values =>
      simp only [List.map_cons, List.cons.injEq, mapError_eq_ok_iff, ih]

/-- Readings one after the other give values when each of them does. -/
theorem mapM_eq_ok_iff {f : α → Except ε β} {as : List α} {bs : List β} :
    as.mapM f = .ok bs ↔ as.map f = bs.map .ok := by
  induction as generalizing bs with
  | nil => cases bs <;> simp [pure, Except.pure]
  | cons a as ih =>
    simp only [List.mapM_cons, bind_eq_ok_iff, pure_eq_ok_iff, ih, List.map_cons]
    constructor
    · rintro ⟨b, hb, rest, hrest, rfl⟩
      rw [hb, hrest, List.map_cons]
    · intro h
      rcases bs with _ | ⟨b, rest⟩
      · cases h
      · obtain ⟨hb, hrest⟩ := List.cons.inj h
        exact ⟨b, hb, rest, hrest, rfl⟩

/-- Each of the values that readings give is given by one of them. -/
theorem exists_of_map_eq_map_ok {f : α → Except ε β} {as : List α} {bs : List β}
    (h : as.map f = bs.map .ok) : ∀ b ∈ bs, ∃ a ∈ as, f a = .ok b := by
  intro b hb
  have hmem : Except.ok b ∈ bs.map (Except.ok : β → Except ε β) := List.mem_map_of_mem hb
  rw [← h] at hmem
  exact List.mem_map.1 hmem

/-- Readings one after the other give the fault of the first one that fails. -/
theorem mapM_eq_error_iff {f : α → Except ε β} {as : List α} {e : ε} :
    as.mapM f = .error e ↔
      ∃ front a back, as = front ++ a :: back ∧ (∀ other ∈ front, ∃ b, f other = .ok b) ∧
        f a = .error e := by
  constructor
  · intro h
    induction as with
    | nil => cases h
    | cons a as ih =>
      rw [List.mapM_cons] at h
      rcases ha : f a with fault | b
      · rw [ha] at h
        cases h
        exact ⟨[], a, as, rfl, List.forall_mem_nil _, ha⟩
      · rw [ha] at h
        rcases hrest : as.mapM f with fault | rest
        · rw [hrest] at h
          cases h
          obtain ⟨front, bad, back, rfl, hfront, hbad⟩ := ih hrest
          exact ⟨a :: front, bad, back, rfl, List.forall_mem_cons.2 ⟨⟨b, ha⟩, hfront⟩, hbad⟩
        · rw [hrest] at h
          cases h
  · rintro ⟨front, a, back, rfl, hfront, ha⟩
    induction front with
    | nil =>
      rw [List.nil_append, List.mapM_cons, ha]
      rfl
    | cons first front ih =>
      obtain ⟨⟨b, hb⟩, hfront⟩ := List.forall_mem_cons.1 hfront
      rw [List.cons_append, List.mapM_cons, hb, ih hfront]
      rfl

end Except

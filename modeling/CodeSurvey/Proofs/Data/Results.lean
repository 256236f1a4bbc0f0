/-!
# Results of steps that may fail

A result of several steps comes from a result of each of them.
-/

namespace CodeSurvey

variable {ε δ α β : Type}

theorem exists_of_bind {first : Except ε α} {next : α → Except ε β} {result : β}
    (h : (do let value ← first; next value) = .ok result) :
    ∃ value, first = .ok value ∧ next value = .ok result := by
  cases first with
  | error e => cases h
  | ok value => exact ⟨value, rfl, h⟩

theorem exists_of_map {first : Except ε α} {f : α → β} {result : β}
    (h : f <$> first = .ok result) : ∃ value, first = .ok value ∧ f value = result := by
  cases first with
  | error e => cases h
  | ok value => exact ⟨value, rfl, Except.ok.inj h⟩

theorem eq_ok_of_mapError {first : Except ε α} {f : ε → δ} {value : α}
    (h : first.mapError f = .ok value) : first = .ok value := by
  cases first with
  | error e => cases h
  | ok found =>
    cases h
    rfl

theorem exists_of_mapM {f : α → Except ε β} {xs : List α} {ys : List β}
    (h : xs.mapM f = .ok ys) {y : β} (hy : y ∈ ys) : ∃ x ∈ xs, f x = .ok y := by
  induction xs generalizing ys with
  | nil =>
    cases h
    cases hy
  | cons x xs ih =>
    rw [List.mapM_cons] at h
    obtain ⟨first, hfirst, hrest⟩ := exists_of_bind h
    obtain ⟨rest, hxs, hys⟩ := exists_of_bind hrest
    cases hys
    rcases List.mem_cons.1 hy with rfl | hmem
    · exact ⟨x, List.mem_cons_self, hfirst⟩
    · obtain ⟨x', hx', hread⟩ := ih hxs hmem
      exact ⟨x', List.mem_cons_of_mem x hx', hread⟩

/-! ## Steps that all succeed -/

section Succeed
variable {m : Type → Type} [Monad m] [LawfulMonad m] {xs : List α}

theorem mapM_eq_pure {f : α → m β} {g : α → β} (h : ∀ x ∈ xs, f x = pure (g x)) :
    xs.mapM f = pure (xs.map g) := by
  induction xs with
  | nil => rfl
  | cons x xs ih =>
    have hx := h x List.mem_cons_self
    have hxs := ih fun y hy => h y (List.mem_cons_of_mem x hy)
    simp only [List.mapM_cons, hx, hxs, pure_bind, List.map_cons]

theorem anyM_eq_pure {f : α → m Bool} {g : α → Bool} (h : ∀ x ∈ xs, f x = pure (g x)) :
    xs.anyM f = pure (xs.any g) := by
  induction xs with
  | nil => rfl
  | cons x xs ih =>
    have hx := h x List.mem_cons_self
    have hxs := ih fun y hy => h y (List.mem_cons_of_mem x hy)
    rw [List.anyM_cons, hx, hxs, pure_bind, List.any_cons]
    cases g x <;> rfl

end Succeed

theorem mapM_map_eq_ok {write : α → β} {read : β → Except ε α} {xs : List α}
    (h : ∀ x ∈ xs, read (write x) = .ok x) : (xs.map write).mapM read = .ok xs := by
  calc (xs.map write).mapM read
    _ = xs.mapM fun x => read (write x) := List.mapM_map
    _ = .ok (xs.map id) := mapM_eq_pure h
    _ = .ok xs := by rw [List.map_id]

theorem forM_eq_ok {check : α → Except ε Unit} {xs : List α} (h : ∀ x ∈ xs, check x = .ok ()) :
    xs.forM check = .ok () := by
  induction xs with
  | nil => rfl
  | cons x xs ih =>
    have hx := h x List.mem_cons_self
    have hxs := ih fun y hy => h y (List.mem_cons_of_mem x hy)
    calc (x :: xs).forM check
      _ = (check x >>= fun _ => xs.forM check) := rfl
      _ = .ok () := by rw [hx, hxs]; rfl

end CodeSurvey

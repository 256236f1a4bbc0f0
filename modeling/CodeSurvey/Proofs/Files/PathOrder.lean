import CodeSurvey.Files.Path

/-!
# The order of paths

Paths are ordered part by part, and parts are in a linear order. Sorting paths without repetition
leaves them strictly increasing.
-/

namespace CodeSurvey.Path
namespace Part

theorem eq_of_text {a b : Part} (hrank : a.rank = b.rank) (htext : a.text = b.text) : a = b := by
  cases a <;> cases b <;> simp_all [rank, text]

theorem lt_iff {a b : Part} : a < b ↔ a.rank < b.rank ∨ a.rank = b.rank ∧ a.text < b.text :=
  Iff.rfl

theorem not_lt {a b : Part} : ¬ a < b ↔ b.rank < a.rank ∨ b.rank = a.rank ∧ b.text ≤ a.text := by
  rw [lt_iff, not_or, not_and, String.not_lt]
  constructor
  · rintro ⟨hrank, htext⟩
    by_cases h : b.rank < a.rank
    · exact .inl h
    · have heq : a.rank = b.rank := by omega
      exact .inr ⟨heq.symm, htext heq⟩
  · rintro (h | ⟨heq, htext⟩)
    · exact ⟨by omega, fun h' => by omega⟩
    · exact ⟨by omega, fun _ => htext⟩

instance : Std.Asymm fun a b : Part => a < b where
  asymm := by
    intro a b h
    rw [not_lt]
    rcases h with h | ⟨hrank, htext⟩
    · exact .inl h
    · exact .inr ⟨hrank, String.not_lt.1 (String.lt_asymm htext)⟩

instance : Trans (fun a b : Part => ¬ a < b) (fun a b => ¬ a < b) (fun a b => ¬ a < b) where
  trans := by
    intro a b c hab hbc
    rw [not_lt] at hab hbc ⊢
    rcases hab with hab | ⟨hab, hab'⟩
    · exact .inl (by omega)
    · rcases hbc with hbc | ⟨hbc, hbc'⟩
      · exact .inl (by omega)
      · exact .inr ⟨by omega, String.le_trans hbc' hab'⟩

instance : Std.Antisymm fun a b : Part => ¬ a < b where
  antisymm := by
    intro a b hab hba
    rw [not_lt] at hab hba
    rcases hab with hab | ⟨hab, hab'⟩
    · omega
    · rcases hba with hba | ⟨-, hba'⟩
      · omega
      · exact eq_of_text hab.symm (String.le_antisymm hba' hab')

instance : LE Part := .ofLT Part

instance : Std.IsLinearOrder Part := .of_lt

end Part

end CodeSurvey.Path

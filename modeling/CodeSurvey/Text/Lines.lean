/-!
# Lines

A text falls into lines at its line feeds; nothing else ends a line.
-/

namespace CodeSurvey.Text

def prependToLines (c : Char) (ls : List (List Char)) : List (List Char) :=
  if c = '\n' then [] :: ls
  else match ls with
    | [] => [[c]]
    | l :: ls => (c :: l) :: ls

/-- The lines of a text; there is always at least one. -/
def lines (text : List Char) : List (List Char) := text.foldr prependToLines [[]]

def joinLines : List (List Char) → List Char
  | [] => []
  | [l] => l
  | l :: ls => l ++ '\n' :: joinLines ls

theorem lines_cons (c : Char) (rest : List Char) :
    lines (c :: rest) = prependToLines c (lines rest) := rfl

theorem lines_ne_nil (text : List Char) : lines text ≠ [] := by
  cases text with
  | nil => simp [lines]
  | cons c rest =>
    rw [lines_cons]
    fun_cases prependToLines c (lines rest) <;> simp

theorem length_lines (text : List Char) : (lines text).length = text.count '\n' + 1 := by
  induction text with
  | nil => rfl
  | cons c rest ih =>
    obtain ⟨l, ls, hl⟩ := List.exists_cons_of_ne_nil (lines_ne_nil rest)
    rw [hl] at ih
    rw [lines_cons, hl, List.count_cons]
    by_cases h : c = '\n'
    · simpa [prependToLines, h] using ih
    · simpa [prependToLines, h] using ih

theorem joinLines_lines (text : List Char) : joinLines (lines text) = text := by
  induction text with
  | nil => rfl
  | cons c rest ih =>
    obtain ⟨l, ls, hl⟩ := List.exists_cons_of_ne_nil (lines_ne_nil rest)
    rw [hl] at ih
    rw [lines_cons, hl]
    by_cases h : c = '\n'
    · simp [prependToLines, h, joinLines, ih]
    · cases ls <;> simp_all [prependToLines, joinLines]

def lineOf (text : List Char) (offset : Nat) : Nat := (text.take offset).count '\n' + 1

end CodeSurvey.Text

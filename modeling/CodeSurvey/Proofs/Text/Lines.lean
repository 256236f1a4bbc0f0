import CodeSurvey.Text.Lines
import Mathlib.Data.List.Forall2

/-!
# Lines and their texts

How the lines of a text go with its parts: joined lines are a part of the text, a part without line
ends stands on one line, and leaving characters out of a text thins its lines.
-/

namespace CodeSurvey.Text

/-! ## Parts of lines -/

theorem not_mem_of_mem_lines {text line : List Char} (h : line ∈ lines text) : '\n' ∉ line := by
  induction text generalizing line with
  | nil =>
    obtain rfl := List.mem_singleton.1 h
    exact List.not_mem_nil
  | cons c rest ih =>
    obtain ⟨l, ls, hl⟩ := List.exists_cons_of_ne_nil (lines_ne_nil rest)
    rw [hl] at ih
    rw [lines_cons, hl, prependToLines] at h
    split at h
    next hc =>
      rcases List.mem_cons.1 h with rfl | h
      · exact List.not_mem_nil
      · exact ih h
    next hc =>
      rcases List.mem_cons.1 h with rfl | h
      · have hnone := ih List.mem_cons_self
        simp [hnone, Ne.symm hc]
      · exact ih (List.mem_cons_of_mem l h)

theorem suffix_joinLines (first rest : List (List Char)) :
    joinLines rest <:+ joinLines (first ++ rest) := by
  induction first with
  | nil => exact List.suffix_rfl
  | cons l first ih =>
    refine ih.trans ?_
    rw [List.cons_append]
    cases first ++ rest with
    | nil => exact List.nil_suffix
    | cons k ls => exact ⟨l ++ ['\n'], by simp [joinLines]⟩

theorem prefix_joinLines (first rest : List (List Char)) :
    joinLines first <+: joinLines (first ++ rest) := by
  induction first with
  | nil => exact List.nil_prefix
  | cons l first ih =>
    cases first with
    | nil =>
      cases rest with
      | nil => exact List.prefix_rfl
      | cons k rest => exact List.prefix_append l _
    | cons k first =>
      obtain ⟨rest', hrest⟩ := ih
      refine ⟨rest', ?_⟩
      rw [List.cons_append] at hrest
      simp [joinLines, hrest]

theorem infix_joinLines {part : List (List Char)} {text : List Char} (h : part <:+: lines text) :
    joinLines part <:+: text := by
  obtain ⟨first, last, hlines⟩ := h
  rw [← joinLines_lines text, ← hlines]
  exact (suffix_joinLines first part).isInfix.trans (prefix_joinLines (first ++ part) last).isInfix

theorem lines_append {chars : List Char} (hchars : '\n' ∉ chars) (after : List Char) :
    ∃ l ls, lines (chars ++ after) = (chars ++ l) :: ls := by
  induction chars with
  | nil =>
    obtain ⟨l, ls, hl⟩ := List.exists_cons_of_ne_nil (lines_ne_nil after)
    exact ⟨l, ls, hl⟩
  | cons c chars ih =>
    have hc : c ≠ '\n' := fun heq => hchars (heq ▸ List.mem_cons_self)
    obtain ⟨l, ls, hl⟩ := ih fun hmem => hchars (List.mem_cons_of_mem c hmem)
    refine ⟨l, ls, ?_⟩
    rw [List.cons_append, lines_cons, hl, prependToLines, if_neg hc]
    rfl

/-- Characters that no line end parts stand on the line that is told by the line ends before. -/
theorem exists_line_of_append {chars : List Char} (hchars : '\n' ∉ chars)
    (before after : List Char) :
    ∃ line, (lines (before ++ chars ++ after))[before.count '\n']? = some line ∧
      chars <:+: line := by
  induction before with
  | nil =>
    obtain ⟨l, ls, hl⟩ := lines_append hchars after
    exact ⟨chars ++ l, by simp [hl], (List.prefix_append chars l).isInfix⟩
  | cons c before ih =>
    obtain ⟨line, hline, hpart⟩ := ih
    obtain ⟨l, ls, hl⟩ := List.exists_cons_of_ne_nil (lines_ne_nil (before ++ chars ++ after))
    rw [List.cons_append, List.cons_append, lines_cons, List.count_cons]
    rw [hl] at hline ⊢
    -- a line end puts one more line before; else the first line grows, which may be the one
    by_cases hc : c = '\n'
    · exact ⟨line, by simpa [prependToLines, hc] using hline, hpart⟩
    · cases hcount : before.count '\n' with
      | zero =>
        obtain rfl : l = line := by simpa [hcount] using hline
        exact ⟨c :: l, by simp [prependToLines, hc], hpart.trans (List.suffix_cons c l).isInfix⟩
      | succ n => exact ⟨line, by simpa [prependToLines, hc, hcount] using hline, hpart⟩

/-- A line of a text between what is before it and what is after it. -/
structure IsLineOf (text before line after : List Char) : Prop where
  text_eq : text = before ++ (line ++ after)
  starts : before.getLast?.all (· == '\n')
  single : '\n' ∉ line
  ends : after.head?.all (· == '\n')

theorem isLineOf_of_getElem? {text line : List Char} {n : Nat} (h : (lines text)[n]? = some line) :
    ∃ before after, IsLineOf text before line after ∧ before.count '\n' = n := by
  induction text generalizing n line with
  | nil =>
    cases n with
    | zero =>
      cases h
      exact ⟨[], [], ⟨rfl, rfl, List.not_mem_nil, rfl⟩, rfl⟩
    | succ n => cases h
  | cons c rest ih =>
    have hsingle := not_mem_of_mem_lines (List.mem_of_getElem? h)
    obtain ⟨l, ls, hl⟩ := List.exists_cons_of_ne_nil (lines_ne_nil rest)
    rw [hl] at ih
    rw [lines_cons, hl] at h
    by_cases hc : c = '\n'
    · subst hc
      rw [prependToLines, if_pos rfl] at h
      cases n with
      | zero =>
        cases h
        exact ⟨[], '\n' :: rest, ⟨rfl, rfl, hsingle, rfl⟩, rfl⟩
      | succ n =>
        obtain ⟨before, after, hline, hcount⟩ := ih h
        refine ⟨'\n' :: before, after, ⟨?_, ?_, hsingle, hline.ends⟩, ?_⟩
        · rw [hline.text_eq, List.cons_append]
        · have hstarts := hline.starts
          cases before with
          | nil => rfl
          | cons d before => rwa [List.getLast?_cons_cons]
        · rw [List.count_cons_self, hcount]
    · rw [prependToLines, if_neg hc] at h
      cases n with
      | zero =>
        obtain rfl := Option.some.inj h
        obtain ⟨before, after, hline, hcount⟩ := ih (n := 0) rfl
        -- no line end comes before the first line, so nothing does
        cases hlast : before.getLast? with
        | none =>
          obtain rfl := List.getLast?_eq_none_iff.1 hlast
          refine ⟨[], after, ⟨?_, rfl, hsingle, hline.ends⟩, rfl⟩
          rw [hline.text_eq]
          rfl
        | some d =>
          have hstarts := hline.starts
          rw [hlast] at hstarts
          obtain rfl : d = '\n' := by simpa using hstarts
          exact absurd (List.mem_of_getLast? hlast) (List.count_eq_zero.1 hcount)
      | succ n =>
        obtain ⟨before, after, hline, hcount⟩ := ih (n := n + 1) h
        have hstarts := hline.starts
        refine ⟨c :: before, after, ⟨?_, ?_, hsingle, hline.ends⟩, ?_⟩
        · rw [hline.text_eq, List.cons_append]
        · cases before with
          | nil => cases hcount
          | cons d before => rwa [List.getLast?_cons_cons]
        · rw [List.count_cons_of_ne hc, hcount]

/-! ## Texts of whole lines -/

/-- Some lines with their line ends. -/
def endedLines (ls : List (List Char)) : List Char := ls.flatMap (· ++ ['\n'])

theorem endedLines_cons (l : List Char) (ls : List (List Char)) :
    endedLines (l :: ls) = l ++ '\n' :: endedLines ls := by
  simp [endedLines]

theorem not_mem_endedLines {ls : List (List Char)} {c : Char} (hc : c ≠ '\n')
    (h : ∀ l ∈ ls, c ∉ l) : c ∉ endedLines ls := by
  intro hmem
  obtain ⟨l, hl, hmem⟩ := List.mem_flatMap.1 hmem
  rcases List.mem_append.1 hmem with hmem | hmem
  · exact h l hl hmem
  · exact hc (List.mem_singleton.1 hmem)

theorem not_mem_joinLines {ls : List (List Char)} {c : Char} (hc : c ≠ '\n')
    (h : ∀ l ∈ ls, c ∉ l) : c ∉ joinLines ls := by
  fun_induction joinLines ls with
  | case1 => exact List.not_mem_nil
  | case2 l => exact h l List.mem_cons_self
  | case3 l ls _ ih =>
    have hrest := ih fun k hk => h k (List.mem_cons_of_mem l hk)
    simp [h l List.mem_cons_self, hc, hrest]

theorem getLast?_endedLines (ls : List (List Char)) :
    (endedLines ls).getLast?.all (· == '\n') := by
  rcases List.eq_nil_or_concat ls with rfl | ⟨front, l, rfl⟩
  · rfl
  · simp [endedLines]

theorem joinLines_cons (l : List Char) {ls : List (List Char)} (h : ls ≠ []) :
    joinLines (l :: ls) = l ++ '\n' :: joinLines ls := by
  obtain ⟨k, ls, rfl⟩ := List.exists_cons_of_ne_nil h
  rfl

theorem joinLines_append_cons (chars l : List Char) (ls : List (List Char)) :
    joinLines ((chars ++ l) :: ls) = chars ++ joinLines (l :: ls) := by
  cases ls with
  | nil => rfl
  | cons k ls => exact List.append_assoc chars l _

theorem joinLines_append (front : List (List Char)) (line : List Char) (back : List (List Char)) :
    joinLines (front ++ line :: back) = endedLines front ++ joinLines (line :: back) := by
  induction front with
  | nil => rfl
  | cons l front ih =>
    rw [endedLines_cons, List.append_assoc, List.cons_append, List.cons_append, ← ih]
    cases front <;> rfl

theorem exists_after_line (line : List Char) (back : List (List Char)) :
    ∃ after, joinLines (line :: back) = line ++ after ∧ after.head?.all (· == '\n') := by
  cases back with
  | nil => exact ⟨[], (List.append_nil line).symm, rfl⟩
  | cons l back => exact ⟨'\n' :: joinLines (l :: back), rfl, rfl⟩

/-- Where a line starts in joined lines, one of them does. -/
theorem exists_line_at {ls : List (List Char)} (hne : ls ≠ []) (hls : ∀ l ∈ ls, '\n' ∉ l)
    {before rest : List Char} (h : joinLines ls = before ++ rest)
    (hstart : before.getLast?.all (· == '\n')) :
    ∃ front line back, ls = front ++ line :: back ∧ before = endedLines front ∧
      rest = joinLines (line :: back) := by
  induction ls generalizing before with
  | nil => exact absurd rfl hne
  | cons l ls ih =>
    have hl := hls l List.mem_cons_self
    -- what is before ends in a line feed, so none is in it unless it goes past the first line
    have hshort {mid : List Char} (hmid : l = before ++ mid) : before = [] := by
      cases hlast : before.getLast? with
      | none => exact List.getLast?_eq_none_iff.1 hlast
      | some d =>
        rw [hlast] at hstart
        obtain rfl : d = '\n' := by simpa using hstart
        rw [hmid] at hl
        exact absurd (List.mem_append_left mid (List.mem_of_getLast? hlast)) hl
    by_cases hbefore : before = []
    · subst hbefore
      exact ⟨[], l, ls, rfl, rfl, h.symm⟩
    · cases ls with
      | nil => exact absurd (hshort h) hbefore
      | cons l' ls =>
        have hsplit : (l ++ ['\n']) ++ joinLines (l' :: ls) = before ++ rest := by
          rw [← h, List.append_assoc]
          rfl
        rcases List.append_eq_append_iff.1 hsplit with ⟨mid, hmid, hrest⟩ | ⟨mid, hmid, hrest⟩
        · have hstart' : mid.getLast?.all (· == '\n') := by
            cases hlast : mid.getLast? with
            | none => rfl
            | some d =>
              rw [hmid, List.getLast?_append, hlast] at hstart
              exact hstart
          obtain ⟨front, line, back, hls', rfl, hline⟩ := ih (List.cons_ne_nil l' ls)
            (fun k hk => hls k (List.mem_cons_of_mem l hk)) hrest hstart'
          refine ⟨l :: front, line, back, by rw [hls', List.cons_append], ?_, hline⟩
          rw [hmid, endedLines_cons, List.append_assoc]
          rfl
        · rcases List.eq_nil_or_concat mid with rfl | ⟨most, c, rfl⟩
          · refine ⟨[l], l', ls, rfl, ?_, ?_⟩
            · rw [← List.append_nil before, ← hmid, endedLines_cons]
              rfl
            · rw [hrest, List.nil_append]
          · rw [List.concat_eq_append, ← List.append_assoc] at hmid
            have hprefix := (List.append_inj' hmid rfl).1
            exact absurd (hshort hprefix) hbefore

/-! ## Joined texts -/

theorem prependToLines_append (c : Char) {first : List (List Char)} (hne : first ≠ [])
    (rest : List (List Char)) :
    prependToLines c (first ++ rest) = prependToLines c first ++ rest := by
  obtain ⟨l, ls, rfl⟩ := List.exists_cons_of_ne_nil hne
  by_cases hc : c = '\n'
  · simp [prependToLines, hc]
  · simp [prependToLines, hc]

theorem lines_join (a b : List Char) : lines (a ++ '\n' :: b) = lines a ++ lines b := by
  induction a with
  | nil => rfl
  | cons c a ih =>
    rw [List.cons_append, lines_cons, ih, prependToLines_append c (lines_ne_nil a), lines_cons]

/-! ## Lines of places -/

theorem lineOf_length (before rest : List Char) :
    lineOf (before ++ rest) before.length = before.count '\n' + 1 := by
  rw [lineOf, List.take_left]

theorem lineOf_mono (text : List Char) {a b : Nat} (h : a ≤ b) : lineOf text a ≤ lineOf text b := by
  rw [lineOf, lineOf]
  exact Nat.succ_le_succ ((List.take_sublist_take_left h).count_le '\n')

theorem lineOf_within (text : List Char) (offset : Nat) :
    1 ≤ lineOf text offset ∧ lineOf text offset ≤ (lines text).length := by
  rw [lineOf, length_lines]
  exact ⟨Nat.le_add_left 1 _, Nat.succ_le_succ ((List.take_sublist offset text).count_le '\n')⟩

/-! ## Texts with characters left out -/

/-- Characters are left out of a text, but no line ends. -/
structure Thins (thin thick : List Char) : Prop where
  sublist : thin.Sublist thick
  count_eq : thin.count '\n' = thick.count '\n'

theorem Thins.refl (text : List Char) : Thins text text := ⟨.refl text, rfl⟩

theorem Thins.trans {a b c : List Char} (h : Thins a b) (h' : Thins b c) : Thins a c :=
  ⟨h.sublist.trans h'.sublist, h.count_eq.trans h'.count_eq⟩

theorem Thins.append {a b c d : List Char} (h : Thins a b) (h' : Thins c d) :
    Thins (a ++ c) (b ++ d) := by
  refine ⟨h.sublist.append h'.sublist, ?_⟩
  rw [List.count_append, List.count_append, h.count_eq, h'.count_eq]

theorem forall₂_prependToLines (c : Char) {thin thick : List (List Char)}
    (h : List.Forall₂ List.Sublist thin thick) :
    List.Forall₂ List.Sublist (prependToLines c thin) (prependToLines c thick) := by
  unfold prependToLines
  split
  · exact .cons (.refl []) h
  · cases h with
    | nil => exact .cons (.refl [c]) .nil
    | cons hline hlines => exact .cons (hline.cons_cons c) hlines

theorem forall₂_prependToLines_right {c : Char} (hc : c ≠ '\n') {thin thick : List (List Char)}
    (h : List.Forall₂ List.Sublist thin thick) (hne : thick ≠ []) :
    List.Forall₂ List.Sublist thin (prependToLines c thick) := by
  cases h with
  | nil => exact absurd rfl hne
  | cons hline hlines =>
    rw [prependToLines, if_neg hc]
    exact .cons (hline.cons c) hlines

/-- As all line ends stay, what is left of a line stays on it. -/
theorem Thins.lines {thin thick : List Char} (h : Thins thin thick) :
    List.Forall₂ List.Sublist (lines thin) (lines thick) := by
  obtain ⟨hsub, hcount⟩ := h
  induction hsub with
  | slnil => exact .cons .slnil .nil
  | @cons thin thick c hsub ih =>
    -- had a line end been left out, fewer would be left
    have hle := hsub.count_le '\n'
    have hc : c ≠ '\n' := by
      rintro rfl
      rw [List.count_cons_self] at hcount
      omega
    rw [List.count_cons_of_ne hc] at hcount
    exact forall₂_prependToLines_right hc (ih hcount) (lines_ne_nil thick)
  | @cons_cons thin thick c hsub ih =>
    rw [List.count_cons, List.count_cons] at hcount
    exact forall₂_prependToLines c (ih (by omega))

end CodeSurvey.Text

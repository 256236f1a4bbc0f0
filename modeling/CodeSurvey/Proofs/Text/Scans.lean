import CodeSurvey.Proofs.Text.Words

/-!
# Scans

Counting the matches of a pattern is going through the text once, from left to right: on by one
character where nothing is read, and else on to the end of what is read. If nothing can be read
from inside what is read, there are as many matches as places where something is read.
-/

namespace CodeSurvey.Text.Pattern
open Place

/-- The pattern reads something from a cut on. -/
def Begins (p : Pattern) (cut : Setting) : Prop :=
  ∃ chars after, cut.after = chars ++ after ∧ p.Reads cut.before chars after

variable {p : Pattern} {before rest chars after : List Char} {n : Nat}

/-! ## Single places -/

theorem reads_of_matchAt? {m : Match} (h : p.matchAt? (between before rest) = some m) :
    ∃ chars after, rest = chars ++ after ∧ p.Reads before chars after ∧
      m.whole = ⟨between before rest, between (before ++ chars) after⟩ := by
  obtain ⟨hmatch, hstart⟩ := isMatch_of_matchAt? h
  obtain ⟨chars, after, hrest, hstop, hreads⟩ := Matches.reads hmatch hstart
  obtain ⟨⟨start, stop⟩, groups⟩ := m
  cases hstart
  cases hstop
  exact ⟨chars, after, hrest, hreads, rfl⟩

theorem matchAt?_isSome_iff (cut : Setting) :
    (p.matchAt? (between cut.before cut.after)).isSome ↔ p.Begins cut := by
  constructor
  · intro h
    obtain ⟨m, hm⟩ := Option.isSome_iff_exists.1 h
    obtain ⟨chars, after, hafter, hreads, -⟩ := reads_of_matchAt? hm
    exact ⟨chars, after, hafter, hreads⟩
  · rintro ⟨chars, after, hafter, hreads⟩
    rw [hafter, matchAt?, Option.isSome_map]
    exact follow_isSome p hreads some (fun _ => rfl) []

instance (p : Pattern) : DecidablePred p.Begins := fun cut =>
  decidable_of_iff _ (matchAt?_isSome_iff cut)

theorem begins_all_cons {ps : List Pattern} : (all (p :: ps)).Begins ⟨before, rest⟩ ↔
    ∃ chars after, rest = chars ++ after ∧ p.Reads before chars after ∧
      (all ps).Begins ⟨before ++ chars, after⟩ := by
  constructor
  · rintro ⟨chars, after, rfl, h⟩
    obtain ⟨xs, ys, rfl, hp, hps⟩ := reads_all_cons.1 h
    exact ⟨xs, ys ++ after, List.append_assoc xs ys after, hp, ys, after, rfl, hps⟩
  · rintro ⟨xs, _, rfl, hp, ys, after, rfl, hps⟩
    exact ⟨xs ++ ys, after, (List.append_assoc xs ys after).symm,
      reads_all_cons.2 ⟨xs, ys, rfl, hp, hps⟩⟩

theorem begins_all_nil : (all []).Begins ⟨before, rest⟩ := ⟨[], rest, rfl, rfl⟩

theorem begins_any {ps : List Pattern} {cut : Setting} :
    (any ps).Begins cut ↔ ∃ p ∈ ps, p.Begins cut := by
  constructor
  · rintro ⟨chars, after, hafter, h⟩
    obtain ⟨p, hp, h⟩ := reads_any.1 h
    exact ⟨p, hp, chars, after, hafter, h⟩
  · rintro ⟨p, hp, chars, after, hafter, h⟩
    exact ⟨chars, after, hafter, reads_any.2 ⟨p, hp, h⟩⟩

theorem begins_wordEdge {ps : List Pattern} : (all (wordEdge :: ps)).Begins ⟨before, rest⟩ ↔
    isWordAt before.getLast? ≠ isWordAt rest.head? ∧ (all ps).Begins ⟨before, rest⟩ := by
  constructor
  · rintro ⟨chars, after, rfl, h⟩
    obtain ⟨hedge, h⟩ := reads_wordEdge.1 h
    exact ⟨hedge, chars, after, rfl, h⟩
  · rintro ⟨hedge, chars, after, rfl, h⟩
    exact ⟨chars, after, rfl, reads_wordEdge.2 ⟨hedge, h⟩⟩

theorem isIn_iff_begins {text : List Char} :
    p.isIn text ↔ ∃ before rest, text = before ++ rest ∧ p.Begins ⟨before, rest⟩ := by
  rw [isIn_iff]
  constructor
  · rintro ⟨before, chars, after, rfl, h⟩
    exact ⟨before, chars ++ after, List.append_assoc before chars after, chars, after, rfl, h⟩
  · rintro ⟨before, _, rfl, chars, after, rfl, h⟩
    exact ⟨before, chars, after, (List.append_assoc before chars after).symm, h⟩

/-! ## Whole texts -/

/-- A pattern goes through what comes after some text, with the number of its readings. -/
inductive Scans (p : Pattern) : List Char → List Char → Nat → Prop where
  | done {before : List Char} : ¬ p.Begins ⟨before, []⟩ → Scans p before [] 0
  | skip {before rest : List Char} {c : Char} {n : Nat} : ¬ p.Begins ⟨before, c :: rest⟩ →
      Scans p (before ++ [c]) rest n → Scans p before (c :: rest) n
  | hit {before chars after : List Char} {n : Nat} : p.Reads before chars after →
      Scans p (before ++ chars) after n → Scans p before (chars ++ after) (n + 1)

def ReadsSome (p : Pattern) : Prop :=
  ∀ {before chars after : List Char}, p.Reads before chars after → chars ≠ []

theorem scans_of_find?_none (h : p.find? (between before rest) = none) : p.Scans before rest 0 := by
  rw [find?] at h
  induction rest generalizing before with
  | nil =>
    apply Scans.done
    rw [← matchAt?_isSome_iff]
    simpa [between, findIn?] using h
  | cons c rest ih =>
    simp only [between, findIn?] at h
    split at h
    · cases h
    next hnone =>
      apply Scans.skip
      · rw [← matchAt?_isSome_iff]
        simpa [between] using hnone
      · apply ih
        simpa [between] using h

/-- What a found match leaves of a text, after what has been passed over and read. -/
structure Leaves (p : Pattern) (m : Match) (before rest read after : List Char) : Prop where
  rest_eq : rest = read ++ after
  stop_eq : m.whole.stop = between (before ++ read) after
  length_pos : 0 < m.whole.length
  length_le : m.whole.length ≤ read.length
  scans : ∀ n, p.Scans (before ++ read) after n → p.Scans before rest (n + 1)

theorem leaves_of_matchAt? (hp : p.ReadsSome) {m : Match}
    (h : p.matchAt? (between before rest) = some m) : ∃ read after, p.Leaves m before rest read after := by
  obtain ⟨chars, after, rfl, hreads, hwhole⟩ := reads_of_matchAt? h
  have hlength : m.whole.length = chars.length := by
    simp [hwhole, Stretch.length, between]
  have hpos := List.length_pos_iff.2 (hp hreads)
  exact ⟨chars, after, rfl, by rw [hwhole], by omega, by omega, fun n hn => .hit hreads hn⟩

theorem leaves_of_find? (hp : p.ReadsSome) {m : Match}
    (h : p.find? (between before rest) = some m) : ∃ read after, p.Leaves m before rest read after := by
  rw [find?] at h
  induction rest generalizing before with
  | nil => exact leaves_of_matchAt? hp h
  | cons c rest ih =>
    simp only [between, findIn?] at h
    split at h
    next m' hm =>
      cases h
      exact leaves_of_matchAt? hp hm
    next hnone =>
      have hlater : p.findIn? (between (before ++ [c]) rest).before rest
          (between (before ++ [c]) rest).offset = some m := by
        simpa [between] using h
      obtain ⟨read, after, hrest, hstop, hpos, hle, hscans⟩ := ih hlater
      refine ⟨c :: read, after, by rw [hrest, List.cons_append], by simpa using hstop, hpos, ?_, ?_⟩
      · rw [List.length_cons]
        omega
      · intro n hn
        apply Scans.skip
        · rw [← matchAt?_isSome_iff]
          simpa [between] using hnone
        · apply hscans
          simpa using hn

theorem findNext?_eq (hp : p.ReadsSome) (last : Option Nat) :
    p.findNext? last (between before rest) = p.find? (between before rest) := by
  rw [findNext?]
  cases h : p.find? (between before rest) with
  | none => rfl
  | some m =>
    obtain ⟨read, after, hleaves⟩ := leaves_of_find? hp h
    have hpos := hleaves.length_pos
    have hlength : m.whole.length ≠ 0 := by omega
    simp [hlength]

theorem scans_findAllFrom (hp : p.ReadsSome) {budget : Nat} (hbudget : rest.length < budget)
    (last : Option Nat) :
    p.Scans before rest (p.findAllFrom budget last (between before rest)).length := by
  induction budget generalizing before rest last with
  | zero => cases hbudget
  | succ budget ih =>
    rw [findAllFrom, findNext?_eq hp]
    cases h : p.find? (between before rest) with
    | none => exact scans_of_find?_none h
    | some m =>
      obtain ⟨read, after, rfl, hstop, hpos, hle, hscans⟩ := leaves_of_find? hp h
      have hshorter : after.length < budget := by
        rw [List.length_append] at hbudget
        omega
      apply hscans
      rw [hstop]
      exact ih hshorter _

/-- Counting is one scan of the text. -/
theorem scans_count (hp : p.ReadsSome) (text : List Char) : p.Scans [] text (p.count text) :=
  scans_findAllFrom hp (Nat.lt_succ_self text.length) none

/-! ## Places where something is read -/

/-- The cuts of a text that come after some part of it. -/
def cutsAfter (before rest : List Char) : List Setting :=
  (cuts rest).map fun cut => { cut with before := before ++ cut.before }

theorem cutsAfter_nil (before : List Char) : cutsAfter before [] = [⟨before, []⟩] := by
  simp [cutsAfter, cuts]

theorem cutsAfter_cons (before : List Char) (c : Char) (rest : List Char) :
    cutsAfter before (c :: rest) = ⟨before, c :: rest⟩ :: cutsAfter (before ++ [c]) rest := by
  simp [cutsAfter, cuts, Function.comp_def]

theorem cutsAfter_start (text : List Char) : cutsAfter [] text = cuts text := by
  simp [cutsAfter]

/-- No reading of the pattern starts inside another. -/
def Apart (p : Pattern) : Prop :=
  ∀ {before xs ys after : List Char}, p.Reads before (xs ++ ys) after → xs ≠ [] → ys ≠ [] →
    ¬ p.Begins ⟨before ++ xs, ys ++ after⟩

theorem countP_cutsAfter_append
    (h : ∀ xs ys, chars = xs ++ ys → ys ≠ [] → ¬ p.Begins ⟨before ++ xs, ys ++ after⟩) :
    (cutsAfter before (chars ++ after)).countP p.Begins =
      (cutsAfter (before ++ chars) after).countP p.Begins := by
  induction chars generalizing before with
  | nil => simp
  | cons c chars ih =>
    have hhere : ¬ p.Begins ⟨before, c :: (chars ++ after)⟩ := by
      simpa using h [] (c :: chars) rfl (List.cons_ne_nil _ _)
    have hlater := @ih (before ++ [c]) fun xs ys hchars hys => by
      simpa using h (c :: xs) ys (by rw [hchars, List.cons_append]) hys
    rw [List.cons_append, cutsAfter_cons, List.countP_cons_of_neg (by simpa using hhere), hlater]
    simp

theorem Scans.eq_countP (h : p.Scans before rest n) (hp : p.ReadsSome) (hapart : p.Apart) :
    n = (cutsAfter before rest).countP p.Begins := by
  induction h with
  | done hnone => simp [cutsAfter_nil, hnone]
  | skip hnone _ ih => rw [cutsAfter_cons, List.countP_cons_of_neg (by simpa using hnone), ih]
  | @hit before chars after n hreads _ ih =>
    have hhere : p.Begins ⟨before, chars ++ after⟩ := ⟨chars, after, rfl, hreads⟩
    obtain ⟨c, chars, rfl⟩ := List.exists_cons_of_ne_nil (hp hreads)
    have hinside := @countP_cutsAfter_append p (before ++ [c]) chars after fun xs ys hchars hys => by
      have hsplit : p.Reads before ((c :: xs) ++ ys) after := by
        rw [List.cons_append, ← hchars]
        exact hreads
      simpa using hapart hsplit (List.cons_ne_nil _ _) hys
    rw [List.cons_append] at hhere ⊢
    rw [cutsAfter_cons, List.countP_cons_of_pos (by simpa using hhere), hinside, ih]
    simp

/-- A pattern whose readings do not reach into one another is counted once for each place where it
reads something. -/
theorem count_eq_countP (hp : p.ReadsSome) (hapart : p.Apart) (text : List Char) :
    p.count text = (cuts text).countP p.Begins := by
  rw [← cutsAfter_start]
  exact (scans_count hp text).eq_countP hp hapart

/-! ## Patterns that start with a word -/

/-- What the pattern reads starts at the edge of a word, with a word whose first character does not
come again after the word. -/
structure StartsWord (p : Pattern) (first : Char) : Prop where
  isWord_first : isWord first
  edge : ∀ {before chars after : List Char}, p.Reads before chars after →
    isWordAt before.getLast? = false
  shape : ∀ {before chars after : List Char}, p.Reads before chars after →
    ∃ word tail, chars = first :: word ++ tail ∧ (∀ c ∈ word, isWord c) ∧ first ∉ tail

variable {first : Char}

theorem StartsWord.readsSome (h : p.StartsWord first) : p.ReadsSome := by
  intro before chars after hreads
  obtain ⟨word, tail, rfl, -, -⟩ := h.shape hreads
  simp

theorem StartsWord.apart (h : p.StartsWord first) : p.Apart := by
  intro before xs ys after hreads hxs hys ⟨chars, after', hafter, hagain⟩
  obtain ⟨word, tail, hchars, hword, htail⟩ := h.shape hreads
  obtain ⟨word', tail', rfl, -, -⟩ := h.shape hagain
  obtain ⟨c, ys, rfl⟩ := List.exists_cons_of_ne_nil hys
  obtain rfl : c = first := by simpa using (List.cons.inj hafter).1
  -- the second reading starts either after a character of the word or in the tail
  rcases List.append_eq_append_iff.1 hchars with ⟨zs, hzs, -⟩ | ⟨zs, -, hys'⟩
  · have hlast : ∀ d ∈ c :: word, isWord d := by
      intro d hd
      rcases List.mem_cons.1 hd with rfl | hd
      · exact h.isWord_first
      · exact hword d hd
    have hmem : xs.getLast hxs ∈ c :: word := by
      rw [hzs]
      exact List.mem_append_left _ (List.getLast_mem hxs)
    have hedge := h.edge hagain
    rw [List.getLast?_append, List.getLast?_eq_some_getLast hxs] at hedge
    simp [isWordAt, hlast _ hmem] at hedge
  · apply htail
    rw [hys']
    simp

theorem StartsWord.count_eq (h : p.StartsWord first) (text : List Char) :
    p.count text = (cuts text).countP p.Begins := count_eq_countP h.readsSome h.apart text

theorem StartsWord.congr {q : Pattern} (h : p.StartsWord first)
    (hsame : ∀ before chars after, q.Reads before chars after ↔ p.Reads before chars after) :
    q.StartsWord first := by
  constructor
  · exact h.isWord_first
  · intro before chars after hreads
    exact h.edge ((hsame _ _ _).1 hreads)
  · intro before chars after hreads
    exact h.shape ((hsame _ _ _).1 hreads)

/-- Patterns that read the same are counted the same. -/
theorem StartsWord.count_congr {q : Pattern} (h : p.StartsWord first)
    (hsame : ∀ before chars after, q.Reads before chars after ↔ p.Reads before chars after)
    (text : List Char) : q.count text = p.count text := by
  rw [h.count_eq, (h.congr hsame).count_eq]
  apply List.countP_congr
  intro cut _
  rw [decide_eq_true_iff, decide_eq_true_iff, Begins, Begins]
  simp only [hsame]

end CodeSurvey.Text.Pattern

import CodeSurvey.Proofs.Text.Matching

/-!
# What patterns read

What a pattern reads between the text before it and the text after it, by recursion on the pattern
and without a search. The search finds a pattern in a text just if the pattern reads some part of
it.
-/

namespace CodeSurvey.Text

/-! ## Places in a text -/

namespace Place

/-- The place in a text that has one part of it before and the other after it. -/
def between (before rest : List Char) : Place := ⟨before.getLast?, rest, before.length⟩

@[simp] theorem between_rest (before rest : List Char) : (between before rest).rest = rest := rfl

theorem next_between (before : List Char) (c : Char) (rest : List Char) :
    (between before (c :: rest)).next = between (before ++ [c]) rest := by
  simp [between, next]

theorem leads_between (before chars rest : List Char) :
    (between before (chars ++ rest)).Leads chars (between (before ++ chars) rest) := by
  constructor <;> simp [between, List.getLast?_append]

theorem eq_between_of_leads (before rest : List Char) {chars : List Char} {q : Place}
    (h : (between before rest).Leads chars q) :
    rest = chars ++ q.rest ∧ q = between (before ++ chars) q.rest := by
  obtain ⟨hrest, hoffset, hbefore⟩ := h
  obtain ⟨qbefore, qrest, qoffset⟩ := q
  simp only [between] at *
  simp [hrest, hoffset, hbefore, List.getLast?_append]

theorem getElem?_steps {accepts : Char → Bool} {chars : List Char} (h : chars.all accepts)
    (before : Option Char) (rest : List Char) (offset : Nat) :
    (steps accepts before (chars ++ rest) offset)[chars.length]? =
      some ⟨chars.getLast?.or before, rest, offset + chars.length⟩ := by
  induction chars generalizing before offset with
  | nil => cases rest <;> rfl
  | cons c chars ih =>
    rw [List.all_cons, Bool.and_eq_true] at h
    have hrest := ih h.2 (some c) (offset + 1)
    rw [List.cons_append, steps, if_pos h.1, List.length_cons, List.getElem?_cons_succ, hrest]
    cases hlast : chars.getLast? with
    | none => simp_all [List.getLast?_cons, Nat.add_comm, Nat.add_left_comm]
    | some l => simp_all [List.getLast?_cons, Nat.add_comm, Nat.add_left_comm]

end Place

namespace Pattern
open Place

/-! ## Readings -/

/-- Readings one after the other, each of what the one before it left. -/
inductive Repeats (reads : List Char → List Char → List Char → Prop) :
    List Char → List Char → List Char → Prop where
  | stop (before after : List Char) : Repeats reads before [] after
  | again {before xs ys after : List Char} :
      reads before xs (ys ++ after) → Repeats reads (before ++ xs) ys after →
      Repeats reads before (xs ++ ys) after

def isWordAt (c : Option Char) : Bool := c.any isWord

/-- A pattern reads some characters that stand between others. -/
def Reads : Pattern → List Char → List Char → List Char → Prop
  | empty, _, chars, _ => chars = []
  | char accepts, _, chars, _ => ∃ c, accepts c ∧ chars = [c]
  | run accepts least, _, chars, _ => chars.all accepts ∧ least ≤ chars.length
  | seq p q, before, chars, after =>
    ∃ xs ys, chars = xs ++ ys ∧ p.Reads before xs (ys ++ after) ∧ q.Reads (before ++ xs) ys after
  | either p q, before, chars, after => p.Reads before chars after ∨ q.Reads before chars after
  | many p, before, chars, after => Repeats p.Reads before chars after
  | lineStart, before, chars, _ => chars = [] ∧ (before.getLast?.all (· == '\n'))
  | wordEdge, before, chars, after =>
    chars = [] ∧ isWordAt before.getLast? ≠ isWordAt after.head?
  | group _ p, before, chars, after => p.Reads before chars after

/-! ### Built patterns -/

section Built
variable {before chars after : List Char}

theorem reads_all_cons {p : Pattern} {ps : List Pattern} :
    (all (p :: ps)).Reads before chars after ↔ ∃ xs ys, chars = xs ++ ys ∧
      p.Reads before xs (ys ++ after) ∧ (all ps).Reads (before ++ xs) ys after := by
  cases ps with
  | nil =>
    have hone : (all [p]).Reads before chars after ↔ p.Reads before chars after := Iff.rfl
    rw [hone]
    constructor
    · intro h
      exact ⟨chars, [], by simp, by simpa using h, rfl⟩
    · rintro ⟨xs, ys, rfl, h, hys⟩
      obtain rfl : ys = [] := hys
      simpa using h
  | cons q ps => rfl

@[simp] theorem reads_all_nil : (all []).Reads before chars after ↔ chars = [] := Iff.rfl

theorem reads_any {ps : List Pattern} :
    (any ps).Reads before chars after ↔ ∃ p ∈ ps, p.Reads before chars after := by
  induction ps with
  | nil =>
    constructor
    · rintro ⟨hall, hleast⟩
      cases chars with
      | nil => cases hleast
      | cons c chars => simp at hall
    · rintro ⟨p, hp, -⟩
      cases hp
  | cons p ps ih =>
    cases ps with
    | nil => simp [any]
    | cons q ps =>
      have hor : (any (p :: q :: ps)).Reads before chars after ↔
          p.Reads before chars after ∨ (any (q :: ps)).Reads before chars after := Iff.rfl
      rw [hor, ih]
      simp

theorem reads_seq {p q : Pattern} : (seq p q).Reads before chars after ↔ ∃ xs ys,
    chars = xs ++ ys ∧ p.Reads before xs (ys ++ after) ∧ q.Reads (before ++ xs) ys after := Iff.rfl

@[simp] theorem reads_exactChars {text : List Char} :
    (exactChars text).Reads before chars after ↔ chars = text := by
  rw [exactChars]
  induction text generalizing before chars with
  | nil => rfl
  | cons c text ih =>
    rw [List.map_cons, reads_all_cons]
    constructor
    · rintro ⟨xs, ys, rfl, ⟨d, hd, rfl⟩, hys⟩
      rw [beq_iff_eq] at hd
      rw [hd, ih.1 hys]
      rfl
    · rintro rfl
      exact ⟨[c], text, rfl, ⟨c, beq_self_eq_true c, rfl⟩, ih.2 rfl⟩

@[simp] theorem reads_exactly {text : String} :
    (exactly text).Reads before chars after ↔ chars = text.toList := reads_exactChars

theorem reads_words {texts : List String} :
    (words texts).Reads before chars after ↔ ∃ text ∈ texts, chars = text.toList := by
  rw [words, reads_any]
  constructor
  · rintro ⟨p, hp, h⟩
    obtain ⟨text, htext, rfl⟩ := List.mem_map.1 hp
    exact ⟨text, htext, reads_exactly.1 h⟩
  · rintro ⟨text, htext, h⟩
    exact ⟨exactly text, List.mem_map_of_mem htext, reads_exactly.2 h⟩

@[simp] theorem reads_optional {p : Pattern} :
    (optional p).Reads before chars after ↔ p.Reads before chars after ∨ chars = [] := Iff.rfl

@[simp] theorem reads_spaces : spaces.Reads before chars after ↔ chars.all isSpace := by
  simp [spaces, Reads]

@[simp] theorem reads_someSpace :
    someSpace.Reads before chars after ↔ chars.all isSpace ∧ chars ≠ [] := by
  rw [someSpace, Reads, Nat.succ_le_iff, List.length_pos_iff]

end Built

/-! ### Readings of matches -/

theorem atWordEdge_between (before rest : List Char) :
    (between before rest).atWordEdge ↔ isWordAt before.getLast? ≠ isWordAt rest.head? := by
  rw [atWordEdge, between, bne_iff_ne]
  cases before.getLast? <;> cases rest.head? <;> simp [isWordAt]

theorem atLineStart_between (before rest : List Char) :
    (between before rest).atLineStart ↔ before.getLast?.all (· == '\n') := by
  rw [atLineStart, between]
  cases before.getLast? <;> simp

/-- Where a match starts in a text, the pattern reads what the match covers. -/
theorem Matches.reads {p : Pattern} {s t : Progress} (h : Matches p s t) {before rest : List Char}
    (hs : s.place = between before rest) :
    ∃ chars after, rest = chars ++ after ∧ t.place = between (before ++ chars) after ∧
      p.Reads before chars after := by
  induction h generalizing before rest with
  | empty s => exact ⟨[], rest, rfl, by simpa using hs, rfl⟩
  | @char accepts s c after hrest hc =>
    rw [hs, between_rest] at hrest
    subst hrest
    exact ⟨[c], after, rfl, by rw [← next_between, ← hs], c, hc, rfl⟩
  | run hleads hall hleast =>
    rw [hs] at hleads
    obtain ⟨hrest, hq⟩ := eq_between_of_leads _ _ hleads
    exact ⟨_, _, hrest, hq, hall, hleast⟩
  | seq _ _ ihp ihq =>
    obtain ⟨xs, r, rfl, ht, hp⟩ := ihp hs
    obtain ⟨ys, after, rfl, hu, hq⟩ := ihq ht
    exact ⟨xs ++ ys, after, by simp, by simpa using hu, xs, ys, rfl, hp, hq⟩
  | left _ ih =>
    obtain ⟨chars, after, hrest, ht, hp⟩ := ih hs
    exact ⟨chars, after, hrest, ht, .inl hp⟩
  | right _ ih =>
    obtain ⟨chars, after, hrest, ht, hp⟩ := ih hs
    exact ⟨chars, after, hrest, ht, .inr hp⟩
  | stop s => exact ⟨[], rest, rfl, by simpa using hs, .stop before rest⟩
  | again _ _ ihp ihq =>
    obtain ⟨xs, r, rfl, ht, hp⟩ := ihp hs
    obtain ⟨ys, after, rfl, hu, hq⟩ := ihq ht
    exact ⟨xs ++ ys, after, by simp, by simpa using hu, .again hp hq⟩
  | lineStart h =>
    rw [hs] at h
    exact ⟨[], rest, rfl, by simpa using hs, rfl, (atLineStart_between before rest).1 h⟩
  | wordEdge h =>
    rw [hs] at h
    exact ⟨[], rest, rfl, by simpa using hs, rfl, (atWordEdge_between before rest).1 h⟩
  | group _ ih =>
    obtain ⟨chars, after, hrest, ht, hp⟩ := ih hs
    exact ⟨chars, after, hrest, ht, hp⟩

/-! ## Neighbours -/

/-- Two texts end alike for a pattern that goes on after them. -/
def EndAlike (a b : List Char) : Prop :=
  isWordAt a.getLast? = isWordAt b.getLast? ∧
    (a.getLast?.all (· == '\n')) = b.getLast?.all (· == '\n')

/-- Two texts start alike for a pattern that has ended before them. -/
def StartAlike (a b : List Char) : Prop := isWordAt a.head? = isWordAt b.head?

theorem EndAlike.append {a b : List Char} (h : EndAlike a b) (chars : List Char) :
    EndAlike (a ++ chars) (b ++ chars) := by
  cases hlast : chars.getLast? with
  | none =>
    obtain rfl := List.getLast?_eq_none_iff.1 hlast
    simpa using h
  | some c => simp [EndAlike, hlast]

theorem StartAlike.append {a b : List Char} (h : StartAlike a b) (chars : List Char) :
    StartAlike (chars ++ a) (chars ++ b) := by
  cases chars with
  | nil => exact h
  | cons c chars => rfl

/-- What a pattern reads depends only on the characters next to it. -/
theorem Reads.of_alike {p : Pattern} {before before' chars after after' : List Char}
    (h : p.Reads before chars after) (hbefore : EndAlike before before')
    (hafter : StartAlike after after') : p.Reads before' chars after' := by
  induction p generalizing before before' chars after after' with
  | empty | char | run => exact h
  | seq p q ihp ihq =>
    obtain ⟨xs, ys, rfl, hp, hq⟩ := h
    exact ⟨xs, ys, rfl, ihp hp hbefore (hafter.append ys), ihq hq (hbefore.append xs) hafter⟩
  | either p q ihp ihq =>
    exact h.imp (fun hp => ihp hp hbefore hafter) fun hq => ihq hq hbefore hafter
  | many p ih =>
    rw [Reads] at h ⊢
    induction h generalizing before' after' with
    | stop => exact .stop _ _
    | @again before xs ys after hp _ ihagain =>
      exact .again (ih hp hbefore (hafter.append ys)) (ihagain (hbefore.append xs) hafter)
  | lineStart =>
    obtain ⟨rfl, hline⟩ := h
    exact ⟨rfl, by rwa [← hbefore.2]⟩
  | wordEdge =>
    obtain ⟨rfl, hedge⟩ := h
    exact ⟨rfl, by rwa [← hbefore.1, ← hafter]⟩
  | group index p ih => exact ih h hbefore hafter

/-- Before a line feed a text ends. -/
theorem startAlike_line (after rest : List Char) : StartAlike after (after ++ '\n' :: rest) := by
  have hline : isWordAt (some '\n') = false := by decide
  cases after with
  | nil => exact hline.symm
  | cons c after => rfl

/-- After a line feed a text starts. -/
theorem endAlike_line (first before : List Char) : EndAlike before (first ++ '\n' :: before) := by
  have hline : isWord '\n' = false := by decide
  have hstart : EndAlike [] (first ++ ['\n']) := by simp [EndAlike, isWordAt, hline]
  simpa using hstart.append before

/-! ## What is read is found -/

theorem firstOf_isSome {rest : Place → Option Progress} {places : List Place} {q : Place}
    (hq : q ∈ places) (h : (rest q).isSome) : (firstOf rest places).isSome := by
  induction places with
  | nil => cases hq
  | cons p places ih =>
    rw [firstOf]
    split
    · rfl
    next hnone =>
      rcases List.mem_cons.1 hq with rfl | hq
      · rw [hnone] at h
        cases h
      · exact ih hq

/-- A step finds its way on wherever the pattern reads up to a place to go on from. -/
def Finds (p : Pattern) (step : Progress → (Progress → Option Progress) → Option Progress) :
    Prop :=
  ∀ {before chars after : List Char}, p.Reads before chars after →
    ∀ rest : Progress → Option Progress,
      (∀ groups, (rest ⟨between (before ++ chars) after, groups⟩).isSome) →
      ∀ groups, (step ⟨between before (chars ++ after), groups⟩ rest).isSome

theorem iterate_isSome {p : Pattern}
    {step : Progress → (Progress → Option Progress) → Option Progress} (hstep : Finds p step)
    {rest : Progress → Option Progress} {before chars after : List Char}
    (h : Repeats p.Reads before chars after)
    (hrest : ∀ groups, (rest ⟨between (before ++ chars) after, groups⟩).isSome) {budget : Nat}
    (hbudget : (chars ++ after).length ≤ budget) (groups : List (Nat × Stretch)) :
    (iterate step rest budget ⟨between before (chars ++ after), groups⟩).isSome := by
  induction h generalizing budget groups with
  | stop before after =>
    have hstop : (rest ⟨between before after, groups⟩).isSome := by simpa using hrest groups
    cases budget with
    | zero => exact hstop
    | succ budget =>
      rw [iterate]
      split
      · rfl
      · exact hstop
  | @again before xs ys after hread hagain ih =>
    by_cases hxs : xs = []
    · subst hxs
      simpa using ih (by simpa using hrest) (by simpa using hbudget) groups
    · have hpos := List.length_pos_iff.2 hxs
      have hlength : (xs ++ ys ++ after).length = xs.length + (ys ++ after).length := by simp
      obtain ⟨budget, rfl⟩ : ∃ b, budget = b + 1 := ⟨budget - 1, by omega⟩
      have hmoved : (between (before ++ xs) (ys ++ after)).offset >
          (between before (xs ++ (ys ++ after))).offset := by
        simp only [between, List.length_append]
        omega
      rw [iterate, List.append_assoc]
      have hfound := hstep hread
        (fun t => if t.place.offset > (between before (xs ++ (ys ++ after))).offset then
          iterate step rest budget t else none)
        (fun groups' => by
          rw [if_pos hmoved]
          exact ih (by simpa using hrest) (by omega) groups')
        groups
      obtain ⟨r, hr⟩ := Option.isSome_iff_exists.1 hfound
      rw [hr]
      rfl

theorem follow_isSome (p : Pattern) : Finds p p.follow := by
  induction p with
  | empty =>
    intro before chars after h rest hrest groups
    cases h
    rw [follow]
    simpa using hrest groups
  | char accepts =>
    intro before chars after h rest hrest groups
    obtain ⟨c, hc, rfl⟩ := h
    rw [List.singleton_append, follow]
    simp only [between_rest, hc, if_true, next_between]
    exact hrest groups
  | run accepts least =>
    intro before chars after h rest hrest groups
    have hmem : between (before ++ chars) after ∈
        (steps accepts before.getLast? (chars ++ after) before.length).drop least := by
      have hget := getElem?_steps h.1 before.getLast? after before.length
      rw [show chars.length = least + (chars.length - least) from by have := h.2; omega,
        ← List.getElem?_drop] at hget
      have hmem := List.mem_of_getElem? hget
      rw [between, List.getLast?_append, List.length_append]
      have hle := h.2
      rwa [show least + (chars.length - least) = chars.length from by omega] at hmem
    have hle : least ≤ (steps accepts before.getLast? (chars ++ after) before.length).length := by
      have hpos := List.length_pos_of_mem hmem
      rw [List.length_drop] at hpos
      omega
    rw [follow]
    refine firstOf_isSome ?_ (hrest groups)
    rw [runs_eq, List.append_nil, List.length_reverse, List.take_reverse, List.mem_reverse]
    rwa [← Nat.sub_sub_self hle] at hmem
  | seq p q ihp ihq =>
    intro before chars after h rest hrest groups
    obtain ⟨xs, ys, rfl, hp, hq⟩ := h
    rw [follow, List.append_assoc]
    refine ihp hp _ (fun groups' => ?_) groups
    exact ihq hq rest (by simpa using hrest) groups'
  | either p q ihp ihq =>
    intro before chars after h rest hrest groups
    rw [follow]
    split
    · rfl
    next hnone =>
      rcases h with h | h
      · have hsome := ihp h rest hrest groups
        rw [hnone] at hsome
        cases hsome
      · exact ihq h rest hrest groups
  | many p ih =>
    intro before chars after h rest hrest groups
    exact iterate_isSome ih h hrest (Nat.le_refl _) groups
  | lineStart =>
    intro before chars after h rest hrest groups
    obtain ⟨rfl, hline⟩ := h
    rw [List.nil_append, follow, if_pos ((atLineStart_between before after).2 hline)]
    simpa using hrest groups
  | wordEdge =>
    intro before chars after h rest hrest groups
    obtain ⟨rfl, hedge⟩ := h
    rw [List.nil_append, follow, if_pos ((atWordEdge_between before after).2 hedge)]
    simpa using hrest groups
  | group index p ih =>
    intro before chars after h rest hrest groups
    rw [follow]
    refine ih h _ (fun groups' => ?_) groups
    exact hrest ((index, ⟨between before (chars ++ after), _⟩) :: groups')

theorem findIn?_isSome {p : Pattern} (before skipped : List Char) {chars after : List Char}
    (h : p.Reads (before ++ skipped) chars after) :
    (p.findIn? before.getLast? (skipped ++ (chars ++ after)) before.length).isSome := by
  have hhere (before : List Char) (h : p.Reads before chars after) :
      (p.matchAt? (between before (chars ++ after))).isSome := by
    rw [matchAt?, Option.isSome_map]
    exact follow_isSome p h some (fun _ => rfl) []
  induction skipped generalizing before with
  | nil =>
    have hmatch := hhere before (by simpa using h)
    rw [List.nil_append]
    cases hrest : chars ++ after with
    | nil =>
      rw [hrest] at hmatch
      exact hmatch
    | cons c rest =>
      rw [hrest] at hmatch
      obtain ⟨m, hm⟩ := Option.isSome_iff_exists.1 hmatch
      rw [findIn?, show (⟨before.getLast?, c :: rest, before.length⟩ : Place) =
        between before (c :: rest) from rfl, hm]
      rfl
  | cons c skipped ih =>
    rw [List.cons_append, findIn?]
    split
    · rfl
    · have hrest := ih (before ++ [c]) (by simpa using h)
      simpa using hrest

/-- A pattern is in a text just if it reads some part of the text. -/
theorem isIn_iff {p : Pattern} {text : List Char} :
    p.isIn text ↔ ∃ before chars after, text = before ++ chars ++ after ∧
      p.Reads before chars after := by
  constructor
  · intro h
    obtain ⟨m, hm⟩ := Option.isSome_iff_exists.1 h
    obtain ⟨hmatch, skipped, hreach⟩ := isMatch_of_find? hm
    obtain ⟨hrest, hstart⟩ := eq_between_of_leads [] text hreach
    obtain ⟨chars, after, hsplit, -, hreads⟩ := Matches.reads hmatch hstart
    refine ⟨[] ++ skipped, chars, after, ?_, hreads⟩
    rw [hrest, hsplit, List.nil_append, List.append_assoc]
  · rintro ⟨before, chars, after, rfl, h⟩
    have hfound := findIn?_isSome [] before h
    rw [isIn, find?]
    simpa [Place.start] using hfound

theorem isIn_words {texts : List String} {line : List Char} :
    (words texts).isIn line ↔ ∃ text ∈ texts, text.toList <:+: line := by
  rw [isIn_iff]
  constructor
  · rintro ⟨before, chars, after, rfl, h⟩
    obtain ⟨text, htext, rfl⟩ := reads_words.1 h
    exact ⟨text, htext, before, after, rfl⟩
  · rintro ⟨text, htext, before, after, rfl⟩
    exact ⟨before, text.toList, after, rfl, reads_words.2 ⟨text, htext, rfl⟩⟩

theorem isIn_exactly {text : String} {line : List Char} :
    (exactly text).isIn line ↔ text.toList <:+: line := by
  have hone : words [text] = exactly text := rfl
  rw [← hone, isIn_words]
  simp

theorem count_pos_iff {p : Pattern} {text : List Char} : 0 < p.count text ↔ p.isIn text := by
  have hfirst : p.findNext? none (.start text) = p.find? (.start text) := by
    rw [findNext?]
    cases p.find? (.start text) with
    | none => rfl
    | some m => simp
  rw [count, findAll, findAllFrom, hfirst, isIn]
  cases p.find? (.start text) with
  | none => simp
  | some m => simp

end Pattern
end CodeSurvey.Text

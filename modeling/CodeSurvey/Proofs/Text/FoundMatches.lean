import CodeSurvey.Proofs.Text.Groups
import CodeSurvey.Proofs.Text.Scans

/-!
# Found matches

Where a pattern can read something, some match that is found goes over that place, so that a
reading is missed only for an earlier one that reaches into it. What a match with one group reads
before the group, in it and after it settles where the group stands.
-/

namespace CodeSurvey.Text

/-! ## Two splits of a text -/

section Splits
variable {α : Type} {accepts : α → Bool} {xs ys zs ws : List α}

/-- A text is split but once before a tail of accepted characters that no other one comes before. -/
theorem split_at_tail (h : xs ++ ys = zs ++ ws) (hys : ys.all accepts) (hws : ws.all accepts)
    (hxs : xs.getLast?.all fun c => !accepts c) (hzs : zs.getLast?.all fun c => !accepts c) :
    xs = zs ∧ ys = ws := by
  have tail {xs zs mid ws : List α} (hall : (mid ++ ws).all accepts) (hzs : zs = xs ++ mid)
      (hlast : zs.getLast?.all fun c => !accepts c) : mid = [] := by
    cases hmid : mid.getLast? with
    | none => exact List.getLast?_eq_none_iff.1 hmid
    | some c =>
      have hc := List.all_eq_true.1 hall c (List.mem_append_left ws (List.mem_of_getLast? hmid))
      rw [hzs, List.getLast?_append, hmid] at hlast
      simp [hc] at hlast
  rcases List.append_eq_append_iff.1 h with ⟨mid, hz, hy⟩ | ⟨mid, hx, hw⟩
  · obtain rfl := tail (hy ▸ hys) hz hzs
    simp_all
  · obtain rfl := tail (hw ▸ hws) hx hxs
    simp_all

/-- A text is split but once after a front of accepted characters that no other one comes after. -/
theorem split_at_front (h : xs ++ ys = zs ++ ws) (hxs : xs.all accepts) (hzs : zs.all accepts)
    (hys : ys.head?.all fun c => !accepts c) (hws : ws.head?.all fun c => !accepts c) :
    xs = zs ∧ ys = ws := by
  have hreverse : ys.reverse ++ xs.reverse = ws.reverse ++ zs.reverse := by
    rw [← List.reverse_append, ← List.reverse_append, h]
  have hsplit := split_at_tail hreverse (by rwa [List.all_reverse]) (by rwa [List.all_reverse])
    (by rwa [List.getLast?_reverse]) (by rwa [List.getLast?_reverse])
  exact ⟨List.reverse_inj.1 hsplit.2, List.reverse_inj.1 hsplit.1⟩

theorem takeWhile_front (hxs : xs.all accepts) (hys : ys.head?.all fun c => !accepts c) :
    (xs ++ ys).takeWhile accepts = xs := by
  have hnone : ys.takeWhile accepts = [] := by
    cases ys with
    | nil => rfl
    | cons c ys => exact List.takeWhile_cons_of_neg (by simpa using hys)
  rw [List.takeWhile_append_of_pos (List.all_eq_true.1 hxs), hnone, List.append_nil]

theorem dropWhile_front (hxs : xs.all accepts) (hys : ys.head?.all fun c => !accepts c) :
    (xs ++ ys).dropWhile accepts = ys := by
  rw [List.dropWhile_append_of_pos (List.all_eq_true.1 hxs)]
  cases ys with
  | nil => rfl
  | cons c ys => exact List.dropWhile_cons_of_neg (by simpa using hys)

/-- Where one part of a text goes over a cut, the cut parts it. -/
theorem exists_cut {first chars after before rest : List α}
    (h : first ++ (chars ++ after) = before ++ rest) (hle : first.length ≤ before.length)
    (hlt : before.length < first.length + chars.length) :
    ∃ left right, before = first ++ left ∧ chars = left ++ right ∧ rest = right ++ after ∧
      right ≠ [] := by
  obtain ⟨left, rfl⟩ : ∃ left, before = first ++ left :=
    (List.prefix_of_prefix_length_le ⟨_, h⟩ ⟨rest, rfl⟩ hle).imp fun _ => Eq.symm
  rw [List.append_assoc] at h
  have hcut := List.append_cancel_left h
  rw [List.length_append] at hlt
  obtain ⟨right, rfl⟩ : ∃ right, chars = left ++ right :=
    (List.prefix_of_prefix_length_le ⟨rest, rfl⟩ ⟨after, hcut⟩ (by omega)).imp fun _ => Eq.symm
  rw [List.append_assoc] at hcut
  refine ⟨left, right, rfl, rfl, (List.append_cancel_left hcut).symm, ?_⟩
  intro hnone
  rw [hnone, List.append_nil] at hlt
  omega

end Splits

namespace Pattern
open Place

variable {p : Pattern} {before rest : List Char} {text : List Char} {m : Match}

/-! ## No place is missed -/

theorem exists_find?_of_begins (skipped : List Char) (h : p.Begins ⟨before ++ skipped, rest⟩) :
    ∃ m, p.find? (between before (skipped ++ rest)) = some m ∧
      m.whole.start.offset ≤ before.length + skipped.length := by
  rw [find?]
  induction skipped generalizing before with
  | nil =>
    rw [List.append_nil, ← matchAt?_isSome_iff] at h
    obtain ⟨m, hm⟩ := Option.isSome_iff_exists.1 h
    have hstart := (isMatch_of_matchAt? hm).2
    refine ⟨m, ?_, by rw [hstart]; exact Nat.le_refl _⟩
    rw [between] at hm
    cases rest with
    | nil => simpa [between, findIn?] using hm
    | cons c rest => simp [between, findIn?, hm]
  | cons c skipped ih =>
    simp only [between, List.cons_append, findIn?]
    split
    next m hm =>
      have hstart := (isMatch_of_matchAt? hm).2
      exact ⟨m, rfl, by rw [hstart]; exact Nat.le_add_right _ _⟩
    next =>
      obtain ⟨m, hm, hle⟩ := @ih (before ++ [c]) (by simpa using h)
      refine ⟨m, by simpa [between] using hm, ?_⟩
      rw [List.length_append, List.length_singleton] at hle
      rw [List.length_cons]
      omega

/-- A match goes over a cut if it starts at it or before and ends after it. -/
def GoesOver (m : Match) (cut : Nat) : Prop :=
  m.whole.start.offset ≤ cut ∧ cut < m.whole.stop.offset

theorem exists_findAllFrom_over (hp : p.ReadsSome) {budget : Nat} {skipped : List Char}
    (hbudget : skipped.length + rest.length < budget) (last : Option Nat)
    (h : p.Begins ⟨before ++ skipped, rest⟩) :
    ∃ m ∈ p.findAllFrom budget last (between before (skipped ++ rest)),
      GoesOver m (before.length + skipped.length) := by
  induction budget generalizing before skipped last with
  | zero => cases hbudget
  | succ budget ih =>
    obtain ⟨m, hm, hle⟩ := exists_find?_of_begins skipped h
    obtain ⟨read, after, hsplit, hstop, hpos, hlength, -⟩ := leaves_of_find? hp hm
    have hoffset : m.whole.stop.offset = before.length + read.length := by
      rw [hstop, between, List.length_append]
    rw [findAllFrom, findNext?_eq hp, hm]
    by_cases hover : before.length + skipped.length < m.whole.stop.offset
    · exact ⟨m, List.mem_cons_self, hle, hover⟩
    · -- the match ends at the cut or before, so the search goes on before the cut
      have hread : read.length ≤ skipped.length := by omega
      obtain ⟨later, rfl⟩ : ∃ later, skipped = read ++ later :=
        (List.prefix_of_prefix_length_le ⟨after, hsplit.symm⟩ ⟨rest, rfl⟩ hread).imp
          fun _ => Eq.symm
      rw [List.append_assoc] at hsplit
      obtain rfl := List.append_cancel_left hsplit
      rw [List.length_append] at hbudget ⊢
      obtain ⟨m', hm', hover'⟩ := @ih (before ++ read) later (by omega)
        (some m.whole.stop.offset) (by simpa using h)
      rw [← hstop] at hm'
      rw [List.length_append, Nat.add_assoc] at hover'
      exact ⟨m', List.mem_cons_of_mem m hm', hover'⟩

theorem exists_match_over (hp : p.ReadsSome) (h : p.Begins ⟨before, rest⟩) :
    ∃ m ∈ p.findAll (before ++ rest), GoesOver m before.length := by
  have hfound := @exists_findAllFrom_over p [] rest hp ((before ++ rest).length + 1) before
    (by rw [List.length_append]; exact Nat.lt_succ_self _) none h
  rwa [List.length_nil, Nat.zero_add] at hfound

/-- Of two different matches one ends before the other starts. -/
theorem eq_or_apart {n : Match} (hm : m ∈ p.findAll text) (hn : n ∈ p.findAll text) :
    m = n ∨ m.whole.stop.offset ≤ n.whole.start.offset ∨
      n.whole.stop.offset ≤ m.whole.start.offset := by
  rcases eq_or_of_pairwise (findAll_pairwise p text) hm hn with heq | hlate | hearly
  · exact .inl heq
  · exact .inr (.inl hlate.offset_le)
  · exact .inr (.inr hearly.offset_le)

/-! ## One group -/

theorem matches_all_cons {ps : List Pattern} {s u : Progress} :
    Matches (all (p :: ps)) s u ↔ ∃ t, Matches p s t ∧ Matches (all ps) t u := by
  cases ps with
  | nil =>
    constructor
    · intro h
      exact ⟨u, h, .empty u⟩
    · intro h
      obtain ⟨t, ht, hu⟩ := h
      cases hu
      exact ht
  | cons q ps => exact matches_seq

theorem isPlain_all {ps : List Pattern} (h : ps.all isPlain) : (all ps).isPlain := by
  induction ps with
  | nil => rfl
  | cons p ps ih =>
    rw [List.all_cons, Bool.and_eq_true] at h
    cases ps with
    | nil => exact h.1
    | cons q ps =>
      rw [all, isPlain, Bool.and_eq_true]
      exact ⟨h.1, ih h.2⟩
      exact List.cons_ne_nil q ps

/-- What is read before a group, in it and after it, where the group is the only one. -/
structure GroupReading (ps : List Pattern) (q : Pattern) (qs : List Pattern)
    (before xs ys zs after : List Char) : Prop where
  first : (all ps).Reads before xs (ys ++ (zs ++ after))
  middle : q.Reads (before ++ xs) ys (zs ++ after)
  last : (all qs).Reads (before ++ xs ++ ys) zs after

theorem reads_all_append {ps qs : List Pattern} {chars after : List Char}
    (h : ∃ xs ys, chars = xs ++ ys ∧ (all ps).Reads before xs (ys ++ after) ∧
      (all qs).Reads (before ++ xs) ys after) : (all (ps ++ qs)).Reads before chars after := by
  obtain ⟨xs, ys, rfl, hps, hqs⟩ := h
  induction ps generalizing before xs with
  | nil =>
    obtain rfl : xs = [] := hps
    simpa using hqs
  | cons p ps ih =>
    obtain ⟨ws, xs, rfl, hp, hps⟩ := reads_all_cons.1 hps
    rw [List.cons_append, List.append_assoc]
    refine reads_all_cons.2 ⟨ws, xs ++ ys, rfl, by simpa using hp, ih xs hps ?_⟩
    simpa using hqs

theorem GroupReading.begins {ps qs : List Pattern} {q : Pattern} {xs ys zs after : List Char}
    (h : GroupReading ps q qs before xs ys zs after) (index : Nat) :
    (all (ps ++ group index q :: qs)).Begins ⟨before, xs ++ (ys ++ (zs ++ after))⟩ := by
  refine ⟨xs ++ (ys ++ zs), after, by simp, ?_⟩
  refine reads_all_append ⟨xs, ys ++ zs, rfl, by simpa using h.first, ?_⟩
  exact reads_all_cons.2 ⟨ys, zs, rfl, h.middle, h.last⟩

theorem groupReading_of_matches {ps qs : List Pattern} {index : Nat} {q : Pattern}
    (hps : ps.all isPlain) (hq : q.isPlain) (hqs : qs.all isPlain) {s t : Progress}
    (h : Matches (all (ps ++ group index q :: qs)) s t) (hs : s.place = between before rest) :
    ∃ xs ys zs after, rest = xs ++ (ys ++ (zs ++ after)) ∧
      GroupReading ps q qs before xs ys zs after ∧
      t.place = between (before ++ xs ++ ys ++ zs) after ∧
      t.groups = (index, ⟨between (before ++ xs) (ys ++ (zs ++ after)),
        between (before ++ xs ++ ys) (zs ++ after)⟩) :: s.groups := by
  induction ps generalizing s before rest with
  | nil =>
    obtain ⟨u, hgroup, htail⟩ := matches_all_cons.1 h
    obtain ⟨v, hmiddle, rfl⟩ := matches_group.1 hgroup
    obtain ⟨ys, after', rfl, hv, hys⟩ := hmiddle.reads hs
    obtain ⟨zs, after, rfl, ht, hzs⟩ := htail.reads hv
    refine ⟨[], ys, zs, after, rfl, ⟨rfl, ?_, ?_⟩, ?_, ?_⟩
    · rwa [List.append_nil]
    · rwa [List.append_nil]
    · rwa [List.append_nil]
    · rw [htail.groups_eq (isPlain_all hqs), hmiddle.groups_eq hq, hs, hv, List.append_nil]
  | cons p ps ih =>
    rw [List.all_cons, Bool.and_eq_true] at hps
    rw [List.cons_append] at h
    obtain ⟨u, hfirst, hrest⟩ := matches_all_cons.1 h
    obtain ⟨ws, after', rfl, hu, hws⟩ := hfirst.reads hs
    obtain ⟨xs, ys, zs, after, rfl, hreading, ht, hgroups⟩ := ih hps.2 hrest hu
    refine ⟨ws ++ xs, ys, zs, after, by simp, ⟨?_, ?_, ?_⟩, by simpa using ht, ?_⟩
    · exact reads_all_cons.2 ⟨ws, xs, rfl, hws, hreading.first⟩
    · simpa using hreading.middle
    · simpa using hreading.last
    · rw [hgroups, hfirst.groups_eq hps.1]
      simp

/-- A match whose group stands between what is read before it and after it. -/
structure GroupMatch (ps : List Pattern) (q : Pattern) (qs : List Pattern) (m : Match)
    (before xs ys zs after : List Char) : Prop where
  reading : GroupReading ps q qs before xs ys zs after
  whole_eq : m.whole = ⟨between before (xs ++ (ys ++ (zs ++ after))),
    between (before ++ xs ++ ys ++ zs) after⟩
  group_eq : m.group? 1 = some ⟨between (before ++ xs) (ys ++ (zs ++ after)),
    between (before ++ xs ++ ys) (zs ++ after)⟩

section GroupMatch
variable {ps qs : List Pattern} {q : Pattern} {xs ys zs after : List Char}

theorem groupMatch_of_mem_findAll (hps : ps.all isPlain) (hq : q.isPlain) (hqs : qs.all isPlain)
    (hm : m ∈ (all (ps ++ group 1 q :: qs)).findAll text) :
    ∃ before xs ys zs after, text = before ++ (xs ++ (ys ++ (zs ++ after))) ∧
      GroupMatch ps q qs m before xs ys zs after := by
  obtain ⟨⟨before, hreach⟩, hmatch⟩ := mem_findAll hm
  obtain ⟨htext, hstart⟩ := eq_between_of_leads [] text hreach
  rw [List.nil_append] at hstart
  obtain ⟨xs, ys, zs, after, hrest, hreading, hstop, hgroups⟩ :=
    groupReading_of_matches hps hq hqs hmatch hstart
  obtain ⟨⟨start, stop⟩, groups⟩ := m
  dsimp only at *
  refine ⟨before, xs, ys, zs, after, by rw [htext, hrest], hreading, ?_, ?_⟩
  · rw [hstart, hstop, hrest]
  · rw [Match.group?, hgroups]
    rfl

/-- Where something can be read, a match is found that reads some of what comes there. -/
theorem exists_groupMatch_over (hps : ps.all isPlain) (hq : q.isPlain) (hqs : qs.all isPlain)
    (hreads : (all (ps ++ group 1 q :: qs)).ReadsSome)
    (h : (all (ps ++ group 1 q :: qs)).Begins ⟨before, rest⟩) :
    ∃ m ∈ (all (ps ++ group 1 q :: qs)).findAll (before ++ rest), ∃ first xs ys zs after,
      GroupMatch ps q qs m first xs ys zs after ∧ ∃ left right, before = first ++ left ∧
        xs ++ ys ++ zs = left ++ right ∧ rest = right ++ after ∧ right ≠ [] := by
  obtain ⟨m, hm, hstart, hstop⟩ := exists_match_over hreads h
  obtain ⟨first, xs, ys, zs, after, htext, hgroup⟩ := groupMatch_of_mem_findAll hps hq hqs hm
  rw [hgroup.whole_eq] at hstart hstop
  simp only [between, List.length_append] at hstart hstop
  have hsplit : first ++ ((xs ++ ys ++ zs) ++ after) = before ++ rest := by
    rw [htext]
    simp
  obtain ⟨left, right, hbefore, hchars, hrest, hright⟩ := exists_cut hsplit hstart
    (by simp only [List.length_append]; omega)
  exact ⟨m, hm, first, xs, ys, zs, after, hgroup, left, right, hbefore, hchars, hrest, hright⟩

theorem GroupMatch.chars_eq (h : GroupMatch ps q qs m before xs ys zs after) :
    m.whole.chars = xs ++ ys ++ zs := by
  rw [h.whole_eq]
  apply Stretch.chars_of_leads
  have hleads := leads_between before (xs ++ ys ++ zs) after
  simpa using hleads

theorem GroupMatch.exists_group (h : GroupMatch ps q qs m before xs ys zs after) :
    ∃ g, m.group? 1 = some g ∧ g.chars = ys ∧ g.start.offset = (before ++ xs).length :=
  ⟨_, h.group_eq, Stretch.chars_of_leads (leads_between (before ++ xs) ys (zs ++ after)), rfl⟩

end GroupMatch

end Pattern
end CodeSurvey.Text

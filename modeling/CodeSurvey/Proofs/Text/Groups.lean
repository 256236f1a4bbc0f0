import CodeSurvey.Proofs.Text.Readings
import Mathlib.Data.List.Basic

/-!
# Groups of matches

What the groups of a match are: parts of the text within the match, each read by the body of its
group. The matches found in a text come one after the other, and so do their groups.
-/

namespace CodeSurvey.Text
namespace Pattern
open Place

/-! ## Within a match -/

/-- The bodies of the groups of a pattern. -/
def bodies : Pattern → List (Nat × Pattern)
  | empty | char _ | run _ _ | lineStart | wordEdge => []
  | seq p q | either p q => bodies p ++ bodies q
  | many p => bodies p
  | group index p => (index, p) :: bodies p

/-- A stretch of the text between two places that the body of a group matches. -/
structure Holds (p : Pattern) (first last : Place) (g : Nat × Stretch) : Prop where
  from_first : first.Reaches g.2.start
  to_last : g.2.stop.Reaches last
  matched : ∃ q groups groups', (g.1, q) ∈ p.bodies ∧
    Matches q ⟨g.2.start, groups⟩ ⟨g.2.stop, groups'⟩

theorem Holds.mono {p q : Pattern} {first last first' last' : Place} {g : Nat × Stretch}
    (h : Holds p first last g) (hsub : p.bodies ⊆ q.bodies) (hfirst : first'.Reaches first)
    (hlast : last.Reaches last') : Holds q first' last' g := by
  obtain ⟨body, groups, groups', hbody, hmatch⟩ := h.matched
  exact ⟨hfirst.trans h.from_first, h.to_last.trans hlast, body, groups, groups', hsub hbody, hmatch⟩

theorem Matches.holds_of_mem {p : Pattern} {s t : Progress} (h : Matches p s t)
    {g : Nat × Stretch} (hg : g ∈ t.groups) : g ∈ s.groups ∨ Holds p s.place t.place g := by
  induction h with
  | empty | char | run | stop | lineStart | wordEdge => exact .inl hg
  | @seq p q s t u hst htu ihp ihq =>
    rcases ihq hg with hg | hheld
    · rcases ihp hg with hg | hheld
      · exact .inl hg
      · exact .inr (hheld.mono (List.subset_append_left _ _) (.refl _) htu.reaches)
    · exact .inr (hheld.mono (List.subset_append_right _ _) hst.reaches (.refl _))
  | left _ ih =>
    exact (ih hg).imp id fun h => h.mono (List.subset_append_left _ _) (.refl _) (.refl _)
  | right _ ih =>
    exact (ih hg).imp id fun h => h.mono (List.subset_append_right _ _) (.refl _) (.refl _)
  | again hst htu ihp ihq =>
    rcases ihq hg with hg | hheld
    · rcases ihp hg with hg | hheld
      · exact .inl hg
      · exact .inr (hheld.mono (fun _ h => h) (.refl _) htu.reaches)
    · exact .inr (hheld.mono (fun _ h => h) hst.reaches (.refl _))
  | @group index p s t hmatch ih =>
    rcases List.mem_cons.1 hg with rfl | hg
    · exact .inr ⟨.refl _, .refl _, p, s.groups, t.groups, List.mem_cons_self, hmatch⟩
    · exact (ih hg).imp id fun h => h.mono (List.subset_cons_self _ _) (.refl _) (.refl _)

theorem mem_groups_of_group? {m : Match} {index : Nat} {s : Stretch}
    (h : m.group? index = some s) : (index, s) ∈ m.groups := by
  obtain ⟨before, after, hgroups, -⟩ := List.lookup_eq_some_iff.1 h
  rw [hgroups]
  simp

/-! ## In turn -/

theorem InTurn.mem {p : Pattern} {place : Place} {ms : List Match} (h : p.InTurn place ms)
    {m : Match} (hm : m ∈ ms) : place.Reaches m.whole.start ∧ p.IsMatch m := by
  induction ms generalizing place with
  | nil => cases hm
  | cons m' ms ih =>
    obtain ⟨hreaches, hmatch, hrest⟩ := h
    rcases List.mem_cons.1 hm with rfl | hm
    · exact ⟨hreaches, hmatch⟩
    · have hlater := ih hrest hm
      exact ⟨(hreaches.trans hmatch.reaches).trans hlater.1, hlater.2⟩

theorem InTurn.pairwise {p : Pattern} {place : Place} {ms : List Match} (h : p.InTurn place ms) :
    ms.Pairwise fun m m' => m.whole.stop.Reaches m'.whole.start := by
  induction ms generalizing place with
  | nil => exact .nil
  | cons m ms ih =>
    obtain ⟨-, -, hrest⟩ := h
    exact List.pairwise_cons.2 ⟨fun m' hm' => (hrest.mem hm').1, ih hrest⟩

theorem findAll_pairwise (p : Pattern) (text : List Char) :
    (p.findAll text).Pairwise fun m m' => m.whole.stop.Reaches m'.whole.start :=
  (inTurn_findAllFrom p _ none (.start text)).pairwise

/-- Of two different members of a list one comes before the other. -/
theorem eq_or_of_pairwise {α : Type} {R : α → α → Prop} {l : List α} (h : l.Pairwise R) {a b : α}
    (ha : a ∈ l) (hb : b ∈ l) : a = b ∨ R a b ∨ R b a := by
  refine List.Pairwise.forall_of_forall_of_flip (R := fun a b : α => a = b ∨ R a b ∨ R b a)
    (fun _ _ => .inl rfl) ?_ ?_ ha hb
  · exact h.imp fun hab => .inr (.inl hab)
  · exact h.imp fun hba => .inr (.inr hba)

variable {p : Pattern} {text : List Char} {m : Match}

theorem mem_findAll (hm : m ∈ p.findAll text) :
    (Place.start text).Reaches m.whole.start ∧ p.IsMatch m :=
  (inTurn_findAllFrom p _ none (.start text)).mem hm

theorem holds_of_group? (hm : m ∈ p.findAll text) {index : Nat} {s : Stretch}
    (hs : m.group? index = some s) : Holds p m.whole.start m.whole.stop (index, s) := by
  have hmem := mem_groups_of_group? hs
  rcases Matches.holds_of_mem (mem_findAll hm).2 hmem with hnone | hheld
  · cases hnone
  · exact hheld

/-- A group of a match found in a text is a part of the text, between what is before it and what is
after it. -/
theorem between_of_group? (hm : m ∈ p.findAll text) {index : Nat} {s : Stretch}
    (hs : m.group? index = some s) :
    ∃ before after, text = before ++ s.chars ++ after ∧ s.start = between before (s.chars ++ after) ∧
      s.stop = between (before ++ s.chars) after ∧
      ∃ q, (index, q) ∈ p.bodies ∧ q.Reads before s.chars after := by
  have hheld := holds_of_group? hm hs
  obtain ⟨q, groups, groups', hq, hmatch⟩ := hheld.matched
  obtain ⟨before, hreach⟩ := (mem_findAll hm).1.trans hheld.from_first
  obtain ⟨htext, hstart⟩ := eq_between_of_leads [] text hreach
  rw [List.nil_append] at hstart
  obtain ⟨chars, after, hrest, hstop, hreads⟩ := hmatch.reads hstart
  dsimp only at hstop
  have hchars : s.chars = chars := by
    refine Stretch.chars_of_leads ?_
    rw [hstart, hrest, hstop]
    exact leads_between before chars after
  rw [hrest] at hstart
  refine ⟨before, after, ?_, hchars ▸ hstart, hchars ▸ hstop, q, hq, hchars ▸ hreads⟩
  rw [htext, hrest, hchars, List.append_assoc]

/-- A group of a match found in a text is a part of the text that the body of the group reads. -/
theorem reads_of_group? (hm : m ∈ p.findAll text) {index : Nat} {s : Stretch}
    (hs : m.group? index = some s) :
    ∃ before after q, text = before ++ s.chars ++ after ∧ s.start.offset = before.length ∧
      (index, q) ∈ p.bodies ∧ q.Reads before s.chars after := by
  obtain ⟨before, after, htext, hstart, -, q, hq, hreads⟩ := between_of_group? hm hs
  exact ⟨before, after, q, htext, by rw [hstart, between], hq, hreads⟩

/-! ## Up to a mark -/

/-- A stretch that has no mark in it and one after it. -/
structure UpTo (mark : Char → Bool) (s : Stretch) : Prop where
  unmarked : s.chars.all fun c => !mark c
  followed : s.stop.rest.head?.any mark

/-- Whatever a pattern groups goes on up to a mark. -/
def GroupsUpTo (mark : Char → Bool) (p : Pattern) : Prop :=
  ∀ ⦃s t : Progress⦄, Matches p s t → ∀ g ∈ t.groups, g ∈ s.groups ∨ UpTo mark g.2

variable {mark : Char → Bool}

theorem groupsUpTo_of_isPlain (hp : p.isPlain) : GroupsUpTo mark p := by
  intro s t h g hg
  rw [h.groups_eq hp] at hg
  exact .inl hg

theorem groupsUpTo_seq {q : Pattern} (hp : GroupsUpTo mark p) (hq : GroupsUpTo mark q) :
    GroupsUpTo mark (seq p q) := by
  intro s u h g hg
  obtain ⟨t, hst, htu⟩ := matches_seq.1 h
  rcases hq htu g hg with hg | hup
  · exact hp hst g hg
  · exact .inr hup

theorem groupsUpTo_all {ps : List Pattern} (h : ps.Forall (GroupsUpTo mark)) :
    GroupsUpTo mark (all ps) := by
  induction ps with
  | nil => exact groupsUpTo_of_isPlain rfl
  | cons p ps ih =>
    rw [List.forall_cons] at h
    cases ps with
    | nil => exact h.1
    | cons q ps => exact groupsUpTo_seq h.1 (ih h.2)

theorem groupsUpTo_run {index least : Nat} {accepts : Char → Bool}
    (haccepts : ∀ c, accepts c → mark c = false) :
    GroupsUpTo mark (seq (group index (run accepts least)) (char mark)) := by
  intro s u h g hg
  obtain ⟨t, hgroup, hchar⟩ := matches_seq.1 h
  obtain ⟨r, hrun, rfl⟩ := matches_group.1 hgroup
  cases hrun with
  | run hleads hall hleast =>
    cases hchar with
    | char hrest hc =>
      rcases List.mem_cons.1 hg with rfl | hg
      · refine .inr ⟨?_, ?_⟩
        · rw [Stretch.chars_of_leads hleads, List.all_eq_true]
          intro c hmem
          rw [haccepts c (List.all_eq_true.1 hall c hmem)]
          rfl
        · dsimp only at hrest ⊢
          rw [hrest]
          exact hc
      · exact .inl hg

/-- Where a group goes on up to a mark, its text is followed by the mark. -/
theorem upTo_of_group? (hp : GroupsUpTo mark p) (hm : m ∈ p.findAll text) {index : Nat}
    {s : Stretch} (hs : m.group? index = some s) : UpTo mark s := by
  rcases hp (mem_findAll hm).2 _ (mem_groups_of_group? hs) with hnone | hup
  · cases hnone
  · exact hup

end Pattern
end CodeSurvey.Text

import CodeSurvey.Findings.Imports
import CodeSurvey.Proofs.Text.Groups
import CodeSurvey.Proofs.Text.Scans

/-!
# Where imports are found

Every target that is found stands in the text where it says, also one that is found in a block of
imports. No two different targets are found at one place: where a language has one pattern, its
matches follow one another; where it has several, they all read a path up to the mark that closes
it.
-/

namespace CodeSurvey
open Text Text.Pattern

/-! ## Places of targets -/

namespace FoundImport

/-- The target stands in a text where it is said to be found. -/
def StandsIn (f : FoundImport) (text : List Char) : Prop :=
  ∃ before after, text = before ++ f.target.toList ++ after ∧ f.offset = before.length

/-- The target stands in a text and goes on up to a mark. -/
def Quoted (mark : Char → Bool) (f : FoundImport) (text : List Char) : Prop :=
  ∃ before c after, text = before ++ f.target.toList ++ c :: after ∧ f.offset = before.length ∧
    (f.target.toList.all fun c => !mark c) ∧ mark c

variable {mark : Char → Bool} {f g : FoundImport} {text : List Char}

theorem Quoted.standsIn (h : f.Quoted mark text) : f.StandsIn text := by
  obtain ⟨before, c, after, htext, hoffset, -⟩ := h
  exact ⟨before, c :: after, htext, hoffset⟩

/-- What is quoted in a part of a text is quoted in the text, further on by what is before the
part. -/
theorem Quoted.within (h : f.Quoted mark text) (before after : List Char) :
    Quoted mark { f with offset := before.length + f.offset } (before ++ text ++ after) := by
  obtain ⟨first, c, rest, rfl, hoffset, hmarks⟩ := h
  refine ⟨before ++ first, c, rest ++ after, by simp, ?_, hmarks⟩
  rw [hoffset, List.length_append]

theorem Quoted.takeWhile_eq (h : f.Quoted mark text) :
    ((text.drop f.offset).takeWhile fun c => !mark c) = f.target.toList := by
  obtain ⟨before, c, after, rfl, hoffset, hunmarked, hmark⟩ := h
  rw [hoffset, List.append_assoc, List.drop_left,
    List.takeWhile_append_of_pos (List.all_eq_true.1 hunmarked),
    List.takeWhile_cons_of_neg (by simp [hmark]), List.append_nil]

theorem Quoted.eq_of_offset (hf : f.Quoted mark text) (hg : g.Quoted mark text)
    (h : f.offset = g.offset) : f = g := by
  have htarget : f.target = g.target := by
    rw [← String.toList_inj, ← hf.takeWhile_eq, ← hg.takeWhile_eq, h]
  cases f
  cases g
  simp_all

end FoundImport

namespace Imports

/-- What is found in a text stands there, no two different finds at one place. -/
structure Placed (text : List Char) (found : List FoundImport) : Prop where
  stands : ∀ f ∈ found, f.StandsIn text
  apart : ∀ f ∈ found, ∀ g ∈ found, f.offset = g.offset → f = g

theorem placed_of_quoted {mark : Char → Bool} {text : List Char} {found : List FoundImport}
    (h : ∀ f ∈ found, f.Quoted mark text) : Placed text found where
  stands f hf := (h f hf).standsIn
  apart f hf g hg := (h f hf).eq_of_offset (h g hg)

/-! ## What one pattern finds -/

section OnePattern
variable {p : Pattern} {text : List Char} {f : FoundImport}

theorem mem_targets : f ∈ targets p text ↔
    ∃ m ∈ p.findAll text, ∃ s, m.group? 1 = some s ∧ f = ⟨s.start.offset, s.text⟩ := by
  simp only [targets, targetOf?, List.mem_filterMap, Option.map_eq_some_iff, eq_comm (a := f)]

theorem standsIn_of_mem_targets (hf : f ∈ targets p text) : f.StandsIn text := by
  obtain ⟨m, hm, s, hs, rfl⟩ := mem_targets.1 hf
  obtain ⟨before, after, htext, hstart, -⟩ := between_of_group? hm hs
  refine ⟨before, after, ?_, by rw [hstart, Place.between]⟩
  rw [Stretch.toList_text, htext]

theorem quoted_of_mem_targets {mark : Char → Bool} (hp : GroupsUpTo mark p)
    (hf : f ∈ targets p text) : f.Quoted mark text := by
  obtain ⟨m, hm, s, hs, rfl⟩ := mem_targets.1 hf
  obtain ⟨before, after, htext, hstart, hstop, -⟩ := between_of_group? hm hs
  obtain ⟨hunmarked, hfollowed⟩ := upTo_of_group? hp hm hs
  rw [hstop, Place.between_rest] at hfollowed
  cases after with
  | nil => cases hfollowed
  | cons c after =>
    refine ⟨before, c, after, ?_, by rw [hstart, Place.between], ?_, hfollowed⟩
    · rw [Stretch.toList_text, htext]
    · rwa [Stretch.toList_text]

/-- Matches do not overlap, and a group that reads some character ends after it starts. -/
theorem targets_ascend (hp : ∀ g ∈ p.bodies, g.2.ReadsSome) (text : List Char) :
    (targets p text).Pairwise fun f g => f.offset < g.offset := by
  refine List.pairwise_filterMap.2 ((findAll_pairwise p text).imp_of_mem ?_)
  intro m m' hm hm' hturn f hf g hg
  obtain ⟨s, hs, rfl⟩ := Option.map_eq_some_iff.1 hf
  obtain ⟨s', hs', rfl⟩ := Option.map_eq_some_iff.1 hg
  obtain ⟨before, after, -, hstart, hstop, q, hq, hreads⟩ := between_of_group? hm hs
  have hpos := List.length_pos_iff.2 (hp _ hq hreads)
  have hstop' := ((holds_of_group? hm hs).to_last.trans hturn).trans
    (holds_of_group? hm' hs').from_first
  calc
    s.start.offset = before.length := by rw [hstart, Place.between]
    _ < before.length + s.chars.length := Nat.lt_add_of_pos_right hpos
    _ = s.stop.offset := by rw [hstop, Place.between, List.length_append]
    _ ≤ s'.start.offset := hstop'.offset_le

theorem placed_targets (hp : ∀ g ∈ p.bodies, g.2.ReadsSome) (text : List Char) :
    Placed text (targets p text) where
  stands _ hf := standsIn_of_mem_targets hf
  apart f hf g hg heq := by
    rcases eq_or_of_pairwise (targets_ascend hp text) hf hg with hsame | hlt | hgt
    · exact hsame
    · exact absurd heq (Nat.ne_of_lt hlt)
    · exact absurd heq (Nat.ne_of_gt hgt)

end OnePattern

/-! ## Paths in quotes -/

def isScriptQuote (c : Char) : Bool := "'\"".toList.contains c

def isGoQuote (c : Char) : Bool := "\"\x60".toList.contains c

theorem groupsUpTo_quoted : GroupsUpTo isScriptQuote quoted := by
  refine groupsUpTo_seq (groupsUpTo_of_isPlain rfl) (groupsUpTo_run fun c hc => ?_)
  simpa [isScriptQuote] using hc

theorem groupsUpTo_goPath : GroupsUpTo isGoQuote goPath := by
  refine groupsUpTo_seq (groupsUpTo_of_isPlain rfl)
    (groupsUpTo_seq (groupsUpTo_of_isPlain rfl) (groupsUpTo_run fun c hc => ?_))
  simpa [isGoQuote] using hc

theorem groupsUpTo_script {p : Pattern}
    (hp : p ∈ [fromPattern, dynamicPattern, requirePattern]) : GroupsUpTo isScriptQuote p := by
  have plain {q : Pattern} (hq : q.isPlain) : GroupsUpTo isScriptQuote q := groupsUpTo_of_isPlain hq
  simp only [List.mem_cons, List.not_mem_nil, or_false] at hp
  rcases hp with rfl | rfl | rfl
  · exact groupsUpTo_all ⟨plain rfl, plain rfl, plain rfl, groupsUpTo_quoted⟩
  · exact groupsUpTo_all ⟨plain rfl, plain rfl, plain rfl, plain rfl, plain rfl,
      groupsUpTo_quoted, plain rfl, plain rfl⟩
  · exact groupsUpTo_all ⟨plain rfl, plain rfl, plain rfl, groupsUpTo_quoted, plain rfl, plain rfl⟩

theorem groupsUpTo_goSinglePattern : GroupsUpTo isGoQuote goSinglePattern := by
  have plain {q : Pattern} (hq : q.isPlain) : GroupsUpTo isGoQuote q := groupsUpTo_of_isPlain hq
  exact groupsUpTo_all ⟨plain rfl, plain rfl, plain rfl, plain rfl, groupsUpTo_goPath⟩

theorem groupsUpTo_goItemPattern : GroupsUpTo isGoQuote goItemPattern := by
  have plain {q : Pattern} (hq : q.isPlain) : GroupsUpTo isGoQuote q := groupsUpTo_of_isPlain hq
  exact groupsUpTo_all ⟨plain rfl, plain rfl, groupsUpTo_goPath⟩

/-- A path in a block of imports is quoted in the whole text. -/
theorem quoted_of_mem_blockTargets {text : List Char} {block : Match}
    (hblock : block ∈ goBlockPattern.findAll text) {f : FoundImport}
    (hf : f ∈ blockTargets block) : f.Quoted isGoQuote text := by
  rw [blockTargets] at hf
  split at hf
  next body hbody =>
    obtain ⟨item, hitem, rfl⟩ := List.mem_map.1 hf
    obtain ⟨before, after, htext, hstart, -⟩ := between_of_group? hblock hbody
    have hquoted := quoted_of_mem_targets groupsUpTo_goItemPattern hitem
    have hoffset : body.start.offset = before.length := by rw [hstart, Place.between]
    rw [hoffset, htext]
    exact hquoted.within before after
  next => cases hf

/-! ## What the patterns of a language find -/

theorem readsSome_rustPattern : ∀ g ∈ rustPattern.bodies, g.2.ReadsSome := by
  intro g hg before chars after h
  obtain rfl := List.mem_singleton.1 hg
  obtain ⟨opening, rest, rfl, -, hrest⟩ := reads_all_cons.1 h
  obtain ⟨segment, rest, rfl, ⟨start, parts, rfl, ⟨c, -, rfl⟩, -⟩, -⟩ := reads_all_cons.1 hrest
  simp

theorem readsSome_javaPattern : ∀ g ∈ javaPattern.bodies, g.2.ReadsSome := by
  intro g hg before chars after h
  obtain rfl := List.mem_singleton.1 hg
  obtain ⟨start, rest, rfl, ⟨c, -, rfl⟩, -⟩ := reads_all_cons.1 h
  simp

theorem readsSome_pythonPattern : ∀ g ∈ pythonPattern.bodies, g.2.ReadsSome := by
  intro g hg before chars after h
  obtain rfl := List.mem_singleton.1 hg
  exact List.length_pos_iff.1 h.2

theorem placed_foundIn (text : List Char) (language : Language) :
    Placed text (foundIn text language) := by
  have script {f : FoundImport} (hf : f ∈ foundIn text .javaScript) :
      f.Quoted isScriptQuote text := by
    obtain ⟨p, hp, hf⟩ := List.mem_flatMap.1 hf
    exact quoted_of_mem_targets (groupsUpTo_script hp) hf
  have go {f : FoundImport} (hf : f ∈ foundIn text .go) : f.Quoted isGoQuote text := by
    rcases List.mem_append.1 hf with hf | hf
    · exact quoted_of_mem_targets groupsUpTo_goSinglePattern hf
    · obtain ⟨block, hblock, hf⟩ := List.mem_flatMap.1 hf
      exact quoted_of_mem_blockTargets hblock hf
  cases language with
  | javaScript | typeScript => exact placed_of_quoted fun f hf => script hf
  | go => exact placed_of_quoted fun f hf => go hf
  | python => exact placed_targets readsSome_pythonPattern text
  | rust => exact placed_targets readsSome_rustPattern text
  | java => exact placed_targets readsSome_javaPattern text
  | ruby | php | cFamily | other => exact ⟨fun _ => nofun, fun _ => nofun⟩

end Imports
end CodeSurvey

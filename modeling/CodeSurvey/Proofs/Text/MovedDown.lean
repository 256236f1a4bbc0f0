import CodeSurvey.Proofs.Text.Scans
import Mathlib.Data.List.Forall2

/-!
# Texts moved down

Line feeds in front of a text move the matches of a pattern further on and change nothing else
about them, as long as nothing that the pattern reads starts with a line feed. The start of the
text is then the start of a line, where no word ends either.
-/

namespace CodeSurvey.Text
open Pattern

/-! ## Further on -/

/-- A place further on than another, with the same text after it and an alike one before it. -/
structure Place.Further (k : Nat) (a b : Place) : Prop where
  rest_eq : b.rest = a.rest
  offset_eq : b.offset = a.offset + k
  atLineStart_eq : b.atLineStart = a.atLineStart
  isWordAt_eq : isWordAt b.before = isWordAt a.before

structure Stretch.Further (k : Nat) (s t : Stretch) : Prop where
  start : s.start.Further k t.start
  stop : s.stop.Further k t.stop

def GroupsFurther (k : Nat) : List (Nat × Stretch) → List (Nat × Stretch) → Prop :=
  List.Forall₂ fun g h => h.1 = g.1 ∧ g.2.Further k h.2

structure Progress.Further (k : Nat) (s t : Progress) : Prop where
  place : s.place.Further k t.place
  groups : GroupsFurther k s.groups t.groups

structure Match.Further (k : Nat) (m n : Match) : Prop where
  whole : m.whole.Further k n.whole
  groups : GroupsFurther k m.groups n.groups

variable {k : Nat}

namespace Place

theorem Further.atWordEdge_eq {a b : Place} (h : a.Further k b) : b.atWordEdge = a.atWordEdge := by
  have hword (before : Option Char) : (before.map isWord).getD false = isWordAt before := by
    cases before <;> rfl
  rw [atWordEdge, atWordEdge, h.rest_eq, hword, hword, hword, h.isWordAt_eq]

theorem further_after (c : Char) (rest : List Char) (offset : Nat) :
    Further k ⟨some c, rest, offset + 1⟩ ⟨some c, rest, offset + k + 1⟩ :=
  ⟨rfl, Nat.add_right_comm offset k 1, rfl, rfl⟩

theorem Further.next {a b : Place} (h : a.Further k b) : a.next.Further k b.next := by
  obtain ⟨before, rest, offset⟩ := a
  obtain ⟨before', rest', offset'⟩ := b
  have hrest : rest' = rest := h.rest_eq
  have hoffset : offset' = offset + k := h.offset_eq
  subst hrest hoffset
  cases rest' with
  | nil => exact h
  | cons c rest => exact further_after c rest offset

theorem Further.runs {a b : Place} (h : a.Further k b) (accepts : Char → Bool)
    {found found' : List Place} (hfound : List.Forall₂ (Further k) found found') :
    List.Forall₂ (Further k) (runs accepts a.before a.rest a.offset found)
      (runs accepts b.before b.rest b.offset found') := by
  obtain ⟨before, rest, offset⟩ := a
  obtain ⟨before', rest', offset'⟩ := b
  have hrest : rest' = rest := h.rest_eq
  have hoffset : offset' = offset + k := h.offset_eq
  subst hrest hoffset
  dsimp only
  induction rest' generalizing before before' offset found found' with
  | nil => exact .cons h hfound
  | cons c rest ih =>
    rw [Place.runs, Place.runs]
    split
    · rw [Nat.add_right_comm]
      exact ih (.cons h hfound) _ _ _ ⟨rfl, rfl, rfl, rfl⟩
    · exact .cons h hfound

end Place

namespace Stretch
variable {s t : Stretch}

theorem Further.length_eq (h : s.Further k t) : t.length = s.length := by
  rw [length, length, h.stop.offset_eq, h.start.offset_eq, Nat.add_sub_add_right]

theorem Further.chars_eq (h : s.Further k t) : t.chars = s.chars := by
  rw [chars, chars, h.length_eq, h.start.rest_eq]

theorem Further.text_eq (h : s.Further k t) : t.text = s.text := by
  rw [text, text, h.chars_eq]

end Stretch

theorem Match.Further.group? {m n : Match} (h : m.Further k n) (index : Nat) :
    Option.Rel (Stretch.Further k) (m.group? index) (n.group? index) := by
  obtain ⟨-, hgroups⟩ := h
  rw [Match.group?, Match.group?]
  generalize m.groups = gs at hgroups
  generalize n.groups = gs' at hgroups
  induction hgroups with
  | nil => exact .none
  | @cons g g' gs gs' hg _ ih =>
    obtain ⟨hindex, hstretch⟩ := hg
    rw [List.lookup_cons, List.lookup_cons, hindex]
    split
    · exact .some hstretch
    · exact ih

namespace Pattern

/-! ## Matches further on -/

/-- Two ways to go on that come out alike, one further on than the other. -/
def GoOnAlike (k : Nat) (rest rest' : Progress → Option Progress) : Prop :=
  ∀ {s t : Progress}, s.Further k t → Option.Rel (Progress.Further k) (rest s) (rest' t)

/-- A step that comes out alike further on, however one goes on after it. -/
def StepsAlike (k : Nat)
    (step : Progress → (Progress → Option Progress) → Option Progress) : Prop :=
  ∀ {rest rest' : Progress → Option Progress}, GoOnAlike k rest rest' →
    ∀ {s t : Progress}, s.Further k t → Option.Rel (Progress.Further k) (step s rest) (step t rest')

theorem rel_cases {α : Type} {R : α → α → Prop} {x x' : Option α} (h : Option.Rel R x x') :
    (x = none ∧ x' = none) ∨ ∃ r r', x = some r ∧ x' = some r' ∧ R r r' := by
  cases h with
  | none => exact .inl ⟨rfl, rfl⟩
  | some h => exact .inr ⟨_, _, rfl, rfl, h⟩

theorem firstOf_further {rest rest' : Place → Option Progress}
    (hrest : ∀ {a b : Place}, a.Further k b → Option.Rel (Progress.Further k) (rest a) (rest' b))
    {places places' : List Place} (h : List.Forall₂ (Place.Further k) places places') :
    Option.Rel (Progress.Further k) (firstOf rest places) (firstOf rest' places') := by
  induction h with
  | nil => exact .none
  | cons hplace _ ih =>
    rw [firstOf, firstOf]
    rcases rel_cases (hrest hplace) with ⟨hnone, hnone'⟩ | ⟨r, r', hr, hr', hrel⟩
    · rw [hnone, hnone']
      exact ih
    · rw [hr, hr']
      exact .some hrel

theorem iterate_further {step : Progress → (Progress → Option Progress) → Option Progress}
    (hstep : StepsAlike k step) {rest rest' : Progress → Option Progress}
    (hrest : GoOnAlike k rest rest') (budget : Nat) :
    GoOnAlike k (iterate step rest budget) (iterate step rest' budget) := by
  induction budget with
  | zero => exact hrest
  | succ budget ih =>
    intro s t h
    have hagain : GoOnAlike k
        (fun u => if u.place.offset > s.place.offset then iterate step rest budget u else none)
        fun v => if v.place.offset > t.place.offset then iterate step rest' budget v else none := by
      intro u v huv
      simp only [huv.place.offset_eq, h.place.offset_eq, gt_iff_lt, Nat.add_lt_add_iff_right]
      split
      · exact ih huv
      · exact .none
    rw [iterate, iterate]
    rcases rel_cases (hstep hagain h) with ⟨hnone, hnone'⟩ | ⟨r, r', hr, hr', hrel⟩
    · rw [hnone, hnone']
      exact hrest h
    · rw [hr, hr']
      exact .some hrel

theorem follow_further (p : Pattern) : StepsAlike k p.follow := by
  induction p with
  | empty =>
    intro rest rest' hrest s t h
    exact hrest h
  | char accepts =>
    intro rest rest' hrest s t h
    simp only [follow, h.place.rest_eq]
    split
    · split
      · exact hrest ⟨h.place.next, h.groups⟩
      · exact .none
    · exact .none
  | run accepts least =>
    intro rest rest' hrest s t h
    have hplaces := h.place.runs accepts .nil
    simp only [follow]
    rw [← hplaces.length_eq]
    refine firstOf_further ?_ (List.forall₂_take _ hplaces)
    intro a b hab
    exact hrest ⟨hab, h.groups⟩
  | seq p q ihp ihq =>
    intro rest rest' hrest s t h
    exact ihp (fun huv => ihq hrest huv) h
  | either p q ihp ihq =>
    intro rest rest' hrest s t h
    simp only [follow]
    rcases rel_cases (ihp hrest h) with ⟨hnone, hnone'⟩ | ⟨r, r', hr, hr', hrel⟩
    · rw [hnone, hnone']
      exact ihq hrest h
    · rw [hr, hr']
      exact .some hrel
  | many p ih =>
    intro rest rest' hrest s t h
    simp only [follow, h.place.rest_eq]
    exact iterate_further ih hrest _ h
  | lineStart =>
    intro rest rest' hrest s t h
    simp only [follow, h.place.atLineStart_eq]
    split
    · exact hrest h
    · exact .none
  | wordEdge =>
    intro rest rest' hrest s t h
    simp only [follow, h.place.atWordEdge_eq]
    split
    · exact hrest h
    · exact .none
  | group index p ih =>
    intro rest rest' hrest s t h
    refine ih ?_ h
    intro u v huv
    exact hrest ⟨huv.place, .cons ⟨rfl, h.place, huv.place⟩ huv.groups⟩

variable (p : Pattern)

theorem matchAt?_further {a b : Place} (h : a.Further k b) :
    Option.Rel (Match.Further k) (p.matchAt? a) (p.matchAt? b) := by
  have hfollow := @follow_further k p some some (fun h => .some h) ⟨a, []⟩ ⟨b, []⟩ ⟨h, .nil⟩
  rw [matchAt?, matchAt?]
  rcases rel_cases hfollow with ⟨hnone, hnone'⟩ | ⟨s, t, hs, ht, hst⟩
  · rw [hnone, hnone']
    exact .none
  · rw [hs, ht]
    exact .some ⟨⟨h, hst.place⟩, hst.groups⟩

theorem find?_further {a b : Place} (h : a.Further k b) :
    Option.Rel (Match.Further k) (p.find? a) (p.find? b) := by
  obtain ⟨before, rest, offset⟩ := a
  obtain ⟨before', rest', offset'⟩ := b
  have hrest : rest' = rest := h.rest_eq
  have hoffset : offset' = offset + k := h.offset_eq
  subst hrest hoffset
  rw [find?, find?]
  dsimp only
  induction rest' generalizing before before' offset with
  | nil => exact matchAt?_further p h
  | cons c rest ih =>
    rw [findIn?, findIn?]
    rcases rel_cases (matchAt?_further p h) with ⟨hnone, hnone'⟩ | ⟨m, n, hm, hn, hmn⟩
    · rw [hnone, hnone', Nat.add_right_comm]
      exact ih _ _ _ ⟨rfl, rfl, rfl, rfl⟩
    · rw [hm, hn]
      exact .some hmn

variable {p}

theorem findAllFrom_further (hp : p.ReadsSome) (budget : Nat) (last last' : Option Nat)
    {before before' rest : List Char}
    (h : Place.Further k (.between before rest) (.between before' rest)) :
    List.Forall₂ (Match.Further k) (p.findAllFrom budget last (.between before rest))
      (p.findAllFrom budget last' (.between before' rest)) := by
  induction budget generalizing last last' before before' rest with
  | zero => exact .nil
  | succ budget ih =>
    rw [findAllFrom, findAllFrom, findNext?_eq hp, findNext?_eq hp]
    rcases rel_cases (find?_further p h) with ⟨hnone, hnone'⟩ | ⟨m, n, hm, hn, hmn⟩
    · rw [hnone, hnone']
      exact .nil
    · obtain ⟨read, after, hleaves⟩ := leaves_of_find? hp hm
      obtain ⟨read', after', hleaves'⟩ := leaves_of_find? hp hn
      have hstop := hmn.whole.stop
      rw [hleaves.stop_eq, hleaves'.stop_eq] at hstop
      obtain rfl : after' = after := hstop.rest_eq
      rw [hm, hn]
      dsimp only
      rw [hleaves.stop_eq, hleaves'.stop_eq]
      exact .cons hmn (ih _ _ hstop)

/-! ## How readings start -/

def mayReadNothing : Pattern → Bool
  | empty | many _ | lineStart | wordEdge => true
  | char _ => false
  | run _ least => least == 0
  | seq p q => mayReadNothing p && mayReadNothing q
  | either p q => mayReadNothing p || mayReadNothing q
  | group _ p => mayReadNothing p

def mayStartWith (c : Char) : Pattern → Bool
  | empty | lineStart | wordEdge => false
  | char accepts | run accepts _ => accepts c
  | seq p q => mayStartWith c p || (mayReadNothing p && mayStartWith c q)
  | either p q => mayStartWith c p || mayStartWith c q
  | many p | group _ p => mayStartWith c p

theorem mayReadNothing_of_reads {before after : List Char} (h : p.Reads before [] after) :
    p.mayReadNothing := by
  induction p generalizing before after with
  | empty | many | lineStart | wordEdge => rfl
  | char accepts =>
    obtain ⟨c, -, hnone⟩ := h
    cases hnone
  | run accepts least =>
    obtain rfl : least = 0 := Nat.le_zero.1 h.2
    rfl
  | seq p q ihp ihq =>
    obtain ⟨xs, ys, hnone, hp, hq⟩ := h
    obtain ⟨rfl, rfl⟩ := List.append_eq_nil_iff.1 hnone.symm
    rw [mayReadNothing, ihp hp, ihq hq]
    rfl
  | either p q ihp ihq =>
    rw [mayReadNothing, Bool.or_eq_true]
    exact h.imp ihp ihq
  | group index p ih => exact ih h

theorem mayStartWith_of_reads {c : Char} {before chars after : List Char}
    (h : p.Reads before (c :: chars) after) : p.mayStartWith c := by
  induction p generalizing before chars after with
  | empty => cases h
  | lineStart | wordEdge => cases h.1
  | char accepts =>
    obtain ⟨d, hd, hone⟩ := h
    obtain ⟨rfl, -⟩ := List.cons.inj hone
    exact hd
  | run accepts least => exact List.all_eq_true.1 h.1 c List.mem_cons_self
  | seq p q ihp ihq =>
    obtain ⟨xs, ys, hsplit, hp, hq⟩ := h
    rw [mayStartWith, Bool.or_eq_true, Bool.and_eq_true]
    cases xs with
    | nil =>
      obtain rfl : ys = c :: chars := hsplit.symm
      exact .inr ⟨mayReadNothing_of_reads hp, ihq hq⟩
    | cons d xs =>
      obtain ⟨rfl, -⟩ := List.cons.inj hsplit
      exact .inl (ihp hp)
  | either p q ihp ihq =>
    rw [mayStartWith, Bool.or_eq_true]
    exact h.imp ihp ihq
  | many p ih =>
    rw [Reads] at h
    generalize hread : c :: chars = read at h
    induction h with
    | stop => cases hread
    | @again before xs ys after hp hrest ihagain =>
      cases xs with
      | nil => exact ihagain hread
      | cons d xs =>
        obtain ⟨rfl, -⟩ := List.cons.inj hread
        exact ih hp
  | group index p ih => exact ih h

/-- The pattern reads something, and nothing that starts with a line feed. -/
def StartsInLine (p : Pattern) : Prop := p.mayReadNothing = false ∧ p.mayStartWith '\n' = false

instance : DecidablePred StartsInLine := fun _ => inferInstanceAs (Decidable (_ ∧ _))

theorem readsSome_of_mayReadNothing (h : p.mayReadNothing = false) : p.ReadsSome := by
  intro before chars after hreads hchars
  subst hchars
  have hnothing := mayReadNothing_of_reads hreads
  rw [h] at hnothing
  cases hnothing

theorem StartsInLine.readsSome (h : p.StartsInLine) : p.ReadsSome :=
  readsSome_of_mayReadNothing h.1

theorem StartsInLine.not_begins (h : p.StartsInLine) {before rest : List Char} :
    ¬ p.Begins ⟨before, '\n' :: rest⟩ := by
  intro ⟨chars, after, hsplit, hreads⟩
  obtain ⟨c, chars, rfl⟩ := List.exists_cons_of_ne_nil (h.readsSome hreads)
  obtain ⟨rfl, -⟩ := List.cons.inj hsplit
  have hstart := mayStartWith_of_reads hreads
  rw [h.2] at hstart
  cases hstart

theorem count_nil (hp : p.ReadsSome) : p.count [] = 0 := by
  by_contra hcount
  have hin := count_pos_iff.1 (Nat.pos_of_ne_zero hcount)
  obtain ⟨before, chars, after, hnone, hreads⟩ := isIn_iff.1 hin
  obtain ⟨hfront, -⟩ := List.append_eq_nil_iff.1 hnone.symm
  exact hp hreads (List.append_eq_nil_iff.1 hfront).2

/-! ## Line feeds in front -/

theorem StartsInLine.find?_eq (h : p.StartsInLine) (before text : List Char) (k : Nat) :
    p.find? (.between before (List.replicate k '\n' ++ text)) =
      p.find? (.between (before ++ List.replicate k '\n') text) := by
  induction k generalizing before with
  | zero => simp
  | succ k ih =>
    have hnone : p.matchAt? (.between before ('\n' :: (List.replicate k '\n' ++ text))) = none := by
      rw [← Option.not_isSome_iff_eq_none]
      exact fun hsome => h.not_begins ((matchAt?_isSome_iff ⟨before, _⟩).1 hsome)
    have hlater := ih (before ++ ['\n'])
    rw [List.append_assoc] at hlater
    rw [List.replicate_succ, List.cons_append, find?, Place.between, findIn?]
    rw [Place.between] at hnone
    rw [hnone]
    simpa [find?, Place.between] using hlater

theorem findAllFrom_budget (hp : p.ReadsSome) {before rest : List Char} {budget budget' : Nat}
    (h : rest.length < budget) (h' : rest.length < budget') (last last' : Option Nat) :
    p.findAllFrom budget last (.between before rest) =
      p.findAllFrom budget' last' (.between before rest) := by
  induction budget generalizing before rest budget' last last' with
  | zero => cases h
  | succ budget ih =>
    cases budget' with
    | zero => cases h'
    | succ budget' =>
      rw [findAllFrom, findAllFrom, findNext?_eq hp, findNext?_eq hp]
      cases hm : p.find? (.between before rest) with
      | none => rfl
      | some m =>
        obtain ⟨read, after, hsplit, hstop, hpos, hle, -⟩ := leaves_of_find? hp hm
        rw [hsplit, List.length_append] at h h'
        dsimp only
        rw [hstop]
        exact congrArg (m :: ·) (ih (by omega) (by omega) _ _)

/-- Line feeds in front of a text move the matches further on, and that is all. -/
theorem StartsInLine.findAll_further (h : p.StartsInLine) (k : Nat) (text : List Char) :
    List.Forall₂ (Match.Further k) (p.findAll text)
      (p.findAll (List.replicate k '\n' ++ text)) := by
  have hp : p.ReadsSome := h.readsSome
  have hplace : Place.Further k (.between [] text) (.between (List.replicate k '\n') text) := by
    refine ⟨rfl, by simp [Place.between], ?_, ?_⟩
    · cases k with
      | zero => rfl
      | succ k => simp [Place.between, Place.atLineStart, List.getLast?_replicate]
    · cases k with
      | zero => rfl
      | succ k =>
        have hline : isWord '\n' = false := by decide
        simp [Place.between, isWordAt, List.getLast?_replicate, hline]
  have hskip : p.findAll (List.replicate k '\n' ++ text) =
      p.findAllFrom ((List.replicate k '\n' ++ text).length + 1) none
        (.between (List.replicate k '\n') text) := by
    have hfind := h.find?_eq [] text k
    rw [findAll, findAllFrom, findAllFrom, findNext?_eq hp]
    rw [show Place.start (List.replicate k '\n' ++ text) =
      .between [] (List.replicate k '\n' ++ text) from rfl, findNext?_eq hp, hfind]
    rfl
  have hbudget : text.length < (List.replicate k '\n' ++ text).length + 1 := by
    rw [List.length_append]
    omega
  rw [hskip, findAllFrom_budget hp hbudget (Nat.lt_succ_self text.length) none none]
  exact findAllFrom_further hp _ none none hplace

theorem StartsInLine.count_eq (h : p.StartsInLine) (k : Nat) (text : List Char) :
    p.count (List.replicate k '\n' ++ text) = p.count text :=
  (h.findAll_further k text).length_eq.symm

end Pattern
end CodeSurvey.Text

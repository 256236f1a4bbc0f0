import CodeSurvey.Text.Pattern

/-!
# Matches

What a match of a pattern is, apart from how one is searched for. Every match that the search finds
is one, and the matches found in a text follow one another in it.
-/

namespace CodeSurvey.Text

/-! ## Places -/

namespace Place

/-- Reading some characters at a place leads to another. -/
structure Leads (a : Place) (chars : List Char) (b : Place) : Prop where
  rest_eq : a.rest = chars ++ b.rest
  offset_eq : b.offset = a.offset + chars.length
  before_eq : b.before = chars.getLast?.or a.before

def Reaches (a b : Place) : Prop := ∃ chars, a.Leads chars b

theorem Leads.trans {a b c : Place} {xs ys : List Char} (h : a.Leads xs b) (h' : b.Leads ys c) :
    a.Leads (xs ++ ys) c := by
  refine ⟨by rw [h.rest_eq, h'.rest_eq, List.append_assoc], ?_, ?_⟩
  · rw [List.length_append, h'.offset_eq, h.offset_eq]
    omega
  · rw [h'.before_eq, h.before_eq, List.getLast?_append, Option.or_assoc]

theorem Leads.refl (a : Place) : a.Leads [] a := ⟨rfl, rfl, rfl⟩

theorem leads_cons (before : Option Char) (c : Char) (rest : List Char) (offset : Nat) :
    Leads ⟨before, c :: rest, offset⟩ [c] ⟨some c, rest, offset + 1⟩ := ⟨rfl, rfl, rfl⟩

theorem Reaches.refl (a : Place) : a.Reaches a := ⟨[], .refl a⟩

theorem Reaches.trans {a b c : Place} (h : a.Reaches b) (h' : b.Reaches c) : a.Reaches c := by
  obtain ⟨xs, h⟩ := h
  obtain ⟨ys, h'⟩ := h'
  exact ⟨xs ++ ys, h.trans h'⟩

theorem Reaches.offset_le {a b : Place} (h : a.Reaches b) : a.offset ≤ b.offset := by
  obtain ⟨chars, h⟩ := h
  rw [h.offset_eq]
  exact Nat.le_add_right a.offset chars.length

theorem reaches_next (a : Place) : a.Reaches a.next := by
  obtain ⟨before, rest, offset⟩ := a
  cases rest with
  | nil => exact .refl _
  | cons c rest => exact ⟨[c], leads_cons before c rest offset⟩

/-- The places reached by reading accepted characters, the nearest first. -/
def steps (accepts : Char → Bool) : Option Char → List Char → Nat → List Place
  | before, [], offset => [⟨before, [], offset⟩]
  | before, c :: rest, offset =>
    ⟨before, c :: rest, offset⟩ ::
      if accepts c then steps accepts (some c) rest (offset + 1) else []

theorem runs_eq (accepts : Char → Bool) (before : Option Char) (rest : List Char) (offset : Nat)
    (found : List Place) :
    runs accepts before rest offset found =
      (steps accepts before rest offset).reverse ++ found := by
  induction rest generalizing before offset found with
  | nil => rfl
  | cons c rest ih =>
    rw [runs, steps]
    split
    · rw [ih, List.reverse_cons, List.append_assoc]
      rfl
    · rfl

theorem mem_drop_steps {accepts : Char → Bool} {before : Option Char} {rest : List Char}
    {offset least : Nat} {q : Place} (h : q ∈ (steps accepts before rest offset).drop least) :
    ∃ chars, Leads ⟨before, rest, offset⟩ chars q ∧ chars.all accepts ∧ least ≤ chars.length := by
  induction rest generalizing before offset least with
  | nil =>
    cases least with
    | zero =>
      obtain rfl := List.mem_singleton.1 h
      exact ⟨[], .refl _, rfl, Nat.le_refl _⟩
    | succ least => simp [steps] at h
  | cons c rest ih =>
    rw [steps] at h
    have step (least' : Nat) (hc : accepts c)
        (h : q ∈ (steps accepts (some c) rest (offset + 1)).drop least') :
        ∃ chars, Leads ⟨before, c :: rest, offset⟩ chars q ∧ chars.all accepts ∧
          least' + 1 ≤ chars.length := by
      obtain ⟨chars, hleads, hall, hleast⟩ := ih h
      refine ⟨c :: chars, (leads_cons before c rest offset).trans hleads, ?_, ?_⟩
      · rw [List.all_cons, hc, hall]
        rfl
      · exact Nat.succ_le_succ hleast
    cases least with
    | zero =>
      rcases List.mem_cons.1 h with rfl | h
      · exact ⟨[], .refl _, rfl, Nat.le_refl _⟩
      · split at h
        next hc =>
          obtain ⟨chars, hleads, hall, -⟩ := step 0 hc h
          exact ⟨chars, hleads, hall, Nat.zero_le _⟩
        next => cases h
    | succ least =>
      rw [List.drop_succ_cons] at h
      split at h
      next hc => exact step least hc h
      next => simp at h

end Place

namespace Stretch

theorem toList_text (s : Stretch) : s.text.toList = s.chars := String.toList_ofList

theorem chars_of_leads {a b : Place} {chars : List Char} (h : a.Leads chars b) :
    (Stretch.mk a b).chars = chars := by
  have hlength : (Stretch.mk a b).length = chars.length := by
    rw [length, h.offset_eq]
    exact Nat.add_sub_cancel_left a.offset chars.length
  rw [Stretch.chars, hlength, h.rest_eq, List.take_left]

theorem rest_eq {a b : Place} (h : a.Reaches b) : a.rest = (Stretch.mk a b).chars ++ b.rest := by
  obtain ⟨chars, h⟩ := h
  rw [chars_of_leads h, h.rest_eq]

theorem chars_append {a b c : Place} (h : a.Reaches b) (h' : b.Reaches c) :
    (Stretch.mk a c).chars = (Stretch.mk a b).chars ++ (Stretch.mk b c).chars := by
  obtain ⟨xs, h⟩ := h
  obtain ⟨ys, h'⟩ := h'
  rw [chars_of_leads h, chars_of_leads h', chars_of_leads (h.trans h')]

end Stretch

namespace Pattern

/-! ## What a match is -/

/-- A pattern takes what has been read before it to what has been read after it. -/
inductive Matches : Pattern → Progress → Progress → Prop where
  | empty (s : Progress) : Matches empty s s
  | char {accepts : Char → Bool} {s : Progress} {c : Char} {rest : List Char} :
      s.place.rest = c :: rest → accepts c →
      Matches (char accepts) s { s with place := s.place.next }
  | run {accepts : Char → Bool} {least : Nat} {s : Progress} {chars : List Char} {q : Place} :
      s.place.Leads chars q → chars.all accepts → least ≤ chars.length →
      Matches (run accepts least) s { s with place := q }
  | seq {p q : Pattern} {s t u : Progress} :
      Matches p s t → Matches q t u → Matches (seq p q) s u
  | left {p q : Pattern} {s t : Progress} : Matches p s t → Matches (either p q) s t
  | right {p q : Pattern} {s t : Progress} : Matches q s t → Matches (either p q) s t
  | stop {p : Pattern} (s : Progress) : Matches (many p) s s
  | again {p : Pattern} {s t u : Progress} :
      Matches p s t → Matches (many p) t u → Matches (many p) s u
  | lineStart {s : Progress} : s.place.atLineStart → Matches lineStart s s
  | wordEdge {s : Progress} : s.place.atWordEdge → Matches wordEdge s s
  | group {index : Nat} {p : Pattern} {s t : Progress} :
      Matches p s t →
      Matches (group index p) s { t with groups := (index, ⟨s.place, t.place⟩) :: t.groups }

def IsMatch (p : Pattern) (m : Match) : Prop :=
  Matches p ⟨m.whole.start, []⟩ ⟨m.whole.stop, m.groups⟩

theorem matches_seq {p q : Pattern} {s u : Progress} :
    Matches (seq p q) s u ↔ ∃ t, Matches p s t ∧ Matches q t u := by
  constructor
  · rintro ⟨⟩
    exact ⟨_, ‹_›, ‹_›⟩
  · rintro ⟨t, h₁, h₂⟩
    exact .seq h₁ h₂

theorem matches_group {index : Nat} {p : Pattern} {s u : Progress} :
    Matches (group index p) s u ↔
      ∃ t, Matches p s t ∧ u = { t with groups := (index, ⟨s.place, t.place⟩) :: t.groups } := by
  constructor
  · rintro ⟨⟩
    exact ⟨_, ‹_›, rfl⟩
  · rintro ⟨t, h, rfl⟩
    exact .group h

theorem Matches.reaches {p : Pattern} {s t : Progress} (h : Matches p s t) :
    s.place.Reaches t.place := by
  induction h with
  | empty s => exact .refl _
  | char => exact Place.reaches_next _
  | run h => exact ⟨_, h⟩
  | seq _ _ ih₁ ih₂ => exact ih₁.trans ih₂
  | left _ ih => exact ih
  | right _ ih => exact ih
  | stop s => exact .refl _
  | again _ _ ih₁ ih₂ => exact ih₁.trans ih₂
  | lineStart => exact .refl _
  | wordEdge => exact .refl _
  | group _ ih => exact ih

def isPlain : Pattern → Bool
  | empty | char _ | run _ _ | lineStart | wordEdge => true
  | seq p q | either p q => isPlain p && isPlain q
  | many p => isPlain p
  | group _ _ => false

theorem Matches.groups_eq {p : Pattern} {s t : Progress} (h : Matches p s t) (hp : p.isPlain) :
    t.groups = s.groups := by
  induction h with
  | empty | char | run | stop | lineStart | wordEdge => rfl
  | seq _ _ ih₁ ih₂ =>
    rw [isPlain, Bool.and_eq_true] at hp
    rw [ih₂ hp.2, ih₁ hp.1]
  | left _ ih =>
    rw [isPlain, Bool.and_eq_true] at hp
    exact ih hp.1
  | right _ ih =>
    rw [isPlain, Bool.and_eq_true] at hp
    exact ih hp.2
  | again _ _ ih₁ ih₂ => rw [ih₂ hp, ih₁ hp]
  | group => cases hp

/-! ## What is found -/

theorem firstOf_eq_some {rest : Place → Option Progress} {places : List Place} {r : Progress}
    (h : firstOf rest places = some r) : ∃ q ∈ places, rest q = some r := by
  induction places with
  | nil => cases h
  | cons p places ih =>
    rw [firstOf] at h
    split at h
    next r' hr =>
      cases h
      exact ⟨p, List.mem_cons_self, hr⟩
    next =>
      obtain ⟨q, hq, hr⟩ := ih h
      exact ⟨q, List.mem_cons_of_mem p hq, hr⟩

theorem iterate_sound {p : Pattern}
    {step : Progress → (Progress → Option Progress) → Option Progress}
    (hstep : ∀ {s rest r}, step s rest = some r → ∃ t, Matches p s t ∧ rest t = some r)
    {rest : Progress → Option Progress} {budget : Nat} {s r : Progress}
    (h : iterate step rest budget s = some r) : ∃ t, Matches (many p) s t ∧ rest t = some r := by
  induction budget generalizing s r with
  | zero => exact ⟨s, .stop s, h⟩
  | succ budget ih =>
    rw [iterate] at h
    split at h
    next r' hr =>
      cases h
      obtain ⟨t, hst, ht⟩ := hstep hr
      split at ht
      · obtain ⟨u, htu, hu⟩ := ih ht
        exact ⟨u, .again hst htu, hu⟩
      · cases ht
    next => exact ⟨s, .stop s, h⟩

/-- What follows a pattern goes on from where some match of the pattern ends. -/
theorem follow_sound {p : Pattern} {s r : Progress} {rest : Progress → Option Progress}
    (h : p.follow s rest = some r) : ∃ t, Matches p s t ∧ rest t = some r := by
  induction p generalizing s r rest with
  | empty => exact ⟨s, .empty s, h⟩
  | char accepts =>
    rw [follow] at h
    split at h
    next c _ hrest =>
      split at h
      next hc => exact ⟨_, .char hrest hc, h⟩
      next => cases h
    next => cases h
  | run accepts least =>
    rw [follow] at h
    obtain ⟨q, hq, hr⟩ := firstOf_eq_some h
    rw [Place.runs_eq, List.append_nil, List.length_reverse, List.take_reverse,
      List.mem_reverse] at hq
    by_cases hleast : least ≤ (Place.steps accepts s.place.before s.place.rest
        s.place.offset).length
    · rw [Nat.sub_sub_self hleast] at hq
      obtain ⟨chars, hleads, hall, hleast⟩ := Place.mem_drop_steps hq
      exact ⟨_, .run hleads hall hleast, hr⟩
    · rw [Nat.sub_eq_zero_of_le (Nat.le_of_not_le hleast), Nat.sub_zero, List.drop_length] at hq
      cases hq
  | seq p q ihp ihq =>
    obtain ⟨t, hst, ht⟩ := ihp h
    obtain ⟨u, htu, hu⟩ := ihq ht
    exact ⟨u, .seq hst htu, hu⟩
  | either p q ihp ihq =>
    rw [follow] at h
    split at h
    next r' hr =>
      cases h
      obtain ⟨t, hst, ht⟩ := ihp hr
      exact ⟨t, .left hst, ht⟩
    next =>
      obtain ⟨t, hst, ht⟩ := ihq h
      exact ⟨t, .right hst, ht⟩
  | many p ih => exact iterate_sound ih h
  | lineStart =>
    rw [follow] at h
    split at h
    next hs => exact ⟨s, .lineStart hs, h⟩
    next => cases h
  | wordEdge =>
    rw [follow] at h
    split at h
    next hs => exact ⟨s, .wordEdge hs, h⟩
    next => cases h
  | group index p ih =>
    obtain ⟨t, hst, ht⟩ := ih h
    exact ⟨_, .group hst, ht⟩

variable {p : Pattern} {m : Match}

theorem isMatch_of_matchAt? {place : Place} (h : p.matchAt? place = some m) :
    p.IsMatch m ∧ m.whole.start = place := by
  rw [matchAt?, Option.map_eq_some_iff] at h
  obtain ⟨r, hr, rfl⟩ := h
  obtain ⟨t, hmatch, ht⟩ := follow_sound hr
  cases ht
  exact ⟨hmatch, rfl⟩

theorem isMatch_of_findIn? {before : Option Char} {rest : List Char} {offset : Nat}
    (h : p.findIn? before rest offset = some m) :
    p.IsMatch m ∧ Place.Reaches ⟨before, rest, offset⟩ m.whole.start := by
  induction rest generalizing before offset with
  | nil =>
    obtain ⟨hmatch, hstart⟩ := isMatch_of_matchAt? h
    exact ⟨hmatch, hstart ▸ .refl _⟩
  | cons c rest ih =>
    rw [findIn?] at h
    split at h
    next m' hm =>
      cases h
      obtain ⟨hmatch, hstart⟩ := isMatch_of_matchAt? hm
      exact ⟨hmatch, hstart ▸ .refl _⟩
    next =>
      obtain ⟨hmatch, hreaches⟩ := ih h
      exact ⟨hmatch, .trans ⟨[c], Place.leads_cons before c rest offset⟩ hreaches⟩

theorem isMatch_of_find? {place : Place} (h : p.find? place = some m) :
    p.IsMatch m ∧ place.Reaches m.whole.start := isMatch_of_findIn? h

theorem isMatch_of_findNext? {last : Option Nat} {place : Place}
    (h : p.findNext? last place = some m) : p.IsMatch m ∧ place.Reaches m.whole.start := by
  rw [findNext?] at h
  split at h
  next m' hm =>
    split at h
    · split at h
      · cases h
      · obtain ⟨hmatch, hreaches⟩ := isMatch_of_find? h
        exact ⟨hmatch, place.reaches_next.trans hreaches⟩
    · cases h
      exact isMatch_of_find? hm
  next => cases h

def InTurn (p : Pattern) : Place → List Match → Prop
  | _, [] => True
  | place, m :: ms => place.Reaches m.whole.start ∧ p.IsMatch m ∧ InTurn p m.whole.stop ms

theorem inTurn_findAllFrom (p : Pattern) (budget : Nat) (last : Option Nat) (place : Place) :
    p.InTurn place (p.findAllFrom budget last place) := by
  induction budget generalizing last place with
  | zero => trivial
  | succ budget ih =>
    rw [findAllFrom]
    split
    next m hm =>
      obtain ⟨hmatch, hreaches⟩ := isMatch_of_findNext? hm
      exact ⟨hreaches, hmatch, ih _ _⟩
    next => trivial

/-! ## Replacing matches -/

section Replacing
variable {R : List Char → List Char → Prop} {replacement : Match → List Char}

/-- A relation that goes through appending relates the whole texts if it relates each replacement to
its match. -/
theorem splice_related (hrefl : ∀ chars, R chars chars)
    (happend : ∀ {a b c d : List Char}, R a b → R c d → R (a ++ c) (b ++ d))
    (hkeep : ∀ m, p.IsMatch m → R (replacement m) m.whole.chars) {place : Place} {ms : List Match}
    (h : p.InTurn place ms) : R (splice replacement place ms) place.rest := by
  induction ms generalizing place with
  | nil => exact hrefl place.rest
  | cons m ms ih =>
    obtain ⟨hreaches, hmatch, hturn⟩ := h
    have hreplaced := happend (hrefl (Stretch.mk place m.whole.start).chars) (hkeep m hmatch)
    have hall := happend hreplaced (ih hturn)
    rw [Stretch.rest_eq hreaches, Stretch.rest_eq hmatch.reaches, ← List.append_assoc]
    exact hall

theorem replaceAll_related (hrefl : ∀ chars, R chars chars)
    (happend : ∀ {a b c d : List Char}, R a b → R c d → R (a ++ c) (b ++ d))
    (hkeep : ∀ m, p.IsMatch m → R (replacement m) m.whole.chars) (text : List Char) :
    R (p.replaceAll replacement text) text :=
  splice_related hrefl happend hkeep (inTurn_findAllFrom p _ none (.start text))

end Replacing

end Pattern
end CodeSurvey.Text

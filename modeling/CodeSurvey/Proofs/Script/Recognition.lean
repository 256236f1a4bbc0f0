import CodeSurvey.Proofs.Script.Derivation
import CodeSurvey.Proofs.Script.Subtrees

/-!
# Recognition

Finding out whether a grammar admits a tree, from the leaves up: each tree is marked with the
names of the rules it can stand for, and a row of marked trees is then read along a rule. What is
recognised has a derivation.
-/

namespace CodeSurvey.Parsing.Grammar
open Script

/-- A tree with the names of rules it can stand for. -/
abbrev Marked := SyntaxTree × List String

def readToken (token : Token) (c : Context) (row : List Marked) : List (List Marked) :=
  if (c.display token.display).isVisible then
    match row with
    | (t, _) :: rest => if c.admits token.display t && t.children.isEmpty then [rest] else []
    | [] => []
  else [row]

def readNode (d : Definition) (c : Context) (row : List Marked) : List (List Marked) :=
  match row with
  | (t, names) :: rest => if c.admits d.display t && names.contains d.name then [rest] else []
  | [] => []

/-- What may be left of a row once a part of a rule has been read. -/
def readRow (g : Grammar) : Nat → Context → Rule → List Marked → List (List Marked)
  | 0, _, _, _ => []
  | fuel + 1, c, rule, row =>
    match g.token? rule with
    | some token => readToken token c row
    | none =>
      match rule with
      | .blank => [row]
      | .lit _ => []
      | .ref name =>
        match g.rule? name with
        | none => []
        | some d =>
          if d.inlined then readRow g fuel c.inline d.rule row
          else if (c.display d.display).isVisible then readNode d c row
          else readRow g fuel c.below d.rule row
      | .seq [] => [row]
      | .seq (first :: rest) => (readRow g fuel c first row).flatMap (readRow g fuel c (.seq rest))
      | .choice [] => []
      | .choice (first :: rest) => readRow g fuel c first row ++ readRow g fuel c (.choice rest) row
      | .many repeated =>
        if c.part.kind.isNone then
          row :: ((readRow g fuel c.below repeated row).filter fun left =>
            left.length < row.length).flatMap (readRow g fuel c (.many repeated))
        else [row]
      | .field name inner => readRow g fuel (c.inField name) inner row
      | .shownAs kind inner => readRow g fuel (c.shownAs kind) inner row
      | .ranked _ _ inner | .favoured _ inner => readRow g fuel c inner row

def builds (g : Grammar) (children : List Marked) (d : Definition) : Bool :=
  let row := children.filter fun m => !m.1.info.extra
  !d.inlined && (children.all fun m => !m.1.info.extra || g.isExtra m.1) &&
    (readRow g (100 + 4 * row.length) .plain d.rule row).any List.isEmpty

mutual

def standsFor (g : Grammar) : SyntaxTree → List String
  | .node info children =>
    let rules := g.rules.filter fun d => d.display.kind == info.kind
    ((rules.filterMap fun d => g.rule? d.name).filter (builds g (markAll g children))).map
      Definition.name

def markAll (g : Grammar) : List SyntaxTree → List Marked
  | [] => []
  | t :: rest => (t, standsFor g t) :: markAll g rest

end

def recognises (g : Grammar) (t : SyntaxTree) : Bool :=
  match g.rules.head? with
  | some d => (readRow g 100 .plain (.ref d.name) [(t, standsFor g t)]).any List.isEmpty
  | none => false

/-! ## What is recognised is derived -/

variable {g : Grammar}

theorem rule?_name {name : String} {d : Definition} (h : g.rule? name = some d) :
    d.name = name := by
  rw [rule?] at h
  have hname := List.find?_some h
  exact beq_iff_eq.1 hname

structure BuiltBy (g : Grammar) (name : String) (t : SyntaxTree) : Prop where
  row : ∃ d, g.rule? name = some d ∧ d.inlined = false ∧ Yields g .plain d.rule t.ownChildren
  extras : ∀ e ∈ t.children, e.info.extra → g.isExtra e

def RightlyMarked (g : Grammar) (row : List Marked) : Prop :=
  ∀ m ∈ row, ∀ name ∈ m.2, BuiltBy g name m.1

theorem RightlyMarked.of_append {front rest : List Marked}
    (h : RightlyMarked g (front ++ rest)) : RightlyMarked g rest := by
  intro m hm
  exact h m (List.mem_append_right front hm)

/-- What was read in front of the rest. -/
def Reads (g : Grammar) (c : Context) (rule : Rule) (row rest : List Marked) : Prop :=
  ∃ front, row = front ++ rest ∧ Yields g c rule (front.map Prod.fst)

theorem readToken_sound {token : Token} {c : Context} {rule : Rule} {row rest : List Marked}
    (found : g.token? rule = some token) (h : rest ∈ readToken token c row) :
    Reads g c rule row rest := by
  rw [readToken.eq_def] at h
  split at h
  next shown =>
    cases row with
    | nil => simp at h
    | cons m row =>
      obtain ⟨t, names⟩ := m
      simp only [Bool.and_eq_true, List.isEmpty_iff] at h
      split at h
      next hfit =>
        obtain rfl := List.mem_singleton.1 h
        exact ⟨[(t, names)], rfl, .token found shown hfit.1 hfit.2⟩
      next => simp at h
  next hidden =>
    obtain rfl := List.mem_singleton.1 h
    exact ⟨[], rfl, .hiddenToken found (Bool.eq_false_iff.2 hidden)⟩

theorem readNode_sound {d : Definition} {c : Context} {name : String} {row rest : List Marked}
    (found : g.rule? name = some d) (shown : (c.display d.display).isVisible)
    (marked : RightlyMarked g row) (h : rest ∈ readNode d c row) :
    Reads g c (.ref name) row rest := by
  cases row with
  | nil => simp [readNode] at h
  | cons m row =>
    obtain ⟨t, names⟩ := m
    simp only [readNode, Bool.and_eq_true, List.contains_iff_mem] at h
    split at h
    next hfit =>
      obtain rfl := List.mem_singleton.1 h
      have built := marked (t, names) List.mem_cons_self d.name hfit.2
      obtain ⟨d', found', whole, hrow⟩ := built.row
      rw [rule?_name found, found, Option.some_inj] at found'
      subst found'
      exact ⟨[(t, names)], rfl, .node found whole shown hfit.1 hrow built.extras⟩
    next => simp at h

theorem readRow_sound {fuel : Nat} {c : Context} {rule : Rule} {row rest : List Marked}
    (marked : RightlyMarked g row) (h : rest ∈ readRow g fuel c rule row) :
    Reads g c rule row rest := by
  induction fuel generalizing c rule row rest with
  | zero => simp [readRow] at h
  | succ fuel ih =>
    rw [readRow.eq_def] at h
    dsimp only at h
    split at h
    next token found => exact readToken_sound found h
    next htoken =>
      have both {c₁ c₂ : Context} {r₁ r₂ : Rule} {mid : List Marked}
          (h₁ : mid ∈ readRow g fuel c₁ r₁ row) (h₂ : rest ∈ readRow g fuel c₂ r₂ mid) :
          ∃ ts us, row = ts ++ (us ++ rest) ∧ Yields g c₁ r₁ (ts.map Prod.fst) ∧
            Yields g c₂ r₂ (us.map Prod.fst) := by
        obtain ⟨ts, rfl, hts⟩ := ih marked h₁
        obtain ⟨us, rfl, hus⟩ := ih marked.of_append h₂
        exact ⟨ts, us, rfl, hts, hus⟩
      cases rule with
      | blank =>
        obtain rfl := List.mem_singleton.1 h
        exact ⟨[], rfl, .blank⟩
      | lit text => simp at h
      | ref name =>
        cases found : g.rule? name with
        | none => simp [found] at h
        | some d =>
          simp only [found] at h
          split at h
          next parts =>
            obtain ⟨ts, rfl, hts⟩ := ih marked h
            exact ⟨ts, rfl, .inlined found parts hts⟩
          next whole =>
            split at h
            next shown => exact readNode_sound found shown marked h
            next hidden =>
              obtain ⟨ts, rfl, hts⟩ := ih marked h
              exact ⟨ts, rfl, .hiddenNode found (Bool.eq_false_iff.2 whole)
                (Bool.eq_false_iff.2 hidden) hts⟩
      | seq rules =>
        cases rules with
        | nil =>
          obtain rfl := List.mem_singleton.1 h
          exact ⟨[], rfl, .seqNil⟩
        | cons first rules =>
          obtain ⟨mid, h₁, h₂⟩ := List.mem_flatMap.1 h
          obtain ⟨ts, us, rfl, hts, hus⟩ := both h₁ h₂
          exact ⟨ts ++ us, by simp, by simpa using .seqCons hts hus⟩
      | choice rules =>
        cases rules with
        | nil => simp at h
        | cons first rules =>
          rcases List.mem_append.1 h with h | h
          · obtain ⟨ts, rfl, hts⟩ := ih marked h
            exact ⟨ts, rfl, .choiceHead hts⟩
          · obtain ⟨ts, rfl, hts⟩ := ih marked h
            exact ⟨ts, rfl, .choiceTail hts⟩
      | many repeated =>
        simp only [Option.isNone_iff_eq_none] at h
        split at h
        next unnamed =>
          rcases List.mem_cons.1 h with rfl | h
          · exact ⟨[], rfl, .manyNil⟩
          · obtain ⟨mid, h₁, h₂⟩ := List.mem_flatMap.1 h
            obtain ⟨ts, us, rfl, hts, hus⟩ := both (List.mem_filter.1 h₁).1 h₂
            exact ⟨ts ++ us, by simp, by simpa using .manyCons unnamed hts hus⟩
        next =>
          obtain rfl := List.mem_singleton.1 h
          exact ⟨[], rfl, .manyNil⟩
      | field name inner =>
        obtain ⟨ts, rfl, hts⟩ := ih marked h
        exact ⟨ts, rfl, .field hts⟩
      | shownAs kind inner =>
        obtain ⟨ts, rfl, hts⟩ := ih marked h
        exact ⟨ts, rfl, .shownAs hts⟩
      | ranked rank side inner =>
        obtain ⟨ts, rfl, hts⟩ := ih marked h
        exact ⟨ts, rfl, .ranked hts⟩
      | favoured bonus inner =>
        obtain ⟨ts, rfl, hts⟩ := ih marked h
        exact ⟨ts, rfl, .favoured hts⟩

theorem readRow_whole {fuel : Nat} {c : Context} {rule : Rule} {row : List Marked}
    (marked : RightlyMarked g row) (h : (readRow g fuel c rule row).any List.isEmpty) :
    Yields g c rule (row.map Prod.fst) := by
  obtain ⟨rest, hrest, hempty⟩ := List.any_eq_true.1 h
  obtain rfl := List.isEmpty_iff.1 hempty
  obtain ⟨front, rfl, hfront⟩ := readRow_sound marked hrest
  rwa [List.append_nil]

theorem builds_sound {children : List Marked} {d : Definition} {t : SyntaxTree}
    (marked : RightlyMarked g children) (below : t.children = children.map Prod.fst)
    (found : g.rule? d.name = some d) (h : builds g children d) : BuiltBy g d.name t := by
  simp only [builds, Bool.and_eq_true, Bool.not_eq_true', List.all_eq_true,
    Bool.or_eq_true] at h
  obtain ⟨⟨whole, extras⟩, hrow⟩ := h
  have own : (children.filter fun m => !m.1.info.extra).map Prod.fst = t.ownChildren := by
    rw [SyntaxTree.ownChildren, below, List.filter_map]
    rfl
  constructor
  · refine ⟨d, found, whole, ?_⟩
    rw [← own]
    exact readRow_whole (fun m hm => marked m (List.mem_filter.1 hm).1) hrow
  · intro e he hextra
    rw [below] at he
    obtain ⟨m, hm, rfl⟩ := List.mem_map.1 he
    rcases extras m hm with h | h
    · rw [hextra] at h
      exact absurd h (by simp)
    · exact h

theorem markAll_eq (g : Grammar) (ts : List SyntaxTree) :
    markAll g ts = ts.map fun t => (t, standsFor g t) := by
  induction ts with
  | nil => rfl
  | cons t ts ih => rw [markAll, ih, List.map_cons]

theorem standsFor_sound (t : SyntaxTree) {name : String} (h : name ∈ standsFor g t) :
    BuiltBy g name t := by
  induction t using SyntaxTree.childInduction generalizing name with
  | step t ih =>
    obtain ⟨info, children⟩ := t
    rw [standsFor, markAll_eq] at h
    simp only [List.mem_map, List.mem_filter, List.mem_filterMap] at h
    obtain ⟨d, ⟨⟨d', -, found⟩, hbuilds⟩, rfl⟩ := h
    refine builds_sound (fun m hm => ?_) ?_ (rule?_name found ▸ found) hbuilds
    · obtain ⟨c, hc, rfl⟩ := List.mem_map.1 hm
      exact fun name hname => ih c hc hname
    · simp [SyntaxTree.children, List.map_map, Function.comp_def]

theorem recognises_sound {t : SyntaxTree} (h : g.recognises t) : g.Derives t := by
  rw [recognises.eq_def] at h
  split at h
  next d hd =>
    refine ⟨d, hd, ?_⟩
    have marked : RightlyMarked g [(t, standsFor g t)] := by
      intro m hm
      obtain rfl := List.mem_singleton.1 hm
      exact fun name hname => standsFor_sound t hname
    exact readRow_whole marked h
  next => simp at h

end CodeSurvey.Parsing.Grammar

import Std.Data.HashMap
import CodeSurvey.Parsing.Grammar

/-!
# Productions

The rules of a grammar spelled out as productions: every choice made, every repetition given a
rule of its own, and every inlined rule replaced by its right sides. Each production carries the
shape of the node it builds: which children show under another kind, and which fields they fill.
-/

namespace CodeSurvey.Parsing

inductive Sym where
  | token (id : Nat)
  | rule (id : Nat)
deriving DecidableEq, Hashable, Inhabited

structure Step where
  sym : Sym
  rank : Rank
  side : Option Side
  kind : Option String
  field : Option String
deriving DecidableEq, Hashable, Inhabited

structure Draft where
  steps : List Step
  bonus : Int
deriving DecidableEq, Inhabited

/-- Where the children of a node go. A field location is inherited where the child is hidden and
the field comes from below it. -/
structure Shape where
  kinds : List (Option String)
  fields : List (String × Nat × Bool)
deriving DecidableEq, Inhabited

structure Production where
  rule : Nat
  bonus : Int
  steps : Array Step
  shape : Nat
deriving Inhabited

/-- A rule after expansion. A repetition is the rule of a repeated part. -/
structure RuleInfo where
  name : String
  display : Display
  inlined : Bool
  repetition : Bool
  kept : Bool
deriving Inhabited

structure Productions where
  tokens : Array Token
  rules : Array RuleInfo
  all : Array Production
  ofRule : Array (Array Nat)
  shapes : Array Shape
deriving Inhabited

/-! ## Repetitions -/

structure Repetitions where
  next : Nat
  found : List (Rule × Nat)

/-- The name of a repetition's rule; no rule of a grammar starts with a star. -/
def repetitionName (id : Nat) : String := "*" ++ toString id

mutual

/-- Replace each repetition by a reference to a rule of its own; equal parts share one. -/
def Rule.separate : Rule → Repetitions → Rule × Repetitions
  | .seq rules, found => let (rules, found) := separateAll rules found; (.seq rules, found)
  | .choice rules, found => let (rules, found) := separateAll rules found; (.choice rules, found)
  | .field name rule, found => let (rule, found) := rule.separate found; (.field name rule, found)
  | .shownAs kind rule, found =>
    let (rule, found) := rule.separate found
    (.shownAs kind rule, found)
  | .ranked rank side rule, found =>
    let (rule, found) := rule.separate found
    (.ranked rank side rule, found)
  | .favoured bonus rule, found =>
    let (rule, found) := rule.separate found
    (.favoured bonus rule, found)
  | .many rule, found =>
    let (rule, found) := rule.separate found
    match found.found.find? (fun entry => entry.1 == rule) with
    | some (_, id) => (.choice [.ref (repetitionName id), .blank], found)
    | none =>
      (.choice [.ref (repetitionName found.next), .blank],
        ⟨found.next + 1, found.found ++ [(rule, found.next)]⟩)
  | rule, found => (rule, found)

def Rule.separateAll : List Rule → Repetitions → List Rule × Repetitions
  | [], found => ([], found)
  | rule :: rules, found =>
    let (rule, found) := rule.separate found
    let (rules, found) := Rule.separateAll rules found
    (rule :: rules, found)

end

/-! ## Right sides -/

structure Surroundings where
  rank : Rank
  side : Option Side
  kind : Option String
  field : Option String

/-- The larger of two bonuses by size, the first one on a tie. -/
def strongerBonus (a b : Int) : Int := if b.natAbs > a.natAbs then b else a

def Draft.append (a b : Draft) : Draft := ⟨a.steps ++ b.steps, strongerBonus a.bonus b.bonus⟩

/-- Where a ranked part ends before its rule does, its last step takes the outer rank again. -/
def Draft.release (outer : Surroundings) (sided : Bool) (d : Draft) : Draft :=
  match d.steps.reverse with
  | [] => d
  | last :: before =>
    let side := if sided then outer.side else last.side
    ⟨(({ last with rank := outer.rank, side := side }) :: before).reverse, d.bonus⟩

mutual

def Rule.drafts (lit ref : String → Sym) (outer : Surroundings) (atEnd : Bool) :
    Rule → List Draft
  | .blank => [⟨[], 0⟩]
  | .lit text => [⟨[⟨lit text, outer.rank, outer.side, outer.kind, outer.field⟩], 0⟩]
  | .ref name => [⟨[⟨ref name, outer.rank, outer.side, outer.kind, outer.field⟩], 0⟩]
  | .seq rules => Rule.draftsSeq lit ref outer atEnd rules
  | .choice rules => Rule.draftsChoice lit ref outer atEnd rules
  | .many rule => rule.drafts lit ref outer atEnd
  | .field name rule => rule.drafts lit ref { outer with field := some name } atEnd
  | .shownAs kind rule => rule.drafts lit ref { outer with kind := some kind } atEnd
  | .ranked rank side rule =>
    let found := rule.drafts lit ref { outer with rank := rank, side := side <|> outer.side } atEnd
    if atEnd then found else found.map (Draft.release outer side.isSome)
  | .favoured bonus rule =>
    (rule.drafts lit ref outer atEnd).map fun d => ⟨d.steps, strongerBonus bonus d.bonus⟩

def Rule.draftsSeq (lit ref : String → Sym) (outer : Surroundings) (atEnd : Bool) :
    List Rule → List Draft
  | [] => [⟨[], 0⟩]
  | [rule] => rule.drafts lit ref outer atEnd
  | rule :: rules =>
    let later := Rule.draftsSeq lit ref outer atEnd rules
    (rule.drafts lit ref outer false).flatMap fun d => later.map d.append

def Rule.draftsChoice (lit ref : String → Sym) (outer : Surroundings) (atEnd : Bool) :
    List Rule → List Draft
  | [] => []
  | rule :: rules =>
    rule.drafts lit ref outer atEnd ++ Rule.draftsChoice lit ref outer atEnd rules

end

/-! ## Inlining -/

/-- The steps that stand for an inlined one: they take over its kind and field, and the last of
them its rank and side where it has none of its own. -/
def Step.standIns (replaced : Step) (steps : List Step) : List Step :=
  let steps := steps.map fun s =>
    { s with kind := replaced.kind <|> s.kind, field := replaced.field <|> s.field }
  match steps.reverse with
  | [] => []
  | last :: before =>
    let rank := if last.rank = .unranked then replaced.rank else last.rank
    (({ last with rank := rank, side := last.side <|> replaced.side }) :: before).reverse

/-- Replace inlined steps from the left. `depth` bounds the chain of replacements at one step. -/
def inlineSteps (inlined : Sym → Option (List Draft)) : Nat → List Step → List Draft
  | 0, steps => [⟨steps, 0⟩]
  | _, [] => [⟨[], 0⟩]
  | depth + 1, step :: steps =>
    match inlined step.sym with
    | none => (inlineSteps inlined depth steps).map fun d => ⟨step :: d.steps, d.bonus⟩
    | some drafts =>
      drafts.flatMap fun d =>
        (inlineSteps inlined depth (step.standIns d.steps ++ steps)).map fun rest =>
          ⟨rest.steps, strongerBonus d.bonus rest.bonus⟩

/-! ## Shapes -/

/-- The fields a hidden rule brings to the node above it, as far as `known` tells. -/
def fieldsOf (hidden : Nat → Bool) (known : Array (List String)) (drafts : List Draft) :
    List String :=
  let fields := drafts.flatMap fun d => d.steps.flatMap fun s =>
    s.field.toList ++ match s.sym with
      | .rule id => if hidden id then known.getD id [] else []
      | .token _ => []
  (fields.eraseDups).mergeSort (fun a b => decide (a ≤ b))

/-- Repeat until nothing is added; `passes` bounds the depth of hidden rules in one another. -/
def closeFields (hidden : Nat → Bool) (drafts : Array (List Draft)) :
    Nat → Array (List String) → Array (List String)
  | 0, known => known
  | passes + 1, known =>
    let next := drafts.map (fieldsOf hidden known)
    if next == known then known else closeFields hidden drafts passes next

def Draft.shape (hidden : Nat → Bool) (fields : Array (List String)) (d : Draft) : Shape :=
  let kinds := ((d.steps.map Step.kind).reverse.dropWhile Option.isNone).reverse
  let located := d.steps.zipIdx.flatMap fun (s, i) =>
    let own := s.field.toList.map fun f => (f, i, false)
    match s.sym with
    | .rule id => if hidden id then own ++ (fields.getD id []).map (fun f => (f, i, true)) else own
    | .token _ => own
  ⟨kinds, located⟩

/-! ## The productions of a grammar -/

def Grammar.productions (g : Grammar) : Productions :=
  let separated := g.rules.foldl
    (fun (acc : List Rule × Repetitions) d =>
      let (rule, found) := d.rule.separate acc.2
      (acc.1 ++ [rule], found))
    ([], ⟨g.rules.length, []⟩)
  let repetitions := separated.2.found
  let infos : List RuleInfo :=
    g.rules.map (fun d => ⟨d.name, d.display, d.inlined, false, g.kept.contains d.name⟩) ++
    repetitions.map (fun r => ⟨repetitionName r.2, .hidden, false, true, false⟩)
  let bodies : List Rule :=
    separated.1 ++ repetitions.map fun r =>
      .choice [.seq [.ref (repetitionName r.2), .ref (repetitionName r.2)], r.1]
  let lits : Std.HashMap String Nat := g.tokens.zipIdx.foldl (fun m (t, i) =>
    match t.literal with
    | some text => m.insert text i
    | none => m) ∅
  let names : Std.HashMap String Sym := infos.zipIdx.foldl (fun m (r, i) => m.insert r.name (.rule i))
    (g.tokens.zipIdx.foldl (fun m (t, i) => m.insert t.name (.token i)) ∅)
  let lit := fun text => Sym.token (lits.getD text g.tokens.length)
  let ref := fun name => names.getD name (.token g.tokens.length)
  let plain : Array (List Draft) := (bodies.map fun body =>
    (body.drafts lit ref ⟨.unranked, none, none, none⟩ true).eraseDups).toArray
  let rules := infos.toArray
  let inlined : Sym → Option (List Draft)
    | .rule id => if (rules.getD id default).inlined then plain[id]? else none
    | .token _ => none
  let drafts : Array (List Draft) := plain.mapIdx fun i found =>
    if (rules.getD i default).inlined then []
    else (found.flatMap fun d =>
      (inlineSteps inlined 64 d.steps).map fun r =>
        ⟨r.steps, strongerBonus d.bonus r.bonus⟩).eraseDups
  let hidden := fun id => !(rules.getD id default).display.isVisible
  let fields := closeFields hidden drafts 32 (drafts.map fun _ => [])
  let built := drafts.zipIdx.foldl
    (fun (acc : Array Production × Array (Array Nat) × Array Shape × Std.HashMap String Unit) (ds, id) =>
      let (all, ofRule, shapes, seen) := acc
      let (all, own, shapes) := ds.foldl
        (fun (acc : Array Production × Array Nat × Array Shape) d =>
          let (all, own, shapes) := acc
          let shape := d.shape hidden fields
          let (at_, shapes) := match shapes.findIdx? (· == shape) with
            | some i => (i, shapes)
            | none => (shapes.size, shapes.push shape)
          (all.push ⟨id, d.bonus, d.steps.toArray, at_⟩, own.push all.size, shapes))
        (all, #[], shapes)
      (all, ofRule.push own, shapes, seen))
    (#[], #[], #[⟨[], []⟩], ∅)
  ⟨g.tokens.toArray, rules, built.1, built.2.1, built.2.2.1⟩

end CodeSurvey.Parsing

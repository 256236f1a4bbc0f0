import CodeSurvey.Proofs.Script.LoweredKinds
import CodeSurvey.Proofs.Script.Occurrences
import CodeSurvey.Proofs.Script.ReadChildren

/-!
# Lowered trees

What is found among the nodes of a lowered tree is found, in the same order, among the trees that
lowering does not leave out. Only calls, declarations and declared functions are looked for; all
other nodes are there for what lies below them.
-/

namespace CodeSurvey.Script

/-! ## Looking for nodes -/

def isProduct : Node → Bool
  | .call .. | .declaration .. => true
  | .function f => f.kind = .declaration
  | _ => false

/-- A search that finds nothing but at calls, declarations and declared functions. -/
def Sparse {β : Type} (own : Node → List β) : Prop := ∀ n, isProduct n = false → own n = []

/-- All that a search finds at a node and below it. -/
def gather {β : Type} (own : Node → List β) (n : Node) : List β := n.preorder.flatMap own

theorem gather_eq {β : Type} (own : Node → List β) (n : Node) :
    gather own n = own n ++ n.children.flatMap (gather own) := by
  rw [gather, Node.preorder_eq, List.flatMap_cons, List.flatMap_assoc]
  rfl

/-! ## Trees that are not left out -/

namespace SyntaxTree

theorem sizeOf_kept {c t : SyntaxTree} (h : c ∈ t.kept) : sizeOf c < sizeOf t :=
  sizeOf_child (List.mem_filter.1 h).1

/-- A tree and the trees below it in preorder, without those that lowering leaves out. -/
def exposed (t : SyntaxTree) : List SyntaxTree :=
  t :: t.kept.attach.flatMap fun ⟨c, _⟩ => exposed c
termination_by t
decreasing_by exact sizeOf_kept ‹_›

theorem exposed_eq (t : SyntaxTree) : t.exposed = t :: t.kept.flatMap exposed := by
  rw [exposed]
  congr 1
  simp only [List.flatMap_subtype, List.unattach_attach]

theorem exposed_node (info : NodeInfo) (children : List SyntaxTree) :
    (node info children).exposed =
      node info children :: (node info children).kept.flatMap exposed :=
  exposed_eq _

def made {β : Type} (own : Node → List β) (t : SyntaxTree) : List β :=
  if t.kind = "for_in_statement" then t.loopHead?.toList.flatMap own
  else if isProductive t.kind && t.kind != "variable_declarator" then own (lower t)
  else []

def harvest {β : Type} (own : Node → List β) (t : SyntaxTree) : List β :=
  t.exposed.flatMap (made own)

theorem harvest_eq {β : Type} (own : Node → List β) (t : SyntaxTree) :
    t.harvest own = t.made own ++ t.kept.flatMap (harvest own) := by
  rw [harvest, exposed_eq, List.flatMap_cons, List.flatMap_assoc]
  rfl

theorem made_of_unproductive {β : Type} (own : Node → List β) {t : SyntaxTree}
    (h : isProductive t.kind = false) : t.made own = [] := by
  rw [made, h]
  split
  next hk => simp [hk, isProductive, declarationKinds, declaredFunctionKinds] at h
  next => rfl

theorem harvest_barren {β : Type} (own : Node → List β) : BarrenAtLeaves (harvest own) := by
  intro t hleaf hprod
  rw [harvest_eq, made_of_unproductive own hprod, kept, hleaf]
  rfl

end SyntaxTree

open SyntaxTree

section Gathering

variable {β : Type} {own : Node → List β} {t : SyntaxTree}

/-- The search agrees on a tree and on what it is lowered to. -/
def Agrees (own : Node → List β) (t : SyntaxTree) : Prop := gather own (lower t) = t.harvest own

theorem gather_leaf (hown : Sparse own) {n : Node} (hn : isProduct n = false)
    (hc : n.children = []) : gather own n = [] := by
  rw [gather_eq, hown n hn, hc]
  rfl

theorem gather_map_lower {ts : List SyntaxTree} (ih : ∀ c ∈ ts, Agrees own c) :
    (ts.map lower).flatMap (gather own) = ts.flatMap (harvest own) := by
  rw [List.flatMap_map]
  exact List.flatMap_congr ih

/-- Where a child only stands for the list of its own children, what is found at them is found at
it. -/
theorem gather_list (hown : Sparse own) {kind : String} {list : SyntaxTree}
    (h : lower list = .other kind (list.namedChildren.map lower) list.span)
    (ih : Agrees own list) :
    (list.namedChildren.map lower).flatMap (gather own) = list.harvest own := by
  rw [← ih, h, gather_eq, hown _ rfl, List.nil_append]
  rfl

theorem lower_formal_parameters (h : t.kind = "formal_parameters") :
    lower t = .other "formal_parameters" (t.namedChildren.map lower) t.span := by
  rw [lower_eq, Lowering.lowerWith]
  simp [h, all_lowerBelow]

theorem lower_arguments (h : t.kind = "arguments") :
    lower t = .other "arguments" (t.namedChildren.map lower) t.span := by
  rw [lower_eq, Lowering.lowerWith]
  simp [h, all_lowerBelow]

def AgreeBelow (own : Node → List β) (t : SyntaxTree) : Prop :=
  ∀ c ∈ t.children, c.kind ≠ "variable_declarator" → Agrees own c

theorem AgreeBelow.field (ih : AgreeBelow own t) (h : Conforms t) {roles : List (List String)}
    (hroles : roles? t.kind = some roles) (names : List String) {name : String}
    (hnames : names ∈ roles) (hname : name ∈ names) {c : SyntaxTree}
    (hfield : t.field? name = some c) : Agrees own c := by
  have hread := readable_of_field? h hroles names hnames hname hfield
  exact ih c (field?_some hfield).1
    (kind_of_readable (declarationKinds_of_roles hroles) hread).1

theorem AgreeBelow.lowered (ih : AgreeBelow own t) (hown : Sparse own) (h : Conforms t)
    {roles : List (List String)} (hroles : roles? t.kind = some roles) (name : String)
    (hname : [name] ∈ roles) :
    gather own (t.lowered name) = (t.childIn? [name]).toList.flatMap (harvest own) := by
  rw [childIn?_singleton, SyntaxTree.lowered]
  cases hc : t.field? name with
  | none => exact gather_leaf hown rfl rfl
  | some c => simpa [Agrees] using ih.field h hroles [name] hname List.mem_cons_self hc

theorem AgreeBelow.role (ih : AgreeBelow own t) (h : Conforms t)
    {roles : List (List String)} (hroles : roles? t.kind = some roles) (name : String)
    (hname : [name] ∈ roles) :
    ((t.field? name).map lower).toList.flatMap (gather own) =
      (t.childIn? [name]).toList.flatMap (harvest own) := by
  rw [childIn?_singleton]
  cases hc : t.field? name with
  | none => rfl
  | some c => simpa [Agrees] using ih.field h hroles [name] hname List.mem_cons_self hc

theorem AgreeBelow.named (ih : AgreeBelow own t) (h : Conforms t) (hroles : roles? t.kind = none)
    (hdeclaration : declarationKinds.contains t.kind = false) {c : SyntaxTree}
    (hc : c ∈ t.namedChildren) : Agrees own c := by
  have hread := readable_of_named h hroles hc
  exact ih c (List.mem_filter.1 hc).1 (kind_of_readable hdeclaration hread).1

theorem gather_params (hown : Sparse own) (h : Conforms t) (ih : AgreeBelow own t)
    (hroles : roles? t.kind = some [["parameters", "parameter"], ["body"]]) :
    t.params.flatMap (gather own) =
      (t.childIn? ["parameters", "parameter"]).toList.flatMap (harvest own) := by
  have hdeclaration := declarationKinds_of_roles hroles
  rw [params]
  cases hlist : t.field? "parameters" with
  | some list =>
    rw [childIn?_of_field? h hroles 0 rfl (by simp) hlist]
    have hread := readable_of_field? h hroles ["parameters", "parameter"] (by simp)
      (by simp) hlist
    have hkind := (kind_of_readable hdeclaration hread).2.1 (field?_some hlist).2
    have hagree := ih.field h hroles ["parameters", "parameter"] (by simp) (by simp) hlist
    simpa using gather_list hown (lower_formal_parameters hkind) hagree
  | none =>
    cases hsingle : t.field? "parameter" with
    | some single =>
      rw [childIn?_of_field? h hroles 0 rfl (by simp) hsingle]
      have hagree := ih.field h hroles ["parameters", "parameter"] (by simp) (by simp)
        hsingle
      simpa [Agrees] using hagree
    | none =>
      have hnone : t.childIn? ["parameters", "parameter"] = none := by
        simp only [field?, List.find?_eq_none] at hlist hsingle
        refine List.find?_eq_none.2 fun c hc => ?_
        simpa using ⟨by simpa using hlist c hc, by simpa using hsingle c hc⟩
      rw [hnone]
      rfl

theorem gather_arguments (hown : Sparse own) (h : Conforms t) (ih : AgreeBelow own t)
    (hroles : roles? t.kind = some [["function"], ["arguments"]]) :
    t.arguments.flatMap (gather own) = (t.childIn? ["arguments"]).toList.flatMap (harvest own) := by
  rw [childIn?_singleton, arguments]
  cases hargs : t.field? "arguments" with
  | none => rfl
  | some args =>
    have hagree := ih.field h hroles ["arguments"] (by simp) (by simp) hargs
    simp only
    split
    next hkind => simpa using gather_list hown (lower_arguments hkind) hagree
    next => simpa [Agrees] using hagree

theorem harvest_declarator (h : Conforms t) (hkind : t.kind = "variable_declarator") :
    t.harvest own = (t.childIn? ["name"]).toList.flatMap (harvest own) ++
      (t.childIn? ["value"]).toList.flatMap (harvest own) := by
  have hmade : t.made own = [] := by simp [made, hkind]
  rw [harvest_eq, hmade, kept_flatMap_ranked h (harvest_barren own) (by rw [hkind]; rfl)]
  simp

theorem gather_declarator (hown : Sparse own) (h : Conforms t) (ih : AgreeBelow own t)
    (hkind : t.kind = "variable_declarator") :
    t.declarator.children.flatMap (gather own) = t.harvest own := by
  have hroles : roles? t.kind = some [["name"], ["value"]] := by
    rw [hkind]
    rfl
  have hname := ih.lowered hown h hroles "name" (by simp)
  have hvalue := ih.role h hroles "value" (by simp)
  rw [harvest_declarator h hkind, ← hname, ← hvalue]
  rfl

theorem gather_declaration (hown : Sparse own) (h : Conforms t)
    (ih : ∀ d ∈ t.children, AgreeBelow own d) (hroles : roles? t.kind = none)
    (hdeclaration : declarationKinds.contains t.kind) :
    (((t.namedChildren.filter fun c => c.kind = "variable_declarator").map
        SyntaxTree.declarator).flatMap Declarator.children).flatMap (gather own) =
      t.kept.flatMap (harvest own) := by
  have hkind (d : SyntaxTree) (hd : d ∈ t.namedChildren) : d.kind = "variable_declarator" := by
    have hread := readable_of_named h hroles hd
    rw [isReadable, if_pos hdeclaration, beq_iff_eq] at hread
    exact hread
  have hall : (t.namedChildren.filter fun c => c.kind = "variable_declarator") =
      t.namedChildren :=
    List.filter_eq_self.2 fun d hd => by simp [hkind d hd]
  rw [hall, kept_flatMap_listed h (harvest_barren own) hroles, List.flatMap_map,
    List.flatMap_assoc]
  refine List.flatMap_congr fun d hd => ?_
  have hmem := (List.mem_filter.1 hd).1
  exact gather_declarator hown (h.below_mem hmem) (ih d hmem) (hkind d hd)

theorem gather_forIn (hown : Sparse own) (h : Conforms t) (ih : AgreeBelow own t)
    (hkind : t.kind = "for_in_statement") : Agrees own t := by
  have hroles : roles? t.kind = some [["left"], ["right"], ["body"]] := by
    rw [hkind]
    rfl
  have hright := ih.role h hroles "right" (by simp)
  have hbody := ih.role h hroles "body" (by simp)
  have hleft : (t.loopHead?.or ((t.field? "left").map lower)).toList.flatMap (gather own) =
      t.loopHead?.toList.flatMap own ++ (t.childIn? ["left"]).toList.flatMap (harvest own) := by
    rw [← ih.role h hroles "left" (by simp), loopHead?]
    cases t.field? "left" with
    | none => rfl
    | some left =>
      cases t.field? "kind" with
      | none => rfl
      | some keyword =>
        simp [gather_eq own (.declaration _ _ _), Node.children, Declarator.children]
  have hlower : lower t = .other "for_in_statement"
      ((t.loopHead?.or ((t.field? "left").map lower)).toList ++
        ((t.field? "right").map lower).toList ++ ((t.field? "body").map lower).toList) t.span := by
    rw [lower_eq, Lowering.lowerWith]
    simp only [hkind]
    exact forIn_lowerBelow t
  have hmade : t.made own = t.loopHead?.toList.flatMap own := by simp [made, hkind]
  rw [Agrees, hlower, gather_eq, hown _ rfl, harvest_eq, hmade,
    kept_flatMap_ranked h (harvest_barren own) hroles]
  simp only [Node.children, List.nil_append, List.flatMap_append, hleft, hright, hbody,
    List.flatMap_cons, List.flatMap_nil, List.append_nil, List.append_assoc]

theorem agrees_of_children {n : Node} (hlower : lower t = n) (hn : own n = t.made own)
    (hchildren : n.children.flatMap (gather own) = t.kept.flatMap (harvest own)) :
    Agrees own t := by
  rw [Agrees, hlower, gather_eq, harvest_eq, hn, hchildren]

theorem agrees_of_productive {n : Node} (hlower : lower t = n) (hprod : isProductive t.kind)
    (hforIn : t.kind ≠ "for_in_statement") (hdeclarator : t.kind ≠ "variable_declarator")
    (hchildren : n.children.flatMap (gather own) = t.kept.flatMap (harvest own)) :
    Agrees own t := by
  refine agrees_of_children hlower ?_ hchildren
  rw [made, if_neg hforIn, hprod, hlower]
  simp [hdeclarator]

theorem agrees_of_plain {n : Node} (hown : Sparse own) (hlower : lower t = n)
    (hn : isProduct n = false) (hprod : isProductive t.kind = false)
    (hchildren : n.children.flatMap (gather own) = t.kept.flatMap (harvest own)) :
    Agrees own t := by
  refine agrees_of_children hlower ?_ hchildren
  rw [hown n hn, made_of_unproductive own hprod]

/-! ## Forms of nodes -/

theorem gather_function (hown : Sparse own) (h : Conforms t) (ih : AgreeBelow own t)
    (hroles : roles? t.kind = some [["parameters", "parameter"], ["body"]]) (kind : FunctionKind) :
    (Lowering.function (lowerBelow t) kind).children.flatMap (gather own) =
      t.kept.flatMap (harvest own) := by
  have hbody := ih.lowered hown h hroles "body" (by simp)
  rw [children_function, kept_flatMap_ranked h (harvest_barren own) hroles, List.flatMap_append,
    gather_params hown h ih hroles]
  simp [hbody]

theorem gather_call (hown : Sparse own) (h : Conforms t) (ih : AgreeBelow own t)
    (hroles : roles? t.kind = some [["function"], ["arguments"]]) :
    (t.lowered "function" :: t.arguments).flatMap (gather own) = t.kept.flatMap (harvest own) := by
  have hfunction := ih.lowered hown h hroles "function" (by simp)
  rw [kept_flatMap_ranked h (harvest_barren own) hroles, List.flatMap_cons, hfunction,
    gather_arguments hown h ih hroles]
  simp

theorem gather_two (hown : Sparse own) (h : Conforms t) (ih : AgreeBelow own t)
    {first second : String} (hroles : roles? t.kind = some [[first], [second]]) :
    [t.lowered first, t.lowered second].flatMap (gather own) = t.kept.flatMap (harvest own) := by
  have hfirst := ih.lowered hown h hroles first (by simp)
  have hsecond := ih.lowered hown h hroles second (by simp)
  rw [kept_flatMap_ranked h (harvest_barren own) hroles]
  simp [hfirst, hsecond]

theorem gather_property (hown : Sparse own) (h : Conforms t) (ih : AgreeBelow own t)
    (hroles : roles? t.kind = some [["object"]]) :
    [t.lowered "object"].flatMap (gather own) = t.kept.flatMap (harvest own) := by
  have hobject := ih.lowered hown h hroles "object" (by simp)
  rw [kept_flatMap_ranked h (harvest_barren own) hroles]
  simp [hobject]

theorem gather_index (hown : Sparse own) (h : Conforms t) (ih : AgreeBelow own t)
    (hroles : roles? t.kind = some [["object"], ["index"]]) :
    (t.lowered "object" :: ((t.field? "index").map lower).toList).flatMap (gather own) =
      t.kept.flatMap (harvest own) := by
  have hobject := ih.lowered hown h hroles "object" (by simp)
  have hindex := ih.role h hroles "index" (by simp)
  rw [kept_flatMap_ranked h (harvest_barren own) hroles, List.flatMap_cons, hobject, hindex]
  simp

theorem gather_nothing (h : Conforms t) (hroles : roles? t.kind = some []) :
    ([] : List Node).flatMap (gather own) = t.kept.flatMap (harvest own) := by
  rw [kept_flatMap_ranked h (harvest_barren own) hroles]
  rfl

theorem gather_all (h : Conforms t) (ih : AgreeBelow own t) (hroles : roles? t.kind = none)
    (hdeclaration : declarationKinds.contains t.kind = false) :
    (t.namedChildren.map lower).flatMap (gather own) = t.kept.flatMap (harvest own) := by
  rw [kept_flatMap_listed h (harvest_barren own) hroles,
    gather_map_lower fun c hc => ih.named h hroles hdeclaration hc]

theorem gather_one (h : Conforms t) (ih : AgreeBelow own t) (hroles : roles? t.kind = none)
    (hdeclaration : declarationKinds.contains t.kind = false) (hone : readsOne t.kind) :
    (t.namedChildren.head?.map lower).toList.flatMap (gather own) =
      t.kept.flatMap (harvest own) := by
  rw [← gather_all h ih hroles hdeclaration]
  conv_rhs => rw [namedChildren_of_readsOne h hroles hone]
  cases t.namedChildren.head? <;> rfl

/-- A method is gathered like the function that it has for a value. -/
theorem gather_classMember (hown : Sparse own) (c : Below t) :
    gather own (Lowering.classMember (lowerBelow t) c) = gather own (lower c.1) := by
  rw [Lowering.classMember]
  split
  next hkind =>
    have hlower : lower c.1 = .function
        { Lowering.function (lowerBelow c.1) .expression with name := none } := by
      rw [lower_eq, Lowering.lowerWith]
      simp [hkind]
    rw [hlower, gather_eq, gather_eq, hown _ rfl, hown _ rfl]
    rfl
  next => rfl

theorem gather_classBody (hown : Sparse own) (h : Conforms t) (ih : AgreeBelow own t)
    (hroles : roles? t.kind = none) (hdeclaration : declarationKinds.contains t.kind = false) :
    (t.namedBelow.map (Lowering.classMember (lowerBelow t))).flatMap (gather own) =
      t.kept.flatMap (harvest own) := by
  rw [← gather_all h ih hroles hdeclaration, ← namedBelow_val, List.flatMap_map, List.map_map,
    List.flatMap_map]
  exact List.flatMap_congr fun c _ => gather_classMember hown c

theorem agrees_parenthesized (hown : Sparse own) (h : Conforms t) (ih : AgreeBelow own t)
    (hkind : t.kind = "parenthesized_expression") : Agrees own t := by
  have hroles : roles? t.kind = none := by
    rw [hkind]
    rfl
  have hdeclaration : declarationKinds.contains t.kind = false := by
    rw [hkind]
    rfl
  have hall := gather_all h ih hroles hdeclaration
  have hmade : t.made own = [] := made_of_unproductive own (by rw [hkind]; rfl)
  have hlower : lower t = Lowering.parenthesized (lowerBelow t) := by
    rw [lower_eq, Lowering.lowerWith]
    simp only [hkind]
  rw [Agrees, hlower, parenthesized_lowerBelow, harvest_eq, hmade, List.nil_append, ← hall]
  split
  next c hc => simp [hc]
  next => rw [gather_eq, hown _ rfl, List.nil_append]; rfl

theorem agrees_function (hown : Sparse own) (h : Conforms t) (ih : AgreeBelow own t)
    (hroles : roles? t.kind = some [["parameters", "parameter"], ["body"]])
    (hprod : isProductive t.kind = false) {kind : FunctionKind} {name : Option String}
    (hkind : kind ≠ .declaration)
    (hlower : lower t = .function { Lowering.function (lowerBelow t) kind with name := name }) :
    Agrees own t := by
  refine agrees_of_plain hown hlower ?_ hprod (gather_function hown h ih hroles kind)
  simpa [isProduct, Lowering.function] using hkind

theorem agrees_declaredFunction (hown : Sparse own) (h : Conforms t) (ih : AgreeBelow own t)
    (hkind : declaredFunctionKinds.contains t.kind)
    (hlower : lower t = .function (Lowering.function (lowerBelow t) .declaration)) :
    Agrees own t := by
  simp only [declaredFunctionKinds, List.contains_cons, List.contains_nil, Bool.or_false,
    Bool.or_eq_true, beq_iff_eq] at hkind
  rcases hkind with hk | hk <;>
  · refine agrees_of_productive hlower (by rw [hk]; rfl) (by simp [hk]) (by simp [hk]) ?_
    exact gather_function hown h ih (by rw [hk]; rfl) .declaration

theorem agrees_declaration (hown : Sparse own) (h : Conforms t)
    (ih : ∀ d ∈ t.children, AgreeBelow own d) (hkind : declarationKinds.contains t.kind)
    (hlower : lower t = Lowering.declaration (lowerBelow t)) : Agrees own t := by
  have hgather := gather_declaration hown h ih
  rw [declaration_lowerBelow] at hlower
  simp only [declarationKinds, List.contains_cons, List.contains_nil, Bool.or_false,
    Bool.or_eq_true, beq_iff_eq] at hkind
  rcases hkind with hk | hk <;>
  · refine agrees_of_productive hlower (by rw [hk]; rfl) (by simp [hk]) (by simp [hk]) ?_
    exact hgather (by rw [hk]; rfl) (by rw [hk]; rfl)

theorem agrees_list (hown : Sparse own) (h : Conforms t) (ih : AgreeBelow own t)
    (hroles : roles? t.kind = none) (hprod : isProductive t.kind = false) {n : Node}
    (hlower : lower t = n) (hn : isProduct n = false)
    (hchildren : n.children = Lowering.all (lowerBelow t)) : Agrees own t := by
  have hdeclaration : declarationKinds.contains t.kind = false := by
    simp only [isProductive, List.contains_eq_mem, List.mem_append, decide_eq_false_iff_not,
      not_or] at hprod
    simpa using hprod.1.1
  refine agrees_of_plain hown hlower hn hprod ?_
  rw [hchildren, all_lowerBelow]
  exact gather_all h ih hroles hdeclaration

theorem agrees_one (hown : Sparse own) (h : Conforms t) (ih : AgreeBelow own t)
    (hroles : roles? t.kind = none) (hone : readsOne t.kind)
    (hprod : isProductive t.kind = false) (hdeclaration : declarationKinds.contains t.kind = false)
    {n : Node} (hlower : lower t = n) (hn : isProduct n = false)
    (hchildren : n.children = (Lowering.first? (lowerBelow t)).toList) : Agrees own t := by
  refine agrees_of_plain hown hlower hn hprod ?_
  rw [hchildren, first?_lowerBelow]
  exact gather_one h ih hroles hdeclaration hone

theorem agrees_nothing (hown : Sparse own) (h : Conforms t) (hroles : roles? t.kind = some [])
    (hprod : isProductive t.kind = false) {n : Node} (hlower : lower t = n)
    (hn : isProduct n = false) (hchildren : n.children = []) : Agrees own t := by
  refine agrees_of_plain hown hlower hn hprod ?_
  rw [hchildren]
  exact gather_nothing h hroles

theorem agrees_step (hown : Sparse own) (h : Conforms t) (hkind : t.kind ≠ "variable_declarator")
    (ih : AgreeBelow own t) (ih' : ∀ d ∈ t.children, AgreeBelow own d) : Agrees own t := by
  have hlower : lower t = Lowering.lowerWith t (lowerBelow t) := lower_eq t
  rw [Lowering.lowerWith] at hlower
  split at hlower
  case h_1 hk | h_2 hk => exact agrees_declaredFunction hown h ih (by rw [hk]; rfl) hlower
  case h_3 hk | h_4 hk | h_5 hk =>
    exact agrees_function hown h ih (by rw [hk]; rfl) (by rw [hk]; rfl) (by decide) hlower
  case h_6 hk =>
    exact agrees_function hown h ih (by rw [hk]; rfl) (by rw [hk]; rfl) (by decide) hlower
  case h_7 hk =>
    refine agrees_of_plain hown hlower rfl (by rw [hk]; rfl) ?_
    exact gather_classBody hown h ih (by rw [hk]; rfl) (by rw [hk]; rfl)
  case h_8 hk =>
    exact agrees_function hown h ih (by rw [hk]; rfl) (by rw [hk]; rfl) (by decide) hlower
  case h_9 hk | h_10 hk => exact agrees_declaration hown h ih' (by rw [hk]; rfl) hlower
  case h_11 hk => exact gather_forIn hown h ih hk
  case h_12 hk =>
    rw [call_lowerBelow] at hlower
    refine agrees_of_productive hlower (by rw [hk]; rfl) (by simp [hk]) hkind ?_
    exact gather_call hown h ih (by rw [hk]; rfl)
  case h_14 hk | h_15 hk | h_18 hk | h_19 hk | h_20 hk | h_21 hk | h_22 hk | h_23 hk =>
    exact agrees_nothing hown h (by rw [hk]; rfl) (by rw [hk]; rfl) hlower rfl rfl
  case h_16 hk =>
    obtain ⟨property, hp⟩ := propertyAccess_lowerBelow t
    refine agrees_of_plain hown (hlower.trans hp) rfl (by rw [hk]; rfl) ?_
    exact gather_property hown h ih (by rw [hk]; rfl)
  case h_17 hk =>
    obtain ⟨property, hp⟩ := indexAccess_lowerBelow t
    refine agrees_of_plain hown (hlower.trans hp) rfl (by rw [hk]; rfl) ?_
    exact gather_index hown h ih (by rw [hk]; rfl)
  case h_26 hk | h_28 hk =>
    exact agrees_one hown h ih (by rw [hk]; rfl) (by rw [hk]; rfl) (by rw [hk]; rfl)
      (by rw [hk]; rfl) hlower rfl rfl
  case h_29 hk =>
    rw [field_lowerBelow, field_lowerBelow] at hlower
    refine agrees_of_plain hown hlower rfl (by rw [hk]; rfl) ?_
    exact gather_two hown h ih (by rw [hk]; rfl)
  case h_13 hk | h_24 hk | h_25 hk | h_27 hk | h_30 hk | h_31 hk =>
    exact agrees_list hown h ih (by rw [hk]; rfl) (by rw [hk]; rfl) hlower rfl rfl
  case h_32 hk => exact agrees_parenthesized hown h ih hk
  case h_33 =>
    refine agrees_list hown h ih ?_ ?_ hlower rfl rfl
    · rw [roles?.eq_def]
      split
      all_goals first | rfl | contradiction
    · simp_all [isProductive, declarationKinds, declaredFunctionKinds]

theorem agrees_all (hown : Sparse own) (t : SyntaxTree) (h : Conforms t) :
    (t.kind ≠ "variable_declarator" → Agrees own t) ∧ AgreeBelow own t := by
  induction t using SyntaxTree.childInduction with
  | step t ih =>
    have hbelow : AgreeBelow own t := fun c hc hk => (ih c hc (h.below_mem hc)).1 hk
    refine ⟨fun hk => agrees_step hown h hk hbelow fun d hd => ?_, hbelow⟩
    exact (ih d hd (h.below_mem hd)).2

/-- What a search finds among the nodes of a lowered tree is what it finds at the nodes that are
made of the trees that are not left out. -/
theorem gather_lower (hown : Sparse own) (h : Conforms t)
    (hkind : t.kind ≠ "variable_declarator") :
    gather own (lower t) = t.exposed.flatMap (made own) :=
  (agrees_all hown t h).1 hkind

end Gathering

end CodeSurvey.Script

import CodeSurvey.Proofs.Script.Derivation

/-!
# Conformance

What lowering relies on in a tree: which children of each kind of node it reads, and in which
order. Children stand in ranks, and the ranks of a row increase. That all trees of the grammar
conform is found by going through the right sides of its rules once, with the least rank that may
come next in hand.
-/

namespace CodeSurvey.Script
open Parsing

/-! ## What becomes of a child -/

structure Kid where
  kind : String
  named : Bool
  fields : List String

def SyntaxTree.kid (t : SyntaxTree) : Kid := ⟨t.kind, t.info.named, t.info.fields⟩

/-- What lowering does with a child: pass over a mere token, leave out a whole tree, lower it
among all others, or lower it in its rank. -/
inductive Use where
  | idle
  | omitted
  | listed
  | ranked (rank : Nat)
deriving DecidableEq

def declarationKinds : List String := ["lexical_declaration", "variable_declaration"]

def declaredFunctionKinds : List String :=
  ["function_declaration", "generator_function_declaration"]

/-- The kinds of trees that something is made of beside their children. -/
def isProductive (kind : String) : Bool :=
  (declarationKinds ++ declaredFunctionKinds ++
    ["variable_declarator", "for_in_statement", "call_expression"]).contains kind

/-- The roles of the children that a kind of node reads, in their order, if it does not read all
children that are named. -/
def roles? : String → Option (List (List String))
  | "function_declaration" | "generator_function_declaration" | "function_expression" | "function"
  | "generator_function" | "arrow_function" | "method_definition" =>
    some [["parameters", "parameter"], ["body"]]
  | "variable_declarator" => some [["name"], ["value"]]
  | "for_in_statement" => some [["left"], ["right"], ["body"]]
  | "call_expression" => some [["function"], ["arguments"]]
  | "member_expression" => some [["object"]]
  | "subscript_expression" => some [["object"], ["index"]]
  | "assignment_pattern" => some [["left"], ["right"]]
  | "identifier" | "undefined" | "string" | "number" | "true" | "false" | "null" | "regex" =>
    some []
  | _ => none

/-- The roles in which a kind of node leaves out whole trees. -/
def omittedRoles : String → List String
  | "method_definition" => ["name", "decorator"]
  | "for_in_statement" => ["value"]
  | _ => []

def ranksOf (roles : List (List String)) (fields : List String) : List Nat :=
  roles.zipIdx.filterMap fun (names, rank) =>
    if names.any fields.contains then some rank else none

def isBound (kind : String) : Bool :=
  ["identifier", "object_pattern", "array_pattern"].contains kind

/-- Whether a child is of a kind that may be read below a node of kind `parent`. Declarators stand
in declarations and nowhere else, where a value is expected no function is declared, and what is
declared is a name or a pattern. -/
def isReadable (parent : String) (k : Kid) : Bool :=
  if declarationKinds.contains parent then k.kind == "variable_declarator"
  else k.kind != "variable_declarator" &&
    !((parent == "variable_declarator" || parent == "parenthesized_expression") &&
      declaredFunctionKinds.contains k.kind) &&
    (!k.fields.contains "parameters" || k.kind == "formal_parameters") &&
    (parent != "variable_declarator" || !k.fields.contains "name" || isBound k.kind)

def readsOne (parent : String) : Bool := parent == "return_statement" || parent == "rest_pattern"

/-- What a node of kind `parent` does with a child; none if the child should not be there. -/
def use? (parent : String) (k : Kid) : Option Use :=
  match roles? parent with
  | some roles =>
    match ranksOf roles k.fields, (omittedRoles parent).any k.fields.contains with
    | [rank], false => if isReadable parent k then some (.ranked rank) else none
    | [], true => some .omitted
    | [], false => if isProductive k.kind then none else some .idle
    | _, _ => none
  | none =>
    if k.named then
      if isReadable parent k then some (if readsOne parent then .ranked 0 else .listed) else none
    else if isProductive k.kind then none else some .idle

/-! ## Rows of children -/

/-- The least rank that may come after a child, if it may stand after `next`. What is passed over
must be a leaf. -/
def Use.after (next : Nat) (leaf : Bool) : Use → Option Nat
  | .idle => if leaf then some next else none
  | .omitted | .listed => some next
  | .ranked rank => if next ≤ rank then some (rank + 1) else none

def afterKid (use : Kid → Option Use) (next : Nat) (k : Kid) (leaf : Bool) : Option Nat :=
  (use k).bind (Use.after next leaf)

def afterRow (use : Kid → Option Use) : Nat → List SyntaxTree → Option Nat
  | next, [] => some next
  | next, t :: rest =>
    (afterKid use next t.kid t.children.isEmpty).bind fun next => afterRow use next rest

/-- A tree that stands outside the rules. -/
structure SyntaxTree.IsComment (t : SyntaxTree) : Prop where
  leaf : t.children = []
  fields : t.info.fields = []
  unproductive : isProductive t.kind = false

/-- Every row of children below a tree, the tree's own included, stands as lowering expects. -/
inductive Conforms : SyntaxTree → Prop where
  | node (row : (afterRow (use? t.kind) 0 t.ownChildren).isSome)
      (below : ∀ c ∈ t.ownChildren, Conforms c)
      (extras : ∀ e ∈ t.children, e.info.extra → e.IsComment) : Conforms t

/-! ## Going through rules -/

/-- The least rank that may come after all rows that a part of a rule yields after `next`. Hidden
rules are gone through where they are met; rules that show count as a child that need not be a
leaf, and must not be renamed. -/
def climb (g : Grammar) (use : Kid → Option Use) : Nat → Context → Rule → Nat → Option Nat
  | 0, _, _, _ => none
  | fuel + 1, c, rule, next =>
    match g.token? rule with
    | some token =>
      let d := c.display token.display
      if d.isVisible then afterKid use next ⟨d.kind, d.isNamed, c.fields⟩ true else some next
    | none =>
      match rule with
      | .blank => some next
      | .lit _ => none
      | .ref name =>
        match g.rule? name with
        | none => none
        | some d =>
          if d.inlined then climb g use fuel c.inline d.rule next
          else if (c.display d.display).isVisible then
            if c.part.kind.isNone then
              afterKid use next ⟨d.display.kind, d.display.isNamed, c.fields⟩ false
            else none
          else climb g use fuel c.below d.rule next
      | .seq [] => some next
      | .seq (first :: rest) =>
        (climb g use fuel c first next).bind (climb g use fuel c (.seq rest))
      | .choice [] => some 0
      | .choice (first :: rest) =>
        (climb g use fuel c first next).bind fun a =>
          (climb g use fuel c (.choice rest) next).map (max a)
      | .many repeated =>
        (climb g use fuel c.below repeated next).bind fun a => if a ≤ next then some next else none
      | .field name inner => climb g use fuel (c.inField name) inner next
      | .shownAs kind inner => climb g use fuel (c.shownAs kind) inner next
      | .ranked _ _ inner | .favoured _ inner => climb g use fuel c inner next

/-- Enough for the hidden rules of a grammar within one another. -/
def depth : Nat := 60

/-- Whether the right side of a rule yields only rows as lowering expects them, if the rule shows
at all. -/
def keepsRanks (g : Grammar) (d : Definition) : Bool :=
  d.inlined || !d.display.isVisible ||
    (climb g (use? d.display.kind) depth .plain d.rule 0).isSome

/-- Whether all trees that show for rules have rows as lowering expects them, the whole tree stands
for a rule, and nothing is made of comments. -/
def admitsOnlyConforming (g : Grammar) : Bool :=
  g.rules.all (keepsRanks g) &&
    (g.rules.head?.all fun d => (climb g (use? "") depth .plain (.ref d.name) 0).isSome) &&
    g.tokens.all fun token => !g.extras.contains token.name || !isProductive token.display.kind


/-! ## What is derived conforms -/

variable {use : Kid → Option Use}

theorem afterKid_mono {n m next : Nat} {k : Kid} {leaf : Bool} (hn : n ≤ m)
    (h : afterKid use m k leaf = some next) :
    ∃ next' ≤ next, afterKid use n k leaf = some next' := by
  obtain ⟨u, hu, hnext⟩ := Option.bind_eq_some_iff.1 h
  rw [afterKid, hu, Option.bind_some]
  cases u with
  | idle =>
    cases leaf with
    | false => simp [Use.after] at hnext
    | true =>
      obtain rfl : m = next := by simpa [Use.after] using hnext
      exact ⟨n, hn, rfl⟩
  | omitted | listed =>
    obtain rfl : m = next := by simpa [Use.after] using hnext
    exact ⟨n, hn, rfl⟩
  | ranked rank =>
    rw [Use.after] at hnext
    split at hnext
    next hm =>
      obtain rfl := Option.some.inj hnext
      exact ⟨rank + 1, Nat.le_refl _, if_pos (Nat.le_trans hn hm)⟩
    next => simp at hnext

theorem afterKid_leaf {n next : Nat} {k : Kid} {leaf : Bool}
    (h : afterKid use n k false = some next) : afterKid use n k leaf = some next := by
  obtain ⟨u, hu, hnext⟩ := Option.bind_eq_some_iff.1 h
  rw [afterKid, hu, Option.bind_some]
  cases u with
  | idle => simp [Use.after] at hnext
  | _ => exact hnext

theorem afterRow_mono {n m next : Nat} {ts : List SyntaxTree} (hn : n ≤ m)
    (h : afterRow use m ts = some next) : ∃ next' ≤ next, afterRow use n ts = some next' := by
  induction ts generalizing n m with
  | nil =>
    obtain rfl : m = next := by simpa [afterRow] using h
    exact ⟨n, hn, rfl⟩
  | cons t ts ih =>
    rw [afterRow] at h
    obtain ⟨a, ha, hrest⟩ := Option.bind_eq_some_iff.1 h
    obtain ⟨b, hb, hkid⟩ := afterKid_mono hn ha
    obtain ⟨next', hle, hrow⟩ := ih hb hrest
    exact ⟨next', hle, by rw [afterRow, hkid, Option.bind_some, hrow]⟩

theorem afterRow_append {n : Nat} {ts us : List SyntaxTree} :
    afterRow use n (ts ++ us) = (afterRow use n ts).bind fun next => afterRow use next us := by
  induction ts generalizing n with
  | nil => rfl
  | cons t ts ih =>
    simp only [List.cons_append, afterRow, Option.bind_assoc]
    congr 1
    funext next
    exact ih

theorem afterRow_chain {n a b next : Nat} {ts us : List SyntaxTree}
    (hts : ∃ a' ≤ a, afterRow use n ts = some a') (hab : a ≤ b)
    (hus : ∃ next' ≤ next, afterRow use b us = some next') :
    ∃ next' ≤ next, afterRow use n (ts ++ us) = some next' := by
  obtain ⟨a', ha', hts⟩ := hts
  obtain ⟨m, hm, hus⟩ := hus
  obtain ⟨next', hle, hrow⟩ := afterRow_mono (Nat.le_trans ha' hab) hus
  exact ⟨next', Nat.le_trans hle hm, by rw [afterRow_append, hts, Option.bind_some, hrow]⟩

theorem SyntaxTree.kid_of_admits {c : Context} {d : Display} {t : SyntaxTree}
    (h : c.admits d t) : t.kid = ⟨(c.display d).kind, (c.display d).isNamed, c.fields⟩ := by
  simp only [Context.admits, Bool.and_eq_true, beq_iff_eq] at h
  obtain ⟨⟨⟨⟨hkind, hnamed⟩, -⟩, -⟩, hfields⟩ := h
  rw [SyntaxTree.kid, hkind, hnamed, hfields]

variable {g : Grammar}

theorem isComment_of_isExtra (hg : admitsOnlyConforming g) {t : SyntaxTree} (h : g.isExtra t) :
    t.IsComment := by
  simp only [Grammar.isExtra, Bool.and_eq_true, List.isEmpty_iff, List.any_eq_true,
    beq_iff_eq] at h
  obtain ⟨⟨⟨⟨hleaf, -⟩, -⟩, hfields⟩, token, hmem, ⟨hextra, hkind⟩, -⟩ := h
  simp only [admitsOnlyConforming, Bool.and_eq_true, List.all_eq_true, Bool.or_eq_true,
    Bool.not_eq_true'] at hg
  have htoken := hg.2 token hmem
  rw [hextra] at htoken
  exact ⟨hleaf, hfields, by simpa [hkind] using htoken⟩

theorem Conforms.leaf {t : SyntaxTree} (h : t.children = []) : Conforms t := by
  have hown : t.ownChildren = [] := by rw [SyntaxTree.ownChildren, h, List.filter_nil]
  constructor
  · rw [hown]
    rfl
  · simp [hown]
  · simp [h]

theorem climb_of_rule (hg : admitsOnlyConforming g) {name : String} {d : Definition}
    (found : g.rule? name = some d) (whole : d.inlined = false) (shown : d.display.isVisible) :
    ∃ m, climb g (use? d.display.kind) depth .plain d.rule 0 = some m := by
  simp only [admitsOnlyConforming, Bool.and_eq_true, List.all_eq_true] at hg
  have hd := hg.1.1 d (List.mem_of_find?_eq_some found)
  rw [keepsRanks, whole, shown] at hd
  simpa [Option.isSome_iff_exists] using hd

theorem token?_ref_of_rule {name : String} {d : Definition} (found : g.rule? name = some d) :
    g.token? (.ref name) = none := by
  simp [Grammar.token?, found]

theorem fuel_of_climb {use : Kid → Option Use} {fuel n m : Nat} {c : Context} {rule : Rule}
    (h : climb g use fuel c rule n = some m) : ∃ fuel', fuel = fuel' + 1 := by
  cases fuel with
  | zero => simp [climb] at h
  | succ fuel => exact ⟨fuel, rfl⟩

/-- The rank that going through a rule comes to is the most that any of its rows leaves, and all
trees in them conform. -/
theorem climb_sound (hg : admitsOnlyConforming g) {c : Context} {rule : Rule}
    {ts : List SyntaxTree} (h : g.Yields c rule ts) (use : Kid → Option Use) (fuel n m : Nat)
    (hm : climb g use fuel c rule n = some m) :
    (∀ t ∈ ts, Conforms t) ∧ ∃ m' ≤ m, afterRow use n ts = some m' := by
  induction h generalizing use fuel n m with
  | @token _ _ c t found shown fits leaf =>
    obtain ⟨fuel, rfl⟩ := fuel_of_climb hm
    rw [climb.eq_def] at hm
    simp only [found, shown, if_true] at hm
    refine ⟨fun u hu => ?_, m, Nat.le_refl m, ?_⟩
    · obtain rfl := List.mem_singleton.1 hu
      exact .leaf leaf
    · rw [afterRow, SyntaxTree.kid_of_admits fits, leaf, List.isEmpty_nil, hm]
      rfl
  | hiddenToken found hidden =>
    obtain ⟨fuel, rfl⟩ := fuel_of_climb hm
    rw [climb.eq_def] at hm
    simp only [found, hidden, Bool.false_eq_true, if_false, Option.some_inj] at hm
    exact ⟨by simp, n, Nat.le_of_eq hm, rfl⟩
  | @node name d c t found whole shown fits row extras ih =>
    obtain ⟨fuel, rfl⟩ := fuel_of_climb hm
    rw [climb.eq_def] at hm
    simp only [token?_ref_of_rule found, found, whole, shown, Bool.false_eq_true, if_false,
      if_true, Option.isNone_iff_eq_none] at hm
    split at hm
    next plain =>
      have hdisplay : c.display d.display = d.display := by rw [Context.display, plain]
      rw [hdisplay] at shown
      have hkid := SyntaxTree.kid_of_admits fits
      rw [hdisplay] at hkid
      have hkind : t.kind = d.display.kind := congrArg Kid.kind hkid
      obtain ⟨b, hb⟩ := climb_of_rule hg found whole shown
      obtain ⟨hbelow, next, -, hrow⟩ := ih (use? d.display.kind) depth 0 b hb
      refine ⟨fun u hu => ?_, m, Nat.le_refl m, ?_⟩
      · obtain rfl := List.mem_singleton.1 hu
        exact .node (by rw [hkind, hrow]; rfl) hbelow fun e he hextra =>
          isComment_of_isExtra hg (extras e he hextra)
      · rw [afterRow, hkid, afterKid_leaf hm]
        rfl
    next => simp at hm
  | hiddenNode found whole hidden row ih =>
    obtain ⟨fuel, rfl⟩ := fuel_of_climb hm
    rw [climb.eq_def] at hm
    simp only [token?_ref_of_rule found, found, whole, hidden, Bool.false_eq_true,
      if_false] at hm
    exact ih use fuel n m hm
  | inlined found parts row ih =>
    obtain ⟨fuel, rfl⟩ := fuel_of_climb hm
    rw [climb.eq_def] at hm
    simp only [token?_ref_of_rule found, found, parts, if_true] at hm
    exact ih use fuel n m hm
  | blank =>
    obtain ⟨fuel, rfl⟩ := fuel_of_climb hm
    obtain rfl : n = m := by simpa [climb.eq_def, Grammar.token?] using hm
    exact ⟨by simp, n, Nat.le_refl n, rfl⟩
  | seqNil =>
    obtain ⟨fuel, rfl⟩ := fuel_of_climb hm
    obtain rfl : n = m := by simpa [climb.eq_def, Grammar.token?] using hm
    exact ⟨by simp, n, Nat.le_refl n, rfl⟩
  | seqCons head tail ih₁ ih₂ =>
    obtain ⟨fuel, rfl⟩ := fuel_of_climb hm
    rw [climb.eq_def] at hm
    simp only [Grammar.token?] at hm
    obtain ⟨a, ha, hb⟩ := Option.bind_eq_some_iff.1 hm
    obtain ⟨hts, hrow₁⟩ := ih₁ use fuel n a ha
    obtain ⟨hus, hrow₂⟩ := ih₂ use fuel a m hb
    refine ⟨fun t ht => ?_, afterRow_chain hrow₁ (Nat.le_refl a) hrow₂⟩
    rcases List.mem_append.1 ht with ht | ht
    · exact hts t ht
    · exact hus t ht
  | choiceHead row ih =>
    obtain ⟨fuel, rfl⟩ := fuel_of_climb hm
    rw [climb.eq_def] at hm
    simp only [Grammar.token?] at hm
    obtain ⟨a, ha, hb⟩ := Option.bind_eq_some_iff.1 hm
    obtain ⟨b, -, rfl⟩ := Option.map_eq_some_iff.1 hb
    obtain ⟨hts, m', hle, hrow⟩ := ih use fuel n a ha
    exact ⟨hts, m', Nat.le_trans hle (Nat.le_max_left a b), hrow⟩
  | choiceTail row ih =>
    obtain ⟨fuel, rfl⟩ := fuel_of_climb hm
    rw [climb.eq_def] at hm
    simp only [Grammar.token?] at hm
    obtain ⟨a, ha, hb⟩ := Option.bind_eq_some_iff.1 hm
    obtain ⟨b, hrest, rfl⟩ := Option.map_eq_some_iff.1 hb
    obtain ⟨hts, m', hle, hrow⟩ := ih use fuel n b hrest
    exact ⟨hts, m', Nat.le_trans hle (Nat.le_max_right a b), hrow⟩
  | manyNil =>
    obtain ⟨fuel, rfl⟩ := fuel_of_climb hm
    rw [climb.eq_def] at hm
    simp only [Grammar.token?] at hm
    obtain ⟨a, ha, hb⟩ := Option.bind_eq_some_iff.1 hm
    split at hb
    next => exact ⟨by simp, n, Nat.le_of_eq (Option.some.inj hb), rfl⟩
    next => simp at hb
  | manyCons unnamed head tail ih₁ ih₂ =>
    -- going once through the repeated part must not raise the rank
    obtain ⟨fuel, rfl⟩ := fuel_of_climb hm
    have hmany := hm
    rw [climb.eq_def] at hm
    simp only [Grammar.token?] at hm
    obtain ⟨a, ha, hb⟩ := Option.bind_eq_some_iff.1 hm
    split at hb
    next hle =>
      obtain ⟨hts, hrow₁⟩ := ih₁ use fuel n a ha
      obtain ⟨hus, hrow₂⟩ := ih₂ use (fuel + 1) n m hmany
      refine ⟨fun t ht => ?_, afterRow_chain hrow₁ hle hrow₂⟩
      rcases List.mem_append.1 ht with ht | ht
      · exact hts t ht
      · exact hus t ht
    next => simp at hb
  | field row ih | shownAs row ih | ranked row ih | favoured row ih =>
    obtain ⟨fuel, rfl⟩ := fuel_of_climb hm
    rw [climb.eq_def] at hm
    simp only [Grammar.token?] at hm
    exact ih use fuel n m hm

theorem kind_of_use? {parent : String} {k : Kid} {u : Use} (h : use? parent k = some u)
    (hparent : declarationKinds.contains parent = false) (hu : u ≠ .omitted) :
    k.kind ≠ "variable_declarator" := by
  intro hkind
  have hread : isReadable parent k = false := by
    rw [isReadable, hparent, hkind]
    rfl
  have hprod : isProductive k.kind = true := by
    rw [hkind]
    rfl
  rw [use?] at h
  split at h
  · split at h
    · simp [hread] at h
    · exact hu (Option.some.inj h).symm
    · simp [hprod] at h
    · simp at h
  · simp [hread, hprod] at h

theorem use?_ne_omitted {parent : String} {k : Kid} (h : omittedRoles parent = []) :
    use? parent k ≠ some .omitted := by
  intro hu
  rw [use?, h, List.any_nil] at hu
  split at hu
  · split at hu
    · split at hu <;> simp at hu
    · simp_all
    · split at hu <;> simp at hu
    · simp at hu
  · split at hu
    · split at hu
      · split at hu <;> simp at hu
      · simp at hu
    · split at hu <;> simp at hu

theorem conforms_of_derives (hg : admitsOnlyConforming g) {t : SyntaxTree} (h : g.Derives t) :
    Conforms t ∧ t.kind ≠ "variable_declarator" := by
  obtain ⟨d, hd, h⟩ := h
  have hg' := hg
  simp only [admitsOnlyConforming, Bool.and_eq_true] at hg'
  have hroot := hg'.1.2
  rw [Option.mem_def.1 hd, Option.all_some, Option.isSome_iff_exists] at hroot
  obtain ⟨m, hm⟩ := hroot
  obtain ⟨hts, m', -, hrow⟩ := climb_sound hg h (use? "") depth 0 m hm
  refine ⟨hts t List.mem_cons_self, ?_⟩
  rw [afterRow] at hrow
  obtain ⟨next, hkid, -⟩ := Option.bind_eq_some_iff.1 hrow
  obtain ⟨u, hu, -⟩ := Option.bind_eq_some_iff.1 hkid
  refine kind_of_use? hu rfl fun homitted => ?_
  exact use?_ne_omitted rfl (homitted ▸ hu)

theorem grammar_admitsOnlyConforming : admitsOnlyConforming grammar := by
  decide +kernel

end CodeSurvey.Script

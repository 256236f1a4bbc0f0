import CodeSurvey.Proofs.Script.Conformance
import CodeSurvey.Proofs.Script.Subtrees
import Mathlib.Data.List.Find

/-!
# The children that lowering reads

In a tree that conforms, the children that are not left out and are more than a token are those
that lowering looks up: by their roles, in the order of the roles, or all that are named.
-/

namespace CodeSurvey.Script
namespace SyntaxTree

def omits (t c : SyntaxTree) : Bool := (omittedRoles t.kind).any c.info.fields.contains

def kept (t : SyntaxTree) : List SyntaxTree := t.children.filter fun c => !t.omits c

def childIn? (t : SyntaxTree) (names : List String) : Option SyntaxTree :=
  t.children.find? fun c => names.any c.info.fields.contains

theorem childIn?_singleton (t : SyntaxTree) (name : String) : t.childIn? [name] = t.field? name := by
  simp only [childIn?, field?, List.any_cons, List.any_nil, Bool.or_false]

theorem mem_ownChildren {t c : SyntaxTree} :
    c ∈ t.ownChildren ↔ c ∈ t.children ∧ c.info.extra = false := by
  simp [ownChildren]

theorem field?_some {t c : SyntaxTree} {name : String} (h : t.field? name = some c) :
    c ∈ t.children ∧ c.info.fields.contains name := by
  rw [field?] at h
  have hc := List.find?_some h
  exact ⟨List.mem_of_find?_eq_some h, hc⟩

theorem namedChildren_eq (t : SyntaxTree) :
    t.namedChildren = t.ownChildren.filter fun c => c.info.named := by
  rw [namedChildren, ownChildren, List.filter_filter]

end SyntaxTree

/-! ## Rows in ranks -/

section Ranks

variable {use : Kid → Option Use}

def rankOf (use : Kid → Option Use) (t : SyntaxTree) : Option Nat :=
  match use t.kid with
  | some (.ranked rank) => some rank
  | _ => none

theorem afterRow_cons {n m : Nat} {t : SyntaxTree} {ts : List SyntaxTree}
    (h : afterRow use n (t :: ts) = some m) :
    ∃ u next, use t.kid = some u ∧ u.after n t.children.isEmpty = some next ∧
      afterRow use next ts = some m := by
  obtain ⟨next, hnext, hrest⟩ := Option.bind_eq_some_iff.1 h
  obtain ⟨u, hu, hafter⟩ := Option.bind_eq_some_iff.1 hnext
  exact ⟨u, next, hu, hafter, hrest⟩

theorem after_eq {n next : Nat} {t : SyntaxTree} {u : Use} {leaf : Bool}
    (hu : use t.kid = some u) (h : u.after n leaf = some next) :
    match rankOf use t with
    | none => next = n
    | some rank => n ≤ rank ∧ next = rank + 1 := by
  rw [rankOf, hu]
  cases u with
  | ranked rank =>
    simp only [Use.after] at h
    split at h
    next hle => exact ⟨hle, (Option.some.inj h).symm⟩
    next => simp at h
  | idle =>
    simp only [Use.after] at h
    split at h
    next => exact (Option.some.inj h).symm
    next => simp at h
  | omitted | listed => exact (Option.some.inj h).symm

theorem use_of_afterRow {n m : Nat} {ts : List SyntaxTree} (h : afterRow use n ts = some m)
    {t : SyntaxTree} (ht : t ∈ ts) :
    ∃ u, use t.kid = some u ∧ (u = .idle → t.children = []) := by
  induction ts generalizing n with
  | nil => simp at ht
  | cons s ts ih =>
    obtain ⟨u, next, hu, hafter, hrest⟩ := afterRow_cons h
    rcases List.mem_cons.1 ht with rfl | ht
    · refine ⟨u, hu, fun hidle => ?_⟩
      subst hidle
      simp only [Use.after] at hafter
      split at hafter
      next hleaf => exact List.isEmpty_iff.1 hleaf
      next => simp at hafter
    · exact ih hrest ht

theorem le_rank {n m rank : Nat} {ts : List SyntaxTree} (h : afterRow use n ts = some m)
    {t : SyntaxTree} (ht : t ∈ ts) (hrank : rankOf use t = some rank) : n ≤ rank := by
  induction ts generalizing n with
  | nil => simp at ht
  | cons s ts ih =>
    obtain ⟨u, next, hu, hafter, hrest⟩ := afterRow_cons h
    have hs := after_eq hu hafter
    rcases List.mem_cons.1 ht with rfl | ht
    · rw [hrank] at hs
      exact hs.1
    · have hle := ih hrest ht
      cases hr : rankOf use s with
      | none =>
        rw [hr] at hs
        simp only at hs
        omega
      | some r =>
        rw [hr] at hs
        simp only at hs
        omega

/-- No two children of a row have the same rank. -/
theorem find?_rank {n m rank : Nat} {ts : List SyntaxTree} (h : afterRow use n ts = some m)
    {t : SyntaxTree} (ht : t ∈ ts) (hrank : rankOf use t = some rank) :
    ts.find? (fun s => rankOf use s == some rank) = some t := by
  induction ts generalizing n with
  | nil => simp at ht
  | cons s ts ih =>
    obtain ⟨u, next, hu, hafter, hrest⟩ := afterRow_cons h
    have hs := after_eq hu hafter
    by_cases hsr : rankOf use s = some rank
    · rw [List.find?_cons_of_pos (by simp [hsr])]
      rcases List.mem_cons.1 ht with rfl | ht
      · rfl
      · rw [hsr] at hs
        have hle := le_rank hrest ht hrank
        simp only at hs
        omega
    · rw [List.find?_cons_of_neg (by simpa using hsr)]
      rcases List.mem_cons.1 ht with rfl | ht
      · exact absurd hrank hsr
      · exact ih hrest ht

theorem range'_split {n rank bound : Nat} (hle : n ≤ rank) (hlt : rank < bound) :
    List.range' n (bound - n) =
      List.range' n (rank - n) ++ rank :: List.range' (rank + 1) (bound - (rank + 1)) := by
  obtain ⟨k, rfl⟩ := Nat.exists_eq_add_of_le hle
  obtain ⟨l, rfl⟩ := Nat.exists_eq_add_of_lt hlt
  rw [← List.range'_succ, show n + k - n = k by omega, List.range'_append_1]
  congr 1
  omega

/-- Going along a row and picking out what has a rank is going through the ranks and finding for
each the child that has it. -/
theorem flatMap_ranks {β : Type} (G : SyntaxTree → List β) {n m bound : Nat}
    {ts : List SyntaxTree} (h : afterRow use n ts = some m)
    (hbound : ∀ t ∈ ts, ∀ rank, rankOf use t = some rank → rank < bound) :
    (ts.filter fun t => (rankOf use t).isSome).flatMap G =
      (List.range' n (bound - n)).flatMap fun rank =>
        (ts.find? fun t => rankOf use t == some rank).toList.flatMap G := by
  induction ts generalizing n with
  | nil => simp
  | cons t ts ih =>
    obtain ⟨u, next, hu, hafter, hrest⟩ := afterRow_cons h
    have hnext := after_eq hu hafter
    have hih := ih hrest fun s hs => hbound s (List.mem_cons_of_mem t hs)
    cases hr : rankOf use t with
    | none =>
      rw [hr] at hnext
      obtain rfl : next = n := hnext
      simp [hr, hih]
    | some rank =>
      rw [hr] at hnext
      obtain ⟨hle, rfl⟩ := hnext
      have hlt := hbound t List.mem_cons_self rank hr
      have hbefore : ((List.range' n (rank - n)).flatMap fun r =>
          ((t :: ts).find? fun s => rankOf use s == some r).toList.flatMap G) = [] := by
        refine List.flatMap_eq_nil_iff.2 fun r hmem => ?_
        have hr' : r < rank := by
          have := List.mem_range'_1.1 hmem
          omega
        have hnone : (t :: ts).find? (fun s => rankOf use s == some r) = none := by
          refine List.find?_eq_none.2 fun s hs hsr => ?_
          rw [beq_iff_eq] at hsr
          rcases List.mem_cons.1 hs with rfl | hs
          · rw [hr, Option.some_inj] at hsr
            omega
          · have := le_rank hrest hs hsr
            omega
        rw [hnone]
        rfl
      have hafter' : ((List.range' (rank + 1) (bound - (rank + 1))).flatMap fun r =>
          ((t :: ts).find? fun s => rankOf use s == some r).toList.flatMap G) =
          (List.range' (rank + 1) (bound - (rank + 1))).flatMap fun r =>
            (ts.find? fun s => rankOf use s == some r).toList.flatMap G := by
        refine List.flatMap_congr fun r hmem => ?_
        have hr' : rank < r := by
          have := List.mem_range'_1.1 hmem
          omega
        rw [List.find?_cons_of_neg]
        simp only [hr, beq_iff_eq, Option.some_inj]
        omega
      rw [range'_split hle hlt, List.flatMap_append, hbefore, List.nil_append, List.flatMap_cons,
        hafter', ← hih]
      simp [hr]

end Ranks

/-! ## Children by their roles -/

theorem mem_ranksOf {roles : List (List String)} {fields : List String} {rank : Nat} :
    rank ∈ ranksOf roles fields ↔
      ∃ names, roles[rank]? = some names ∧ names.any fields.contains := by
  simp only [ranksOf, List.mem_filterMap, Prod.exists, List.mem_zipIdx_iff_getElem?]
  constructor
  · rintro ⟨names, i, hi, h⟩
    split at h
    next hany =>
      obtain rfl := Option.some.inj h
      exact ⟨names, hi, hany⟩
    next => simp at h
  · rintro ⟨names, hi, hany⟩
    exact ⟨names, rank, hi, by rw [if_pos hany]⟩

/-- What is done with a child by its roles: it is ranked by the only one that is read, or it has
none of these and is left out or passed over. -/
theorem use?_of_roles {parent : String} {roles : List (List String)} {k : Kid} {u : Use}
    (hroles : roles? parent = some roles) (hu : use? parent k = some u) :
    (∃ rank, u = .ranked rank ∧ ranksOf roles k.fields = [rank] ∧ isReadable parent k ∧
      (omittedRoles parent).any k.fields.contains = false) ∨
    (ranksOf roles k.fields = [] ∧ u = .omitted ∧
      (omittedRoles parent).any k.fields.contains) ∨
    (ranksOf roles k.fields = [] ∧ u = .idle ∧ isProductive k.kind = false) := by
  rw [use?, hroles] at hu
  dsimp only at hu
  split at hu
  next rank hranks homits =>
    split at hu
    next hreadable => exact .inl ⟨rank, (Option.some.inj hu).symm, hranks, hreadable, homits⟩
    next => simp at hu
  next hranks homits => exact .inr (.inl ⟨hranks, (Option.some.inj hu).symm, homits⟩)
  next hranks homits =>
    split at hu
    next => simp at hu
    next hprod =>
      exact .inr (.inr ⟨hranks, (Option.some.inj hu).symm, Bool.eq_false_iff.2 hprod⟩)
  next => simp at hu

theorem use?_of_listed {parent : String} {k : Kid} {u : Use} (hroles : roles? parent = none)
    (hu : use? parent k = some u) :
    (k.named ∧ isReadable parent k ∧ u = if readsOne parent then .ranked 0 else .listed) ∨
    (k.named = false ∧ u = .idle ∧ isProductive k.kind = false) := by
  rw [use?, hroles] at hu
  dsimp only at hu
  split at hu
  next hnamed =>
    split at hu
    next hreadable => exact .inl ⟨hnamed, hreadable, (Option.some.inj hu).symm⟩
    next => simp at hu
  next hnamed =>
    split at hu
    next => simp at hu
    next hprod =>
      exact .inr ⟨Bool.eq_false_iff.2 hnamed, (Option.some.inj hu).symm,
        Bool.eq_false_iff.2 hprod⟩


theorem omittedRoles_of_listed {parent : String} (hroles : roles? parent = none) :
    omittedRoles parent = [] := by
  rw [omittedRoles.eq_def]
  split
  next => simp [roles?] at hroles
  next => simp [roles?] at hroles
  next => rfl

theorem flatMap_filter_congr {α β : Type} {p q : α → Bool} {G : α → List β} {l : List α}
    (h : ∀ x ∈ l, p x ≠ q x → G x = []) : (l.filter p).flatMap G = (l.filter q).flatMap G := by
  induction l with
  | nil => rfl
  | cons x l ih =>
    have hx := h x List.mem_cons_self
    have hl := ih fun y hy => h y (List.mem_cons_of_mem x hy)
    cases hp : p x <;> cases hq : q x <;> simp_all

namespace Conforms

variable {t : SyntaxTree}

theorem below_mem (h : Conforms t) {c : SyntaxTree} (hc : c ∈ t.children) : Conforms c := by
  obtain ⟨_, below, extras⟩ := h
  cases hx : c.info.extra with
  | false => exact below c (SyntaxTree.mem_ownChildren.2 ⟨hc, hx⟩)
  | true => exact .leaf (extras c hc hx).leaf

theorem isComment (h : Conforms t) {c : SyntaxTree} (hc : c ∈ t.children)
    (hx : c.info.extra) : c.IsComment := by
  obtain ⟨_, _, extras⟩ := h
  exact extras c hc hx

theorem row_eq (h : Conforms t) : ∃ m, afterRow (use? t.kind) 0 t.ownChildren = some m := by
  obtain ⟨row, _, _⟩ := h
  exact Option.isSome_iff_exists.1 row

theorem use_own (h : Conforms t) {c : SyntaxTree} (hc : c ∈ t.ownChildren) :
    ∃ u, use? t.kind c.kid = some u ∧ (u = .idle → c.children = []) := by
  obtain ⟨m, hm⟩ := h.row_eq
  exact use_of_afterRow hm hc

end Conforms

def BarrenAtLeaves {β : Type} (G : SyntaxTree → List β) : Prop :=
  ∀ c : SyntaxTree, c.children = [] → isProductive c.kind = false → G c = []

section Kept

variable {β : Type} {G : SyntaxTree → List β} {t : SyntaxTree}

theorem kept_flatMap_listed (h : Conforms t) (hG : BarrenAtLeaves G)
    (hroles : roles? t.kind = none) : t.kept.flatMap G = t.namedChildren.flatMap G := by
  refine flatMap_filter_congr fun c hc hne => ?_
  have homits : t.omits c = false := by
    simp [SyntaxTree.omits, omittedRoles_of_listed hroles]
  rw [homits, Bool.not_false] at hne
  cases hx : c.info.extra with
  | true => exact hG c (h.isComment hc hx).leaf (h.isComment hc hx).unproductive
  | false =>
    obtain ⟨u, hu, hidle⟩ := h.use_own (SyntaxTree.mem_ownChildren.2 ⟨hc, hx⟩)
    rcases use?_of_listed hroles hu with ⟨hnamed, -, -⟩ | ⟨-, rfl, hprod⟩
    · have : c.info.named = true := hnamed
      simp [this, hx] at hne
    · exact hG c (hidle rfl) hprod

theorem rankOf_use? {c : SyntaxTree} {roles : List (List String)} {u : Use}
    (hroles : roles? t.kind = some roles) (hu : use? t.kind c.kid = some u) {rank : Nat} :
    rankOf (use? t.kind) c = some rank ↔ rank ∈ ranksOf roles c.info.fields := by
  rw [rankOf, hu]
  rcases use?_of_roles hroles hu with ⟨r, rfl, hranks, -, -⟩ | ⟨hranks, rfl, -⟩ |
    ⟨hranks, rfl, -⟩ <;>
  · rw [show c.kid.fields = c.info.fields from rfl] at hranks
    simp [hranks, eq_comm]

theorem childIn?_eq_find?_own (h : Conforms t) (names : List String) :
    t.childIn? names = t.ownChildren.find? fun c => names.any c.info.fields.contains := by
  rw [SyntaxTree.childIn?, SyntaxTree.ownChildren, List.find?_filter]
  refine List.find?_congr fun c hc => ?_
  cases hx : c.info.extra with
  | false => simp only [Bool.not_false, true_and, Bool.decide_eq_true]
  | true => simp [(h.isComment hc hx).fields]

theorem find?_rank_eq_childIn? (h : Conforms t) {roles : List (List String)}
    (hroles : roles? t.kind = some roles) {rank : Nat} (names : List String)
    (hnames : roles[rank]? = some names) :
    (t.ownChildren.find? fun c => rankOf (use? t.kind) c == some rank) = t.childIn? names := by
  rw [childIn?_eq_find?_own h]
  refine List.find?_congr fun c hc => ?_
  obtain ⟨u, hu, -⟩ := h.use_own hc
  rw [Bool.eq_iff_iff, beq_iff_eq, rankOf_use? hroles hu, mem_ranksOf]
  constructor
  · rintro ⟨names', hnames', hany⟩
    rw [hnames, Option.some_inj] at hnames'
    rwa [hnames']
  · exact fun hany => ⟨names, hnames, hany⟩

theorem kept_flatMap_ranked (h : Conforms t) (hG : BarrenAtLeaves G) {roles : List (List String)}
    (hroles : roles? t.kind = some roles) :
    t.kept.flatMap G = roles.flatMap fun names => (t.childIn? names).toList.flatMap G := by
  obtain ⟨m, hm⟩ := h.row_eq
  have hranked : t.kept.flatMap G =
      (t.ownChildren.filter fun c => (rankOf (use? t.kind) c).isSome).flatMap G := by
    rw [SyntaxTree.ownChildren, List.filter_filter]
    refine flatMap_filter_congr fun c hc hne => ?_
    cases hx : c.info.extra with
    | true => exact hG c (h.isComment hc hx).leaf (h.isComment hc hx).unproductive
    | false =>
      obtain ⟨u, hu, hidle⟩ := h.use_own (SyntaxTree.mem_ownChildren.2 ⟨hc, hx⟩)
      rcases use?_of_roles hroles hu with ⟨r, rfl, -, -, homits⟩ | ⟨-, rfl, homits⟩ |
        ⟨-, rfl, hprod⟩
      · have : t.omits c = false := homits
        simp [rankOf, hu, this, hx] at hne
      · have : t.omits c = true := homits
        simp [rankOf, hu, this] at hne
      · exact hG c (hidle rfl) hprod
  have hbound : ∀ c ∈ t.ownChildren, ∀ rank, rankOf (use? t.kind) c = some rank →
      rank < roles.length := by
    intro c hc rank hrank
    obtain ⟨u, hu, -⟩ := h.use_own hc
    rw [rankOf_use? hroles hu, mem_ranksOf] at hrank
    obtain ⟨names, hnames, -⟩ := hrank
    exact (List.getElem?_eq_some_iff.1 hnames).1
  rw [hranked, flatMap_ranks G hm hbound, Nat.sub_zero]
  have hroles' : roles = (List.range' 0 roles.length).map fun rank => roles.getD rank [] := by
    rw [← List.range_eq_range']
    refine List.ext_getElem (by simp) fun i h₁ h₂ => ?_
    simp [List.getElem?_eq_getElem h₁]
  conv_rhs => rw [hroles', List.flatMap_map]
  refine List.flatMap_congr fun rank hrank => ?_
  have hlt : rank < roles.length := by
    have := List.mem_range'_1.1 hrank
    omega
  rw [find?_rank_eq_childIn? h hroles (roles.getD rank []) (by simp [hlt])]

/-! ## What is read -/

theorem rank_of_field (h : Conforms t) {roles : List (List String)}
    (hroles : roles? t.kind = some roles) {rank : Nat} {names : List String} {name : String}
    (hnames : roles[rank]? = some names) (hname : name ∈ names) {c : SyntaxTree}
    (hc : c ∈ t.children) (hfield : c.info.fields.contains name) :
    c ∈ t.ownChildren ∧ rankOf (use? t.kind) c = some rank ∧ isReadable t.kind c.kid := by
  have hx : c.info.extra = false := by
    refine Bool.eq_false_iff.2 fun hx => ?_
    rw [(h.isComment hc hx).fields] at hfield
    simp at hfield
  have hown := SyntaxTree.mem_ownChildren.2 ⟨hc, hx⟩
  obtain ⟨u, hu, -⟩ := h.use_own hown
  have hmem : rank ∈ ranksOf roles c.info.fields :=
    mem_ranksOf.2 ⟨names, hnames, List.any_eq_true.2 ⟨name, hname, hfield⟩⟩
  refine ⟨hown, (rankOf_use? hroles hu).2 hmem, ?_⟩
  rcases use?_of_roles hroles hu with ⟨-, -, -, hreadable, -⟩ | ⟨hranks, -, -⟩ | ⟨hranks, -, -⟩
  · exact hreadable
  · rw [show c.kid.fields = c.info.fields from rfl] at hranks
    simp [hranks] at hmem
  · rw [show c.kid.fields = c.info.fields from rfl] at hranks
    simp [hranks] at hmem

theorem childIn?_of_field? (h : Conforms t) {roles : List (List String)}
    (hroles : roles? t.kind = some roles) (rank : Nat) {names : List String} {name : String}
    (hnames : roles[rank]? = some names) (hname : name ∈ names) {c : SyntaxTree}
    (hfield : t.field? name = some c) : t.childIn? names = some c := by
  obtain ⟨m, hm⟩ := h.row_eq
  obtain ⟨hc, hname'⟩ := SyntaxTree.field?_some hfield
  obtain ⟨hown, hrank, -⟩ := rank_of_field h hroles hnames hname hc hname'
  rw [← find?_rank_eq_childIn? h hroles names hnames]
  exact find?_rank hm hown hrank

theorem readable_of_field? (h : Conforms t) {roles : List (List String)}
    (hroles : roles? t.kind = some roles) (names : List String) {name : String}
    (hnames : names ∈ roles) (hname : name ∈ names) {c : SyntaxTree}
    (hfield : t.field? name = some c) : isReadable t.kind c.kid := by
  obtain ⟨rank, hrank⟩ := List.mem_iff_getElem?.1 hnames
  obtain ⟨hc, hname'⟩ := SyntaxTree.field?_some hfield
  exact (rank_of_field h hroles hrank hname hc hname').2.2

theorem readable_of_named (h : Conforms t) (hroles : roles? t.kind = none) {c : SyntaxTree}
    (hc : c ∈ t.namedChildren) : isReadable t.kind c.kid := by
  obtain ⟨hmem, hc⟩ := List.mem_filter.1 hc
  simp only [Bool.and_eq_true, Bool.not_eq_true'] at hc
  obtain ⟨u, hu, -⟩ := h.use_own (SyntaxTree.mem_ownChildren.2 ⟨hmem, hc.2⟩)
  rcases use?_of_listed hroles hu with ⟨-, hreadable, -⟩ | ⟨hnamed, -, -⟩
  · exact hreadable
  · have : c.info.named = false := hnamed
    simp [this] at hc

theorem declarationKinds_of_roles {parent : String} {roles : List (List String)}
    (hroles : roles? parent = some roles) : declarationKinds.contains parent = false := by
  refine Bool.eq_false_iff.2 fun hp => ?_
  simp only [declarationKinds, List.contains_cons, List.contains_nil, Bool.or_false,
    Bool.or_eq_true, beq_iff_eq] at hp
  rcases hp with rfl | rfl <;> simp [roles?] at hroles

theorem kind_of_readable {parent : String} {k : Kid}
    (hparent : declarationKinds.contains parent = false) (h : isReadable parent k) :
    k.kind ≠ "variable_declarator" ∧
      (k.fields.contains "parameters" → k.kind = "formal_parameters") ∧
      (parent = "variable_declarator" ∨ parent = "parenthesized_expression" →
        declaredFunctionKinds.contains k.kind = false) ∧
      (parent = "variable_declarator" → k.fields.contains "name" → isBound k.kind) := by
  simp only [isReadable, hparent, Bool.false_eq_true, if_false, Bool.and_eq_true, bne_iff_ne,
    Bool.not_eq_true', Bool.and_eq_false_iff, Bool.or_eq_true, Bool.or_eq_false_iff, beq_iff_eq,
    beq_eq_false_iff_ne] at h
  obtain ⟨⟨⟨hdeclarator, hvalue⟩, hparameters⟩, hname⟩ := h
  refine ⟨hdeclarator, fun hf => ?_, fun hp => ?_, fun hp hf => ?_⟩
  · rcases hparameters with hf' | hk
    · rw [hf] at hf'
      exact absurd hf' (by simp)
    · exact hk
  · rcases hvalue with hp' | hv
    · rcases hp with hp | hp
      · exact absurd hp hp'.1
      · exact absurd hp hp'.2
    · exact hv
  · rcases hname with (hp' | hf') | hbound
    · exact absurd hp hp'
    · rw [hf] at hf'
      exact absurd hf' (by simp)
    · exact hbound

theorem namedChildren_of_readsOne (h : Conforms t) (hroles : roles? t.kind = none)
    (hone : readsOne t.kind) : t.namedChildren = t.namedChildren.head?.toList := by
  obtain ⟨m, hm⟩ := h.row_eq
  have hrank (c : SyntaxTree) (hc : c ∈ t.ownChildren) :
      rankOf (use? t.kind) c = if c.kid.named then some 0 else none := by
    obtain ⟨u, hu, -⟩ := h.use_own hc
    rcases use?_of_listed hroles hu with ⟨hn, -, rfl⟩ | ⟨hn, rfl, -⟩
    · rw [rankOf, hu, if_pos hone, if_pos hn]
    · rw [rankOf, hu, if_neg (Bool.eq_false_iff.1 hn)]
  have hbound : ∀ c ∈ t.ownChildren, ∀ rank, rankOf (use? t.kind) c = some rank → rank < 1 := by
    intro c hc rank hr
    rw [hrank c hc] at hr
    split at hr
    next =>
      obtain rfl := Option.some.inj hr
      exact Nat.one_pos
    next => simp at hr
  have hnamed : t.namedChildren =
      t.ownChildren.filter fun c => (rankOf (use? t.kind) c).isSome := by
    rw [SyntaxTree.namedChildren_eq]
    refine List.filter_congr fun c hc => ?_
    rw [hrank c hc]
    change c.kid.named = _
    cases c.kid.named <;> rfl
  have hflat := flatMap_ranks (fun c => [c]) hm hbound
  rw [← hnamed, List.flatMap_singleton'] at hflat
  simp only [Nat.sub_zero, List.range'_one, List.flatMap_singleton,
    List.flatMap_singleton'] at hflat
  rw [hflat]
  cases t.ownChildren.find? fun c => rankOf (use? t.kind) c == some 0 <;> rfl

end Kept

end CodeSurvey.Script

import CodeSurvey.Proofs.Definitions.ProgramDefinitions
import CodeSurvey.Proofs.References.ProgramCalls
import CodeSurvey.Proofs.Script.PlainInitializers
import CodeSurvey.Proofs.Script.Preservation
import CodeSurvey.Proofs.Script.TreeLines

/-!
# Sites in programs

Sites are in the order of their lines, which are those of the text. Calls are charged to functions
that the program defines. The scopes that lend calls their names are met on the way to the calls,
the definitions on a way of their own; both go by the same nodes, as long as no variable starts as a
declared function.
-/

namespace CodeSurvey.Script

/-! ## What encloses a node -/

theorem Node.mem_enclosed_initializes {n c : Node} {e : Enclosure} {d : Declarator Node}
    (h : (e, c) ∈ n.enclosed) (hd : e.initializes = some d) :
    d ∈ n.declarators ∧ d.init = some c := by
  have plain (ns : List Node) (h : (e, c) ∈ ns.map (Prod.mk ⟨n, none⟩)) : False := by
    obtain ⟨c', _, heq⟩ := List.mem_map.1 h
    cases heq
    cases hd
  cases n with
  | declaration kind ds s =>
    obtain ⟨d', hd', hx⟩ := List.mem_flatMap.1 h
    rcases List.mem_cons.1 hx with heq | hx
    · cases heq
      cases hd
    · obtain ⟨c', hc', heq⟩ := List.mem_map.1 hx
      cases heq
      cases hd
      exact ⟨hd', by simpa using hc'⟩
  | _ => exact (plain _ h).elim

theorem Node.enclosed_of_around {n : Node} {around : List Enclosure} {o : Occurrence}
    (ho : o ∈ n.occurrencesIn around) {e : Enclosure} (he : e ∈ o.around) :
    e ∈ around ∨ ∃ p ∈ n.occurrencesIn around, ∃ c, (e, c) ∈ p.node.enclosed := by
  induction n using Node.childInduction generalizing around with
  | step n ih =>
    rw [occurrencesIn_eq] at ho ⊢
    rcases List.mem_cons.1 ho with rfl | ho
    · exact .inl he
    · obtain ⟨x, hx, ho⟩ := List.mem_flatMap.1 ho
      have hc : x.2 ∈ n.children := Node.enclosed_map_snd n ▸ List.mem_map_of_mem hx
      rcases ih x.2 hc ho with he' | ⟨p, hp, c, hc⟩
      · rcases List.mem_cons.1 he' with rfl | he'
        · exact .inr ⟨_, List.mem_cons_self, x.2, hx⟩
        · exact .inl he'
      · refine .inr ⟨p, List.mem_cons_of_mem _ ?_, c, hc⟩
        exact List.mem_flatMap.2 ⟨x, hx, hp⟩

end CodeSurvey.Script

namespace CodeSurvey.References
open Script Definitions

/-! ## Scopes are definitions -/

theorem item_of_scopeName? {o : Occurrence} {e : Enclosure} {c : Node} {name : String}
    (hplain : ∀ d ∈ o.node.declarators, ∀ f, d.init = some (.function f) → f.kind ≠ .declaration)
    (hc : (e, c) ∈ o.node.enclosed) (hname : e.scopeName? = some name) :
    ∃ i ∈ functionItemsAt o, i.name = name := by
  obtain ⟨parent, initializes⟩ := e
  cases initializes with
  | some d =>
    obtain ⟨hd, hinit⟩ := Node.mem_enclosed_initializes hc rfl
    obtain ⟨id, init, s⟩ := d
    cases id with
    | identifier declared s' =>
      cases hinit
      cases c with
      | function f =>
        cases hname
        have hf := hplain _ hd f rfl
        cases hn : o.node with
        | declaration kind ds s'' =>
          rw [hn] at hd
          refine ⟨⟨.assigned, name, f, s, o.around⟩, ?_, rfl⟩
          rw [functionItemsAt, hn]
          exact List.mem_filterMap.2 ⟨_, hd, if_neg hf⟩
        | _ =>
          rw [hn] at hd
          cases hd
      | _ => cases hname
    | _ =>
      cases init <;> cases hname
  | none =>
    obtain rfl : parent = o.node := Node.enclosed_parent hc
    cases hn : o.node with
    | function f =>
      rw [Enclosure.scopeName?, hn] at hname
      dsimp only at hname
      split at hname
      next hkind =>
        refine ⟨⟨.declared, name, f, f.span, o.around⟩, ?_, rfl⟩
        simp [functionItemsAt, hn, hkind, hname]
      next => cases hname
    | _ =>
      rw [Enclosure.scopeName?, hn] at hname
      cases hname

theorem item_of_caller {program : Node} (hplain : program.InitializesPlainly) {name caller : String}
    {s : CallSite} (hs : s ∈ sitesOf program name) (hcaller : s.caller = some caller) :
    ∃ i ∈ functionItems program, i.name = caller := by
  obtain ⟨o, ho, rfl⟩ := List.mem_map.1 hs
  have ho' := (List.mem_filter.1 ho).1
  obtain ⟨e, he, hname⟩ := List.exists_of_findSome?_eq_some hcaller
  rcases Node.enclosed_of_around ho' he with h | ⟨p, hp, c, hc⟩
  · cases h
  · have hnode : p.node ∈ program.preorder := by
      rw [← Node.occurrences_map_node]
      exact List.mem_map_of_mem hp
    obtain ⟨i, hi, hin⟩ := item_of_scopeName?
      (fun d hd => hplain d (List.mem_flatMap.2 ⟨p.node, hnode, hd⟩)) hc hname
    exact ⟨i, List.mem_flatMap.2 ⟨p, hp, hi⟩, hin⟩

/-- Every caller of a program is one of its functions. -/
theorem caller_mem_functions {program : Node} (hplain : program.InitializesPlainly)
    (content file : String) {name caller : String} {s : CallSite} (hs : s ∈ sitesOf program name)
    (hcaller : s.caller = some caller) :
    caller ∈ (functions program content file).map FunctionDef.name := by
  obtain ⟨i, hi, rfl⟩ := item_of_caller hplain hs hcaller
  rw [functions_eq_map, List.map_map]
  exact List.mem_map.2 ⟨i, hi, (i.describes_definition _).name_eq⟩

/-! ## Lines of sites -/

section Lines

variable {t : SyntaxTree} {lines : Nat}

theorem sitesOf_lines_sublist (h : Conforms t) (hkind : t.kind ≠ "variable_declarator")
    (name : String) :
    ((sitesOf (lower t) name).map CallSite.line).Sublist
      (t.subtrees.map fun u => u.span.startLine) := by
  rw [sitesOf_lower_lines h hkind]
  exact (List.filter_sublist.trans t.exposed_sublist).map _

theorem sitesOf_sorted (h : Conforms t) (hkind : t.kind ≠ "variable_declarator")
    (hlaid : t.LaidOut lines) (name : String) :
    ((sitesOf (lower t) name).map CallSite.line).Pairwise (· ≤ ·) :=
  (SyntaxTree.startLines_sorted hlaid.nested).sublist (sitesOf_lines_sublist h hkind name)

theorem sitesOf_within (h : Conforms t) (hkind : t.kind ≠ "variable_declarator")
    (hlaid : t.LaidOut lines) {name : String} {l : Nat}
    (hl : l ∈ (sitesOf (lower t) name).map CallSite.line) : 1 ≤ l ∧ l ≤ lines := by
  have hmem := (sitesOf_lines_sublist h hkind name).subset hl
  obtain ⟨u, hu, rfl⟩ := List.mem_map.1 hmem
  exact hlaid.within hu

end Lines

end CodeSurvey.References

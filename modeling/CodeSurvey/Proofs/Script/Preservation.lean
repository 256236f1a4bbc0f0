import CodeSurvey.Proofs.References.ProgramCalls
import CodeSurvey.Proofs.Script.KeptItems
import CodeSurvey.Proofs.Script.Recognition
import CodeSurvey.Proofs.Script.TreeSearches

/-!
# How far programs preserve their trees

For every tree that the grammar admits and that is not too deep, lowering preserves all calls,
named functions and declared names just if none of them lies where it does not look: in the key or
the decorators of a method, or in the initializer that a loop over a collection gives its variable.
-/

namespace CodeSurvey.Script
open Parsing References

/-! ## Calls that are recorded -/

def SyntaxTree.isCallOf (name : String) (t : SyntaxTree) : Bool :=
  t.isCall && (lower t).isCallOf name

theorem isCall_of_isCallOf {name : String} {n : Node} (h : n.isCallOf name) : n.isCall := by
  cases n with
  | call => rfl
  | _ => simp [Node.isCallOf] at h

theorem sitesOf_lines (program : Node) (name : String) :
    (sitesOf program name).map CallSite.line =
      (program.preorder.filter (Node.isCallOf name)).map fun n => n.span.startLine := by
  rw [sitesOf, ← Node.occurrences_map_node, List.map_map, List.filter_map, List.map_map]
  rfl

/-- The lines of the calls by a name are those of the calls that are not left out. -/
theorem sitesOf_lower_lines {t : SyntaxTree} (h : Conforms t)
    (hkind : t.kind ≠ "variable_declarator") (name : String) :
    (sitesOf (lower t) name).map CallSite.line =
      (t.exposed.filter (SyntaxTree.isCallOf name)).map fun u => u.span.startLine := by
  have hcalls : (lower t).preorder.filter (Node.isCallOf name) =
      (t.exposed.filter (SyntaxTree.isCallOf name)).map lower := by
    have hboth : (lower t).preorder.filter (Node.isCallOf name) =
        ((lower t).preorder.filter Node.isCall).filter (Node.isCallOf name) := by
      rw [List.filter_filter]
      refine List.filter_congr fun n _ => ?_
      cases hn : n.isCallOf name with
      | false => rfl
      | true => rw [isCall_of_isCallOf hn]; rfl
    rw [hboth, calls_lower h hkind, List.filter_map, List.filter_filter]
    congr 1
    refine List.filter_congr fun u _ => ?_
    rw [SyntaxTree.isCallOf, Bool.and_comm]
    rfl
  rw [sitesOf_lines, hcalls, List.map_map]
  refine List.map_congr_left fun u hu => ?_
  have hcall : u.isCall := by
    have hu' := (List.mem_filter.1 hu).2
    rw [SyntaxTree.isCallOf, Bool.and_eq_true] at hu'
    exact hu'.1
  exact congrArg Span.startLine (callFor_lower hcall).2

theorem callSites_of_known (program : Node) (content : String) {known : List String}
    {name : String} (h : name ∈ known) :
    (((callsFrom (.ok program) content known).find? name).getD default).callSites =
      sitesOf program name := by
  rw [callsFrom, find?_callsInProgram]
  by_cases hs : sitesOf program name = []
  · rw [if_neg (fun hc => hc.2 hs), hs]
    rfl
  · rw [if_pos ⟨h, hs⟩]
    rfl

/-! ## Two trees of one line -/

namespace OneLine

def mark (text : String) : SyntaxTree :=
  .node ⟨text, false, false, .sound, ⟨1, 1⟩, text, []⟩ []

def name (text : String) (fields : List String) : SyntaxTree :=
  .node ⟨"identifier", true, false, .sound, ⟨1, 1⟩, text, fields⟩ []

def branch (kind : String) (fields : List String) (children : List SyntaxTree) : SyntaxTree :=
  .node ⟨kind, true, false, .sound, ⟨1, 1⟩, "", fields⟩ children

def callOf (callee : String) : SyntaxTree :=
  branch "call_expression" [] [
    name callee ["function"], branch "arguments" ["arguments"] [mark "(", mark ")"]]

def call : SyntaxTree :=
  branch "program" [] [branch "expression_statement" [] [callOf "f", mark ";"]]

/-- A method whose key is computed by a call. -/
def method : SyntaxTree :=
  branch "method_definition" ["member"] [
    branch "computed_property_name" ["name"] [mark "[", callOf "f", mark "]"],
    branch "formal_parameters" ["parameters"] [mark "(", mark ")"],
    branch "statement_block" ["body"] [mark "\x7b", mark "\x7d"]]

def classBody : SyntaxTree :=
  branch "class_body" ["body"] [mark "\x7b", method, mark "\x7d"]

def keyedClass : SyntaxTree :=
  branch "program" [] [
    branch "class_declaration" [] [mark "class", name "A" ["name"], classBody]]

end OneLine

/-- Lowering preserves a tree just if no call, named function or declared name is lost, and all
calls of a known name are recorded, each on its line, just if none of them is lost. -/
theorem lowering_preserves (t : SyntaxTree) (program : Node) (ht : grammar.Derives t)
    (hp : t.program = .ok program) :
    (Preserves t program ↔ ∀ x ∈ t.lost, x.isItem = false) ∧
    ∀ content known name, name ∈ known →
      ((((callsFrom (.ok program) content known).find? name).getD default).callSites.map
          CallSite.line =
        (t.subtrees.filter (SyntaxTree.isCallOf name)).map (fun u => u.span.startLine) ↔
      ∀ x ∈ t.lost, x.isCallOf name = false) := by
  obtain ⟨h, hkind⟩ := conforms_of_derives grammar_admitsOnlyConforming ht
  obtain rfl := (program_ok hp).2
  refine ⟨preserves_lower_iff h hkind, fun content known name hname => ?_⟩
  rw [callSites_of_known (lower t) content hname, sitesOf_lower_lines h hkind,
    ← SyntaxTree.filter_exposed_iff]
  refine ⟨fun hlines => ?_, fun heq => by rw [heq]⟩
  have hlen := congrArg List.length hlines
  rw [List.length_map, List.length_map] at hlen
  exact (t.exposed_sublist.filter _).eq_of_length hlen

theorem lowering_preserves_call : grammar.Derives OneLine.call ∧
    OneLine.call.program = .ok (lower OneLine.call) ∧
    Preserves OneLine.call (lower OneLine.call) := by
  have ht : grammar.Derives OneLine.call := Grammar.recognises_sound (by decide +kernel)
  have hp : OneLine.call.program = .ok (lower OneLine.call) :=
    program_of_sound (by decide) (by decide)
  refine ⟨ht, hp, (lowering_preserves OneLine.call _ ht hp).1.2 ?_⟩
  simp [SyntaxTree.lost, SyntaxTree.subtrees_node, SyntaxTree.omitted, SyntaxTree.omits,
    SyntaxTree.children, SyntaxTree.kind, SyntaxTree.info, omittedRoles, OneLine.call,
    OneLine.branch, OneLine.callOf, OneLine.mark, OneLine.name]

/-- The call in the key of the method is lost, and no call of it is recorded. -/
theorem lowering_loses_key : grammar.Derives OneLine.keyedClass ∧
    OneLine.keyedClass.program = .ok (lower OneLine.keyedClass) ∧
    OneLine.callOf "f" ∈ OneLine.keyedClass.subtrees ∧
    ¬ Preserves OneLine.keyedClass (lower OneLine.keyedClass) ∧
    (callsFrom (.ok (lower OneLine.keyedClass)) "class A \x7b [f()]() \x7b\x7d \x7d" ["f"]).find?
      "f" = none := by
  have ht : grammar.Derives OneLine.keyedClass := Grammar.recognises_sound (by decide +kernel)
  obtain ⟨h, hkind⟩ := conforms_of_derives grammar_admitsOnlyConforming ht
  have hlost : OneLine.callOf "f" ∈ OneLine.keyedClass.lost := by
    simp [SyntaxTree.lost, SyntaxTree.subtrees_node, SyntaxTree.omitted, SyntaxTree.omits,
      SyntaxTree.children, SyntaxTree.kind, SyntaxTree.info, omittedRoles, OneLine.keyedClass,
      OneLine.classBody, OneLine.method, OneLine.branch, OneLine.callOf, OneLine.mark,
      OneLine.name]
  have hsites : sitesOf (lower OneLine.keyedClass) "f" = [] := by
    refine List.map_eq_nil_iff.1 ((sitesOf_lower_lines h hkind "f").trans ?_)
    simp [SyntaxTree.exposed_node, SyntaxTree.kept, SyntaxTree.omits, SyntaxTree.children,
      SyntaxTree.kind, SyntaxTree.info, omittedRoles, SyntaxTree.isCallOf, SyntaxTree.isCall,
      OneLine.keyedClass, OneLine.classBody, OneLine.method, OneLine.branch, OneLine.callOf,
      OneLine.mark, OneLine.name]
  refine ⟨ht, program_of_sound (by decide) (by decide), SyntaxTree.mem_subtrees_of_lost hlost,
    fun hkept => ?_, ?_⟩
  · have hitem := (preserves_lower_iff h hkind).1 hkept _ hlost
    exact absurd hitem (by decide)
  · rw [callsFrom, find?_callsInProgram, hsites]
    rfl

end CodeSurvey.Script

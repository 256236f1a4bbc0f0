import CodeSurvey.Proofs.Script.Preservation
import Mathlib.Data.List.DropRight

/-!
# Calls by keys

A call of a property whose key is written as a string is recorded for the key without any quotes
at its ends. That is the key itself just if the key neither begins nor ends with a quote, as the
other kind of quote may do inside the string.
-/

namespace CodeSurvey.Script
open Parsing References

/-! ## Quotes at the ends -/

def isQuote (c : Char) : Bool := c == '"' || c == '\''

/-- What is left of a text without the quotes it begins and ends with. -/
def trimQuotes (chars : List Char) : List Char := (chars.dropWhile isQuote).rdropWhile isQuote

theorem unquote_eq (text : String) :
    Lowering.unquote text = String.ofList (trimQuotes text.toList) := rfl

variable {quote : Char} {body : List Char}

theorem trimQuotes_quoted (hquote : isQuote quote) :
    trimQuotes (quote :: body ++ [quote]) = trimQuotes body := by
  rw [trimQuotes, trimQuotes, List.cons_append, List.dropWhile_cons_of_pos hquote,
    List.dropWhile_append]
  cases hrest : body.dropWhile isQuote with
  | nil => simp [hquote]
  | cons c rest =>
    rw [List.isEmpty_cons, if_neg Bool.false_ne_true]
    exact List.rdropWhile_concat_pos isQuote (c :: rest) quote hquote

/-- A text begins or ends with a quote. -/
def HasQuoteAtEnd (chars : List Char) : Prop :=
  chars.head?.any isQuote ∨ chars.getLast?.any isQuote

instance : DecidablePred HasQuoteAtEnd := fun chars =>
  inferInstanceAs (Decidable (chars.head?.any isQuote ∨ chars.getLast?.any isQuote))

theorem trimQuotes_eq_self_iff : trimQuotes body = body ↔ ¬ HasQuoteAtEnd body := by
  have hfirst : body.dropWhile isQuote = body ↔ body.head?.any isQuote = false := by
    cases body with
    | nil => simp
    | cons c rest => simp [List.dropWhile_eq_self_iff]
  have hlast : body.rdropWhile isQuote = body ↔ body.getLast?.any isQuote = false := by
    rw [List.rdropWhile_eq_self_iff]
    cases hne : body with
    | nil => simp
    | cons c rest => simp [List.getLast?_eq_some_getLast]
  constructor
  · intro htrim
    -- nothing is dropped at either end, as the rest would be shorter
    have hrest := (List.rdropWhile_prefix isQuote (body.dropWhile isQuote)).length_le
    have hsuffix := List.dropWhile_suffix (l := body) isQuote
    rw [trimQuotes] at htrim
    rw [htrim] at hrest
    have hdrop := hsuffix.eq_of_length_le hrest
    rw [hdrop] at htrim
    have hhead := hfirst.1 hdrop
    have hend := hlast.1 htrim
    simp [HasQuoteAtEnd, hhead, hend]
  · intro hplain
    obtain ⟨hhead, hend⟩ := not_or.1 hplain
    rw [trimQuotes, hfirst.2 (Bool.eq_false_of_not_eq_true hhead),
      hlast.2 (Bool.eq_false_of_not_eq_true hend)]

/-! ## Calls by keys in trees -/

/-- A call of a property whose key is a string without escapes, between quotes of one kind. -/
structure SyntaxTree.CallsKey (u : SyntaxTree) (quote : Char) (body : List Char) : Prop where
  isCall : u.isCall
  callee : ∃ callee index, u.field? "function" = some callee ∧
    callee.kind = "subscript_expression" ∧ callee.field? "index" = some index ∧
    index.kind = "string" ∧ index.text.toList = quote :: body ++ [quote]
  isQuote : isQuote quote
  plain : quote ∉ body ∧ '\\' ∉ body

theorem lower_of_keyed {callee index : SyntaxTree} (hkind : callee.kind = "subscript_expression")
    (hindex : callee.field? "index" = some index) (hstring : index.kind = "string") :
    ∃ target computed, lower callee =
      .member target (some (Lowering.unquote index.text)) computed callee.span := by
  obtain ⟨hbelow, hfound⟩ := SyntaxTree.fieldBelow?_eq_some hindex
  rw [lower_eq, Lowering.lowerWith]
  simp only [hkind, Lowering.indexAccess, hfound, Option.bind_some, hstring, if_true]
  exact ⟨_, _, rfl⟩

theorem isCallOf_lower {u : SyntaxTree} (hkey : u.CallsKey quote body) (name : String) :
    (lower u).isCallOf name ↔ name = String.ofList (trimQuotes body) := by
  obtain ⟨callee, index, hcallee, hkind, hindex, hstring, htext⟩ := hkey.callee
  obtain ⟨target, computed, hlower⟩ := lower_of_keyed hkind hindex hstring
  have hname : Lowering.unquote index.text = String.ofList (trimQuotes body) := by
    rw [unquote_eq, htext, trimQuotes_quoted hkey.isQuote]
  rw [lower_of_isCall hkey.isCall, SyntaxTree.lowered, hcallee, Option.map_some,
    Option.getD_some, hlower, hname, Node.isCallOf, beq_iff_eq, eq_comm]

end CodeSurvey.Script

namespace CodeSurvey.References
open Script

/-- The calls of a program that are recorded for a name. -/
def recorded (program : Node) (known : List String) (name : String) : List Occurrence :=
  program.occurrences.filter fun o => known.contains name && o.node.isCallOf name

theorem map_site_recorded (program : Node) (known : List String) (name : String) :
    (recorded program known name).map Occurrence.site =
      if name ∈ known then sitesOf program name else [] := by
  rw [recorded, sitesOf]
  by_cases hname : name ∈ known
  · simp [hname]
  · simp [hname]

theorem find?_eq_recorded (program : Node) (content : String) (known : List String) (name : String) :
    (callsFrom (.ok program) content known).find? name =
      if recorded program known name = [] then none
      else some ⟨(recorded program known name).length,
        (recorded program known name).map Occurrence.site⟩ := by
  have hsites := map_site_recorded program known name
  have hlength : (recorded program known name).length =
      ((recorded program known name).map Occurrence.site).length := by rw [List.length_map]
  rw [callsFrom, find?_callsInProgram]
  by_cases hnone : recorded program known name = []
  · rw [hnone] at hsites
    by_cases hname : name ∈ known
    · rw [if_pos hname] at hsites
      rw [if_pos hnone, if_neg (fun h => h.2 hsites.symm)]
    · rw [if_pos hnone, if_neg (fun h => hname h.1)]
  · rw [if_neg hnone, hlength, hsites]
    rw [← List.map_eq_nil_iff (f := Occurrence.site), hsites] at hnone
    by_cases hname : name ∈ known
    · rw [if_pos hname] at hnone ⊢
      rw [if_pos ⟨hname, hnone⟩]
    · rw [if_neg hname] at hnone
      exact absurd rfl hnone

theorem mem_recorded {program : Node} {known : List String} {name : String} {o : Occurrence}
    (ho : o ∈ program.occurrences) (hname : name ∈ known) :
    o ∈ recorded program known name ↔ o.node.isCallOf name := by
  simp [recorded, ho, hname]

end CodeSurvey.References

namespace CodeSurvey.Script
open Parsing References

theorem exists_occurrence_of_exposed {t u : SyntaxTree} (ht : grammar.Derives t)
    (hu : u ∈ t.exposed) (hcall : u.isCall) : ∃ o ∈ (lower t).occurrences, o.node = lower u := by
  obtain ⟨hconforms, hkind⟩ := conforms_of_derives grammar_admitsOnlyConforming ht
  have hmem : lower u ∈ (lower t).preorder.filter Node.isCall := by
    rw [calls_lower hconforms hkind]
    exact List.mem_map_of_mem (List.mem_filter.2 ⟨hu, hcall⟩)
  have hnode := (List.mem_filter.1 hmem).1
  rw [← Node.occurrences_map_node] at hnode
  exact List.mem_map.1 hnode

/-! ## Two calls by keys -/

namespace OneLine

/-- A call of the property of an object that a string between quotes names. -/
def keyedCall (quote key : String) : SyntaxTree :=
  let string : SyntaxTree :=
    .node ⟨"string", true, false, .sound, ⟨1, 1⟩, quote ++ key ++ quote, ["index"]⟩
      [mark quote, branch "string_fragment" [] [], mark quote]
  branch "call_expression" [] [
    branch "subscript_expression" ["function"] [
      name "o" ["object"], mark "[", string, mark "]"],
    branch "arguments" ["arguments"] [mark "(", mark ")"]]

def keyed (quote key : String) : SyntaxTree :=
  branch "program" [] [branch "expression_statement" [] [keyedCall quote key, mark ";"]]

theorem program_keyed (quote key : String) :
    (keyed quote key).program = .ok (lower (keyed quote key)) :=
  program_of_sound (by simp [SyntaxTree.leveled, SyntaxTree.leveledAll, keyed, keyedCall, branch,
    name, mark, maxDepth]) rfl

theorem keyedCall_exposed (quote key : String) : keyedCall quote key ∈ (keyed quote key).exposed := by
  simp [SyntaxTree.exposed_node, SyntaxTree.kept, SyntaxTree.omits, SyntaxTree.children,
    SyntaxTree.kind, SyntaxTree.info, omittedRoles, keyed, branch, keyedCall]

end OneLine

/-- A call by a key that is not lost is in the program, and it is recorded for a known name just if
that is the key without the quotes at its ends. It is recorded for the key itself, and for no other
name, just if there are none. -/
theorem keyed_call_recorded (t : SyntaxTree) (program : Node) (ht : grammar.Derives t)
    (hp : t.program = .ok program) (u : SyntaxTree) (hu : u ∈ t.exposed) (quote : Char)
    (body : List Char) (hkey : u.CallsKey quote body) :
    (∀ content known name, (callsFrom (.ok program) content known).find? name =
      if recorded program known name = [] then none
      else some ⟨(recorded program known name).length,
        (recorded program known name).map Occurrence.site⟩) ∧
    (∃ o ∈ program.occurrences, o.node = lower u) ∧
    ∀ o ∈ program.occurrences, o.node = lower u →
      (∀ known name, name ∈ known →
        (o ∈ recorded program known name ↔ name = String.ofList (trimQuotes body))) ∧
      ((∀ known name, name ∈ known →
        (o ∈ recorded program known name ↔ name = String.ofList body)) ↔
        ¬ HasQuoteAtEnd body) := by
  obtain rfl := (program_ok hp).2
  refine ⟨find?_eq_recorded (lower t), exists_occurrence_of_exposed ht hu hkey.isCall, ?_⟩
  intro o ho hnode
  have htrimmed (known : List String) (name : String) (hname : name ∈ known) :
      o ∈ recorded (lower t) known name ↔ name = String.ofList (trimQuotes body) := by
    rw [mem_recorded ho hname, hnode]
    exact isCallOf_lower hkey name
  refine ⟨htrimmed, ?_⟩
  rw [← trimQuotes_eq_self_iff]
  constructor
  · intro hbody
    have hown := List.mem_singleton_self (String.ofList body)
    have heq := (htrimmed _ _ hown).1 ((hbody _ _ hown).2 rfl)
    exact (String.ofList_inj.1 heq).symm
  · intro heq known name hname
    rw [htrimmed known name hname, heq]

theorem keyed_call_recorded_load :
    grammar.Derives (OneLine.keyed "'" "load") ∧
    (OneLine.keyed "'" "load").program = .ok (lower (OneLine.keyed "'" "load")) ∧
    OneLine.keyedCall "'" "load" ∈ (OneLine.keyed "'" "load").exposed ∧
    (OneLine.keyedCall "'" "load").CallsKey '\'' "load".toList ∧
    ∃ o ∈ (lower (OneLine.keyed "'" "load")).occurrences,
      o ∈ recorded (lower (OneLine.keyed "'" "load")) ["load", "store"] "load" ∧
      o ∉ recorded (lower (OneLine.keyed "'" "load")) ["load", "store"] "store" := by
  have ht : grammar.Derives (OneLine.keyed "'" "load") :=
    Grammar.recognises_sound (by decide +kernel)
  have hp := OneLine.program_keyed "'" "load"
  have hu := OneLine.keyedCall_exposed "'" "load"
  have hkey : (OneLine.keyedCall "'" "load").CallsKey '\'' "load".toList :=
    ⟨rfl, ⟨_, _, rfl, rfl, rfl, rfl, by decide⟩, by decide, by decide⟩
  obtain ⟨-, ⟨o, ho, hnode⟩, hall⟩ := keyed_call_recorded _ _ ht hp _ hu _ _ hkey
  obtain ⟨-, hbody⟩ := hall o ho hnode
  have hplain : ¬ HasQuoteAtEnd "load".toList := by decide
  refine ⟨ht, hp, hu, hkey, o, ho, ?_, ?_⟩
  · exact (hbody.2 hplain _ _ (by decide)).2 (by decide)
  · intro hstore
    exact absurd ((hbody.2 hplain _ _ (by decide)).1 hstore) (by decide)

/-- The key holds quotes of the other kind, and its call is recorded for the name between them. -/
theorem quoted_key_recorded_without_quotes :
    grammar.Derives (OneLine.keyed "'" "\"f\"") ∧
    (OneLine.keyed "'" "\"f\"").program = .ok (lower (OneLine.keyed "'" "\"f\"")) ∧
    (OneLine.keyedCall "'" "\"f\"").CallsKey '\'' "\"f\"".toList ∧
    ∃ o ∈ (lower (OneLine.keyed "'" "\"f\"")).occurrences,
      o.node = lower (OneLine.keyedCall "'" "\"f\"") ∧
      o ∈ recorded (lower (OneLine.keyed "'" "\"f\"")) ["f"] "f" ∧
      (callsFrom (.ok (lower (OneLine.keyed "'" "\"f\""))) "o['\"f\"']();" ["f"]).find? "f" ≠
        none := by
  have ht : grammar.Derives (OneLine.keyed "'" "\"f\"") :=
    Grammar.recognises_sound (by decide +kernel)
  have hkey : (OneLine.keyedCall "'" "\"f\"").CallsKey '\'' "\"f\"".toList :=
    ⟨rfl, ⟨_, _, rfl, rfl, rfl, rfl, by decide⟩, by decide, by decide⟩
  obtain ⟨o, ho, hnode⟩ :=
    exists_occurrence_of_exposed ht (OneLine.keyedCall_exposed "'" "\"f\"") hkey.isCall
  have hcall : o.node.isCallOf "f" := by
    rw [hnode]
    exact (isCallOf_lower hkey "f").2 (by decide)
  have hmem := (mem_recorded ho (List.mem_singleton_self "f")).2 hcall
  refine ⟨ht, OneLine.program_keyed _ _, hkey, o, ho, hnode, hmem, ?_⟩
  rw [find?_eq_recorded, if_neg (List.ne_nil_of_mem hmem)]
  exact Option.some_ne_none _

end CodeSurvey.Script

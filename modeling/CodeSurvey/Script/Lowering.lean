import CodeSurvey.Script.Node

/-!
# Lowering

From syntax trees to script nodes, by the kind of each tree. How a tree is lowered is said once,
in terms of how the trees below it are; the recursion is closed at the end.
-/

namespace CodeSurvey.Script
namespace SyntaxTree

theorem sizeOf_child {c t : SyntaxTree} (h : c ∈ t.children) : sizeOf c < sizeOf t := by
  obtain ⟨info, cs⟩ := t
  have := List.sizeOf_lt_of_mem (show c ∈ cs from h)
  simp
  omega

abbrev Below (t : SyntaxTree) := { c : SyntaxTree // sizeOf c < sizeOf t }

def Below.up {t : SyntaxTree} {c : Below t} (d : Below c.1) : Below t :=
  ⟨d.1, Nat.lt_trans d.2 c.2⟩

def namedBelow (t : SyntaxTree) : List (Below t) :=
  t.namedChildren.attach.map fun c => ⟨c.1, sizeOf_child (List.mem_filter.1 c.2).1⟩

def fieldBelow? (t : SyntaxTree) (name : String) : Option (Below t) :=
  (t.field? name).attach.map fun c => ⟨c.1, sizeOf_child (List.mem_of_find?_eq_some c.2)⟩

def childBelow? (t : SyntaxTree) : Option (Below t) :=
  t.children.head?.attach.map fun c => ⟨c.1, sizeOf_child (List.mem_of_head? c.2)⟩

end SyntaxTree

open SyntaxTree

abbrev LowerBelow (t : SyntaxTree) := Below t → Node

namespace Lowering

variable {t : SyntaxTree} (low : LowerBelow t)

def under (c : Below t) : LowerBelow c.1 := fun d => low (Below.up d)

def all : List Node := t.namedBelow.map low

def field (name : String) : Node := ((t.fieldBelow? name).map low).getD (.empty t.span)

def first? : Option Node := t.namedBelow.head?.map low

def function (kind : FunctionKind) : FunctionNode Node where
  kind := kind
  name := (t.fieldBelow? "name").map fun c => c.1.text
  params := match t.fieldBelow? "parameters", t.fieldBelow? "parameter" with
    | some list, _ => all (under low list)
    | none, some single => [low single]
    | none, none => []
  body := field low "body"
  expressionBody := kind = .arrow &&
    ((t.fieldBelow? "body").map fun c => decide (c.1.kind ≠ "statement_block")).getD false
  span := t.span

/-- The name of a method, if it is written plainly. The mark of private names is not part of
it. -/
def methodName? (t : SyntaxTree) : Option String :=
  (t.field? "name").bind fun key =>
    if key.kind = "property_identifier" then some key.text
    else if key.kind = "private_property_identifier" then
      some (String.ofList (key.text.toList.dropWhile (· == '#')))
    else none

def method : Node :=
  .method ⟨methodName? t, { function low .expression with name := none }, t.span⟩

def classMember (c : Below t) : Node :=
  if c.1.kind = "method_definition" then method (under low c) else low c

def declarator (c : Below t) : Declarator Node where
  id := field (under low c) "name"
  init := (c.1.fieldBelow? "value").map (under low c)
  span := c.1.span

/-- The keyword of a declaration: always the same for one form, written for the other. -/
def declarationKind (t : SyntaxTree) : VariableKind :=
  if t.kind = "variable_declaration" then .var
  else (((t.field? "kind").or t.children.head?).map fun k =>
    VariableKind.ofKeyword k.text).getD .unknown

def declaration : Node :=
  let declarators := t.namedBelow.filter fun c => c.1.kind = "variable_declarator"
  .declaration (declarationKind t) (declarators.map (declarator low)) t.span

/-- A loop over a collection declares its variable without a declaration of its own. -/
def forIn : Node :=
  let left := (t.fieldBelow? "left").map fun left =>
    match t.field? "kind" with
    | some keyword =>
      let span := left.1.span
      .declaration (.ofKeyword keyword.text) [⟨low left, none, span⟩] span
    | none => low left
  let others := ["right", "body"].filterMap fun name => (t.fieldBelow? name).map low
  .other "for_in_statement" (left.toList ++ others) t.span

def call : Node :=
  let arguments := match t.fieldBelow? "arguments" with
    | some args => if args.1.kind = "arguments" then all (under low args) else [low args]
    | none => []
  .call (field low "function") arguments t.span

def propertyAccess : Node :=
  let property := (t.field? "property").bind fun p =>
    if p.kind = "property_identifier" then some p.text else none
  .member (field low "object") property none t.span

def unquote (text : String) : String :=
  let isQuote := fun c => c == '"' || c == '\''
  String.ofList (((text.toList.dropWhile isQuote).reverse.dropWhile isQuote).reverse)

/-- An access by index; a key written as a string or number also counts as a property. -/
def indexAccess : Node :=
  let index := t.fieldBelow? "index"
  let property := index.bind fun i =>
    if i.1.kind = "string" then some (unquote i.1.text)
    else if i.1.kind = "number" then some i.1.text
    else none
  .member (field low "object") property (index.map low) t.span

def numberKind (text : String) : LiteralKind :=
  if text.toList.getLast? == some 'n' then .bigInt else .number

/-- Parentheses around a single expression leave no trace. -/
def parenthesized : Node :=
  match t.namedBelow with
  | [c] => low c
  | cs => .other "parenthesized_expression" (cs.map low) t.span

/-- Lower a tree, given how the trees below it are lowered. -/
def lowerWith (t : SyntaxTree) (low : LowerBelow t) : Node :=
  let span := t.span
  match t.kind with
  | "function_declaration" | "generator_function_declaration" =>
    .function (function low .declaration)
  | "function_expression" | "function" | "generator_function" =>
    .function (function low .expression)
  | "arrow_function" => .function (function low .arrow)
  | "class_body" => .other "class_body" (t.namedBelow.map (classMember low)) span
  | "method_definition" => .function { function low .expression with name := none }
  | "lexical_declaration" | "variable_declaration" => declaration low
  | "for_in_statement" => forIn low
  | "call_expression" => call low
  | "new_expression" => .creation (all low) span
  | "identifier" | "undefined" => .identifier t.text span
  | "member_expression" => propertyAccess low
  | "subscript_expression" => indexAccess low
  | "string" => .literal .string span
  | "number" => .literal (numberKind t.text) span
  | "true" | "false" => .literal .boolean span
  | "null" => .literal .null span
  | "regex" => .literal .regExp span
  | "array" => .arrayLiteral (all low) span
  | "object" => .objectLiteral (all low) span
  | "return_statement" => .returned (first? low) span
  | "statement_block" => .block (all low) span
  | "rest_pattern" => .rest (first? low) span
  | "assignment_pattern" => .withDefault (field low "left") (field low "right") span
  | "object_pattern" => .objectPattern (all low) span
  | "array_pattern" => .arrayPattern (all low) span
  | "parenthesized_expression" => parenthesized low
  | kind => .other kind (all low) span

end Lowering

def lower (t : SyntaxTree) : Node := Lowering.lowerWith t fun c => lower c.1
termination_by t
decreasing_by exact c.2

end CodeSurvey.Script

import CodeSurvey.Parsing.Grammar

/-!
# The grammar of scripts

ECMAScript with JSX, as lax as an editor needs it: `return` may stand at the top, a rest parameter
need not come last, any keyword that cannot start anything where it stands is a plain name.
Levels rank the operators; where ranks leave two readings open, both are followed.
-/

namespace CodeSurvey.Script
open Parsing Parsing.Rule

def node (name : String) (rule : Rule) : Definition := ⟨name, .named name, false, rule⟩

def nodeAs (name kind : String) (rule : Rule) : Definition := ⟨name, .named kind, false, rule⟩

def hidden (name : String) (rule : Rule) : Definition := ⟨name, .hidden, false, rule⟩

def inlined (name : String) (rule : Rule) : Definition := ⟨name, .hidden, true, rule⟩

def binary (side : Side) (level operator : String) : Rule :=
  ranked (.level level) (some side) (seq [
    field "left" (ref "expression"), field "operator" operator,
    field "right" (ref "expression")])

/-! ## Modules -/

def moduleRules : List Definition := [
  node "program" (seq [opt (ref "hash_bang_line"), many (ref "statement")]),
  node "export_statement" (choice [
    seq [
      "export",
      choice [
        seq ["*", ref "from_clause"], seq [ref "namespace_export", ref "from_clause"],
        seq [ref "export_clause", ref "from_clause"], ref "export_clause"],
      ref "terminator"],
    seq [
      many (field "decorator" (ref "decorator")), "export",
      choice [
        field "declaration" (ref "declaration"),
        seq [
          "default",
          choice [
            field "declaration" (ref "declaration"),
            seq [field "value" (ref "expression"), ref "terminator"]]]]]]),
  node "namespace_export" (seq ["*", "as", ref "module_export_name"]),
  node "export_clause" (seq ["\x7b", sepBy (ref "export_specifier"), opt ",", "\x7d"]),
  node "export_specifier" (seq [
    field "name" (ref "module_export_name"),
    opt (seq ["as", field "alias" (ref "module_export_name")])]),
  hidden "module_export_name" (choice [ref "identifier", ref "string"]),
  hidden "declaration" (choice [
    ref "function_declaration", ref "generator_function_declaration", ref "class_declaration",
    ref "lexical_declaration", ref "variable_declaration"]),
  node "import" "import",
  node "import_statement" (seq [
    "import",
    choice [seq [ref "import_clause", ref "from_clause"], field "source" (ref "string")],
    opt (ref "import_attribute"), ref "terminator"]),
  node "import_clause" (choice [
    ref "namespace_import", ref "named_imports",
    seq [
      ref "identifier",
      opt (seq [
        ",", choice [ref "namespace_import", ref "named_imports"]])]]),
  hidden "from_clause" (seq ["from", field "source" (ref "string")]),
  node "namespace_import" (seq ["*", "as", ref "identifier"]),
  node "named_imports" (seq ["\x7b", sepBy (ref "import_specifier"), opt ",", "\x7d"]),
  node "import_specifier" (choice [
    field "name" (ref "identifier"),
    seq [
      field "name" (ref "module_export_name"), "as",
      field "alias" (ref "identifier")]]),
  node "import_attribute" (seq ["with", ref "object"])]

/-! ## Statements -/

def statementRules : List Definition := [
  hidden "statement" (choice [
    ref "export_statement", ref "import_statement", ref "debugger_statement",
    ref "expression_statement", ref "declaration", ref "statement_block", ref "if_statement",
    ref "switch_statement", ref "for_statement", ref "for_in_statement", ref "while_statement",
    ref "do_statement", ref "try_statement", ref "with_statement", ref "break_statement",
    ref "continue_statement", ref "return_statement", ref "throw_statement",
    ref "empty_statement", ref "labeled_statement"]),
  node "expression_statement" (seq [ref "expressions", ref "terminator"]),
  node "variable_declaration" (seq ["var", sepBy1 (ref "variable_declarator"), ref "terminator"]),
  node "lexical_declaration" (seq [
    field "kind" (choice ["let", "const"]), sepBy1 (ref "variable_declarator"),
    ref "terminator"]),
  node "variable_declarator" (seq [
    field "name" (choice [ref "identifier", ref "destructuring"]),
    opt (ref "initializer")]),
  node "statement_block" (groupsRight (seq [
    "\x7b", many (ref "statement"), "\x7d",
    opt (ref "line_end")])),
  node "else_clause" (seq ["else", ref "statement"]),
  node "if_statement" (groupsRight (seq [
    "if", field "condition" (ref "parenthesized_expression"),
    field "consequence" (ref "statement"),
    opt (field "alternative" (ref "else_clause"))])),
  node "switch_statement" (seq [
    "switch", field "value" (ref "parenthesized_expression"),
    field "body" (ref "switch_body")]),
  node "for_statement" (seq [
    "for", "(",
    choice [
      field "initializer" (choice [ref "lexical_declaration", ref "variable_declaration"]),
      seq [field "initializer" (ref "expressions"), ";"],
      field "initializer" (ref "empty_statement")],
    field "condition" (choice [seq [ref "expressions", ";"], ref "empty_statement"]),
    field "increment" (opt (ref "expressions")), ")",
    field "body" (ref "statement")]),
  node "for_in_statement" (seq [
    "for", opt "await", ref "for_header", field "body" (ref "statement")]),
  hidden "for_header" (seq [
    "(",
    choice [
      field "left" (choice [ref "assignable", ref "parenthesized_expression"]),
      seq [
        field "kind" "var",
        field "left" (choice [ref "identifier", ref "destructuring"]), opt (ref "initializer")],
      seq [
        field "kind" (choice ["let", "const"]),
        field "left" (choice [ref "identifier", ref "destructuring"]), opt (ref "line_end")]],
    field "operator" (choice ["in", "of"]), field "right" (ref "expressions"),
    ")"]),
  node "while_statement" (seq [
    "while", field "condition" (ref "parenthesized_expression"),
    field "body" (ref "statement")]),
  node "do_statement" (groupsRight (seq [
    "do", field "body" (ref "statement"), "while",
    field "condition" (ref "parenthesized_expression"),
    opt (ref "terminator")])),
  node "try_statement" (seq [
    "try", field "body" (ref "statement_block"), opt (field "handler" (ref "catch_clause")),
    opt (field "finalizer" (ref "finally_clause"))]),
  node "with_statement" (seq [
    "with", field "object" (ref "parenthesized_expression"),
    field "body" (ref "statement")]),
  node "break_statement" (seq [
    "break",
    field "label" (opt (shownAs "statement_identifier" (ref "identifier"))),
    ref "terminator"]),
  node "continue_statement" (seq [
    "continue",
    field "label" (opt (shownAs "statement_identifier" (ref "identifier"))),
    ref "terminator"]),
  node "debugger_statement" (seq ["debugger", ref "terminator"]),
  node "return_statement" (seq ["return", opt (ref "expressions"), ref "terminator"]),
  node "throw_statement" (seq ["throw", ref "expressions", ref "terminator"]),
  node "empty_statement" ";",
  node "labeled_statement" (favoured (-1) (seq [
    field "label" (shownAs "statement_identifier" (choice [
      ref "identifier", ref "contextual_keyword"])),
    ":", field "body" (ref "statement")])),
  node "switch_body" (seq [
    "\x7b", many (choice [ref "switch_case", ref "switch_default"]), "\x7d"]),
  node "switch_case" (seq [
    "case", field "value" (ref "expressions"), ":",
    field "body" (many (ref "statement"))]),
  node "switch_default" (seq ["default", ":", field "body" (many (ref "statement"))]),
  node "catch_clause" (seq [
    "catch",
    opt (seq ["(", field "parameter" (choice [ref "identifier", ref "destructuring"]), ")"]),
    field "body" (ref "statement_block")]),
  node "finally_clause" (seq ["finally", field "body" (ref "statement_block")])]

/-! ## Expressions -/

def expressionRules : List Definition := [
  node "parenthesized_expression" (seq ["(", ref "expressions", ")"]),
  inlined "expressions" (choice [ref "expression", ref "sequence_expression"]),
  hidden "expression" (choice [
    ref "primary_expression", ref "jsx_any_element", ref "assignment_expression",
    ref "augmented_assignment_expression", ref "await_expression", ref "unary_expression",
    ref "binary_expression", ref "ternary_expression", ref "update_expression",
    ref "new_expression", ref "yield_expression"]),
  hidden "primary_expression" (choice [
    ref "subscript_expression", ref "member_expression", ref "parenthesized_expression",
    ref "name", shownAs "identifier" (ref "contextual_keyword"), ref "this", ref "super",
    ref "number", ref "string", ref "template_string", ref "regex", ref "true", ref "false",
    ref "null", ref "object", ref "array", ref "function_expression", ref "arrow_function",
    ref "generator_function", ref "class", ref "meta_property",
    ref "call_expression"]),
  node "yield_expression" (groupsRight (seq [
    "yield",
    choice [
      seq ["*", ref "expression"], opt (ref "expression")]])),
  node "object" (level "object" (seq [
    "\x7b",
    sepBy (opt (choice [
      ref "pair", ref "spread_element", ref "method_definition",
      shownAs "shorthand_property_identifier" (choice [
        ref "identifier",
        ref "contextual_keyword"])])),
    "\x7d"])),
  node "object_pattern" (level "object" (seq [
    "\x7b",
    sepBy (opt (choice [
      ref "pair_pattern", ref "rest_pattern", ref "object_assignment_pattern",
      shownAs "shorthand_property_identifier_pattern" (choice [
        ref "identifier",
        ref "contextual_keyword"])])),
    "\x7d"])),
  node "assignment_pattern" (seq [
    field "left" (ref "pattern"), "=",
    field "right" (ref "expression")]),
  node "object_assignment_pattern" (seq [
    field "left" (choice [
      shownAs "shorthand_property_identifier_pattern" (choice [
        ref "contextual_keyword",
        ref "identifier"]),
      ref "destructuring"]),
    "=", field "right" (ref "expression")]),
  node "array" (seq ["[", sepBy (opt (choice [ref "expression", ref "spread_element"])), "]"]),
  node "array_pattern" (seq [
    "[",
    sepBy (opt (choice [ref "pattern", ref "assignment_pattern"])), "]"])]

/-! ## JSX -/

def elementRules : List Definition := [
  inlined "jsx_any_element" (choice [ref "jsx_element", ref "jsx_self_closing_element"]),
  node "jsx_element" (seq [
    field "open_tag" (ref "jsx_opening_element"), many (ref "jsx_child"),
    field "close_tag" (ref "jsx_closing_element")]),
  node "jsx_expression" (seq [
    "\x7b",
    opt (choice [ref "expression", ref "sequence_expression", ref "spread_element"]),
    "\x7d"]),
  inlined "jsx_child" (choice [
    ref "jsx_text", ref "html_character_reference", ref "jsx_any_element",
    ref "jsx_expression"]),
  node "jsx_opening_element" (favoured (-1) (seq [
    "<",
    opt (seq [
      field "name" (ref "jsx_element_name"),
      many (field "attribute" (ref "jsx_any_attribute"))]),
    ">"])),
  inlined "jsx_name" (choice [ref "jsx_identifier", ref "identifier"]),
  nodeAs "nested_identifier" "member_expression" (level "member" (seq [
    field "object" (choice [ref "identifier", ref "nested_identifier"]), ".",
    field "property" (shownAs "property_identifier" (ref "identifier"))])),
  node "jsx_namespace_name" (seq [ref "jsx_name", ":", ref "jsx_name"]),
  inlined "jsx_element_name" (choice [
    ref "jsx_name", ref "nested_identifier", ref "jsx_namespace_name"]),
  node "jsx_closing_element" (seq ["</", opt (field "name" (ref "jsx_element_name")), ">"]),
  node "jsx_self_closing_element" (seq [
    "<", field "name" (ref "jsx_element_name"),
    many (field "attribute" (ref "jsx_any_attribute")), "/>"]),
  inlined "jsx_any_attribute" (choice [ref "jsx_attribute", ref "jsx_expression"]),
  inlined "jsx_attribute_name" (choice [
    shownAs "property_identifier" (ref "jsx_name"),
    ref "jsx_namespace_name"]),
  node "jsx_attribute" (seq [
    ref "jsx_attribute_name", opt (seq ["=", ref "jsx_attribute_value"])]),
  nodeAs "jsx_string" "string" (choice [
    seq ["\"", many (choice [ref "jsx_double_fragment", ref "html_character_reference"]), "\""],
    seq [
      "'",
      many (choice [ref "jsx_single_fragment", ref "html_character_reference"]),
      "'"]]),
  inlined "jsx_attribute_value" (choice [
    ref "jsx_string", ref "jsx_expression", ref "jsx_any_element"])]

/-! ## Classes and functions -/

def functionRules : List Definition := [
  node "class" (level "literal" (seq [
    many (field "decorator" (ref "decorator")), "class", field "name" (opt (ref "identifier")),
    opt (ref "class_heritage"), field "body" (ref "class_body")])),
  node "class_declaration" (level "declare" (seq [
    many (field "decorator" (ref "decorator")), "class", field "name" (ref "identifier"),
    opt (ref "class_heritage"), field "body" (ref "class_body"),
    opt (ref "line_end")])),
  node "class_heritage" (seq ["extends", ref "expression"]),
  node "function_expression" (level "literal" (seq [
    opt "async", "function", field "name" (opt (ref "identifier")), ref "signature",
    field "body" (ref "statement_block")])),
  node "function_declaration" (rightAssoc "declare" (seq [
    opt "async", "function", field "name" (ref "identifier"), ref "signature",
    field "body" (ref "statement_block"),
    opt (ref "line_end")])),
  node "generator_function" (level "literal" (seq [
    opt "async", "function", "*", field "name" (opt (ref "identifier")), ref "signature",
    field "body" (ref "statement_block")])),
  node "generator_function_declaration" (rightAssoc "declare" (seq [
    opt "async", "function", "*", field "name" (ref "identifier"), ref "signature",
    field "body" (ref "statement_block"),
    opt (ref "line_end")])),
  node "arrow_function" (seq [
    opt "async",
    choice [
      field "parameter" (choice [
        shownAs "identifier" (ref "contextual_keyword"), ref "identifier"]),
      ref "signature"],
    "=>",
    field "body" (choice [ref "expression", ref "statement_block"])]),
  inlined "signature" (field "parameters" (ref "formal_parameters")),
  inlined "formal_parameter" (choice [ref "pattern", ref "assignment_pattern"])]

/-! ## Operators -/

def operatorRules : List Definition := [
  node "call_expression" (choice [
    level "call" (seq [
      field "function" (choice [ref "expression", ref "import"]),
      field "arguments" (ref "arguments")]),
    level "template_call" (seq [
      field "function" (choice [ref "primary_expression", ref "new_expression"]),
      field "arguments" (ref "template_string")]),
    level "member" (seq [
      field "function" (ref "primary_expression"), field "optional_chain" (ref "optional_chain"),
      field "arguments" (ref "arguments")])]),
  node "new_expression" (rightAssoc "new" (seq [
    "new",
    field "constructor" (choice [ref "primary_expression", ref "new_expression"]),
    field "arguments" (opt (favoured 1 (ref "arguments")))])),
  node "await_expression" (level "unary_void" (seq ["await", ref "expression"])),
  node "member_expression" (level "member" (seq [
    field "object" (choice [ref "expression", ref "primary_expression", ref "import"]),
    choice [".", field "optional_chain" (ref "optional_chain")],
    field "property" (choice [
      ref "private_property_identifier",
      shownAs "property_identifier" (ref "identifier")])])),
  node "subscript_expression" (rightAssoc "member" (seq [
    field "object" (choice [ref "expression", ref "primary_expression"]),
    opt (field "optional_chain" (ref "optional_chain")), "[", field "index" (ref "expressions"),
    "]"])),
  inlined "assignable" (choice [
    ref "member_expression", ref "subscript_expression", ref "name",
    shownAs "identifier" (ref "contextual_keyword"), ref "destructuring"]),
  node "assignment_expression" (rightAssoc "assign" (seq [
    field "left" (choice [ref "parenthesized_expression", ref "assignable"]), "=",
    field "right" (ref "expression")])),
  hidden "updatable" (choice [
    ref "member_expression", ref "subscript_expression",
    shownAs "identifier" (ref "contextual_keyword"), ref "identifier",
    ref "parenthesized_expression"]),
  node "augmented_assignment_expression" (rightAssoc "assign" (seq [
    field "left" (ref "updatable"),
    field "operator" (choice [
      "+=", "-=", "*=", "/=", "%=", "^=", "&=", "|=", ">>=", ">>>=", "<<=", "**=", "&&=", "||=",
      "??="]),
    field "right" (ref "expression")])),
  hidden "initializer" (seq ["=", field "value" (ref "expression")]),
  hidden "destructuring" (choice [ref "object_pattern", ref "array_pattern"]),
  node "spread_element" (seq ["...", ref "expression"]),
  node "ternary_expression" (rightAssoc "ternary" (seq [
    field "condition" (ref "expression"), ref "question_mark",
    field "consequence" (ref "expression"), ":",
    field "alternative" (ref "expression")])),
  node "binary_expression" (choice [
    binary .left "logical_and" "&&",
    binary .left "logical_or" "||",
    binary .left "binary_shift" ">>",
    binary .left "binary_shift" ">>>",
    binary .left "binary_shift" "<<",
    binary .left "bitwise_and" "&",
    binary .left "bitwise_xor" "^",
    binary .left "bitwise_or" "|",
    binary .left "binary_plus" "+",
    binary .left "binary_plus" "-",
    binary .left "binary_times" "*",
    binary .left "binary_times" "/",
    binary .left "binary_times" "%",
    binary .right "binary_exp" "**",
    binary .left "binary_relation" "<",
    binary .left "binary_relation" "<=",
    binary .left "binary_equality" "==",
    binary .left "binary_equality" "===",
    binary .left "binary_equality" "!=",
    binary .left "binary_equality" "!==",
    binary .left "binary_relation" ">=",
    binary .left "binary_relation" ">",
    binary .left "ternary" "??",
    binary .left "binary_relation" "instanceof",
    leftAssoc "binary_relation" (seq [
      field "left" (choice [ref "expression", ref "private_property_identifier"]),
      field "operator" "in",
      field "right" (ref "expression")])]),
  node "unary_expression" (leftAssoc "unary_void" (seq [
    field "operator" (choice ["!", "~", "-", "+", "typeof", "void", "delete"]),
    field "argument" (ref "expression")])),
  node "update_expression" (groupsLeft (choice [
    seq [field "argument" (ref "expression"), field "operator" (choice ["++", "--"])],
    seq [
      field "operator" (choice ["++", "--"]),
      field "argument" (ref "expression")]])),
  node "sequence_expression" (groupsRight (sepBy1 (ref "expression")))]

/-! ## Literals and names -/

def literalRules : List Definition := [
  node "string" (choice [
    seq ["\"", many (choice [ref "double_fragment", ref "escape_sequence"]), "\""],
    seq ["'", many (choice [ref "single_fragment", ref "escape_sequence"]), "'"]]),
  node "template_string" (seq [
    "`",
    many (choice [ref "template_text", ref "escape_sequence", ref "template_substitution"]),
    "`"]),
  node "template_substitution" (seq ["$\x7b", ref "expressions", "\x7d"]),
  node "regex" (seq [
    "/", field "pattern" (ref "regex_pattern"), ref "regex_end",
    opt (field "flags" (ref "regex_flags"))]),
  inlined "name" (choice [ref "undefined", ref "identifier"]),
  node "meta_property" (choice [seq ["new", ".", "target"], seq ["import", ".", "meta"]])]

/-! ## Arguments, class members, parameters -/

def memberRules : List Definition := [
  node "arguments" (seq ["(", sepBy (opt (choice [ref "expression", ref "spread_element"])), ")"]),
  node "decorator" (seq [
    "@",
    choice [
      ref "identifier", ref "decorator_member_expression",
      ref "decorator_call_expression"]]),
  nodeAs "decorator_member_expression" "member_expression" (level "member" (seq [
    field "object" (choice [ref "identifier", ref "decorator_member_expression"]), ".",
    field "property" (shownAs "property_identifier" (ref "identifier"))])),
  nodeAs "decorator_call_expression" "call_expression" (level "call" (seq [
    field "function" (choice [ref "identifier", ref "decorator_member_expression"]),
    field "arguments" (ref "arguments")])),
  node "class_body" (seq [
    "\x7b",
    many (choice [
      seq [field "member" (ref "method_definition"), opt ";"],
      seq [field "member" (ref "field_definition"), ref "terminator"],
      field "member" (ref "class_static_block"), ";"]),
    "\x7d"]),
  node "field_definition" (seq [
    many (field "decorator" (ref "decorator")), opt "static",
    field "property" (ref "property_name"), opt (ref "initializer")]),
  node "formal_parameters" (seq ["(", opt (seq [sepBy1 (ref "formal_parameter"), opt ","]), ")"]),
  node "class_static_block" (seq ["static", field "body" (ref "statement_block")]),
  hidden "pattern" (favoured (-1) (choice [ref "assignable", ref "rest_pattern"])),
  node "rest_pattern" (groupsRight (seq ["...", ref "assignable"])),
  node "method_definition" (seq [
    many (field "decorator" (ref "decorator")), opt (choice ["static", ref "static_get"]),
    opt "async", opt (choice ["get", "set", "*"]), field "name" (ref "property_name"),
    field "parameters" (ref "formal_parameters"),
    field "body" (ref "statement_block")]),
  node "pair" (seq [field "key" (ref "property_name"), ":", field "value" (ref "expression")]),
  node "pair_pattern" (seq [
    field "key" (ref "property_name"), ":",
    field "value" (choice [ref "pattern", ref "assignment_pattern"])]),
  hidden "property_name" (choice [
    shownAs "property_identifier" (choice [ref "identifier", ref "contextual_keyword"]),
    ref "private_property_identifier", ref "string", ref "number",
    ref "computed_property_name"]),
  node "computed_property_name" (seq ["[", ref "expression", "]"]),
  inlined "contextual_keyword" (choice ["get", "set", "async", "static", "export", "let"]),
  inlined "terminator" (choice [ref "line_end", ";"])]

/-! ## Tokens -/

def scanned (name : String) (display : Display) : Token := ⟨name, display, none, false⟩

def keyword (name text : String) : Token := ⟨name, .named name, some text, false⟩

def literals (texts : List String) : List Token := texts.map fun t => ⟨t, .bare t, some t, false⟩

def watched (name : String) (display : Display) : Token := ⟨name, display, none, true⟩

def watchedLiteral (text : String) : Token := ⟨text, .bare text, some text, true⟩

def tokens : List Token :=
  [scanned "identifier" (.named "identifier"),
   scanned "hash_bang_line" (.named "hash_bang_line")] ++
  literals ["export", "*", "default", "as", "\x7b", ",", "\x7d", "import", "from", "with",
    "var", "let", "const", "else", "if", "switch", "for", "(", ";", ")", "await", "in", "of",
    "while", "do", "try", "break", "continue", "debugger", "return", "throw", ":", "case",
    "catch", "finally", "yield", "=", "[", "]"] ++
  [scanned "html_character_reference" (.named "html_character_reference")] ++
  literals ["<", ">"] ++
  [scanned "jsx_identifier" (.named "identifier")] ++
  literals [".", "</", "/>", "\"", "'"] ++
  [scanned "jsx_double_fragment" (.named "string_fragment"),
   scanned "jsx_single_fragment" (.named "string_fragment")] ++
  literals ["class", "extends", "async", "function", "=>"] ++
  [keyword "optional_chain" "?."] ++
  literals ["new", "+=", "-=", "*=", "/=", "%=", "^=", "&=", "|=", ">>=", ">>>=", "<<=",
    "**=", "&&=", "||=", "??=", "...", "&&"] ++
  [watchedLiteral "||"] ++
  literals [">>", ">>>", "<<", "&", "^", "|", "+", "-", "/", "%", "**", "<=", "==", "===",
    "!=", "!==", ">=", "??", "instanceof", "!", "~", "typeof", "void", "delete", "++", "--"] ++
  [scanned "double_fragment" (.named "string_fragment"),
   scanned "single_fragment" (.named "string_fragment"),
   watched "escape_sequence" (.named "escape_sequence"),
   scanned "comment" (.named "comment")] ++
  literals ["`", "$\x7b"] ++
  [scanned "regex_end" (.bare "/"),
   watched "regex_pattern" (.named "regex_pattern"),
   scanned "regex_flags" (.named "regex_flags"),
   scanned "number" (.named "number"),
   scanned "private_property_identifier" (.named "private_property_identifier")] ++
  literals ["target", "meta"] ++
  [keyword "this" "this",
   keyword "super" "super",
   keyword "true" "true",
   keyword "false" "false",
   keyword "null" "null",
   keyword "undefined" "undefined"] ++
  literals ["@", "static"] ++
  [scanned "static_get" (.bare "static get")] ++
  literals ["get", "set"] ++
  [watched "line_end" .hidden,
   watched "template_text" (.named "string_fragment"),
   watched "question_mark" (.bare "?"),
   watched "html_comment" (.named "html_comment"),
   watched "jsx_text" (.named "jsx_text")]

/-! ## Ranks -/

def orderings : List (List Ranked) := [
  [.level "member", .level "template_call", .level "call", .rule "update_expression",
    .level "unary_void", .level "binary_exp", .level "binary_times", .level "binary_plus",
    .level "binary_shift", .level "binary_compare", .level "binary_relation",
    .level "binary_equality", .level "bitwise_and", .level "bitwise_xor", .level "bitwise_or",
    .level "logical_and", .level "logical_or", .level "ternary", .rule "sequence_expression",
    .rule "arrow_function"],
  [.level "assign", .rule "primary_expression"],
  [.level "member", .level "template_call", .level "new", .level "call", .rule "expression"],
  [.level "declare", .level "literal"],
  [.rule "primary_expression", .rule "statement_block", .level "object"],
  [.rule "meta_property", .rule "import"],
  [.rule "import_statement", .rule "import"],
  [.rule "export_statement", .rule "primary_expression"],
  [.rule "lexical_declaration", .rule "primary_expression"]]

/-- Whether a literal reads as a word, so that it is found inside matches of `identifier`. -/
def isWord (text : String) : Bool := text.toList.all Char.isAlpha

def grammar : Grammar where
  tokens := tokens
  rules := moduleRules ++ statementRules ++ expressionRules ++ elementRules ++ functionRules ++
    operatorRules ++ literalRules ++ memberRules
  orderings := orderings
  word := "identifier"
  extras := ["comment", "html_comment"]
  expectedOnly := ["html_character_reference", "jsx_identifier", "/>", "jsx_double_fragment",
    "jsx_single_fragment", "double_fragment", "single_fragment", "regex_pattern", "regex_flags"]
  kept := ["statement", "declaration", "expression", "primary_expression", "pattern"]
  rivals := ("static_get", "identifier") ::
    (tokens.filterMap fun t => t.literal.bind fun text =>
      if isWord text then some (t.name, "regex_flags") else none)

end CodeSurvey.Script

import CallAtlas.Languages.TypeScript.Statements
import CallAtlas.Languages.TypeScript.Types

/-!
# The grammar of TypeScript

The two dialects share all rules but those for markup and for type assertions.
-/

namespace CallAtlas.Languages.TypeScript

open CallAtlas.Syntax

/-- Which of two constructs binds more tightly, by name or by rule. -/
private def precedences : List (List Rank) :=
  [[.named "member", .named "template_call", .named "call", .rule "update_expression",
      .named "unary_void", .named "binary_exp", .named "binary_times", .named "binary_plus",
      .named "binary_shift", .named "binary_compare", .named "binary_relation",
      .named "binary_equality", .named "bitwise_and", .named "bitwise_xor",
      .named "bitwise_or", .named "logical_and", .named "logical_or", .named "ternary",
      .rule "sequence_expression", .rule "arrow_function"],
    [.named "assign", .rule "primary_expression"],
    [.named "member", .named "new", .named "template_call", .named "call",
      .rule "expression"],
    [.named "declare", .named "literal"],
    [.rule "primary_expression", .rule "statement_block", .named "object"],
    [.rule "import_statement", .rule "import"],
    [.rule "export_statement", .rule "primary_expression"],
    [.rule "lexical_declaration", .rule "primary_expression"],
    [.named "call", .named "instantiation", .named "unary", .named "binary",
      .rule "await_expression", .rule "arrow_function"],
    [.named "extends", .named "instantiation"],
    [.rule "intersection_type", .rule "union_type", .rule "conditional_type",
      .rule "function_type", .named "binary", .rule "type_predicate", .rule "readonly_type"],
    [.rule "mapped_type_clause", .rule "primary_expression"],
    [.rule "accessibility_modifier", .rule "primary_expression"],
    [.named "unary_void", .rule "expression"],
    [.rule "extends_clause", .rule "primary_expression"],
    [.named "unary", .named "assign"],
    [.named "declare", .rule "expression"],
    [.rule "predefined_type", .rule "unary_expression"],
    [.rule "type", .rule "flow_maybe_type"],
    [.rule "tuple_type", .rule "array_type", .rule "pattern", .rule "type"],
    [.rule "readonly_type", .rule "pattern"],
    [.rule "readonly_type", .rule "primary_expression"],
    [.rule "type_query", .rule "subscript_expression", .rule "expression"],
    [.rule "type_query", .rule "_type_query_subscript_expression"],
    [.rule "nested_type_identifier", .rule "generic_type", .rule "primary_type",
      .rule "lookup_type", .rule "index_type_query", .rule "type"],
    [.rule "as_expression", .rule "satisfies_expression", .rule "primary_type"],
    [.rule "_type_query_member_expression", .rule "member_expression"],
    [.rule "member_expression", .rule "_type_query_member_expression_in_type_annotation"],
    [.rule "_type_query_member_expression", .rule "primary_expression"],
    [.rule "_type_query_subscript_expression", .rule "subscript_expression"],
    [.rule "_type_query_subscript_expression", .rule "primary_expression"],
    [.rule "_type_query_call_expression", .rule "primary_expression"],
    [.rule "_type_query_instantiation_expression", .rule "primary_expression"],
    [.rule "type_query", .rule "primary_expression"],
    [.rule "override_modifier", .rule "primary_expression"],
    [.rule "decorator_call_expression", .rule "decorator"],
    [.rule "literal_type", .rule "pattern"],
    [.rule "predefined_type", .rule "pattern"],
    [.rule "call_expression", .rule "_type_query_call_expression"],
    [.rule "call_expression", .rule "_type_query_call_expression_in_type_annotation"],
    [.rule "new_expression", .rule "primary_expression"],
    [.rule "meta_property", .rule "primary_expression"],
    [.rule "construct_signature", .rule "_property_name"]]

/-- The grammar of a dialect. -/
def grammar (dialect : Dialect) : Grammar where
  rules :=
    moduleRules ++ statementRules ++ expressionRules dialect ++ templateRules ++ markupRules
      ++ functionRules
      ++ operationRules ++ literalRules ++ memberRules ++ declarationRules ++ parameterRules
      ++ typeRules
  separator := .set blank
  extras := ["comment", "html_comment"]
  externals :=
    [.own "_automatic_semicolon", .own "_template_chars", .own "_ternary_qmark",
      .own "html_comment", .shared "||", .shared "escape_sequence", .shared "regex_pattern",
      .own "_function_signature_automatic_semicolon", .own "__error_recovery"]
  inlined :=
    ["_expressions", "_semicolon", "_identifier", "_reserved_identifier", "_jsx_attribute",
      "_jsx_element_name", "_jsx_child", "_jsx_element", "_jsx_attribute_name",
      "_jsx_attribute_value", "_jsx_identifier", "_lhs_expression", "_type_identifier",
      "_jsx_start_opening_element"]
  supertypes :=
    ["statement", "declaration", "expression", "primary_expression", "pattern", "type",
      "primary_type"]
  word := some "identifier"
  precedences := precedences

end CallAtlas.Languages.TypeScript

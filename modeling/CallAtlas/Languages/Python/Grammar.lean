import CallAtlas.Syntax.Rule

/-!
# The grammar of Python
-/

namespace CallAtlas.Languages.Python

open CallAtlas.Syntax Rule

/-! ## Tokens -/

/-- Digits in groups, each with an optional underscore before it. -/
private def led (digit : CharSet) : Pattern :=
  .many1 (.seq [.opt (.oneOf "_"), .many1 (.set digit)])

/-- Digits in groups, each with an optional underscore after it. -/
private def digits : Pattern := .many1 (.seq [.many1 (.set .digit), .opt (.oneOf "_")])

/-- The mark of a long integer. -/
private def long : Pattern := .opt (.oneOf "Ll")

/-- Integer literals. -/
def integer : Pattern :=
  .choice
    [.seq [.choice [.text "0x", .text "0X"], led .hexDigit, long],
      .seq [.choice [.text "0o", .text "0O"], led .octalDigit, long],
      .seq [.choice [.text "0b", .text "0B"], led (.span '0' '1'), long],
      .seq [digits, .opt (.oneOf "LljJ")]]

/-- Floating point literals. -/
def float : Pattern :=
  let exponent := Pattern.seq [.oneOf "eE", .opt (.oneOf "+-"), digits]
  .seq
    [.choice
        [.seq [digits, .text ".", .opt digits, .opt exponent],
          .seq [.opt digits, .text ".", digits, .opt exponent], .seq [digits, exponent]],
      .opt (.oneOf "jJ")]

/-- Identifiers. -/
def identifier : Pattern :=
  .seq
    [.set (.union (.char '_') .identifierStart),
      .many (.set (.union (.char '_') .identifierContinue))]

/-- Escape sequences in strings. -/
def escapeSequence : Pattern :=
  let hex := Pattern.set .hexDigit
  .seq
    [.text "\\",
      .choice
        [.seq [.text "u", .times hex 4], .seq [.text "U", .times hex 8],
          .seq [.text "x", .times hex 2], .times (.set .digit) 3,
          .seq [.opt (.text "\r"), .text "\n"], .oneOf "'\"abfrntv\\",
          .seq [.text "N\x7b", .many1 (.noneOf "\x7d"), .text "\x7d"]]]

/-- The text of a format specifier. -/
def formatText : TokenRule :=
  { matcher := .pattern (.many1 (.noneOf "\x7b\x7d\n")), rank := 1 }

/-! ## Grammar -/

/-- One or more, separated by commas, with an optional comma at the end. -/
private def commaList (r : Rule) : Rule := .seq [commaSep1 r, opt ","]

/-- Binary operators with their precedence; only the power operator is read from the right. -/
private def binary (level : Int) (assoc : Assoc) (operator : String) : Rule :=
  .prec (some assoc) (.level level)
    (.seq [.field "left" (.ref "primary_expression"), .field "operator" operator,
      .field "right" (.ref "primary_expression")])

/-- The rules for statements. -/
private def statements : List (String × Rule) :=
  [("module", many (.ref "_statement")),
    ("_statement", .choice [.ref "_simple_statements", .ref "_compound_statement"]),
    ("_simple_statements",
      .seq [sepBy1 ";" (.ref "_simple_statement"), opt ";", .ref "_newline"]),
    ("_simple_statement",
      .choice
        [.ref "future_import_statement", .ref "import_statement", .ref "import_from_statement",
          .ref "print_statement", .ref "assert_statement", .ref "expression_statement",
          .ref "return_statement", .ref "delete_statement", .ref "raise_statement",
          .ref "pass_statement", .ref "break_statement", .ref "continue_statement",
          .ref "global_statement", .ref "nonlocal_statement", .ref "exec_statement",
          .ref "type_alias_statement"]),
    ("import_statement", .seq ["import", .ref "_import_list"]),
    ("import_prefix", .repeat1 "."),
    ("relative_import", .seq [.ref "import_prefix", opt (.ref "dotted_name")]),
    ("future_import_statement",
      .seq ["from", "__future__", "import",
        .choice [.ref "_import_list", .seq ["(", .ref "_import_list", ")"]]]),
    ("import_from_statement",
      .seq ["from",
        .field "module_name" (.choice [.ref "relative_import", .ref "dotted_name"]), "import",
        .choice
          [.ref "wildcard_import", .ref "_import_list", .seq ["(", .ref "_import_list", ")"]]]),
    ("_import_list",
      commaList (.field "name" (.choice [.ref "dotted_name", .ref "aliased_import"]))),
    ("aliased_import",
      .seq [.field "name" (.ref "dotted_name"), "as", .field "alias" (.ref "identifier")]),
    ("wildcard_import", text "*"),
    ("print_statement",
      .choice
        [precAt 1
            (.seq ["print", .ref "chevron",
              many (.seq [",", .field "argument" (.ref "expression")]), opt ","]),
          precAt (-3) (.dynamic (-1)
            (.seq ["print", commaSep1 (.field "argument" (.ref "expression")), opt ","]))]),
    ("chevron", .seq [">>", .ref "expression"]),
    ("assert_statement", .seq ["assert", commaSep1 (.ref "expression")]),
    ("expression_statement",
      .choice
        [.ref "expression", commaList (.ref "expression"), .ref "assignment",
          .ref "augmented_assignment", .ref "yield"]),
    ("named_expression",
      .seq [.field "name" (.ref "_named_expression_lhs"), ":=",
        .field "value" (.ref "expression")]),
    ("_named_expression_lhs", .choice [.ref "identifier", .ref "keyword_identifier"]),
    ("return_statement", .seq ["return", opt (.ref "_expressions")]),
    ("delete_statement", .seq ["del", .ref "_expressions"]),
    ("_expressions", .choice [.ref "expression", .ref "expression_list"]),
    ("raise_statement",
      .seq ["raise", opt (.ref "_expressions"),
        optSeq ["from", .field "cause" (.ref "expression")]]),
    ("pass_statement", left "pass"),
    ("break_statement", left "break"),
    ("continue_statement", left "continue"),
    ("_compound_statement",
      .choice
        [.ref "if_statement", .ref "for_statement", .ref "while_statement", .ref "try_statement",
          .ref "with_statement", .ref "function_definition", .ref "class_definition",
          .ref "decorated_definition", .ref "match_statement"]),
    ("if_statement",
      .seq ["if", .field "condition" (.ref "expression"), ":",
        .field "consequence" (.ref "_suite"), many (.field "alternative" (.ref "elif_clause")),
        opt (.field "alternative" (.ref "else_clause"))]),
    ("elif_clause",
      .seq ["elif", .field "condition" (.ref "expression"), ":",
        .field "consequence" (.ref "_suite")]),
    ("else_clause", .seq ["else", ":", .field "body" (.ref "_suite")]),
    ("match_statement",
      .seq ["match", commaSep1 (.field "subject" (.ref "expression")), opt ",", ":",
        .field "body" (named "block" (.ref "_match_block"))]),
    ("_match_block",
      .choice
        [.seq [.ref "_indent", many (.field "alternative" (.ref "case_clause")), .ref "_dedent"],
          .ref "_newline"]),
    ("case_clause",
      .seq ["case", commaSep1 (.ref "case_pattern"), opt ",",
        opt (.field "guard" (.ref "if_clause")), ":", .field "consequence" (.ref "_suite")]),
    ("for_statement",
      .seq [opt "async", "for", .field "left" (.ref "_left_hand_side"), "in",
        .field "right" (.ref "_expressions"), ":", .field "body" (.ref "_suite"),
        .field "alternative" (opt (.ref "else_clause"))]),
    ("while_statement",
      .seq ["while", .field "condition" (.ref "expression"), ":", .field "body" (.ref "_suite"),
        opt (.field "alternative" (.ref "else_clause"))]),
    ("try_statement",
      .seq ["try", ":", .field "body" (.ref "_suite"),
        .choice
          [.seq [.repeat1 (.ref "except_clause"), opt (.ref "else_clause"),
              opt (.ref "finally_clause")],
            .seq [.repeat1 (.ref "except_group_clause"), opt (.ref "else_clause"),
              opt (.ref "finally_clause")],
            .ref "finally_clause"]]),
    ("except_clause",
      .seq ["except",
        optSeq [.ref "expression", optSeq [.choice ["as", ","], .ref "expression"]], ":",
        .ref "_suite"]),
    ("except_group_clause",
      .seq ["except*", .seq [.ref "expression", optSeq ["as", .ref "expression"]], ":",
        .ref "_suite"]),
    ("finally_clause", .seq ["finally", ":", .ref "_suite"]),
    ("with_statement",
      .seq [opt "async", "with", .ref "with_clause", ":", .field "body" (.ref "_suite")]),
    ("with_clause",
      .choice
        [commaList (.ref "with_item"),
          .seq ["(", commaSep1 (.ref "with_item"), opt ",", ")"]]),
    ("with_item", .dynamic 1 (.seq [.field "value" (.ref "expression")])),
    ("function_definition",
      .seq [opt "async", "def", .field "name" (.ref "identifier"),
        .field "type_parameters" (opt (.ref "type_parameter")),
        .field "parameters" (.ref "parameters"),
        optSeq ["->", .field "return_type" (.ref "type")], ":", .field "body" (.ref "_suite")]),
    ("parameters", .seq ["(", opt (.ref "_parameters"), ")"]),
    ("lambda_parameters", .ref "_parameters"),
    ("list_splat", .seq ["*", .ref "expression"]),
    ("dictionary_splat", .seq ["**", .ref "expression"]),
    ("global_statement", .seq ["global", commaSep1 (.ref "identifier")]),
    ("nonlocal_statement", .seq ["nonlocal", commaSep1 (.ref "identifier")]),
    ("exec_statement",
      .seq ["exec", .field "code" (.choice [.ref "string", .ref "identifier"]),
        optSeq ["in", commaSep1 (.ref "expression")]]),
    ("type_alias_statement", .dynamic 1 (.seq ["type", .ref "type", "=", .ref "type"])),
    ("class_definition",
      .seq ["class", .field "name" (.ref "identifier"),
        .field "type_parameters" (opt (.ref "type_parameter")),
        .field "superclasses" (opt (.ref "argument_list")), ":", .field "body" (.ref "_suite")]),
    ("type_parameter", .seq ["[", commaSep1 (.ref "type"), opt ",", "]"]),
    ("parenthesized_list_splat",
      precAt 1
        (.seq ["(",
          .choice
            [named "parenthesized_expression" (.ref "parenthesized_list_splat"),
              .ref "list_splat"],
          ")"])),
    ("argument_list",
      .seq ["(",
        opt (commaSep1
          (.choice
            [.ref "expression", .ref "list_splat", .ref "dictionary_splat",
              named "parenthesized_expression" (.ref "parenthesized_list_splat"),
              .ref "keyword_argument"])),
        opt ",", ")"]),
    ("decorated_definition",
      .seq [.repeat1 (.ref "decorator"),
        .field "definition" (.choice [.ref "class_definition", .ref "function_definition"])]),
    ("decorator", .seq ["@", .ref "expression", .ref "_newline"]),
    ("_suite",
      .choice
        [named "block" (.ref "_simple_statements"), .seq [.ref "_indent", .ref "block"],
          named "block" (.ref "_newline")]),
    ("block", .seq [many (.ref "_statement"), .ref "_dedent"]),
    ("expression_list",
      right
        (.seq [.ref "expression",
          .choice [",", .seq [.repeat1 (.seq [",", .ref "expression"]), opt ","]]])),
    ("dotted_name", precAt 1 (sepBy1 "." (.ref "identifier")))]

/-- The rules for the patterns of a match statement. -/
private def casePatterns : List (String × Rule) :=
  let number := Rule.choice [.ref "integer", .ref "float"]
  let items := optSeq [commaSep1 (.ref "case_pattern"), opt ","]
  [("case_pattern",
      precAt 1
        (.choice [named "as_pattern" (.ref "_as_pattern"), .ref "keyword_pattern",
          .ref "_simple_pattern"])),
    ("_simple_pattern",
      precAt 1
        (.choice
          [.ref "class_pattern", .ref "splat_pattern", .ref "union_pattern",
            named "list_pattern" (.ref "_list_pattern"),
            named "tuple_pattern" (.ref "_tuple_pattern"), .ref "dict_pattern", .ref "string",
            .ref "concatenated_string", .ref "true", .ref "false", .ref "none",
            .seq [opt "-", number], .ref "complex_pattern", .ref "dotted_name", "_"])),
    ("_as_pattern", .seq [.ref "case_pattern", "as", .ref "identifier"]),
    ("union_pattern",
      right
        (.seq [.ref "_simple_pattern", .repeat1 (left (.seq ["|", .ref "_simple_pattern"]))])),
    ("_list_pattern", .seq ["[", items, "]"]),
    ("_tuple_pattern", .seq ["(", items, ")"]),
    ("dict_pattern",
      .seq ["\x7b",
        optSeq [commaSep1 (.choice [.ref "_key_value_pattern", .ref "splat_pattern"]), opt ","],
        "\x7d"]),
    ("_key_value_pattern",
      .seq [.field "key" (.ref "_simple_pattern"), ":", .field "value" (.ref "case_pattern")]),
    ("keyword_pattern", .seq [.ref "identifier", "=", .ref "_simple_pattern"]),
    ("splat_pattern",
      precAt 1 (.seq [.choice ["*", "**"], .choice [.ref "identifier", "_"]])),
    ("class_pattern", .seq [.ref "dotted_name", "(", items, ")"]),
    ("complex_pattern", precAt 1 (.seq [opt "-", number, .choice ["+", "-"], number]))]

/-- The rules for parameters and the targets of assignments. -/
private def patterns : List (String × Rule) :=
  let target :=
    Rule.choice
      [.ref "identifier", .ref "keyword_identifier", .ref "subscript", .ref "attribute"]
  [("_parameters", commaList (.ref "parameter")),
    ("_patterns", commaList (.ref "pattern")),
    ("parameter",
      .choice
        [.ref "identifier", .ref "typed_parameter", .ref "default_parameter",
          .ref "typed_default_parameter", .ref "list_splat_pattern", .ref "tuple_pattern",
          .ref "keyword_separator", .ref "positional_separator",
          .ref "dictionary_splat_pattern"]),
    ("pattern",
      .choice
        [.ref "identifier", .ref "keyword_identifier", .ref "subscript", .ref "attribute",
          .ref "list_splat_pattern", .ref "tuple_pattern", .ref "list_pattern"]),
    ("tuple_pattern", .seq ["(", opt (.ref "_patterns"), ")"]),
    ("list_pattern", .seq ["[", opt (.ref "_patterns"), "]"]),
    ("default_parameter",
      .seq [.field "name" (.choice [.ref "identifier", .ref "tuple_pattern"]), "=",
        .field "value" (.ref "expression")]),
    ("typed_default_parameter",
      precAt (-1)
        (.seq [.field "name" (.ref "identifier"), ":", .field "type" (.ref "type"), "=",
          .field "value" (.ref "expression")])),
    ("list_splat_pattern", .seq ["*", target]),
    ("dictionary_splat_pattern", .seq ["**", target]),
    ("as_pattern",
      left
        (.seq [.ref "expression", "as",
          .field "alias" (named "as_pattern_target" (.ref "expression"))]))]

/-- The rules for expressions. -/
private def expressions : List (String × Rule) :=
  let parameters := Rule.field "parameters" (opt (.ref "lambda_parameters"))
  [("_expression_within_for_in_clause",
      .choice [.ref "expression", named "lambda" (.ref "lambda_within_for_in_clause")]),
    ("expression",
      .choice
        [.ref "comparison_operator", .ref "not_operator", .ref "boolean_operator", .ref "lambda",
          .ref "primary_expression", .ref "conditional_expression", .ref "named_expression",
          .ref "as_pattern"]),
    ("primary_expression",
      .choice
        [.ref "await", .ref "binary_operator", .ref "identifier", .ref "keyword_identifier",
          .ref "string", .ref "concatenated_string", .ref "integer", .ref "float", .ref "true",
          .ref "false", .ref "none", .ref "unary_operator", .ref "attribute", .ref "subscript",
          .ref "call", .ref "list", .ref "list_comprehension", .ref "dictionary",
          .ref "dictionary_comprehension", .ref "set", .ref "set_comprehension", .ref "tuple",
          .ref "parenthesized_expression", .ref "generator_expression", .ref "ellipsis",
          named "list_splat" (.ref "list_splat_pattern")]),
    ("not_operator", precAt 12 (.seq ["not", .field "argument" (.ref "expression")])),
    ("boolean_operator",
      .choice
        [leftAt 11
            (.seq [.field "left" (.ref "expression"), .field "operator" "and",
              .field "right" (.ref "expression")]),
          leftAt 10
            (.seq [.field "left" (.ref "expression"), .field "operator" "or",
              .field "right" (.ref "expression")])]),
    ("binary_operator",
      .choice
        [binary 18 .left "+", binary 18 .left "-", binary 19 .left "*", binary 19 .left "@",
          binary 19 .left "/", binary 19 .left "%", binary 19 .left "//", binary 21 .right "**",
          binary 14 .left "|", binary 15 .left "&", binary 16 .left "^", binary 17 .left "<<",
          binary 17 .left ">>"]),
    ("unary_operator",
      precAt 20
        (.seq [.field "operator" (.choice ["+", "-", "~"]),
          .field "argument" (.ref "primary_expression")])),
    ("_not_in", .seq ["not", "in"]),
    ("_is_not", .seq ["is", "not"]),
    ("comparison_operator",
      leftAt 13
        (.seq [.ref "primary_expression",
          .repeat1
            (.seq
              [.field "operators"
                  (.choice
                    ["<", "<=", "==", "!=", ">=", ">", "<>", "in",
                      anonymous "not in" (.ref "_not_in"), "is",
                      anonymous "is not" (.ref "_is_not")]),
                .ref "primary_expression"])])),
    ("lambda",
      precAt (-2) (.seq ["lambda", parameters, ":", .field "body" (.ref "expression")])),
    ("lambda_within_for_in_clause",
      .seq ["lambda", parameters, ":",
        .field "body" (.ref "_expression_within_for_in_clause")]),
    ("assignment",
      .seq [.field "left" (.ref "_left_hand_side"),
        .choice
          [.seq ["=", .field "right" (.ref "_right_hand_side")],
            .seq [":", .field "type" (.ref "type")],
            .seq [":", .field "type" (.ref "type"), "=",
              .field "right" (.ref "_right_hand_side")]]]),
    ("augmented_assignment",
      .seq [.field "left" (.ref "_left_hand_side"),
        .field "operator"
          (.choice
            ["+=", "-=", "*=", "/=", "@=", "//=", "%=", "**=", ">>=", "<<=", "&=", "^=", "|="]),
        .field "right" (.ref "_right_hand_side")]),
    ("_left_hand_side", .choice [.ref "pattern", .ref "pattern_list"]),
    ("pattern_list",
      .seq [.ref "pattern",
        .choice [",", .seq [.repeat1 (.seq [",", .ref "pattern"]), opt ","]]]),
    ("_right_hand_side",
      .choice
        [.ref "expression", .ref "expression_list", .ref "assignment",
          .ref "augmented_assignment", .ref "pattern_list", .ref "yield"]),
    ("yield",
      right
        (.seq ["yield", .choice [.seq ["from", .ref "expression"], opt (.ref "_expressions")]])),
    ("attribute",
      precAt 22
        (.seq [.field "object" (.ref "primary_expression"), ".",
          .field "attribute" (.ref "identifier")])),
    ("subscript",
      precAt 22
        (.seq [.field "value" (.ref "primary_expression"), "[",
          commaSep1 (.field "subscript" (.choice [.ref "expression", .ref "slice"])), opt ",",
          "]"])),
    ("slice",
      .seq [opt (.ref "expression"), ":", opt (.ref "expression"),
        optSeq [":", opt (.ref "expression")]]),
    ("ellipsis", text "..."),
    ("call",
      precAt 22
        (.seq [.field "function" (.ref "primary_expression"),
          .field "arguments" (.choice [.ref "generator_expression", .ref "argument_list"])])),
    ("typed_parameter",
      precAt (-1)
        (.seq
          [.choice
              [.ref "identifier", .ref "list_splat_pattern", .ref "dictionary_splat_pattern"],
            ":", .field "type" (.ref "type")])),
    ("type",
      .choice
        [precAt 1 (.ref "expression"), .ref "splat_type", .ref "generic_type", .ref "union_type",
          .ref "constrained_type", .ref "member_type"]),
    ("splat_type", precAt 1 (.seq [.choice ["*", "**"], .ref "identifier"])),
    ("generic_type", precAt 1 (.seq [.ref "identifier", .ref "type_parameter"])),
    ("union_type", left (.seq [.ref "type", "|", .ref "type"])),
    ("constrained_type", right (.seq [.ref "type", ":", .ref "type"])),
    ("member_type", .seq [.ref "type", ".", .ref "identifier"]),
    ("keyword_argument",
      .seq [.field "name" (.choice [.ref "identifier", .ref "keyword_identifier"]), "=",
        .field "value" (.ref "expression")])]

/-- The rules for literals. -/
private def literals : List (String × Rule) :=
  let comprehension (opening : String) (body : String) (closing : String) : Rule :=
    .seq [opening, .field "body" (.ref body), .ref "_comprehension_clauses", closing]
  [("list", .seq ["[", opt (.ref "_collection_elements"), "]"]),
    ("set", .seq ["\x7b", .ref "_collection_elements", "\x7d"]),
    ("tuple", .seq ["(", opt (.ref "_collection_elements"), ")"]),
    ("dictionary",
      .seq ["\x7b", opt (commaSep1 (.choice [.ref "pair", .ref "dictionary_splat"])), opt ",",
        "\x7d"]),
    ("pair",
      .seq [.field "key" (.ref "expression"), ":", .field "value" (.ref "expression")]),
    ("list_comprehension", comprehension "[" "expression" "]"),
    ("dictionary_comprehension", comprehension "\x7b" "pair" "\x7d"),
    ("set_comprehension", comprehension "\x7b" "expression" "\x7d"),
    ("generator_expression", comprehension "(" "expression" ")"),
    ("_comprehension_clauses",
      .seq [.ref "for_in_clause", many (.choice [.ref "for_in_clause", .ref "if_clause"])]),
    ("parenthesized_expression",
      precAt 1 (.seq ["(", .choice [.ref "expression", .ref "yield"], ")"])),
    ("_collection_elements",
      commaList
        (.choice
          [.ref "expression", .ref "yield", .ref "list_splat",
            .ref "parenthesized_list_splat"])),
    ("for_in_clause",
      left
        (.seq [opt "async", "for", .field "left" (.ref "_left_hand_side"), "in",
          .field "right" (commaSep1 (.ref "_expression_within_for_in_clause")), opt ","])),
    ("if_clause", .seq ["if", .ref "expression"]),
    ("conditional_expression",
      rightAt (-1)
        (.seq [.ref "expression", "if", .ref "expression", "else", .ref "expression"])),
    ("concatenated_string", .seq [.ref "string", .repeat1 (.ref "string")]),
    ("string",
      .seq [.ref "string_start", many (.choice [.ref "interpolation", .ref "string_content"]),
        .ref "string_end"]),
    ("string_content",
      right
        (.repeat1
          (.choice
            [.ref "escape_interpolation", .ref "escape_sequence", .ref "_not_escape_sequence",
              .ref "_string_content"]))),
    ("interpolation",
      .seq ["\x7b", .field "expression" (.ref "_f_expression"), opt "=",
        opt (.field "type_conversion" (.ref "type_conversion")),
        opt (.field "format_specifier" (.ref "format_specifier")), "\x7d"]),
    ("_f_expression",
      .choice [.ref "expression", .ref "expression_list", .ref "pattern_list", .ref "yield"]),
    ("escape_sequence", immAt 1 escapeSequence),
    ("_not_escape_sequence", immText "\\"),
    ("format_specifier",
      .seq [":",
        many (.choice [.token formatText, named "format_expression" (.ref "interpolation")])]),
    ("type_conversion", pat (.seq [.text "!", .set (.span 'a' 'z')])),
    ("integer", pat integer),
    ("float", pat float),
    ("identifier", pat identifier),
    ("keyword_identifier",
      .choice
        [precAt (-3)
            (named "identifier" (.choice ["print", "exec", "async", "await", "match"])),
          named "identifier" "type"]),
    ("true", text "True"),
    ("false", text "False"),
    ("none", text "None"),
    ("await", precAt 20 (.seq ["await", .ref "primary_expression"])),
    ("comment", pat (.seq [.text "#", .many (.set .notNewline)])),
    ("line_continuation", pat (.seq [.text "\\", .opt (.text "\r"), .text "\n"])),
    ("positional_separator", text "/"),
    ("keyword_separator", text "*")]

/-- The characters that may stand between tokens. -/
private def separator : Pattern :=
  .set (.any [.blank, .char '\uFEFF', .char '\u2060', .char '\u200B'])

/-- The grammar of Python. -/
def grammar : Grammar where
  rules := statements ++ casePatterns ++ patterns ++ expressions ++ literals
  separator := separator
  extras := ["comment", "line_continuation"]
  externals :=
    [.own "_newline", .own "_indent", .own "_dedent", .own "string_start",
      .own "_string_content", .own "escape_interpolation", .own "string_end", .shared "comment",
      .shared "]", .shared ")", .shared "\x7d", .shared "except"]
  inlined :=
    ["_simple_statement", "_compound_statement", "_suite", "_expressions", "_left_hand_side",
      "keyword_identifier"]
  supertypes :=
    ["_simple_statement", "_compound_statement", "expression", "primary_expression", "pattern",
      "parameter"]
  word := some "identifier"

end CallAtlas.Languages.Python

import CallAtlas.Syntax.Rule

/-!
# The grammar of Go

A statement or declaration ends with a line end, a semicolon or a null character. The last
declaration of a file may end with the file.
-/

namespace CallAtlas.Languages.Go

open CallAtlas.Syntax Rule

/-! ## Tokens -/

/-- Digits with single separators between them. -/
private def digits (digit : CharSet) : Pattern :=
  .seq [.set digit, .many (.seq [.opt (.text "_"), .set digit])]

/-- Integer literals. -/
def integer : Pattern :=
  .choice
    [.seq [.text "0", .oneOf "bB", .opt (.text "_"), digits (.span '0' '1')], .text "0",
      .seq [.set (.span '1' '9'), .opt (.seq [.opt (.text "_"), digits .digit])],
      .seq [.text "0", .opt (.oneOf "oO"), .opt (.text "_"), digits .octalDigit],
      .seq [.text "0", .oneOf "xX", .opt (.text "_"), digits .hexDigit]]

/-- Floating point literals. -/
def float : Pattern :=
  let decimal := digits .digit
  let hex := digits .hexDigit
  let exponent := Pattern.seq [.oneOf "eE", .opt (.oneOf "+-"), decimal]
  let mantissa :=
    Pattern.choice
      [.seq [.opt (.text "_"), hex, .text ".", .opt hex], .seq [.opt (.text "_"), hex],
        .seq [.text ".", hex]]
  .choice
    [.seq [decimal, .text ".", .opt decimal, .opt exponent], .seq [decimal, exponent],
      .seq [.text ".", decimal, .opt exponent],
      .seq [.text "0", .oneOf "xX", mantissa, .oneOf "pP", .opt (.oneOf "+-"), decimal]]

/-- Imaginary literals. -/
def imaginary : Pattern := .seq [.choice [digits .digit, integer, float], .text "i"]

/-- Identifiers. -/
def identifier : Pattern :=
  .seq
    [.set (.union .identifierStart (.char '_')),
      .many (.set (.union .identifierContinue (.char '_')))]

/-- Character literals. -/
def rune : Pattern :=
  let hex := Pattern.set .hexDigit
  .seq
    [.text "'",
      .choice
        [.noneOf "'\\",
          .seq
            [.text "\\",
              .choice
                [.seq [.text "x", .times hex 2], .times (.set .octalDigit) 3,
                  .seq [.text "u", .times hex 4], .seq [.text "U", .times hex 8],
                  .oneOf "abfnrtv\\'\""]]],
      .text "'"]

/-- Strings without escape sequences. -/
def rawString : Pattern := .seq [.text "`", .many (.noneOf "`"), .text "`"]

/-- Text in a string. -/
def stringText : TokenRule :=
  { matcher := .pattern (.many1 (.noneOf "\"\n\\")), rank := 1, immediate := true }

/-- Escape sequences. -/
def escapeSequence : Pattern :=
  let hex := Pattern.set .hexDigit
  let digit := Pattern.set .digit
  .seq
    [.text "\\",
      .choice
        [.noneOf "xuU", .seq [.times digit 2, .opt digit],
          .seq [.text "x", .times hex 2, .many hex], .seq [.text "u", .times hex 4],
          .seq [.text "U", .times hex 8]]]

/-- Comments. -/
def comment : Pattern :=
  .choice
    [.seq [.text "//", .many (.set .notNewline)],
      .seq
        [.text "/*", .many (.noneOf "*"), .many1 (.text "*"),
          .many (.seq [.noneOf "/*", .many (.noneOf "*"), .many1 (.text "*")]), .text "/"]]

/-! ## Grammar -/

/-- What ends a statement. -/
private def terminator : Rule := .choice ["\n", ";", "\x00"]

/-- Items that are each ended by a terminator, the last one optionally. -/
private def terminated (r : Rule) : Rule :=
  optSeq [r, many (.seq [terminator, r]), opt terminator]

/-- A label. -/
private def label : Rule := named "label_name" (.ref "identifier")

/-- The result of a function. -/
private def result : Rule :=
  .field "result" (opt (.choice [.ref "parameter_list", .ref "_simple_type"]))

/-- The parameters of a function. -/
private def parameters : Rule := .field "parameters" (.ref "parameter_list")

/-- A simple statement that comes before another part of the head of a statement. -/
private def initializer : Rule :=
  optSeq [.field "initializer" (.ref "_simple_statement"), ";"]

/-- The rules for declarations. -/
private def declarationRules : List (String × Rule) :=
  [("source_file",
      .seq
        [many (.choice
            [.seq [.ref "_statement", terminator],
              .seq [.ref "_top_level_declaration", terminator]]),
          opt (.ref "_top_level_declaration")]),
    ("_top_level_declaration",
      .choice
        [.ref "package_clause", .ref "function_declaration", .ref "method_declaration",
          .ref "import_declaration"]),
    ("package_clause", .seq ["package", .ref "_package_identifier"]),
    ("import_declaration",
      .seq ["import", .choice [.ref "import_spec", .ref "import_spec_list"]]),
    ("import_spec",
      .seq
        [opt
            (.field "name"
              (.choice [.ref "dot", .ref "blank_identifier", .ref "_package_identifier"])),
          .field "path" (.ref "_string_literal")]),
    ("dot", text "."),
    ("blank_identifier", text "_"),
    ("import_spec_list", .seq ["(", terminated (.ref "import_spec"), ")"]),
    ("_declaration",
      .choice [.ref "const_declaration", .ref "type_declaration", .ref "var_declaration"]),
    ("const_declaration",
      .seq ["const",
        .choice
          [.ref "const_spec",
            .seq ["(", many (.seq [.ref "const_spec", terminator]), ")"]]]),
    ("const_spec",
      left
        (.seq
          [.field "name" (commaSep1 (.ref "identifier")),
            optSeq
              [opt (.field "type" (.ref "_type")), "=",
                .field "value" (.ref "expression_list")]])),
    ("var_declaration",
      .seq ["var", .choice [.ref "var_spec", .ref "var_spec_list"]]),
    ("var_spec",
      .seq
        [.field "name" (commaSep1 (.ref "identifier")),
          .choice
            [.seq
                [.field "type" (.ref "_type"),
                  optSeq ["=", .field "value" (.ref "expression_list")]],
              .seq ["=", .field "value" (.ref "expression_list")]]]),
    ("var_spec_list",
      .seq ["(", many (.seq [.ref "var_spec", terminator]), ")"]),
    ("function_declaration",
      rightAt 1
        (.seq ["func", .field "name" (.ref "identifier"),
          .field "type_parameters" (opt (.ref "type_parameter_list")), parameters, result,
          .field "body" (opt (.ref "block"))])),
    ("method_declaration",
      rightAt 1
        (.seq ["func", .field "receiver" (.ref "parameter_list"),
          .field "name" (.ref "_field_identifier"), parameters, result,
          .field "body" (opt (.ref "block"))])),
    ("type_parameter_list",
      .seq ["[", commaSep1 (.ref "type_parameter_declaration"), opt ",", "]"]),
    ("type_parameter_declaration",
      .seq
        [commaSep1 (.field "name" (.ref "identifier")),
          .field "type" (named "type_constraint" (.ref "type_elem"))]),
    ("parameter_list",
      .seq ["(",
        optSeq
          [commaSep
              (.choice
                [.ref "parameter_declaration", .ref "variadic_parameter_declaration"]),
            opt ","],
        ")"]),
    ("parameter_declaration",
      .seq [commaSep (.field "name" (.ref "identifier")), .field "type" (.ref "_type")]),
    ("variadic_parameter_declaration",
      .seq
        [.field "name" (opt (.ref "identifier")), "...", .field "type" (.ref "_type")]),
    ("type_alias",
      .seq [.field "name" (.ref "_type_identifier"), "=", .field "type" (.ref "_type")]),
    ("type_declaration",
      .seq ["type",
        .choice
          [.ref "type_spec", .ref "type_alias",
            .seq ["(",
              many (.seq [.choice [.ref "type_spec", .ref "type_alias"], terminator]),
              ")"]]]),
    ("type_spec",
      .seq
        [.field "name" (.ref "_type_identifier"),
          .field "type_parameters" (opt (.ref "type_parameter_list")),
          .field "type" (.ref "_type")]),
    ("field_name_list", commaSep1 (.ref "_field_identifier")),
    ("expression_list", commaSep1 (.ref "_expression"))]

/-- The rules for types. -/
private def typeRules : List (String × Rule) :=
  let element := Rule.field "element" (.ref "_type")
  let value := Rule.field "value" (.ref "_type")
  [("_type", .choice [.ref "_simple_type", .ref "parenthesized_type"]),
    ("parenthesized_type", .seq ["(", .ref "_type", ")"]),
    ("_simple_type",
      .choice
        [.dynamic (-1) (.ref "_type_identifier"), .ref "generic_type", .ref "qualified_type",
          .ref "pointer_type", .ref "struct_type", .ref "interface_type",
          .ref "array_type", .ref "slice_type", .ref "map_type", .ref "channel_type",
          .ref "function_type", .ref "negated_type"]),
    ("generic_type",
      .dynamic 1
        (.seq
          [.field "type"
              (.choice
                [.ref "_type_identifier", .ref "qualified_type", .ref "negated_type"]),
            .field "type_arguments" (.ref "type_arguments")])),
    ("type_arguments",
      .dynamic 2 (.seq ["[", commaSep1 (.ref "type_elem"), opt ",", "]"])),
    ("pointer_type", precAt 6 (.seq ["*", .ref "_type"])),
    ("array_type",
      right (.seq ["[", .field "length" (.ref "_expression"), "]", element])),
    ("implicit_length_array_type", .seq ["[", "...", "]", element]),
    ("slice_type", right (.seq ["[", "]", element])),
    ("struct_type", .seq ["struct", .ref "field_declaration_list"]),
    ("negated_type", left (.seq ["~", .ref "_type"])),
    ("field_declaration_list",
      .seq ["\x7b", terminated (.ref "field_declaration"), "\x7d"]),
    ("field_declaration",
      .seq
        [.choice
            [.seq
                [commaSep1 (.field "name" (.ref "_field_identifier")),
                  .field "type" (.ref "_type")],
              .seq
                [opt "*",
                  .field "type"
                    (.choice
                      [.ref "_type_identifier", .ref "qualified_type",
                        .ref "generic_type"])]],
          .field "tag" (opt (.ref "_string_literal"))]),
    ("interface_type",
      .seq ["interface", "\x7b", terminated (.ref "_interface_elem"), "\x7d"]),
    ("_interface_elem", .choice [.ref "method_elem", .ref "type_elem"]),
    ("method_elem", .seq [.field "name" (.ref "_field_identifier"), parameters, result]),
    ("type_elem", sepBy1 "|" (.ref "_type")),
    ("map_type",
      right (.seq ["map", "[", .field "key" (.ref "_type"), "]", value])),
    ("channel_type",
      left
        (.choice
          [.seq ["chan", value], .seq ["chan", "<-", value],
            precAt 6 (.seq ["<-", "chan", value])])),
    ("function_type", right (.seq ["func", parameters, result]))]

/-- The rules for statements. -/
private def statementRules : List (String × Rule) :=
  let statements := opt (.ref "_statement_list")
  let emptyLabeled := named "labeled_statement" (.ref "empty_labeled_statement")
  let assigned := Rule.seq [.field "left" (.ref "expression_list"), .choice ["=", ":="]]
  let condition := Rule.field "condition" (opt (.ref "_expression"))
  [("block", .seq ["\x7b", statements, "\x7d"]),
    ("_statement_list",
      .choice
        [.seq
            [.ref "_statement", many (.seq [terminator, .ref "_statement"]),
              optSeq [terminator, opt emptyLabeled]],
          emptyLabeled]),
    ("_statement",
      .choice
        [.ref "_declaration", .ref "_simple_statement", .ref "return_statement",
          .ref "go_statement", .ref "defer_statement", .ref "if_statement",
          .ref "for_statement", .ref "expression_switch_statement",
          .ref "type_switch_statement", .ref "select_statement", .ref "labeled_statement",
          .ref "fallthrough_statement", .ref "break_statement", .ref "continue_statement",
          .ref "goto_statement", .ref "block", .ref "empty_statement"]),
    ("empty_statement", text ";"),
    ("_simple_statement",
      .choice
        [.ref "expression_statement", .ref "send_statement", .ref "inc_statement",
          .ref "dec_statement", .ref "assignment_statement",
          .ref "short_var_declaration"]),
    ("expression_statement", .ref "_expression"),
    ("send_statement",
      .seq
        [.field "channel" (.ref "_expression"), "<-", .field "value" (.ref "_expression")]),
    ("receive_statement", .seq [opt assigned, .field "right" (.ref "_expression")]),
    ("inc_statement", .seq [.ref "_expression", "++"]),
    ("dec_statement", .seq [.ref "_expression", "--"]),
    ("assignment_statement",
      .seq
        [.field "left" (.ref "expression_list"),
          .field "operator"
            (.choice
              ["*=", "/=", "%=", "<<=", ">>=", "&=", "&^=", "+=", "-=", "|=", "^=", "="]),
          .field "right" (.ref "expression_list")]),
    ("short_var_declaration",
      .seq
        [.field "left" (.ref "expression_list"), ":=",
          .field "right" (.ref "expression_list")]),
    ("labeled_statement", .seq [.field "label" label, ":", .ref "_statement"]),
    ("empty_labeled_statement", .seq [.field "label" label, ":"]),
    ("fallthrough_statement", left "fallthrough"),
    ("break_statement", .seq ["break", opt label]),
    ("continue_statement", .seq ["continue", opt label]),
    ("goto_statement", .seq ["goto", label]),
    ("return_statement", .seq ["return", opt (.ref "expression_list")]),
    ("go_statement", .seq ["go", .ref "_expression"]),
    ("defer_statement", .seq ["defer", .ref "_expression"]),
    ("if_statement",
      .seq ["if", initializer, .field "condition" (.ref "_expression"),
        .field "consequence" (.ref "block"),
        optSeq ["else", .field "alternative" (.choice [.ref "block", .ref "if_statement"])]]),
    ("for_statement",
      .seq ["for", opt (.choice [.ref "_expression", .ref "for_clause", .ref "range_clause"]),
        .field "body" (.ref "block")]),
    ("for_clause",
      .seq
        [.field "initializer" (opt (.ref "_simple_statement")), ";", condition, ";",
          .field "update" (opt (.ref "_simple_statement"))]),
    ("range_clause", .seq [opt assigned, "range", .field "right" (.ref "_expression")]),
    ("expression_switch_statement",
      .seq ["switch", initializer, .field "value" (opt (.ref "_expression")), "\x7b",
        many (.choice [.ref "expression_case", .ref "default_case"]), "\x7d"]),
    ("expression_case",
      .seq ["case", .field "value" (.ref "expression_list"), ":", statements]),
    ("default_case", .seq ["default", ":", statements]),
    ("type_switch_statement",
      .seq ["switch", .ref "_type_switch_header", "\x7b",
        many (.choice [.ref "type_case", .ref "default_case"]), "\x7d"]),
    ("_type_switch_header",
      .seq
        [initializer, optSeq [.field "alias" (.ref "expression_list"), ":="],
          .field "value" (.ref "_expression"), ".", "(", "type", ")"]),
    ("type_case",
      .seq ["case", .field "type" (commaSep1 (.ref "_type")), ":", statements]),
    ("select_statement",
      .seq ["select", "\x7b",
        many (.choice [.ref "communication_case", .ref "default_case"]), "\x7d"]),
    ("communication_case",
      .seq ["case",
        .field "communication" (.choice [.ref "send_statement", .ref "receive_statement"]),
        ":", statements])]

/-- The rules for expressions. -/
private def expressionRules : List (String × Rule) :=
  let operand := Rule.field "operand" (.ref "_expression")
  let allocator := named "identifier" (.choice ["new", "make"])
  let argument := Rule.choice [.ref "_expression", .ref "variadic_argument"]
  let binary (precedence : Int) (operators : List Rule) : Rule :=
    leftAt precedence
      (.seq
        [.field "left" (.ref "_expression"), .field "operator" (.choice operators),
          .field "right" (.ref "_expression")])
  [("_expression",
      .choice
        [.ref "unary_expression", .ref "binary_expression", .ref "selector_expression",
          .ref "index_expression", .ref "slice_expression", .ref "call_expression",
          .ref "type_assertion_expression", .ref "type_conversion_expression",
          .ref "type_instantiation_expression", .ref "identifier", allocator,
          .ref "composite_literal", .ref "func_literal", .ref "_string_literal",
          .ref "int_literal", .ref "float_literal", .ref "imaginary_literal",
          .ref "rune_literal", .ref "nil", .ref "true", .ref "false", .ref "iota",
          .ref "parenthesized_expression"]),
    ("parenthesized_expression", .seq ["(", .ref "_expression", ")"]),
    ("call_expression",
      precAt 7
        (.choice
          [.seq
              [.field "function" allocator,
                .field "arguments" (named "argument_list" (.ref "special_argument_list"))],
            .seq
              [.field "function" (.ref "_expression"),
                .field "type_arguments" (opt (.ref "type_arguments")),
                .field "arguments" (.ref "argument_list")]])),
    ("variadic_argument", right (.seq [.ref "_expression", "..."])),
    ("special_argument_list",
      .seq ["(",
        optSeq [.ref "_type", many (.seq [",", .ref "_expression"]), opt ","], ")"]),
    ("argument_list", .seq ["(", optSeq [commaSep1 argument, opt ","], ")"]),
    ("selector_expression",
      precAt 7 (.seq [operand, ".", .field "field" (.ref "_field_identifier")])),
    ("index_expression",
      precAt 7 (.seq [operand, "[", .field "index" (.ref "_expression"), "]"])),
    ("slice_expression",
      precAt 7
        (.seq
          [operand, "[",
            .choice
              [.seq
                  [.field "start" (opt (.ref "_expression")), ":",
                    .field "end" (opt (.ref "_expression"))],
                .seq
                  [.field "start" (opt (.ref "_expression")), ":",
                    .field "end" (.ref "_expression"), ":",
                    .field "capacity" (.ref "_expression")]],
            "]"])),
    ("type_assertion_expression",
      precAt 7 (.seq [operand, ".", "(", .field "type" (.ref "_type"), ")"])),
    ("type_conversion_expression",
      .dynamic (-1)
        (.seq
          [.field "type" (.ref "_type"), "(", .field "operand" (.ref "_expression"), opt ",",
            ")"])),
    ("type_instantiation_expression",
      precAt 7
        (.seq
          [.field "type" (.ref "_type"), "[", commaSep1 (.ref "_type"), opt ",", "]"])),
    ("composite_literal",
      precAt (-1)
        (.seq
          [.field "type"
              (.choice
                [.ref "map_type", .ref "slice_type", .ref "array_type",
                  .ref "implicit_length_array_type", .ref "struct_type",
                  .ref "_type_identifier", .ref "generic_type", .ref "qualified_type"]),
            .field "body" (.ref "literal_value")])),
    ("literal_value",
      .seq ["\x7b",
        optSeq [commaSep (.choice [.ref "literal_element", .ref "keyed_element"]), opt ","],
        "\x7d"]),
    ("literal_element", .choice [.ref "_expression", .ref "literal_value"]),
    ("keyed_element", .seq [.ref "literal_element", ":", .ref "literal_element"]),
    ("func_literal",
      .seq ["func", parameters, result, .field "body" (.ref "block")]),
    ("unary_expression",
      precAt 6
        (.seq
          [.field "operator" (.choice ["+", "-", "!", "^", "*", "&", "<-"]), operand])),
    ("binary_expression",
      .choice
        [binary 5 ["*", "/", "%", "<<", ">>", "&", "&^"], binary 4 ["+", "-", "|", "^"],
          binary 3 ["==", "!=", "<", "<=", ">", ">="], binary 2 ["&&"], binary 1 ["||"]]),
    ("qualified_type",
      .seq
        [.field "package" (.ref "_package_identifier"), ".",
          .field "name" (.ref "_type_identifier")])]

/-- The rules for names and literals. -/
private def literalRules : List (String × Rule) :=
  [("identifier", pat identifier),
    ("_type_identifier", named "type_identifier" (.ref "identifier")),
    ("_field_identifier", named "field_identifier" (.ref "identifier")),
    ("_package_identifier", named "package_identifier" (.ref "identifier")),
    ("_string_literal",
      .choice [.ref "raw_string_literal", .ref "interpreted_string_literal"]),
    ("raw_string_literal", pat rawString),
    ("interpreted_string_literal",
      .seq ["\"",
        many (.choice
          [.ref "_interpreted_string_literal_basic_content", .ref "escape_sequence"]),
        immText "\""]),
    ("_interpreted_string_literal_basic_content", .token stringText),
    ("escape_sequence", imm escapeSequence),
    ("int_literal", pat integer),
    ("float_literal", pat float),
    ("imaginary_literal", pat imaginary),
    ("rune_literal", pat rune),
    ("nil", text "nil"),
    ("true", text "true"),
    ("false", text "false"),
    ("iota", text "iota"),
    ("comment", pat comment)]

/-- The grammar of Go. -/
def grammar : Grammar where
  rules :=
    declarationRules ++ typeRules ++ statementRules ++ expressionRules ++ literalRules
  separator := .set .blank
  extras := ["comment"]
  inlined :=
    ["_type", "_type_identifier", "_field_identifier", "_package_identifier",
      "_top_level_declaration", "_string_literal", "_interface_elem"]
  supertypes :=
    ["_expression", "_type", "_simple_type", "_statement", "_simple_statement"]
  word := some "identifier"

end CallAtlas.Languages.Go

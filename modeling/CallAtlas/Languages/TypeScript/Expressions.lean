import CallAtlas.Languages.TypeScript.Token

/-!
# The rules of TypeScript for expressions, classes, functions and literals
-/

namespace CallAtlas.Languages.TypeScript

open CallAtlas.Syntax Rule

/-- What stands before an expression in angle brackets is either a type that the expression is
asserted to have, or the two together are an element of markup. -/
inductive Dialect where
  | assertions
  | markup
deriving DecidableEq

/-- A name that is a property of something. -/
private def property : Rule := named "property_identifier" (.ref "identifier")

/-- An identifier, or a keyword that may be used as one. -/
private def anyIdentifier : Rule :=
  .choice [.ref "identifier", named "identifier" (.ref "_reserved_identifier")]

/-- An identifier or such a keyword, under another kind. -/
private def identifierAs (kind : String) : Rule :=
  named kind (.choice [.ref "identifier", .ref "_reserved_identifier"])

/-- The decorators before a declaration. -/
private def decorators : Rule := many (.field "decorator" (.ref "decorator"))

/-- The rules for expressions. -/
def expressionRules (dialect : Dialect) : List (String × Rule) :=
  [("parenthesized_expression",
      .seq ["(",
        .choice
          [.seq [.ref "expression", .field "type" (opt (.ref "type_annotation"))],
            .ref "sequence_expression"],
        ")"]),
    ("_expressions", .choice [.ref "expression", .ref "sequence_expression"]),
    ("expression",
      .choice
        ([.ref "as_expression", .ref "satisfies_expression", .ref "instantiation_expression",
            .ref "internal_module"]
          ++ (if dialect = .assertions then [.ref "type_assertion"] else [])
          ++ [.ref "primary_expression", .ref "glimmer_template"]
          ++ (if dialect = .markup then [.ref "_jsx_element"] else [])
          ++ [.ref "assignment_expression", .ref "augmented_assignment_expression",
            .ref "await_expression", .ref "unary_expression", .ref "binary_expression",
            .ref "ternary_expression", .ref "update_expression", .ref "new_expression",
            .ref "yield_expression"])),
    ("primary_expression",
      .choice
        [.ref "subscript_expression", .ref "member_expression", .ref "parenthesized_expression",
          .ref "_identifier", named "identifier" (.ref "_reserved_identifier"), .ref "this",
          .ref "super", .ref "number", .ref "string", .ref "template_string", .ref "regex",
          .ref "true", .ref "false", .ref "null", .ref "object", .ref "array",
          .ref "function_expression", .ref "arrow_function", .ref "generator_function",
          .ref "class", .ref "meta_property", .ref "call_expression",
          .ref "non_null_expression"]),
    ("yield_expression",
      right
        (.seq ["yield", .choice [.seq ["*", .ref "expression"], opt (.ref "expression")]])),
    ("object",
      precOf "object"
        (.seq ["\x7b",
          commaSep
            (opt (.choice
              [.ref "pair", .ref "spread_element", .ref "method_definition",
                identifierAs "shorthand_property_identifier"])),
          "\x7d"])),
    ("object_pattern",
      precOf "object"
        (.seq ["\x7b",
          commaSep
            (opt (.choice
              [.ref "pair_pattern", .ref "rest_pattern", .ref "object_assignment_pattern",
                identifierAs "shorthand_property_identifier_pattern"])),
          "\x7d"])),
    ("assignment_pattern",
      .seq [.field "left" (.ref "pattern"), "=", .field "right" (.ref "expression")]),
    ("object_assignment_pattern",
      .seq
        [.field "left"
            (.choice
              [named "shorthand_property_identifier_pattern"
                  (.choice [.ref "_reserved_identifier", .ref "identifier"]),
                .ref "_destructuring_pattern"]),
          "=", .field "right" (.ref "expression")]),
    ("array",
      .seq ["[", commaSep (opt (.choice [.ref "expression", .ref "spread_element"])), "]"]),
    ("array_pattern",
      .seq ["[", commaSep (opt (.choice [.ref "pattern", .ref "assignment_pattern"])), "]"])]

/-- The rules for templates of whole components. -/
def templateRules : List (String × Rule) :=
  [("glimmer_template",
      .seq
        [.field "open_tag" (.ref "glimmer_opening_tag"),
          .field "content" (many (.ref "_glimmer_template_content")),
          .field "close_tag" (.ref "glimmer_closing_tag")]),
    ("_glimmer_template_content", .token componentText),
    ("glimmer_opening_tag", text "<template>"),
    ("glimmer_closing_tag", text "</template>")]

/-- The rules for markup. -/
def markupRules : List (String × Rule) :=
  let quoted (quote : String) (body : String) : Rule :=
    .seq [quote, many (.choice [named "string_fragment" (.ref body),
      .ref "html_character_reference"]), quote]
  [("jsx_element",
      .seq
        [.field "open_tag" (.ref "jsx_opening_element"), many (.ref "_jsx_child"),
          .field "close_tag" (.ref "jsx_closing_element")]),
    ("jsx_text", .choice [.token markupText, .token slashedText]),
    ("html_character_reference", .token characterReference),
    ("jsx_expression",
      .seq ["\x7b",
        opt (.choice [.ref "expression", .ref "sequence_expression", .ref "spread_element"]),
        "\x7d"]),
    ("_jsx_child",
      .choice
        [.ref "jsx_text", .ref "html_character_reference", .ref "_jsx_element",
          .ref "jsx_expression"]),
    ("jsx_opening_element", .dynamic (-1) (.seq [.ref "_jsx_start_opening_element", ">"])),
    ("jsx_identifier", .token dashedIdentifier),
    ("_jsx_identifier",
      .choice [named "identifier" (.ref "jsx_identifier"), .ref "identifier"]),
    ("nested_identifier",
      precOf "member"
        (.seq
          [.field "object"
              (.choice
                [.ref "identifier", named "member_expression" (.ref "nested_identifier")]),
            ".", .field "property" property])),
    ("jsx_namespace_name", .seq [.ref "_jsx_identifier", ":", .ref "_jsx_identifier"]),
    ("_jsx_element_name",
      .choice
        [.ref "_jsx_identifier", named "member_expression" (.ref "nested_identifier"),
          .ref "jsx_namespace_name"]),
    ("jsx_closing_element",
      .seq ["</", opt (.field "name" (.ref "_jsx_element_name")), ">"]),
    ("jsx_self_closing_element",
      .dynamic (-1) (.seq [.ref "_jsx_start_opening_element", "/>"])),
    ("_jsx_attribute", .choice [.ref "jsx_attribute", .ref "jsx_expression"]),
    ("_jsx_attribute_name",
      .choice
        [named "property_identifier" (.ref "_jsx_identifier"), .ref "jsx_namespace_name"]),
    ("jsx_attribute",
      .seq [.ref "_jsx_attribute_name", optSeq ["=", .ref "_jsx_attribute_value"]]),
    ("_jsx_string",
      .choice
        [quoted "\"" "unescaped_double_jsx_string_fragment",
          quoted "'" "unescaped_single_jsx_string_fragment"]),
    ("unescaped_double_jsx_string_fragment", .token doubleAttributeText),
    ("unescaped_single_jsx_string_fragment", .token singleAttributeText),
    ("_jsx_element", .choice [.ref "jsx_element", .ref "jsx_self_closing_element"]),
    ("_jsx_attribute_value",
      .choice
        [named "string" (.ref "_jsx_string"), .ref "jsx_expression", .ref "_jsx_element"])]

/-- The rules for classes and functions as declarations and as values. -/
def functionRules : List (String × Rule) :=
  let signature (name : Rule) (star : List Rule) : List Rule :=
    [opt "async", "function"] ++ star
      ++ [.field "name" name, .ref "_call_signature", .field "body" (.ref "statement_block")]
  let classOf (name : Rule) : List Rule :=
    [decorators, "class", .field "name" name,
      .field "type_parameters" (opt (.ref "type_parameters")), opt (.ref "class_heritage"),
      .field "body" (.ref "class_body")]
  [("class", precOf "literal" (.seq (classOf (opt (.ref "_type_identifier"))))),
    ("class_declaration",
      leftOf "declare"
        (.seq (classOf (.ref "_type_identifier") ++ [opt (.ref "_automatic_semicolon")]))),
    ("class_heritage",
      .choice
        [.seq [.ref "extends_clause", opt (.ref "implements_clause")],
          .ref "implements_clause"]),
    ("function_expression", precOf "literal" (.seq (signature (opt (.ref "identifier")) []))),
    ("function_declaration",
      rightOf "declare"
        (.seq (signature (.ref "identifier") [] ++ [opt (.ref "_automatic_semicolon")]))),
    ("generator_function",
      precOf "literal" (.seq (signature (opt (.ref "identifier")) ["*"]))),
    ("generator_function_declaration",
      rightOf "declare"
        (.seq (signature (.ref "identifier") ["*"] ++ [opt (.ref "_automatic_semicolon")]))),
    ("arrow_function",
      .seq
        [opt "async",
          .choice
            [.field "parameter"
                (.choice
                  [named "identifier" (.ref "_reserved_identifier"), .ref "identifier"]),
              .ref "_call_signature"],
          "=>", .field "body" (.choice [.ref "expression", .ref "statement_block"])]),
    ("_call_signature",
      .seq
        [.field "type_parameters" (opt (.ref "type_parameters")),
          .field "parameters" (.ref "formal_parameters"),
          .field "return_type"
            (opt (.choice
              [.ref "type_annotation", .ref "asserts_annotation",
                .ref "type_predicate_annotation"]))]),
    ("_formal_parameter", .choice [.ref "required_parameter", .ref "optional_parameter"])]

/-- Binary operators with the names of their precedences, but for the two special ones. -/
private def binaryOperators : List (String × String) :=
  [("&&", "logical_and"), ("||", "logical_or"), (">>", "binary_shift"),
    (">>>", "binary_shift"), ("<<", "binary_shift"), ("&", "bitwise_and"),
    ("^", "bitwise_xor"), ("|", "bitwise_or"), ("+", "binary_plus"), ("-", "binary_plus"),
    ("*", "binary_times"), ("/", "binary_times"), ("%", "binary_times"),
    ("**", "binary_exp"), ("<", "binary_relation"), ("<=", "binary_relation"),
    ("==", "binary_equality"), ("===", "binary_equality"), ("!=", "binary_equality"),
    ("!==", "binary_equality"), (">=", "binary_relation"), (">", "binary_relation"),
    ("??", "ternary"), ("instanceof", "binary_relation"), ("in", "binary_relation")]

/-- A binary operator; powers are read from the right. -/
private def binary (operator precedence : String) : Rule :=
  let first :=
    if operator == "in" then
      .choice [.ref "expression", .ref "private_property_identifier"]
    else .ref "expression"
  .prec (some (if operator == "**" then .right else .left)) (.named precedence)
    (.seq
      [.field "left" first, .field "operator" operator, .field "right" (.ref "expression")])

/-- The rules for operations. -/
def operationRules : List (String × Rule) :=
  let types := Rule.field "type_arguments" (opt (.ref "type_arguments"))
  let member := Rule.choice [.ref "private_property_identifier", property]
  let update := Rule.field "operator" (.choice ["++", "--"])
  let argument := Rule.field "argument" (.ref "expression")
  [("optional_chain", text "?."),
    ("call_expression",
      .choice
        [precOf "call"
            (.seq
              [.field "function" (.choice [.ref "expression", .ref "import"]), types,
                .field "arguments" (.choice [.ref "arguments", .ref "template_string"])]),
          precOf "member"
            (.seq
              [.field "function" (.ref "primary_expression"), "?.", types,
                .field "arguments" (.ref "arguments")])]),
    ("new_expression",
      rightOf "new"
        (.seq ["new", .field "constructor" (.ref "primary_expression"), types,
          .field "arguments" (opt (.ref "arguments"))])),
    ("await_expression", precOf "unary_void" (.seq ["await", .ref "expression"])),
    ("member_expression",
      precOf "member"
        (.seq
          [.field "object"
              (.choice [.ref "expression", .ref "primary_expression", .ref "import"]),
            .choice [".", .field "optional_chain" (.ref "optional_chain")],
            .field "property" member])),
    ("subscript_expression",
      rightOf "member"
        (.seq
          [.field "object" (.choice [.ref "expression", .ref "primary_expression"]),
            opt (.field "optional_chain" (.ref "optional_chain")), "[",
            .field "index" (.ref "_expressions"), "]"])),
    ("_lhs_expression",
      .choice
        [.ref "member_expression", .ref "subscript_expression", .ref "_identifier",
          named "identifier" (.ref "_reserved_identifier"), .ref "_destructuring_pattern",
          .ref "non_null_expression"]),
    ("assignment_expression",
      rightOf "assign"
        (.seq
          [opt "using",
            .field "left"
              (.choice [.ref "parenthesized_expression", .ref "_lhs_expression"]),
            "=", .field "right" (.ref "expression")])),
    ("_augmented_assignment_lhs",
      .choice
        [.ref "member_expression", .ref "subscript_expression",
          named "identifier" (.ref "_reserved_identifier"), .ref "identifier",
          .ref "parenthesized_expression", .ref "non_null_expression"]),
    ("augmented_assignment_expression",
      rightOf "assign"
        (.seq
          [.field "left" (.ref "_augmented_assignment_lhs"),
            .field "operator"
              (.choice
                ["+=", "-=", "*=", "/=", "%=", "^=", "&=", "|=", ">>=", ">>>=", "<<=", "**=",
                  "&&=", "||=", "??="]),
            .field "right" (.ref "expression")])),
    ("_initializer", .seq ["=", .field "value" (.ref "expression")]),
    ("_destructuring_pattern", .choice [.ref "object_pattern", .ref "array_pattern"]),
    ("spread_element", .seq ["...", .ref "expression"]),
    ("ternary_expression",
      rightOf "ternary"
        (.seq
          [.field "condition" (.ref "expression"), anonymous "?" (.ref "_ternary_qmark"),
            .field "consequence" (.ref "expression"), ":",
            .field "alternative" (.ref "expression")])),
    ("binary_expression",
      .choice (binaryOperators.map fun (operator, precedence) => binary operator precedence)),
    ("unary_expression",
      leftOf "unary_void"
        (.seq
          [.field "operator" (.choice ["!", "~", "-", "+", "typeof", "void", "delete"]),
            argument])),
    ("update_expression", left (.choice [.seq [argument, update], .seq [update, argument]])),
    ("sequence_expression", right (commaSep1 (.ref "expression")))]

/-- The rules for literals. -/
def literalRules : List (String × Rule) :=
  let quoted (quote : String) (body : String) : Rule :=
    .seq [quote,
      many (.choice [named "string_fragment" (.ref body), .ref "escape_sequence"]), quote]
  [("string",
      .choice
        [quoted "\"" "unescaped_double_string_fragment",
          quoted "'" "unescaped_single_string_fragment"]),
    ("unescaped_double_string_fragment", .token doubleText),
    ("unescaped_single_string_fragment", .token singleText),
    ("escape_sequence", imm escapeSequence),
    ("comment", pat comment),
    ("template_string",
      .seq ["`",
        many (.choice
          [named "string_fragment" (.ref "_template_chars"), .ref "escape_sequence",
            .ref "template_substitution"]),
        "`"]),
    ("template_substitution", .seq ["$\x7b", .ref "_expressions", "\x7d"]),
    ("regex",
      .seq ["/", .field "pattern" (.ref "regex_pattern"), immTextAt 1 "/",
        opt (.field "flags" (.ref "regex_flags"))]),
    ("regex_pattern", .token regexText),
    ("regex_flags", .token regexFlags),
    ("number", pat number),
    ("_identifier", .choice [.ref "undefined", .ref "identifier"]),
    ("identifier", pat identifier),
    ("private_property_identifier", pat privateIdentifier),
    ("meta_property", .seq ["new", ".", "target"]),
    ("this", text "this"),
    ("super", text "super"),
    ("true", text "true"),
    ("false", text "false"),
    ("null", text "null"),
    ("undefined", text "undefined")]

/-- What may stand before the name of a method. -/
private def methodModifiers : List Rule :=
  [opt (.ref "accessibility_modifier"), opt "static", opt (.ref "override_modifier"),
    opt "readonly", opt "async", opt (.choice ["get", "set", "*"])]

/-- A method's name and signature. -/
private def methodSignature : List Rule :=
  [.field "name" (.ref "_property_name"), opt "?", .ref "_call_signature"]

/-- The rules for the parts of calls, classes, patterns and objects. -/
def memberRules : List (String × Rule) :=
  let decoratorMember := named "member_expression" (.ref "decorator_member_expression")
  let decoratorCall := named "call_expression" (.ref "decorator_call_expression")
  let arguments := Rule.field "arguments" (.ref "arguments")
  [("arguments",
      .seq ["(", commaSep (opt (.choice [.ref "expression", .ref "spread_element"])), ")"]),
    ("decorator",
      .seq ["@",
        .choice
          [.ref "identifier", decoratorMember, decoratorCall]]),
    ("decorator_member_expression",
      precOf "member"
        (.seq
          [.field "object" (.choice [.ref "identifier", decoratorMember]), ".",
            .field "property" property])),
    ("decorator_call_expression",
      precOf "call"
        (.seq
          [.field "function" (.choice [.ref "identifier", decoratorMember]),
            opt (.field "type_arguments" (.ref "type_arguments")), arguments])),
    ("class_body",
      .seq ["\x7b",
        many (.choice
          [.seq [decorators, .ref "method_definition", opt (.ref "_semicolon")],
            .seq [.ref "method_signature",
              .choice [.ref "_function_signature_automatic_semicolon", ","]],
            .ref "class_static_block",
            .seq
              [.choice
                  [.ref "abstract_method_signature", .ref "index_signature",
                    .ref "method_signature", .ref "public_field_definition"],
                .choice [.ref "_semicolon", ","]],
            ";"]),
        "\x7d"]),
    ("formal_parameters",
      .seq ["(", optSeq [commaSep1 (.ref "_formal_parameter"), opt ","], ")"]),
    ("class_static_block",
      .seq ["static", opt (.ref "_automatic_semicolon"),
        .field "body" (.ref "statement_block")]),
    ("pattern", .dynamic (-1) (.choice [.ref "_lhs_expression", .ref "rest_pattern"])),
    ("rest_pattern", right (.seq ["...", .ref "_lhs_expression"])),
    ("method_definition",
      left
        (.seq
          (methodModifiers ++ methodSignature ++ [.field "body" (.ref "statement_block")]))),
    ("pair",
      .seq [.field "key" (.ref "_property_name"), ":", .field "value" (.ref "expression")]),
    ("pair_pattern",
      .seq
        [.field "key" (.ref "_property_name"), ":",
          .field "value" (.choice [.ref "pattern", .ref "assignment_pattern"])]),
    ("_property_name",
      .choice
        [identifierAs "property_identifier", .ref "private_property_identifier",
          .ref "string", .ref "number", .ref "computed_property_name"]),
    ("computed_property_name", .seq ["[", .ref "expression", "]"]),
    ("_reserved_identifier",
      .choice
        ["declare", "namespace", "type", "public", "private", "protected", "override",
          "readonly", "module", "any", "number", "boolean", "string", "symbol", "export",
          "object", "new", "readonly", "get", "set", "async", "static", "export", "let"]),
    ("_semicolon", .choice [.ref "_automatic_semicolon", ";"]),
    ("public_field_definition",
      .seq
        [decorators,
          opt (.choice
            [.seq ["declare", opt (.ref "accessibility_modifier")],
              .seq [.ref "accessibility_modifier", opt "declare"]]),
          .choice
            [.seq [opt "static", opt (.ref "override_modifier"), opt "readonly"],
              .seq [opt "abstract", opt "readonly"], .seq [opt "readonly", opt "abstract"]],
          opt "accessor",
          .field "name" (.ref "_property_name"), opt (.choice ["?", "!"]),
          .field "type" (opt (.ref "type_annotation")), opt (.ref "_initializer")]),
    ("_jsx_start_opening_element",
      .seq ["<",
        optSeq
          [.choice
              [.field "name" (.choice [.ref "_jsx_identifier", .ref "jsx_namespace_name"]),
                .seq
                  [.field "name"
                      (.choice
                        [.ref "identifier",
                          named "member_expression" (.ref "nested_identifier")]),
                    .field "type_arguments" (opt (.ref "type_arguments"))]],
            many (.field "attribute" (.ref "_jsx_attribute"))]]),
    ("_import_identifier", .choice [.ref "identifier", named "identifier" "type"]),
    ("non_null_expression", leftOf "unary" (.seq [.ref "expression", "!"])),
    ("method_signature", .seq (methodModifiers ++ methodSignature)),
    ("abstract_method_signature",
      .seq
        ([opt (.ref "accessibility_modifier"), "abstract", opt (.ref "override_modifier"),
            opt (.choice ["get", "set", "*"])]
          ++ methodSignature)),
    ("function_signature",
      .seq [opt "async", "function", .field "name" (.ref "identifier"), .ref "_call_signature",
        .choice [.ref "_semicolon", .ref "_function_signature_automatic_semicolon"]]),
    ("type_assertion", leftOf "unary" (.seq [.ref "type_arguments", .ref "expression"])),
    ("as_expression",
      leftOf "binary" (.seq [.ref "expression", "as", .choice ["const", .ref "type"]])),
    ("satisfies_expression",
      leftOf "binary" (.seq [.ref "expression", "satisfies", .ref "type"])),
    ("instantiation_expression",
      precOf "instantiation"
        (.seq
          [.ref "expression", .field "type_arguments" (.ref "type_arguments")]))]

/-- Identifiers and keywords used as identifiers, for the rules of types. -/
def looseIdentifier : Rule := anyIdentifier

end CallAtlas.Languages.TypeScript

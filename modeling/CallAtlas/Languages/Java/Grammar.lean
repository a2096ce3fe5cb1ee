import CallAtlas.Languages.Java.Token

/-!
# The grammar of Java
-/

namespace CallAtlas.Languages.Java

open CallAtlas.Syntax Rule

/-- An identifier, or a keyword that may be used as one. -/
private def anyIdentifier : Rule := .choice [.ref "identifier", .ref "_reserved_identifier"]

/-- An identifier that names a type. -/
private def typeIdentifier : Rule := named "type_identifier" (.ref "identifier")

/-- Annotations. -/
private def annotations : Rule := many (.ref "_annotation")

/-- Type arguments, if there are any. -/
private def typeArguments : Rule := .field "type_arguments" (opt (.ref "type_arguments"))

/-- Binary operators with their precedences. -/
private def binaryOperators : List (String × Int) :=
  [(">", 10), ("<", 10), (">=", 10), ("<=", 10), ("==", 9), ("!=", 9), ("&&", 5), ("||", 4),
    ("+", 12), ("-", 12), ("*", 13), ("/", 13), ("&", 8), ("|", 6), ("^", 7), ("%", 13),
    ("<<", 11), (">>", 11), (">>>", 11)]

/-- The rules for literals. -/
private def literalRules : List (String × Rule) :=
  let block (content : List Rule) : Rule := .seq ["\"\"\"", many (.choice content), "\"\"\""]
  [("program", many (.ref "_toplevel_statement")),
    ("_toplevel_statement", .choice [.ref "statement", .ref "method_declaration"]),
    ("_literal",
      .choice
        [.ref "decimal_integer_literal", .ref "hex_integer_literal",
          .ref "octal_integer_literal", .ref "binary_integer_literal",
          .ref "decimal_floating_point_literal", .ref "hex_floating_point_literal",
          .ref "true", .ref "false", .ref "character_literal", .ref "string_literal",
          .ref "null_literal"]),
    ("decimal_integer_literal", pat decimalInteger),
    ("hex_integer_literal", pat hexInteger),
    ("octal_integer_literal", pat octalInteger),
    ("binary_integer_literal", pat binaryInteger),
    ("decimal_floating_point_literal", pat decimalFloat),
    ("hex_floating_point_literal", pat hexFloat),
    ("true", text "true"),
    ("false", text "false"),
    ("character_literal", pat character),
    ("string_literal", .choice [.ref "_string_literal", .ref "_multiline_string_literal"]),
    ("_string_literal",
      .seq ["\"",
        many (.choice
          [.ref "string_fragment", .ref "escape_sequence", .ref "string_interpolation"]),
        "\""]),
    ("_multiline_string_literal",
      block
        [named "multiline_string_fragment" (.ref "_multiline_string_fragment"),
          .ref "_escape_sequence", .ref "string_interpolation"]),
    ("string_fragment", .token stringText),
    ("_multiline_string_fragment", .choice [.token blockText, .token quotedBlockText]),
    ("string_interpolation", .seq ["\\\x7b", .ref "expression", "\x7d"]),
    ("_escape_sequence",
      .choice [precAt 2 (imm plainEscape), precAt 1 (.ref "escape_sequence")]),
    ("escape_sequence", imm escapeSequence),
    ("null_literal", text "null")]

/-- The rules for expressions. -/
private def expressionRules : List (String × Rule) :=
  let unary (operator : String) : Rule :=
    leftAt 15 (.seq [.field "operator" operator, .field "operand" (.ref "expression")])
  let casted (type value : Rule) : Rule := .seq ["(", type, ")", .field "value" value]
  [("expression",
      .choice
        [.ref "assignment_expression", .ref "binary_expression",
          .ref "instanceof_expression", .ref "lambda_expression", .ref "ternary_expression",
          .ref "update_expression", .ref "primary_expression", .ref "unary_expression",
          .ref "cast_expression", .ref "switch_expression"]),
    ("cast_expression",
      precAt 14
        (.choice
          [casted (.field "type" (.ref "_type")) (.ref "expression"),
            casted (sepBy1 "&" (.field "type" (.ref "_type")))
              (.choice [.ref "primary_expression", .ref "lambda_expression"])])),
    ("assignment_expression",
      rightAt 1
        (.seq
          [.field "left"
              (.choice
                [.ref "identifier", .ref "_reserved_identifier", .ref "field_access",
                  .ref "array_access"]),
            .field "operator"
              (.choice
                ["=", "+=", "-=", "*=", "/=", "&=", "|=", "^=", "%=", "<<=", ">>=", ">>>="]),
            .field "right" (.ref "expression")])),
    ("binary_expression",
      .choice
        (binaryOperators.map fun (operator, precedence) =>
          leftAt precedence
            (.seq
              [.field "left" (.ref "expression"), .field "operator" operator,
                .field "right" (.ref "expression")]))),
    ("instanceof_expression",
      precAt 10
        (.seq
          [.field "left" (.ref "expression"), "instanceof", opt "final",
            .choice
              [.seq
                  [.field "right" (.ref "_type"), opt (.field "name" anyIdentifier)],
                .field "pattern" (.ref "record_pattern")]])),
    ("lambda_expression",
      .seq
        [.field "parameters"
            (.choice
              [.ref "identifier", .ref "formal_parameters", .ref "inferred_parameters",
                .ref "_reserved_identifier"]),
          "->", .field "body" (.choice [.ref "expression", .ref "block"])]),
    ("inferred_parameters", .seq ["(", commaSep1 anyIdentifier, ")"]),
    ("ternary_expression",
      rightAt 3
        (.seq
          [.field "condition" (.ref "expression"), "?",
            .field "consequence" (.ref "expression"), ":",
            .field "alternative" (.ref "expression")])),
    ("unary_expression", .choice [unary "+", unary "-", unary "!", unary "~"]),
    ("update_expression",
      leftAt 15
        (.choice
          [.seq [.ref "expression", "++"], .seq [.ref "expression", "--"],
            .seq ["++", .ref "expression"], .seq ["--", .ref "expression"]])),
    ("primary_expression",
      .choice
        [.ref "_literal", .ref "class_literal", .ref "this", .ref "identifier",
          .ref "_reserved_identifier", .ref "parenthesized_expression",
          .ref "object_creation_expression", .ref "field_access", .ref "array_access",
          .ref "method_invocation", .ref "method_reference",
          .ref "array_creation_expression", .ref "template_expression"]),
    ("array_creation_expression",
      right
        (.seq ["new", annotations, .field "type" (.ref "_simple_type"),
          .choice
            [.seq
                [.field "dimensions" (.repeat1 (.ref "dimensions_expr")),
                  .field "dimensions" (opt (.ref "dimensions"))],
              .seq
                [.field "dimensions" (.ref "dimensions"),
                  .field "value" (.ref "array_initializer")]]])),
    ("dimensions_expr", .seq [annotations, "[", .ref "expression", "]"]),
    ("parenthesized_expression", .seq ["(", .ref "expression", ")"]),
    ("class_literal", .dynamic 17 (.seq [.ref "_unannotated_type", ".", "class"])),
    ("object_creation_expression",
      .choice
        [.ref "_unqualified_object_creation_expression",
          .seq
            [.ref "primary_expression", ".",
              .ref "_unqualified_object_creation_expression"]]),
    ("_unqualified_object_creation_expression",
      right
        (.seq ["new",
          .choice
            [.seq
                [annotations, .field "type_arguments" (.ref "type_arguments"), annotations],
              annotations],
          .field "type" (.ref "_simple_type"), .field "arguments" (.ref "argument_list"),
          opt (.ref "class_body")])),
    ("field_access",
      .seq
        [.field "object" (.choice [.ref "primary_expression", .ref "super"]),
          optSeq [".", .ref "super"], ".",
          .field "field"
            (.choice [.ref "identifier", .ref "_reserved_identifier", .ref "this"])]),
    ("template_expression",
      .seq
        [.field "template_processor" (.ref "primary_expression"), ".",
          .field "template_argument" (.ref "string_literal")]),
    ("array_access",
      .seq
        [.field "array" (.ref "primary_expression"), "[",
          .field "index" (.ref "expression"), "]"]),
    ("method_invocation",
      .seq
        [.choice
            [.field "name" anyIdentifier,
              .seq
                [.field "object" (.choice [.ref "primary_expression", .ref "super"]), ".",
                  optSeq [.ref "super", "."], typeArguments, .field "name" anyIdentifier]],
          .field "arguments" (.ref "argument_list")]),
    ("argument_list", .seq ["(", commaSep (.ref "expression"), ")"]),
    ("method_reference",
      .seq
        [.choice [.ref "_type", .ref "primary_expression", .ref "super"], "::",
          opt (.ref "type_arguments"), .choice ["new", .ref "identifier"]]),
    ("type_arguments",
      .seq ["<", commaSep (.choice [.ref "_type", .ref "wildcard"]), ">"]),
    ("wildcard", .seq [annotations, "?", opt (.ref "_wildcard_bounds")]),
    ("_wildcard_bounds",
      .choice [.seq ["extends", .ref "_type"], .seq [.ref "super", .ref "_type"]]),
    ("dimensions", right (.repeat1 (.seq [annotations, "[", "]"])))]

/-- The rules for switches. -/
private def switchRules : List (String × Rule) :=
  [("switch_expression",
      .seq ["switch", .field "condition" (.ref "parenthesized_expression"),
        .field "body" (.ref "switch_block")]),
    ("switch_block",
      .seq ["\x7b",
        .choice [many (.ref "switch_block_statement_group"), many (.ref "switch_rule")],
        "\x7d"]),
    ("switch_block_statement_group",
      left (.seq [.repeat1 (.seq [.ref "switch_label", ":"]), many (.ref "statement")])),
    ("switch_rule",
      .seq
        [.ref "switch_label", "->",
          .choice [.ref "expression_statement", .ref "throw_statement", .ref "block"]]),
    ("switch_label",
      .choice
        [.seq ["case", .choice [.ref "pattern", commaSep1 (.ref "expression")],
            opt (.ref "guard")],
          "default"]),
    ("pattern", .choice [.ref "type_pattern", .ref "record_pattern"]),
    ("type_pattern", .seq [.ref "_unannotated_type", anyIdentifier]),
    ("record_pattern",
      .seq
        [.choice [.ref "identifier", .ref "_reserved_identifier", .ref "generic_type"],
          .ref "record_pattern_body"]),
    ("record_pattern_body",
      .seq ["(",
        commaSep (.choice [.ref "record_pattern_component", .ref "record_pattern"]), ")"]),
    ("record_pattern_component",
      .choice [.ref "underscore_pattern", .seq [.ref "_unannotated_type", anyIdentifier]]),
    ("underscore_pattern", text "_"),
    ("guard", .seq ["when", .ref "expression"])]

/-- The rules for statements. -/
private def statementRules : List (String × Rule) :=
  let condition := Rule.field "condition" (.ref "parenthesized_expression")
  let body := Rule.field "body" (.ref "statement")
  let block := Rule.field "body" (.ref "block")
  [("statement",
      .choice
        [.ref "declaration", .ref "expression_statement", .ref "labeled_statement",
          .ref "if_statement", .ref "while_statement", .ref "for_statement",
          .ref "enhanced_for_statement", .ref "block", ";", .ref "assert_statement",
          .ref "do_statement", .ref "break_statement", .ref "continue_statement",
          .ref "return_statement", .ref "yield_statement", .ref "switch_expression",
          .ref "synchronized_statement", .ref "local_variable_declaration",
          .ref "throw_statement", .ref "try_statement",
          .ref "try_with_resources_statement"]),
    ("block", .seq ["\x7b", many (.ref "statement"), "\x7d"]),
    ("expression_statement", .seq [.ref "expression", ";"]),
    ("labeled_statement", .seq [.ref "identifier", ":", .ref "statement"]),
    ("assert_statement",
      .choice
        [.seq ["assert", .ref "expression", ";"],
          .seq ["assert", .ref "expression", ":", .ref "expression", ";"]]),
    ("do_statement", .seq ["do", body, "while", condition, ";"]),
    ("break_statement", .seq ["break", opt (.ref "identifier"), ";"]),
    ("continue_statement", .seq ["continue", opt (.ref "identifier"), ";"]),
    ("return_statement", .seq ["return", opt (.ref "expression"), ";"]),
    ("yield_statement", .seq ["yield", .ref "expression", ";"]),
    ("synchronized_statement",
      .seq ["synchronized", .ref "parenthesized_expression", block]),
    ("throw_statement", .seq ["throw", .ref "expression", ";"]),
    ("try_statement",
      .seq ["try", block,
        .choice
          [.repeat1 (.ref "catch_clause"),
            .seq [many (.ref "catch_clause"), .ref "finally_clause"]]]),
    ("catch_clause", .seq ["catch", "(", .ref "catch_formal_parameter", ")", block]),
    ("catch_formal_parameter",
      .seq [opt (.ref "modifiers"), .ref "catch_type", .ref "_variable_declarator_id"]),
    ("catch_type", sepBy1 "|" (.ref "_unannotated_type")),
    ("finally_clause", .seq ["finally", .ref "block"]),
    ("try_with_resources_statement",
      .seq ["try", .field "resources" (.ref "resource_specification"), block,
        many (.ref "catch_clause"), opt (.ref "finally_clause")]),
    ("resource_specification",
      .seq ["(", sepBy1 ";" (.ref "resource"), opt ";", ")"]),
    ("resource",
      .choice
        [.seq
            [opt (.ref "modifiers"), .field "type" (.ref "_unannotated_type"),
              .ref "_variable_declarator_id", "=", .field "value" (.ref "expression")],
          .ref "identifier", .ref "field_access"]),
    ("if_statement",
      right
        (.seq ["if", condition, .field "consequence" (.ref "statement"),
          optSeq ["else", .field "alternative" (.ref "statement")]])),
    ("while_statement", .seq ["while", condition, body]),
    ("for_statement",
      .seq ["for", "(",
        .choice
          [.field "init" (.ref "local_variable_declaration"),
            .seq [commaSep (.field "init" (.ref "expression")), ";"]],
        .field "condition" (opt (.ref "expression")), ";",
        commaSep (.field "update" (.ref "expression")), ")", body]),
    ("enhanced_for_statement",
      .seq ["for", "(", opt (.ref "modifiers"), .field "type" (.ref "_unannotated_type"),
        .ref "_variable_declarator_id", ":", .field "value" (.ref "expression"), ")",
        body])]

/-- The rules for annotations. -/
private def annotationRules : List (String × Rule) :=
  [("_annotation", .choice [.ref "marker_annotation", .ref "annotation"]),
    ("marker_annotation", .seq ["@", .field "name" (.ref "_name")]),
    ("annotation",
      .seq ["@", .field "name" (.ref "_name"),
        .field "arguments" (.ref "annotation_argument_list")]),
    ("annotation_argument_list",
      .seq ["(", .choice [.ref "_element_value", commaSep (.ref "element_value_pair")],
        ")"]),
    ("element_value_pair",
      .seq [.field "key" (.ref "identifier"), "=", .field "value" (.ref "_element_value")]),
    ("_element_value",
      precAt 2
        (.choice
          [.ref "expression", .ref "element_value_array_initializer", .ref "_annotation"])),
    ("element_value_array_initializer",
      .seq ["\x7b", commaSep (.ref "_element_value"), opt ",", "\x7d"])]

/-- The rules for declarations of modules, packages and imports. -/
private def moduleRules : List (String × Rule) :=
  let names (field : String) : Rule :=
    .seq [.field field (.ref "_name"), many (.seq [",", .field field (.ref "_name")])]
  let packageTo (keyword : String) : Rule :=
    .seq [keyword, .field "package" (.ref "_name"), optSeq ["to", names "modules"], ";"]
  [("declaration",
      precAt 2
        (.choice
          [.ref "module_declaration", .ref "package_declaration", .ref "import_declaration",
            .ref "class_declaration", .ref "record_declaration",
            .ref "interface_declaration", .ref "annotation_type_declaration",
            .ref "enum_declaration"])),
    ("module_declaration",
      .seq [annotations, opt "open", "module", .field "name" (.ref "_name"),
        .field "body" (.ref "module_body")]),
    ("module_body", .seq ["\x7b", many (.ref "module_directive"), "\x7d"]),
    ("module_directive",
      .choice
        [.ref "requires_module_directive", .ref "exports_module_directive",
          .ref "opens_module_directive", .ref "uses_module_directive",
          .ref "provides_module_directive"]),
    ("requires_module_directive",
      .seq ["requires", many (.field "modifiers" (.ref "requires_modifier")),
        .field "module" (.ref "_name"), ";"]),
    ("requires_modifier", .choice ["transitive", "static"]),
    ("exports_module_directive", packageTo "exports"),
    ("opens_module_directive", packageTo "opens"),
    ("uses_module_directive", .seq ["uses", .field "type" (.ref "_name"), ";"]),
    ("provides_module_directive",
      .seq ["provides", .field "provided" (.ref "_name"), "with", .ref "_name",
        many (.seq [",", .field "provider" (.ref "_name")]), ";"]),
    ("package_declaration", .seq [annotations, "package", .ref "_name", ";"]),
    ("import_declaration",
      .seq ["import", opt "static", .ref "_name", optSeq [".", .ref "asterisk"], ";"]),
    ("asterisk", text "*")]

/-- The rules for declarations of types. -/
private def declarationRules : List (String × Rule) :=
  let modifiers := opt (.ref "modifiers")
  let declared (keyword : String) : List Rule :=
    [modifiers, keyword, .field "name" (.ref "identifier")]
  let typeParameters := opt (.field "type_parameters" (.ref "type_parameters"))
  let interfaces := opt (.field "interfaces" (.ref "super_interfaces"))
  let permits := opt (.field "permits" (.ref "permits"))
  [("enum_declaration",
      .seq
        (declared "enum"
          ++ [.field "interfaces" (opt (.ref "super_interfaces")),
            .field "body" (.ref "enum_body")])),
    ("enum_body",
      .seq ["\x7b", commaSep (.ref "enum_constant"), opt ",",
        opt (.ref "enum_body_declarations"), "\x7d"]),
    ("enum_body_declarations", .seq [";", many (.ref "_class_body_declaration")]),
    ("enum_constant",
      .seq [modifiers, .field "name" (.ref "identifier"),
        .field "arguments" (opt (.ref "argument_list")),
        .field "body" (opt (.ref "class_body"))]),
    ("class_declaration",
      .seq
        (declared "class"
          ++ [typeParameters, opt (.field "superclass" (.ref "superclass")), interfaces,
            permits, .field "body" (.ref "class_body")])),
    ("modifiers",
      .repeat1
        (.choice
          [.ref "_annotation", "public", "protected", "private", "abstract", "static",
            "final", "strictfp", "default", "synchronized", "native", "transient",
            "volatile", "sealed", "non-sealed"])),
    ("type_parameters", .seq ["<", commaSep1 (.ref "type_parameter"), ">"]),
    ("type_parameter", .seq [annotations, typeIdentifier, opt (.ref "type_bound")]),
    ("type_bound", .seq ["extends", sepBy1 "&" (.ref "_type")]),
    ("superclass", .seq ["extends", .ref "_type"]),
    ("super_interfaces", .seq ["implements", .ref "type_list"]),
    ("type_list", commaSep1 (.ref "_type")),
    ("permits", .seq ["permits", .ref "type_list"]),
    ("class_body", .seq ["\x7b", many (.ref "_class_body_declaration"), "\x7d"]),
    ("_class_body_declaration",
      .choice
        [.ref "field_declaration", .ref "record_declaration", .ref "method_declaration",
          .ref "compact_constructor_declaration", .ref "class_declaration",
          .ref "interface_declaration", .ref "annotation_type_declaration",
          .ref "enum_declaration", .ref "block", .ref "static_initializer",
          .ref "constructor_declaration", ";"]),
    ("static_initializer", .seq ["static", .ref "block"]),
    ("constructor_declaration",
      .seq [modifiers, .ref "_constructor_declarator", opt (.ref "throws"),
        .field "body" (.ref "constructor_body")]),
    ("_constructor_declarator",
      .seq
        [.field "type_parameters" (opt (.ref "type_parameters")),
          .field "name" (.ref "identifier"),
          .field "parameters" (.ref "formal_parameters")]),
    ("constructor_body",
      .seq ["\x7b", opt (.ref "explicit_constructor_invocation"), many (.ref "statement"),
        "\x7d"]),
    ("explicit_constructor_invocation",
      .seq
        [.choice
            [.seq
                [typeArguments, .field "constructor" (.choice [.ref "this", .ref "super"])],
              .seq
                [.field "object" (.ref "primary_expression"), ".", typeArguments,
                  .field "constructor" (.ref "super")]],
          .field "arguments" (.ref "argument_list"), ";"]),
    ("_name",
      .choice [.ref "identifier", .ref "_reserved_identifier", .ref "scoped_identifier"]),
    ("scoped_identifier",
      .seq [.field "scope" (.ref "_name"), ".", .field "name" (.ref "identifier")]),
    ("field_declaration",
      .seq [modifiers, .field "type" (.ref "_unannotated_type"),
        .ref "_variable_declarator_list", ";"]),
    ("record_declaration",
      .seq
        (declared "record"
          ++ [typeParameters, .field "parameters" (.ref "formal_parameters"), interfaces,
            .field "body" (.ref "class_body")])),
    ("annotation_type_declaration",
      .seq (declared "@interface" ++ [.field "body" (.ref "annotation_type_body")])),
    ("annotation_type_body",
      .seq ["\x7b",
        many (.choice
          [.ref "annotation_type_element_declaration", .ref "constant_declaration",
            .ref "class_declaration", .ref "interface_declaration",
            .ref "enum_declaration", .ref "annotation_type_declaration", ";"]),
        "\x7d"]),
    ("annotation_type_element_declaration",
      .seq [modifiers, .field "type" (.ref "_unannotated_type"),
        .field "name" anyIdentifier, "(", ")", .field "dimensions" (opt (.ref "dimensions")),
        opt (.ref "_default_value"), ";"]),
    ("_default_value", .seq ["default", .field "value" (.ref "_element_value")]),
    ("interface_declaration",
      .seq
        (declared "interface"
          ++ [.field "type_parameters" (opt (.ref "type_parameters")),
            opt (.ref "extends_interfaces"), permits,
            .field "body" (.ref "interface_body")])),
    ("extends_interfaces", .seq ["extends", .ref "type_list"]),
    ("interface_body",
      .seq ["\x7b",
        many (.choice
          [.ref "constant_declaration", .ref "enum_declaration", .ref "method_declaration",
            .ref "class_declaration", .ref "interface_declaration",
            .ref "record_declaration", .ref "annotation_type_declaration", ";"]),
        "\x7d"]),
    ("constant_declaration",
      .seq [modifiers, .field "type" (.ref "_unannotated_type"),
        .ref "_variable_declarator_list", ";"]),
    ("_variable_declarator_list",
      commaSep1 (.field "declarator" (.ref "variable_declarator"))),
    ("variable_declarator",
      .seq
        [.ref "_variable_declarator_id",
          optSeq ["=", .field "value" (.ref "_variable_initializer")]]),
    ("_variable_declarator_id",
      .seq
        [.field "name"
            (.choice
              [.ref "identifier", .ref "_reserved_identifier", .ref "underscore_pattern"]),
          .field "dimensions" (opt (.ref "dimensions"))]),
    ("_variable_initializer", .choice [.ref "expression", .ref "array_initializer"]),
    ("array_initializer",
      .seq ["\x7b", commaSep (.ref "_variable_initializer"), opt ",", "\x7d"])]

/-- The rules for types, methods and parameters. -/
private def typeRules : List (String × Rule) :=
  let modifiers := opt (.ref "modifiers")
  [("_type", .choice [.ref "_unannotated_type", .ref "annotated_type"]),
    ("_unannotated_type", .choice [.ref "_simple_type", .ref "array_type"]),
    ("_simple_type",
      .choice
        [.ref "void_type", .ref "integral_type", .ref "floating_point_type",
          .ref "boolean_type", typeIdentifier, .ref "scoped_type_identifier",
          .ref "generic_type"]),
    ("annotated_type", .seq [.repeat1 (.ref "_annotation"), .ref "_unannotated_type"]),
    ("scoped_type_identifier",
      .seq
        [.choice [typeIdentifier, .ref "scoped_type_identifier", .ref "generic_type"], ".",
          annotations, typeIdentifier]),
    ("generic_type",
      .dynamic 10
        (.seq
          [.choice [typeIdentifier, .ref "scoped_type_identifier"],
            .ref "type_arguments"])),
    ("array_type",
      .seq
        [.field "element" (.ref "_unannotated_type"),
          .field "dimensions" (.ref "dimensions")]),
    ("integral_type", .choice ["byte", "short", "int", "long", "char"]),
    ("floating_point_type", .choice ["float", "double"]),
    ("boolean_type", text "boolean"),
    ("void_type", text "void"),
    ("_method_header",
      .seq
        [optSeq [.field "type_parameters" (.ref "type_parameters"), annotations],
          .field "type" (.ref "_unannotated_type"), .ref "_method_declarator",
          opt (.ref "throws")]),
    ("_method_declarator",
      .seq
        [.field "name" anyIdentifier, .field "parameters" (.ref "formal_parameters"),
          .field "dimensions" (opt (.ref "dimensions"))]),
    ("formal_parameters",
      .seq ["(",
        .choice
          [.ref "receiver_parameter",
            .seq
              [optSeq [.ref "receiver_parameter", ","],
                commaSep (.choice [.ref "formal_parameter", .ref "spread_parameter"])]],
        ")"]),
    ("formal_parameter",
      .seq [modifiers, .field "type" (.ref "_unannotated_type"),
        .ref "_variable_declarator_id"]),
    ("receiver_parameter",
      .seq [annotations, .ref "_unannotated_type", many (.seq [.ref "identifier", "."]),
        .ref "this"]),
    ("spread_parameter",
      .seq [modifiers, .ref "_unannotated_type", "...", .ref "variable_declarator"]),
    ("throws", .seq ["throws", commaSep1 (.ref "_type")]),
    ("local_variable_declaration",
      .seq [modifiers, .field "type" (.ref "_unannotated_type"),
        .ref "_variable_declarator_list", ";"]),
    ("method_declaration",
      .seq
        [modifiers, .ref "_method_header",
          .choice [.field "body" (.ref "block"), ";"]]),
    ("compact_constructor_declaration",
      .seq [modifiers, .field "name" (.ref "identifier"),
        .field "body" (.ref "block")]),
    ("_reserved_identifier",
      precAt (-3)
        (named "identifier"
          (.choice ["open", "module", "record", "with", "yield", "sealed"]))),
    ("this", text "this"),
    ("super", text "super"),
    ("identifier", pat identifier),
    ("line_comment", pat lineComment),
    ("block_comment", pat blockComment)]

/-- The grammar of Java. -/
def grammar : Grammar where
  rules :=
    literalRules ++ expressionRules ++ switchRules ++ statementRules ++ annotationRules
      ++ moduleRules ++ declarationRules ++ typeRules
  separator := .set .blank
  extras := ["line_comment", "block_comment"]
  inlined := ["_name", "_simple_type", "_class_body_declaration", "_variable_initializer"]
  supertypes :=
    ["expression", "declaration", "statement", "primary_expression", "_literal", "_type",
      "_simple_type", "_unannotated_type", "module_directive"]
  word := some "identifier"

end CallAtlas.Languages.Java

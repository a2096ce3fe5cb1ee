import CallAtlas.Syntax.Rule

/-!
# The rules of TypeScript for modules and statements
-/

namespace CallAtlas.Languages.TypeScript

open CallAtlas.Syntax Rule

/-- A list in braces, with an optional comma at the end. -/
private def braced (r : Rule) : Rule := .seq ["\x7b", commaSep r, opt ",", "\x7d"]

/-- The beginnings of an import or export clause that concerns types only. -/
private def typeOnly : Rule := opt (.choice ["type", "typeof"])

/-- The keywords of a block-scoped declaration. -/
private def blockScoped : Rule := .choice ["let", "const"]

/-- What a variable is declared as: a name or a pattern. -/
private def target : Rule := .choice [.ref "identifier", .ref "_destructuring_pattern"]

/-- The rules for modules. -/
def moduleRules : List (String × Rule) :=
  [("program", .seq [opt (.ref "hash_bang_line"), many (.ref "statement")]),
    ("hash_bang_line", pat (.seq [.text "#!", .many (.set .notNewline)])),
    ("export_statement",
      .choice
        [.seq ["export",
            .choice
              [.seq ["*", .ref "_from_clause"],
                .seq [.ref "namespace_export", .ref "_from_clause"],
                .seq [.ref "export_clause", .ref "_from_clause"], .ref "export_clause"],
            .ref "_semicolon"],
          .seq [many (.field "decorator" (.ref "decorator")), "export",
            .choice
              [.field "declaration" (.ref "declaration"),
                .seq ["default",
                  .choice
                    [.field "declaration" (.ref "declaration"),
                      .seq [.field "value" (.ref "expression"), .ref "_semicolon"]]]]],
          .seq ["export", "type", .ref "export_clause", opt (.ref "_from_clause"),
            .ref "_semicolon"],
          .seq ["export", "=", .ref "expression", .ref "_semicolon"],
          .seq ["export", "as", "namespace", .ref "identifier", .ref "_semicolon"]]),
    ("namespace_export", .seq ["*", "as", .ref "_module_export_name"]),
    ("export_clause", braced (.ref "export_specifier")),
    ("export_specifier",
      .seq [typeOnly, .field "name" (.ref "_module_export_name"),
        optSeq ["as", .field "alias" (.ref "_module_export_name")]]),
    ("_module_export_name", .choice [.ref "identifier", .ref "string"]),
    ("declaration",
      .choice
        [.ref "function_declaration", .ref "generator_function_declaration",
          .ref "class_declaration", .ref "lexical_declaration", .ref "variable_declaration",
          .ref "function_signature", .ref "abstract_class_declaration", .ref "module",
          precOf "declare" (.ref "internal_module"), .ref "type_alias_declaration",
          .ref "enum_declaration", .ref "interface_declaration", .ref "import_alias",
          .ref "ambient_declaration"]),
    ("import", text "import"),
    ("import_statement",
      .seq ["import", typeOnly,
        .choice
          [.seq [.ref "import_clause", .ref "_from_clause"], .ref "import_require_clause",
            .field "source" (.ref "string")],
        opt (.ref "import_attribute"), .ref "_semicolon"]),
    ("import_clause",
      .choice
        [.ref "namespace_import", .ref "named_imports",
          .seq [.ref "_import_identifier",
            optSeq [",", .choice [.ref "namespace_import", .ref "named_imports"]]]]),
    ("_from_clause", .seq ["from", .field "source" (.ref "string")]),
    ("namespace_import", .seq ["*", "as", .ref "identifier"]),
    ("named_imports", braced (.ref "import_specifier")),
    ("import_specifier",
      .seq [typeOnly,
        .choice
          [.field "name" (.ref "_import_identifier"),
            .seq
              [.field "name" (.choice [.ref "_module_export_name", named "identifier" "type"]),
                "as", .field "alias" (.ref "_import_identifier")]]]),
    ("import_attribute", .seq ["with", .ref "object"])]

/-- The rules for statements. -/
def statementRules : List (String × Rule) :=
  let condition := Rule.field "condition" (.ref "parenthesized_expression")
  let jump (keyword : String) : Rule :=
    .seq [keyword, .field "label" (opt (named "statement_identifier" (.ref "identifier"))),
      .ref "_semicolon"]
  [("statement",
      .choice
        [.ref "export_statement", .ref "import_statement", .ref "debugger_statement",
          .ref "expression_statement", .ref "declaration", .ref "statement_block",
          .ref "if_statement", .ref "switch_statement", .ref "for_statement",
          .ref "for_in_statement", .ref "while_statement", .ref "do_statement",
          .ref "try_statement", .ref "with_statement", .ref "break_statement",
          .ref "continue_statement", .ref "return_statement", .ref "throw_statement",
          .ref "empty_statement", .ref "labeled_statement"]),
    ("expression_statement", .seq [.ref "_expressions", .ref "_semicolon"]),
    ("variable_declaration",
      .seq ["var", commaSep1 (.ref "variable_declarator"), .ref "_semicolon"]),
    ("lexical_declaration",
      .seq [.field "kind" blockScoped, commaSep1 (.ref "variable_declarator"),
        .ref "_semicolon"]),
    ("variable_declarator",
      .choice
        [.seq
            [.field "name" target, .field "type" (opt (.ref "type_annotation")),
              opt (.ref "_initializer")],
          precOf "declare"
            (.seq
              [.field "name" (.ref "identifier"), "!",
                .field "type" (.ref "type_annotation")])]),
    ("statement_block",
      right
        (.seq ["\x7b", many (.ref "statement"), "\x7d", opt (.ref "_automatic_semicolon")])),
    ("else_clause", .seq ["else", .ref "statement"]),
    ("if_statement",
      right
        (.seq ["if", condition, .field "consequence" (.ref "statement"),
          opt (.field "alternative" (.ref "else_clause"))])),
    ("switch_statement",
      .seq ["switch", .field "value" (.ref "parenthesized_expression"),
        .field "body" (.ref "switch_body")]),
    ("for_statement",
      .seq ["for", "(",
        .field "initializer"
          (.choice
            [.ref "lexical_declaration", .ref "variable_declaration",
              .ref "expression_statement", .ref "empty_statement"]),
        .field "condition" (.choice [.ref "expression_statement", .ref "empty_statement"]),
        .field "increment" (opt (.ref "_expressions")), ")", .field "body" (.ref "statement")]),
    ("for_in_statement",
      .seq ["for", opt "await", .ref "_for_header", .field "body" (.ref "statement")]),
    ("_for_header",
      .seq ["(",
        .choice
          [.field "left" (.choice [.ref "_lhs_expression", .ref "parenthesized_expression"]),
            .seq [.field "kind" "var", .field "left" target, opt (.ref "_initializer")],
            .seq [.field "kind" blockScoped, .field "left" target]],
        .field "operator" (.choice ["in", "of"]), .field "right" (.ref "_expressions"), ")"]),
    ("while_statement", .seq ["while", condition, .field "body" (.ref "statement")]),
    ("do_statement",
      right
        (.seq ["do", .field "body" (.ref "statement"), "while", condition,
          opt (.ref "_semicolon")])),
    ("try_statement",
      .seq ["try", .field "body" (.ref "statement_block"),
        opt (.field "handler" (.ref "catch_clause")),
        opt (.field "finalizer" (.ref "finally_clause"))]),
    ("with_statement",
      .seq ["with", .field "object" (.ref "parenthesized_expression"),
        .field "body" (.ref "statement")]),
    ("break_statement", jump "break"),
    ("continue_statement", jump "continue"),
    ("debugger_statement", .seq ["debugger", .ref "_semicolon"]),
    ("return_statement", .seq ["return", opt (.ref "_expressions"), .ref "_semicolon"]),
    ("throw_statement", .seq ["throw", .ref "_expressions", .ref "_semicolon"]),
    ("empty_statement", text ";"),
    ("labeled_statement",
      .dynamic (-1)
        (.seq
          [.field "label"
              (named "statement_identifier"
                (.choice [.ref "identifier", .ref "_reserved_identifier"])),
            ":", .field "body" (.ref "statement")])),
    ("switch_body",
      .seq ["\x7b", many (.choice [.ref "switch_case", .ref "switch_default"]), "\x7d"]),
    ("switch_case",
      .seq ["case", .field "value" (.ref "_expressions"), ":",
        .field "body" (many (.ref "statement"))]),
    ("switch_default", .seq ["default", ":", .field "body" (many (.ref "statement"))]),
    ("catch_clause",
      .seq ["catch",
        optSeq ["(", .field "parameter" target, opt (.field "type" (.ref "type_annotation")),
          ")"],
        .field "body" (.ref "statement_block")]),
    ("finally_clause", .seq ["finally", .field "body" (.ref "statement_block")])]

/-- The rules for declarations of modules, enumerations, interfaces and type names. -/
def declarationRules : List (String × Rule) :=
  let exported := Rule.choice [.ref "identifier", .ref "nested_identifier"]
  [("import_require_clause",
      .seq [.ref "identifier", "=", "require", "(", .field "source" (.ref "string"), ")"]),
    ("extends_clause", .seq ["extends", commaSep1 (.ref "_extends_clause_single")]),
    ("_extends_clause_single",
      precOf "extends"
        (.seq
          [.field "value" (.ref "expression"),
            .field "type_arguments" (opt (.ref "type_arguments"))])),
    ("implements_clause", .seq ["implements", commaSep1 (.ref "type")]),
    ("ambient_declaration",
      .seq ["declare",
        .choice
          [.ref "declaration", .seq ["global", .ref "statement_block"],
            .seq ["module", ".", named "property_identifier" (.ref "identifier"), ":",
              .ref "type", .ref "_semicolon"]]]),
    ("abstract_class_declaration",
      precOf "declare"
        (.seq
          [many (.field "decorator" (.ref "decorator")), "abstract", "class",
            .field "name" (.ref "_type_identifier"),
            .field "type_parameters" (opt (.ref "type_parameters")),
            opt (.ref "class_heritage"), .field "body" (.ref "class_body")])),
    ("module", .seq ["module", .ref "_module"]),
    ("internal_module", .seq ["namespace", .ref "_module"]),
    ("_module",
      right
        (.seq
          [.field "name"
              (.choice [.ref "string", .ref "identifier", .ref "nested_identifier"]),
            .field "body" (opt (.ref "statement_block"))])),
    ("import_alias", .seq ["import", .ref "identifier", "=", exported, .ref "_semicolon"]),
    ("nested_type_identifier",
      precOf "member"
        (.seq [.field "module" exported, ".", .field "name" (.ref "_type_identifier")])),
    ("interface_declaration",
      precOf "declare"
        (.seq ["interface", .field "name" (.ref "_type_identifier"),
          .field "type_parameters" (opt (.ref "type_parameters")),
          opt (.ref "extends_type_clause"),
          .field "body" (named "interface_body" (.ref "object_type"))])),
    ("extends_type_clause",
      .seq ["extends",
        commaSep1
          (.field "type"
            (.choice
              [.ref "_type_identifier", .ref "nested_type_identifier", .ref "generic_type"]))]),
    ("enum_declaration",
      .seq [opt "const", "enum", .field "name" (.ref "identifier"),
        .field "body" (.ref "enum_body")]),
    ("enum_body",
      .seq ["\x7b",
        optSeq
          [commaSep1
              (.choice [.field "name" (.ref "_property_name"), .ref "enum_assignment"]),
            opt ","],
        "\x7d"]),
    ("enum_assignment", .seq [.field "name" (.ref "_property_name"), .ref "_initializer"]),
    ("type_alias_declaration",
      .seq ["type", .field "name" (.ref "_type_identifier"),
        .field "type_parameters" (opt (.ref "type_parameters")), "=",
        .field "value" (.ref "type"), .ref "_semicolon"])]

end CallAtlas.Languages.TypeScript

import CallAtlas.Languages.C.Token

/-!
# The grammar of C
-/

namespace CallAtlas.Languages.C

open CallAtlas.Syntax Rule

/-! ## The preprocessor -/

/-- Binary operators with their precedences. -/
private def binaryOperators : List (String × Int) :=
  [("+", 10), ("-", 10), ("*", 11), ("/", 11), ("%", 11), ("||", 1), ("&&", 2), ("|", 3),
    ("^", 4), ("&", 5), ("==", 6), ("!=", 6), (">", 7), (">=", 7), ("<=", 7), ("<", 7),
    ("<<", 9), (">>", 9)]

/-- The binary operations on operands of a kind. -/
private def binary (operand : String) : Rule :=
  .choice
    (binaryOperators.map fun (operator, precedence) =>
      leftAt precedence
        (.seq
          [.field "left" (.ref operand), .field "operator" operator,
            .field "right" (.ref operand)]))

/-- The conditional directives around contents of a kind. -/
private def conditional (suffix : String) (precedence : Int) (content : Rule) :
    List (String × Rule) :=
  let part (kind : String) : Rule :=
    if suffix.isEmpty then .ref kind else named kind (.ref (kind ++ suffix))
  let rest :=
    Rule.field "alternative"
      (opt (.choice [part "preproc_else", part "preproc_elif", part "preproc_elifdef"]))
  let condition := Rule.field "condition" (.ref "_preproc_expression")
  let name := Rule.field "name" (.ref "identifier")
  [("preproc_if",
      .seq [directive "if", condition, "\n", many content, rest, directive "endif"]),
    ("preproc_ifdef",
      .seq
        [.choice [directive "ifdef", directive "ifndef"], name, many content, rest,
          directive "endif"]),
    ("preproc_else", .seq [directive "else", many content]),
    ("preproc_elif", .seq [directive "elif", condition, "\n", many content, rest]),
    ("preproc_elifdef",
      .seq [.choice [directive "elifdef", directive "elifndef"], name, many content, rest])].map
    fun (kind, rule) => (kind ++ suffix, precAt precedence rule)

/-- The rules for directives. -/
private def directiveRules : List (String × Rule) :=
  let items : List Rule :=
    [.ref "type_definition", .ref "_empty_declaration", .ref "preproc_if",
      .ref "preproc_ifdef", .ref "preproc_include", .ref "preproc_def",
      .ref "preproc_function_def", .ref "preproc_call"]
  let leading : List Rule :=
    [.ref "function_definition",
      named "function_definition" (.ref "_old_style_function_definition"),
      .ref "linkage_specification", .ref "declaration"]
  let call := named "call_expression" (.ref "preproc_call_expression")
  [("translation_unit", many (.ref "_top_level_item")),
    ("_top_level_item",
      .choice (leading ++ [.ref "_top_level_statement", .ref "attributed_statement"] ++ items)),
    ("_block_item",
      .choice (leading ++ [.ref "statement", .ref "attributed_statement"] ++ items)),
    ("preproc_include",
      .seq
        [directive "include",
          .field "path"
            (.choice
              [.ref "string_literal", .ref "system_lib_string", .ref "identifier", call]),
          .token directiveEnd]),
    ("preproc_def",
      .seq
        [directive "define", .field "name" (.ref "identifier"),
          .field "value" (opt (.ref "preproc_arg")), .token directiveEnd]),
    ("preproc_function_def",
      .seq
        [directive "define", .field "name" (.ref "identifier"),
          .field "parameters" (.ref "preproc_params"),
          .field "value" (opt (.ref "preproc_arg")), .token directiveEnd]),
    ("preproc_params",
      .seq [immText "(", commaSep (.choice [.ref "identifier", "..."]), ")"]),
    ("preproc_call",
      .seq
        [.field "directive" (.ref "preproc_directive"),
          .field "argument" (opt (.ref "preproc_arg")), .token directiveEnd])]
  ++ conditional "" 0 (.ref "_block_item")
  ++ conditional "_in_field_declaration_list" 0 (.ref "_field_declaration_list_item")
  ++ conditional "_in_enumerator_list" 0 (.seq [.ref "enumerator", ","])
  ++ conditional "_in_enumerator_list_no_comma" (-1) (.ref "enumerator")
  ++ [("preproc_arg", .token directiveText),
    ("preproc_directive", pat anyDirective),
    ("_preproc_expression",
      .choice
        [.ref "identifier", call, .ref "number_literal", .ref "char_literal",
          .ref "preproc_defined",
          named "unary_expression" (.ref "preproc_unary_expression"),
          named "binary_expression" (.ref "preproc_binary_expression"),
          named "parenthesized_expression" (.ref "preproc_parenthesized_expression")]),
    ("preproc_parenthesized_expression", .seq ["(", .ref "_preproc_expression", ")"]),
    ("preproc_defined",
      .choice
        [precAt 15 (.seq ["defined", "(", .ref "identifier", ")"]),
          .seq ["defined", .ref "identifier"]]),
    ("preproc_unary_expression",
      leftAt 14
        (.seq
          [.field "operator" (.choice ["!", "~", "-", "+"]),
            .field "argument" (.ref "_preproc_expression")])),
    ("preproc_call_expression",
      precAt 15
        (.seq
          [.field "function" (.ref "identifier"),
            .field "arguments" (named "argument_list" (.ref "preproc_argument_list"))])),
    ("preproc_argument_list", .seq ["(", commaSep (.ref "_preproc_expression"), ")"]),
    ("preproc_binary_expression", binary "_preproc_expression")]

/-! ## Declarations -/

/-- The rules for definitions and declarations. -/
private def definitionRules : List (String × Rule) :=
  let callModifier := opt (.ref "ms_call_modifier")
  let body := Rule.field "body" (.ref "compound_statement")
  [("function_definition",
      .seq
        [callModifier, .ref "_declaration_specifiers", callModifier,
          .field "declarator" (.ref "_declarator"), body]),
    ("_old_style_function_definition",
      .seq
        [callModifier, .ref "_declaration_specifiers",
          .field "declarator"
            (named "function_declarator" (.ref "_old_style_function_declarator")),
          many (.ref "declaration"), body]),
    ("declaration",
      .seq
        [.ref "_declaration_specifiers",
          commaSep1
            (.field "declarator"
              (.choice
                [.seq
                    [callModifier, .ref "_declaration_declarator",
                      opt (.ref "gnu_asm_expression")],
                  .ref "init_declarator"])),
          ";"]),
    ("type_definition",
      .seq
        [opt "__extension__", "typedef", .ref "_type_definition_type",
          .ref "_type_definition_declarators", many (.ref "attribute_specifier"), ";"]),
    ("_type_definition_type",
      .seq
        [many (.ref "type_qualifier"), .field "type" (.ref "type_specifier"),
          many (.ref "type_qualifier")]),
    ("_type_definition_declarators",
      commaSep1 (.field "declarator" (.ref "_type_declarator"))),
    ("_declaration_modifiers",
      .choice
        [.ref "storage_class_specifier", .ref "type_qualifier", .ref "attribute_specifier",
          .ref "attribute_declaration", .ref "ms_declspec_modifier"]),
    ("_declaration_specifiers",
      right
        (.seq
          [many (.ref "_declaration_modifiers"), .field "type" (.ref "type_specifier"),
            many (.ref "_declaration_modifiers")])),
    ("linkage_specification",
      .seq ["extern", .field "value" (.ref "string_literal"),
        .field "body"
          (.choice
            [.ref "function_definition", .ref "declaration", .ref "declaration_list"])]),
    ("attribute_specifier",
      .seq ["__attribute__", "(", .ref "argument_list", ")"]),
    ("attribute",
      .seq
        [optSeq [.field "prefix" (.ref "identifier"), "::"],
          .field "name" (.ref "identifier"), opt (.ref "argument_list")]),
    ("attribute_declaration", .seq ["[[", commaSep1 (.ref "attribute"), "]]"]),
    ("ms_declspec_modifier", .seq ["__declspec", "(", .ref "identifier", ")"]),
    ("ms_based_modifier", .seq ["__based", .ref "argument_list"]),
    ("ms_call_modifier",
      .choice
        ["__cdecl", "__clrcall", "__stdcall", "__fastcall", "__thiscall",
          "__vectorcall"]),
    ("ms_restrict_modifier", text "__restrict"),
    ("ms_unsigned_ptr_modifier", text "__uptr"),
    ("ms_signed_ptr_modifier", text "__sptr"),
    ("ms_unaligned_ptr_modifier", .choice ["_unaligned", "__unaligned"]),
    ("ms_pointer_modifier",
      .choice
        [.ref "ms_unaligned_ptr_modifier", .ref "ms_restrict_modifier",
          .ref "ms_unsigned_ptr_modifier", .ref "ms_signed_ptr_modifier"]),
    ("declaration_list", .seq ["\x7b", many (.ref "_block_item"), "\x7d"])]

/-- The declarators of a family. They are written alike and share their kinds; the family tells
its rules from those of the others. -/
private def declaratorKinds (family : String) : List Rule :=
  let kind (k : String) : Rule :=
    if family.isEmpty then .ref (k ++ "_declarator")
    else named (k ++ "_declarator") (.ref (k ++ family ++ "_declarator"))
  [kind "attributed", kind "pointer", kind "function", kind "array", kind "parenthesized"]

/-- The families of declarators: the rule for the whole family, and the middle part of the names
of the rules in it. -/
private def families : List (String × String) :=
  [("_declarator", ""), ("_field_declarator", "_field"), ("_type_declarator", "_type")]

/-- The size of an array. -/
private def arraySize : Rule :=
  .seq
    ["[", many (.choice [.ref "type_qualifier", "static"]),
      .field "size" (opt (.choice [.ref "expression", "*"])), "]"]

/-- The rules for declarators. -/
private def declaratorRules : List (String × Rule) :=
  let inner (family : String) : Rule := .field "declarator" (.ref family)
  let abstractInner := Rule.field "declarator" (opt (.ref "_abstract_declarator"))
  let parameters := Rule.field "parameters" (.ref "parameter_list")
  let pointer (declarator : Rule) : List Rule :=
    ["*", many (.ref "ms_pointer_modifier"), many (.ref "type_qualifier"), declarator]
  let parenthesized (declarator : String) : Rule :=
    .seq ["(", opt (.ref "ms_call_modifier"), .ref declarator, ")"]
  [("_declarator", .choice (declaratorKinds "" ++ [.ref "identifier"])),
    ("_declaration_declarator",
      .choice
        [.ref "attributed_declarator", .ref "pointer_declarator",
          named "function_declarator" (.ref "_function_declaration_declarator"),
          .ref "array_declarator", .ref "parenthesized_declarator", .ref "identifier"]),
    ("_field_declarator", .choice (declaratorKinds "_field" ++ [.ref "_field_identifier"])),
    ("_type_declarator",
      .choice
        (declaratorKinds "_type"
          ++ [.ref "_type_identifier",
            named "primitive_type" (.choice ["signed", "unsigned", "long", "short"]),
            .ref "primitive_type"])),
    ("_abstract_declarator",
      .choice
        [.ref "abstract_pointer_declarator", .ref "abstract_function_declarator",
          .ref "abstract_array_declarator", .ref "abstract_parenthesized_declarator"])]
  ++ (families.map fun (family, middle) =>
    ("parenthesized" ++ middle ++ "_declarator", .dynamic (-10) (parenthesized family)))
  ++ [("abstract_parenthesized_declarator",
    precAt 1 (parenthesized "_abstract_declarator"))]
  ++ (families.map fun (family, middle) =>
    ("attributed" ++ middle ++ "_declarator",
      right (.seq [.ref family, .repeat1 (.ref "attribute_declaration")])))
  ++ (families.map fun (family, middle) =>
    ("pointer" ++ middle ++ "_declarator",
      .dynamic 1
        (right (.seq (opt (.ref "ms_based_modifier") :: pointer (inner family))))))
  ++ [("abstract_pointer_declarator", .dynamic 1 (right (.seq (pointer abstractInner)))),
    ("function_declarator",
      rightAt 1
        (.seq
          [inner "_declarator", parameters, opt (.ref "gnu_asm_expression"),
            many (.choice
              [.ref "attribute_specifier", .ref "identifier",
                named "call_expression" (.ref "preproc_call_expression")])])),
    ("_function_declaration_declarator",
      rightAt 1
        (.seq
          [inner "_declarator", parameters, opt (.ref "gnu_asm_expression"),
            many (.ref "attribute_specifier")])),
    ("function_field_declarator", precAt 1 (.seq [inner "_field_declarator", parameters])),
    ("function_type_declarator", precAt 1 (.seq [inner "_type_declarator", parameters])),
    ("abstract_function_declarator", precAt 1 (.seq [abstractInner, parameters])),
    ("_old_style_function_declarator",
      .seq
        [inner "_declarator",
          .field "parameters" (named "parameter_list" (.ref "_old_style_parameter_list"))])]
  ++ (families.map fun (family, middle) =>
    ("array" ++ middle ++ "_declarator", precAt 1 (.seq [inner family, arraySize])))
  ++ [("abstract_array_declarator", precAt 1 (.seq [abstractInner, arraySize])),
    ("init_declarator",
      .seq
        [inner "_declarator", "=",
          .field "value" (.choice [.ref "initializer_list", .ref "expression"])]),
    ("compound_statement", .seq ["\x7b", many (.ref "_block_item"), "\x7d"])]

/-- The words that size a type. -/
private def sizeWord : Rule := .choice ["signed", "unsigned", "long", "short"]

/-- The rules for types and parameters. -/
private def typeRules : List (String × Rule) :=
  let sized :=
    Rule.field "type"
      (opt (.choice [.dynamic (-1) (.ref "_type_identifier"), .ref "primitive_type"]))
  let fields := Rule.field "body" (.ref "field_declaration_list")
  let record : Rule :=
    .choice
      [.seq
          [.field "name" (.ref "_type_identifier"),
            .field "body" (opt (.ref "field_declaration_list"))],
        fields]
  let ifKind (kind suffix : String) : Rule := named kind (.ref (kind ++ suffix))
  [("storage_class_specifier",
      .choice
        ["extern", "static", "auto", "register", "inline", "__inline", "__inline__",
          "__forceinline", "thread_local", "__thread"]),
    ("type_qualifier",
      .choice
        ["const", "constexpr", "volatile", "restrict", "__restrict__", "__extension__",
          "_Atomic", "_Noreturn", "noreturn", .ref "alignas_qualifier"]),
    ("alignas_qualifier",
      .seq
        [.choice ["alignas", "_Alignas"], "(",
          .choice [.ref "expression", .ref "type_descriptor"], ")"]),
    ("type_specifier",
      .choice
        [.ref "struct_specifier", .ref "union_specifier", .ref "enum_specifier",
          .ref "macro_type_specifier", .ref "sized_type_specifier", .ref "primitive_type",
          .ref "_type_identifier"]),
    ("sized_type_specifier",
      .choice
        [.seq [many sizeWord, sized, .repeat1 sizeWord],
          .seq [.repeat1 sizeWord, sized, many sizeWord]]),
    ("primitive_type", words primitiveTypes),
    ("enum_specifier",
      .seq ["enum",
        .choice
          [.seq
              [.field "name" (.ref "_type_identifier"),
                optSeq [":", .field "underlying_type" (.ref "primitive_type")],
                .field "body" (opt (.ref "enumerator_list"))],
            .field "body" (.ref "enumerator_list")],
        opt (.ref "attribute_specifier")]),
    ("enumerator_list",
      .seq ["\x7b",
        many (.choice
          [.seq [.ref "enumerator", ","], ifKind "preproc_if" "_in_enumerator_list",
            ifKind "preproc_ifdef" "_in_enumerator_list", .seq [.ref "preproc_call", ","]]),
        opt (.choice
          [.ref "enumerator", ifKind "preproc_if" "_in_enumerator_list_no_comma",
            ifKind "preproc_ifdef" "_in_enumerator_list_no_comma", .ref "preproc_call"]),
        "\x7d"]),
    ("struct_specifier",
      .seq
        ["struct", opt (.ref "attribute_specifier"), opt (.ref "ms_declspec_modifier"),
          record, opt (.ref "attribute_specifier")]),
    ("union_specifier",
      .seq
        ["union", opt (.ref "ms_declspec_modifier"), record,
          opt (.ref "attribute_specifier")]),
    ("field_declaration_list",
      .seq ["\x7b", many (.ref "_field_declaration_list_item"), "\x7d"]),
    ("_field_declaration_list_item",
      .choice
        [.ref "field_declaration", .ref "preproc_def", .ref "preproc_function_def",
          .ref "preproc_call", ifKind "preproc_if" "_in_field_declaration_list",
          ifKind "preproc_ifdef" "_in_field_declaration_list"]),
    ("field_declaration",
      .seq
        [.ref "_declaration_specifiers", opt (.ref "_field_declaration_declarator"),
          opt (.ref "attribute_specifier"), ";"]),
    ("_field_declaration_declarator",
      commaSep1
        (.seq
          [.field "declarator" (.ref "_field_declarator"), opt (.ref "bitfield_clause")])),
    ("bitfield_clause", .seq [":", .ref "expression"]),
    ("enumerator",
      .seq
        [.field "name" (.ref "identifier"),
          optSeq ["=", .field "value" (.ref "expression")]]),
    ("variadic_parameter", text "..."),
    ("parameter_list",
      .seq ["(", commaSep (.choice [.ref "parameter_declaration", .ref "variadic_parameter"]), ")"]),
    ("_old_style_parameter_list",
      .seq ["(", commaSep (.choice [.ref "identifier", .ref "variadic_parameter"]), ")"]),
    ("parameter_declaration",
      .seq
        [.ref "_declaration_specifiers",
          opt
            (.field "declarator"
              (.choice [.ref "_declarator", .ref "_abstract_declarator"]))])]

/-! ## Statements and expressions -/

/-- The rules for statements. -/
private def statementRules : List (String × Rule) :=
  let condition := Rule.field "condition" (.ref "parenthesized_expression")
  let body := Rule.field "body" (.ref "statement")
  let block := Rule.field "body" (.ref "compound_statement")
  let anyExpression := Rule.choice [.ref "expression", .ref "comma_expression"]
  let control : List Rule :=
    [.ref "if_statement", .ref "switch_statement", .ref "do_statement",
      .ref "while_statement", .ref "for_statement", .ref "return_statement",
      .ref "break_statement", .ref "continue_statement", .ref "goto_statement"]
  [("attributed_statement",
      .seq [.repeat1 (.ref "attribute_declaration"), .ref "statement"]),
    ("statement", .choice [.ref "case_statement", .ref "_non_case_statement"]),
    ("_non_case_statement",
      .choice
        ([.ref "attributed_statement", .ref "labeled_statement", .ref "compound_statement",
            .ref "expression_statement"]
          ++ control ++ [.ref "seh_try_statement", .ref "seh_leave_statement"])),
    ("_top_level_statement",
      .choice
        ([.ref "case_statement", .ref "attributed_statement", .ref "labeled_statement",
            .ref "compound_statement",
            named "expression_statement" (.ref "_top_level_expression_statement")]
          ++ control)),
    ("labeled_statement",
      .seq
        [.field "label" (.ref "_statement_identifier"), ":", .ref "statement"]),
    ("_top_level_expression_statement", .seq [.ref "_expression_not_binary", ";"]),
    ("expression_statement", .seq [opt anyExpression, ";"]),
    ("if_statement",
      right
        (.seq ["if", condition, .field "consequence" (.ref "statement"),
          opt (.field "alternative" (.ref "else_clause"))])),
    ("else_clause", .seq ["else", .ref "statement"]),
    ("switch_statement", .seq ["switch", condition, block]),
    ("case_statement",
      right
        (.seq
          [.choice [.seq ["case", .field "value" (.ref "expression")], "default"], ":",
            many (.choice
              [.ref "_non_case_statement", .ref "declaration", .ref "type_definition"])])),
    ("while_statement", .seq ["while", condition, body]),
    ("do_statement", .seq ["do", body, "while", condition, ";"]),
    ("for_statement", .seq ["for", "(", .ref "_for_statement_body", ")", body]),
    ("_for_statement_body",
      .seq
        [.choice
            [.field "initializer" (.ref "declaration"),
              .seq [.field "initializer" (opt anyExpression), ";"]],
          .field "condition" (opt anyExpression), ";",
          .field "update" (opt anyExpression)]),
    ("return_statement", .seq ["return", opt anyExpression, ";"]),
    ("break_statement", .seq ["break", ";"]),
    ("continue_statement", .seq ["continue", ";"]),
    ("goto_statement",
      .seq ["goto", .field "label" (.ref "_statement_identifier"), ";"]),
    ("seh_try_statement",
      .seq ["__try", block,
        .choice [.ref "seh_except_clause", .ref "seh_finally_clause"]]),
    ("seh_except_clause",
      .seq ["__except", .field "filter" (.ref "parenthesized_expression"), block]),
    ("seh_finally_clause", .seq ["__finally", block]),
    ("seh_leave_statement", .seq ["__leave", ";"])]

/-- The rules for expressions. -/
private def expressionRules : List (String × Rule) :=
  let argument := Rule.field "argument" (.ref "expression")
  let update := Rule.field "operator" (.choice ["--", "++"])
  let typeIn (rest : List Rule) : Rule :=
    .seq ([text "(", .field "type" (.ref "type_descriptor")] ++ rest ++ [text ")"])
  let operandList (kind : String) : Rule :=
    .seq [":", commaSep (.field "operand" (.ref kind))]
  let operand (value : String) : Rule :=
    .seq
      [optSeq ["[", .field "symbol" (.ref "identifier"), "]"],
        .field "constraint" (.ref "string_literal"), "(", .field "value" (.ref value), ")"]
  [("expression", .choice [.ref "_expression_not_binary", .ref "binary_expression"]),
    ("_expression_not_binary",
      .choice
        [.ref "conditional_expression", .ref "assignment_expression",
          .ref "unary_expression", .ref "update_expression", .ref "cast_expression",
          .ref "pointer_expression", .ref "sizeof_expression", .ref "alignof_expression",
          .ref "offsetof_expression", .ref "generic_expression",
          .ref "subscript_expression", .ref "call_expression", .ref "field_expression",
          .ref "compound_literal_expression", .ref "identifier", .ref "number_literal",
          .ref "_string", .ref "true", .ref "false", .ref "null", .ref "char_literal",
          .ref "parenthesized_expression", .ref "gnu_asm_expression"]),
    ("_string", left (.choice [.ref "string_literal", .ref "concatenated_string"])),
    ("comma_expression",
      .seq
        [.field "left" (.ref "expression"), ",",
          .field "right" (.choice [.ref "expression", .ref "comma_expression"])]),
    ("conditional_expression",
      rightAt (-1)
        (.seq
          [.field "condition" (.ref "expression"), "?",
            opt
              (.field "consequence"
                (.choice [.ref "expression", .ref "comma_expression"])),
            ":", .field "alternative" (.ref "expression")])),
    ("_assignment_left_expression",
      .choice
        [.ref "identifier", .ref "call_expression", .ref "field_expression",
          .ref "pointer_expression", .ref "subscript_expression",
          .ref "parenthesized_expression"]),
    ("assignment_expression",
      rightAt (-2)
        (.seq
          [.field "left" (.ref "_assignment_left_expression"),
            .field "operator"
              (.choice
                ["=", "*=", "/=", "%=", "+=", "-=", "<<=", ">>=", "&=", "^=", "|="]),
            .field "right" (.ref "expression")])),
    ("pointer_expression",
      leftAt 12 (.seq [.field "operator" (.choice ["*", "&"]), argument])),
    ("unary_expression",
      leftAt 14 (.seq [.field "operator" (.choice ["!", "~", "-", "+"]), argument])),
    ("binary_expression", binary "expression"),
    ("update_expression",
      rightAt 14 (.choice [.seq [update, argument], .seq [argument, update]])),
    ("cast_expression",
      precAt 12 (.seq [typeIn [], .field "value" (.ref "expression")])),
    ("type_descriptor",
      .seq
        [many (.ref "type_qualifier"), .field "type" (.ref "type_specifier"),
          many (.ref "type_qualifier"),
          .field "declarator" (opt (.ref "_abstract_declarator"))]),
    ("sizeof_expression",
      precAt 13
        (.seq ["sizeof",
          .choice [.field "value" (.ref "expression"), typeIn []]])),
    ("alignof_expression",
      precAt 13
        (.seq
          [.choice ["__alignof__", "__alignof", "_alignof", "alignof", "_Alignof"],
            typeIn []])),
    ("offsetof_expression",
      precAt 8
        (.seq ["offsetof", typeIn [",", .field "member" (.ref "_field_identifier")]])),
    ("generic_expression",
      precAt 15
        (.seq ["_Generic", "(", .ref "expression", ",",
          commaSep1 (.seq [.ref "type_descriptor", ":", .ref "expression"]), ")"])),
    ("subscript_expression",
      precAt 17 (.seq [argument, "[", .field "index" (.ref "expression"), "]"])),
    ("call_expression",
      precAt 15
        (.seq
          [.field "function" (.ref "expression"),
            .field "arguments" (.ref "argument_list")])),
    ("gnu_asm_expression",
      precAt 15
        (.seq
          [.choice ["asm", "__asm__"], many (.ref "gnu_asm_qualifier"), "(",
            .field "assembly_code" (.ref "_string"),
            optSeq
              [.field "output_operands" (.ref "gnu_asm_output_operand_list"),
                optSeq
                  [.field "input_operands" (.ref "gnu_asm_input_operand_list"),
                    optSeq
                      [.field "clobbers" (.ref "gnu_asm_clobber_list"),
                        opt (.field "goto_labels" (.ref "gnu_asm_goto_list"))]]],
            ")"])),
    ("gnu_asm_qualifier", .choice ["volatile", "inline", "goto"]),
    ("gnu_asm_output_operand_list", operandList "gnu_asm_output_operand"),
    ("gnu_asm_output_operand", operand "identifier"),
    ("gnu_asm_input_operand_list", operandList "gnu_asm_input_operand"),
    ("gnu_asm_input_operand", operand "expression"),
    ("gnu_asm_clobber_list", .seq [":", commaSep (.field "register" (.ref "_string"))]),
    ("gnu_asm_goto_list", .seq [":", commaSep (.field "label" (.ref "identifier"))]),
    ("argument_list",
      .seq ["(",
        commaSep
          (.choice [.seq [opt "__extension__", .ref "expression"], .ref "compound_statement"]),
        ")"]),
    ("field_expression",
      .seq
        [precAt 16 (.seq [argument, .field "operator" (.choice [".", "->"])]),
          .field "field" (.ref "_field_identifier")]),
    ("compound_literal_expression",
      .seq [typeIn [], .field "value" (.ref "initializer_list")]),
    ("parenthesized_expression",
      .seq ["(", .choice [.ref "expression", .ref "comma_expression"], ")"])]

/-- The rules for initializers, literals and names. -/
private def literalRules : List (String × Rule) :=
  let value := Rule.field "value" (.choice [.ref "expression", .ref "initializer_list"])
  [("initializer_list",
      .seq ["\x7b",
        commaSep
          (.choice
            [.ref "initializer_pair", .ref "expression", .ref "initializer_list"]),
        opt ",", "\x7d"]),
    ("initializer_pair",
      .choice
        [.seq
            [.field "designator"
                (.repeat1
                  (.choice
                    [.ref "subscript_designator", .ref "field_designator",
                      .ref "subscript_range_designator"])),
              "=", value],
          .seq [.field "designator" (.ref "_field_identifier"), ":", value]]),
    ("subscript_designator", .seq ["[", .ref "expression", "]"]),
    ("subscript_range_designator",
      .seq ["[", .field "start" (.ref "expression"), "...",
        .field "end" (.ref "expression"), "]"]),
    ("field_designator", .seq [".", .ref "_field_identifier"]),
    ("number_literal", pat number),
    ("char_literal",
      .seq
        [.choice ["L'", "u'", "U'", "u8'", "'"],
          .repeat1
            (.choice [.ref "escape_sequence", named "character" (.token character)]),
          "'"]),
    ("concatenated_string",
      right
        (.seq
          [.choice
              [.seq [.ref "identifier", .ref "string_literal"],
                .seq [.ref "string_literal", .ref "string_literal"],
                .seq [.ref "string_literal", .ref "identifier"]],
            many (.choice [.ref "string_literal", .ref "identifier"])])),
    ("string_literal",
      .seq
        [.choice ["L\"", "u\"", "U\"", "u8\"", "\""],
          many (.choice
            [named "string_content" (.token stringText), .ref "escape_sequence"]),
          "\""]),
    ("escape_sequence", .token escapeSequence),
    ("system_lib_string", .token headerName),
    ("true", words ["TRUE", "true"]),
    ("false", words ["FALSE", "false"]),
    ("null", .choice ["NULL", "nullptr"]),
    ("identifier", pat identifier),
    ("_type_identifier", named "type_identifier" (.ref "identifier")),
    ("_field_identifier", named "field_identifier" (.ref "identifier")),
    ("_statement_identifier", named "statement_identifier" (.ref "identifier")),
    ("_empty_declaration", .seq [.ref "type_specifier", ";"]),
    ("macro_type_specifier",
      .dynamic (-1)
        (.seq
          [.field "name" (.ref "identifier"), "(",
            .field "type" (.ref "type_descriptor"), ")"])),
    ("comment", pat comment)]

/-- The grammar of C. -/
def grammar : Grammar where
  rules :=
    directiveRules ++ definitionRules ++ declaratorRules ++ typeRules ++ statementRules
      ++ expressionRules ++ literalRules
  separator := separator
  extras := ["comment"]
  inlined :=
    ["_type_identifier", "_field_identifier", "_statement_identifier",
      "_non_case_statement", "_assignment_left_expression", "_expression_not_binary"]
  supertypes :=
    ["expression", "statement", "type_specifier", "_declarator", "_field_declarator",
      "_type_declarator", "_abstract_declarator"]
  word := some "identifier"

end CallAtlas.Languages.C

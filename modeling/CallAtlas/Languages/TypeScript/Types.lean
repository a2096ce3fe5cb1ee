import CallAtlas.Languages.TypeScript.Expressions

/-!
# The rules of TypeScript for types
-/

namespace CallAtlas.Languages.TypeScript

open CallAtlas.Syntax Rule

/-- The type parameters of a signature, if there are any. -/
private def typeParameters : Rule := .field "type_parameters" (opt (.ref "type_parameters"))

/-- The parameters of a signature. -/
private def parameters : Rule := .field "parameters" (.ref "formal_parameters")

/-- The type that is noted after a name, if there is one. -/
private def annotation : Rule := .field "type" (opt (.ref "type_annotation"))

/-- The property that an expression in a type names. -/
private def queriedProperty : Rule :=
  .field "property"
    (.choice
      [.ref "private_property_identifier", named "property_identifier" (.ref "identifier")])

/-- An expression on an imported module, used as a type. -/
private def importedType (kind : String) : Rule :=
  named kind (.ref ("_type_query_" ++ kind ++ "_in_type_annotation"))

/-- The rules for modifiers, parameters and type annotations. -/
def parameterRules : List (String × Rule) :=
  [("accessibility_modifier", .choice ["public", "private", "protected"]),
    ("override_modifier", text "override"),
    ("required_parameter",
      .seq [.ref "_parameter_name", annotation, opt (.ref "_initializer")]),
    ("optional_parameter",
      .seq [.ref "_parameter_name", "?", annotation, opt (.ref "_initializer")]),
    ("_parameter_name",
      .seq
        [many (.field "decorator" (.ref "decorator")), opt (.ref "accessibility_modifier"),
          opt (.ref "override_modifier"), opt "readonly",
          .field "pattern" (.choice [.ref "pattern", .ref "this"])]),
    ("omitting_type_annotation", .seq ["-?:", .ref "type"]),
    ("adding_type_annotation", .seq ["+?:", .ref "type"]),
    ("opting_type_annotation", .seq ["?:", .ref "type"]),
    ("type_annotation", .seq [":", .ref "type"]),
    ("_type_query_member_expression_in_type_annotation",
      .seq
        [.field "object"
            (.choice
              [.ref "import", importedType "member_expression",
                importedType "call_expression"]),
          ".", queriedProperty]),
    ("_type_query_call_expression_in_type_annotation",
      .seq
        [.field "function" (.choice [.ref "import", importedType "member_expression"]),
          .field "arguments" (.ref "arguments")])]

/-- Expressions that a type asks the type of. They are written like other expressions, under
names of their own. -/
private def typeQueryRules : List (String × Rule) :=
  let arguments := Rule.field "arguments" (.ref "arguments")
  let queried (kind : String) : Rule := named kind (.ref ("_type_query_" ++ kind))
  let object := Rule.field "object"
    (.choice
      [.ref "identifier", .ref "this", queried "subscript_expression",
        queried "member_expression", queried "call_expression"])
  let function := Rule.field "function"
    (.choice
      [.ref "import", .ref "identifier", queried "member_expression",
        queried "subscript_expression"])
  [("_type_query_member_expression", .seq [object, .choice [".", "?."], queriedProperty]),
    ("_type_query_subscript_expression",
      .seq
        [object, opt "?.", "[",
          .field "index" (.choice [.ref "predefined_type", .ref "string", .ref "number"]),
          "]"]),
    ("_type_query_call_expression", .seq [function, arguments]),
    ("_type_query_instantiation_expression",
      .seq [function, .field "type_arguments" (.ref "type_arguments")]),
    ("type_query",
      right
        (.seq ["typeof",
          .choice
            [queried "subscript_expression", queried "member_expression",
              queried "call_expression", queried "instantiation_expression",
              .ref "identifier", .ref "this"]]))]

/-- The rules for types up to the queries. -/
private def plainTypeRules : List (String × Rule) :=
  [("asserts",
      .seq ["asserts", .choice [.ref "type_predicate", .ref "identifier", .ref "this"]]),
    ("asserts_annotation", .seq [":", .ref "asserts"]),
    ("type",
      .choice
        [.ref "primary_type", .ref "function_type", .ref "readonly_type",
          .ref "constructor_type", .ref "infer_type", precAt (-1) (importedType "member_expression"),
          precAt (-1) (importedType "call_expression")]),
    ("tuple_parameter",
      .seq
        [.field "name" (.choice [.ref "identifier", .ref "rest_pattern"]),
          .field "type" (.ref "type_annotation")]),
    ("optional_tuple_parameter",
      .seq
        [.field "name" (.ref "identifier"), "?", .field "type" (.ref "type_annotation")]),
    ("optional_type", .seq [.ref "type", "?"]),
    ("rest_type", .seq ["...", .ref "type"]),
    ("_tuple_type_member",
      .choice
        [named "required_parameter" (.ref "tuple_parameter"),
          named "optional_parameter" (.ref "optional_tuple_parameter"), .ref "optional_type",
          .ref "rest_type", .ref "type"]),
    ("constructor_type",
      left
        (.seq [opt "abstract", "new", typeParameters, parameters, "=>",
          .field "type" (.ref "type")])),
    ("primary_type",
      .choice
        [.ref "parenthesized_type", .ref "predefined_type", .ref "_type_identifier",
          .ref "nested_type_identifier", .ref "generic_type", .ref "object_type",
          .ref "array_type", .ref "tuple_type", .ref "flow_maybe_type", .ref "type_query",
          .ref "index_type_query", named "this_type" (.ref "this"), .ref "existential_type",
          .ref "literal_type", .ref "lookup_type", .ref "conditional_type",
          .ref "template_literal_type", .ref "intersection_type", .ref "union_type",
          "const"]),
    ("template_type",
      .seq ["$\x7b", .choice [.ref "primary_type", .ref "infer_type"], "\x7d"]),
    ("template_literal_type",
      .seq ["`",
        many (.choice
          [named "string_fragment" (.ref "_template_chars"), .ref "template_type"]),
        "`"]),
    ("infer_type",
      right (.seq ["infer", .ref "_type_identifier", optSeq ["extends", .ref "type"]])),
    ("conditional_type",
      right
        (.seq
          [.field "left" (.ref "type"), "extends", .field "right" (.ref "type"), "?",
            .field "consequence" (.ref "type"), ":", .field "alternative" (.ref "type")])),
    ("generic_type",
      precOf "call"
        (.seq
          [.field "name" (.choice [.ref "_type_identifier", .ref "nested_type_identifier"]),
            .field "type_arguments" (.ref "type_arguments")])),
    ("type_predicate",
      .seq
        [.field "name"
            (.choice
              [.ref "identifier", .ref "this",
                named "identifier" (.ref "predefined_type")]),
          "is", .field "type" (.ref "type")]),
    ("type_predicate_annotation", .seq [":", .ref "type_predicate"])]

/-- The rules for types after the queries. -/
private def furtherTypeRules : List (String × Rule) :=
  [("index_type_query", .seq ["keyof", .ref "primary_type"]),
    ("lookup_type", .seq [.ref "primary_type", "[", .ref "type", "]"]),
    ("mapped_type_clause",
      .seq
        [.field "name" (.ref "_type_identifier"), "in", .field "type" (.ref "type"),
          optSeq ["as", .field "alias" (.ref "type")]]),
    ("literal_type",
      .choice
        [named "unary_expression" (.ref "_number"), .ref "number", .ref "string", .ref "true",
          .ref "false", .ref "null", .ref "undefined"]),
    ("_number",
      leftAt 1
        (.seq
          [.field "operator" (.choice ["-", "+"]), .field "argument" (.ref "number")])),
    ("existential_type", text "*"),
    ("flow_maybe_type", right (.seq ["?", .ref "primary_type"])),
    ("parenthesized_type", .seq ["(", .ref "type", ")"]),
    ("predefined_type",
      .choice
        ["any", "number", "boolean", "string", "symbol",
          anonymous "unique symbol" (.seq ["unique", "symbol"]), "void", "unknown", "string",
          "never", "object"]),
    ("type_arguments", .seq ["<", commaSep1 (.ref "type"), opt ",", ">"]),
    ("object_type",
      .seq
        [.choice ["\x7b", "\x7b|"],
          optSeq
            [opt (.choice [",", ";"]),
              sepBy1 (.choice [",", .ref "_semicolon"])
                (.choice
                  [.ref "export_statement", .ref "property_signature", .ref "call_signature",
                    .ref "construct_signature", .ref "index_signature",
                    .ref "method_signature"]),
              opt (.choice [",", .ref "_semicolon"])],
          .choice ["\x7d", "|\x7d"]]),
    ("call_signature", .ref "_call_signature"),
    ("property_signature",
      .seq
        [opt (.ref "accessibility_modifier"), opt "static", opt (.ref "override_modifier"),
          opt "readonly", .field "name" (.ref "_property_name"), opt "?", annotation]),
    ("type_parameters", .seq ["<", commaSep1 (.ref "type_parameter"), opt ",", ">"]),
    ("type_parameter",
      .seq
        [opt "const", .field "name" (.ref "_type_identifier"),
          .field "constraint" (opt (.ref "constraint")),
          .field "value" (opt (.ref "default_type"))]),
    ("default_type", .seq ["=", .ref "type"]),
    ("constraint", .seq [.choice ["extends", ":"], .ref "type"]),
    ("construct_signature",
      .seq [opt "abstract", "new", typeParameters, parameters, annotation]),
    ("index_signature",
      .seq
        [optSeq [.field "sign" (opt (.choice ["-", "+"])), "readonly"], "[",
          .choice
            [.seq [.field "name" looseIdentifier, ":", .field "index_type" (.ref "type")],
              .ref "mapped_type_clause"],
          "]",
          .field "type"
            (.choice
              [.ref "type_annotation", .ref "omitting_type_annotation",
                .ref "adding_type_annotation", .ref "opting_type_annotation"])]),
    ("array_type", .seq [.ref "primary_type", "[", "]"]),
    ("tuple_type", .seq ["[", commaSep (.ref "_tuple_type_member"), opt ",", "]"]),
    ("readonly_type", .seq ["readonly", .ref "type"]),
    ("union_type", left (.seq [opt (.ref "type"), "|", .ref "type"])),
    ("intersection_type", left (.seq [opt (.ref "type"), "&", .ref "type"])),
    ("function_type",
      left
        (.seq [typeParameters, parameters, "=>",
          .field "return_type"
            (.choice [.ref "type", .ref "asserts", .ref "type_predicate"])])),
    ("_type_identifier", named "type_identifier" (.ref "identifier"))]

/-- The rules for types. -/
def typeRules : List (String × Rule) := plainTypeRules ++ typeQueryRules ++ furtherTypeRules

end CallAtlas.Languages.TypeScript

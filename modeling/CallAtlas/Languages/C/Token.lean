import CallAtlas.Syntax.Rule

/-!
# Tokens of C
-/

namespace CallAtlas.Languages.C

open CallAtlas.Syntax Rule

/-- A line end that is escaped or not. -/
private def lineEnd : Pattern := .seq [.opt (.text "\r"), .text "\n"]

/-- The characters between tokens: blanks and escaped line ends. -/
def separator : Pattern := .either (.set .blank) (.seq [.text "\\", lineEnd])

/-- The end of a directive. -/
def directiveEnd : TokenRule := .adjoining lineEnd

/-- A directive of the preprocessor. -/
def directive (name : String) : Rule :=
  anonymous ("#" ++ name) (pat (.seq [.text "#", .many (.oneOf " \t"), .text name]))

/-- A directive of any name. -/
def anyDirective : Pattern :=
  let letters := CharSet.any [.span 'a' 'z', .span 'A' 'Z']
  .seq
    [.text "#", .many (.oneOf " \t"), .set (.union letters .digit),
      .many (.set (.any [letters, .digit, .char '_']))]

/-- The text after a directive. -/
def directiveText : TokenRule :=
  { matcher :=
      .pattern
        (.seq
          [.set (.complement .blank),
            .many
              (.choice
                [.noneOf "/\n", .seq [.text "/", .noneOf "*"],
                  .seq [.text "\\", lineEnd]])])
    rank := -1 }

/-- Numbers. -/
def number : Pattern :=
  let sign := Pattern.opt (.oneOf "-+")
  let groups (digit : CharSet) : Pattern :=
    .seq [.many1 (.set digit), .many (.seq [.text "'", .many1 (.set digit)])]
  let hex := groups .hexDigit
  let decimal := groups .digit
  let hexOpening := Pattern.seq [.text "0", .oneOf "xX"]
  let binaryOpening := Pattern.seq [.text "0", .oneOf "bB"]
  .seq
    [sign, .opt (.choice [hexOpening, binaryOpening]),
      .choice
        [.seq
            [.choice [decimal, .seq [binaryOpening, decimal], .seq [hexOpening, hex]],
              .opt (.seq [.text ".", .opt hex])],
          .seq [.text ".", decimal]],
      .opt (.seq [.oneOf "eEpP", .opt (.seq [sign, hex])]), .many (.oneOf "uUlLwWfFbBdD")]

/-- Text in a string. -/
def stringText : TokenRule :=
  { matcher := .pattern (.many1 (.noneOf "\\\"\n")), rank := 1, immediate := true }

/-- A character. -/
def character : TokenRule := { matcher := .pattern (.noneOf "\n'"), immediate := true }

/-- Escape sequences. -/
def escapeSequence : TokenRule :=
  let hex := Pattern.set .hexDigit
  let digit := Pattern.set .digit
  { matcher :=
      .pattern
        (.seq
          [.text "\\",
            .choice
              [.noneOf "xuU", .seq [.times digit 2, .opt digit],
                .seq [.text "x", .times hex 2, .many hex], .seq [.text "u", .times hex 4],
                .seq [.text "U", .times hex 8]]])
    rank := 1 }

/-- The name of a header in angle brackets. -/
def headerName : TokenRule :=
  .ofPattern (.seq [.text "<", .many (.either (.noneOf ">\n") (.text "\\>")), .text ">"])

/-- Identifiers. -/
def identifier : Pattern :=
  let hex := Pattern.set .hexDigit
  let numbered :=
    Pattern.choice
      [.seq [.text "\\u", .times hex 4], .seq [.text "\\U", .times hex 8]]
  .seq
    [.either (.set (.any [.identifierStart, .ofString "$_"])) numbered,
      .many (.either (.set (.any [.identifierContinue, .ofString "$"])) numbered)]

/-- Comments. -/
def comment : Pattern :=
  .choice
    [.seq
        [.text "//",
          .many
            (.either
              (.seq [.many1 (.text "\\"), .either (.set .notNewline) lineEnd])
              (.noneOf "\\\n"))],
      .seq
        [.text "/*", .many (.noneOf "*"), .many1 (.text "*"),
          .many (.seq [.noneOf "/*", .many (.noneOf "*"), .many1 (.text "*")]), .text "/"]]

/-- The names of the basic types. -/
def primitiveTypes : List String :=
  ["bool", "char", "int", "float", "double", "void", "size_t", "ssize_t", "ptrdiff_t",
    "intptr_t", "uintptr_t", "charptr_t", "nullptr_t", "max_align_t", "int8_t", "int16_t",
    "int32_t", "int64_t", "uint8_t", "uint16_t", "uint32_t", "uint64_t", "char8_t",
    "char16_t", "char32_t", "char64_t"]

end CallAtlas.Languages.C

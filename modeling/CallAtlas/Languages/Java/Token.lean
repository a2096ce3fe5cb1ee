import CallAtlas.Syntax.Rule

/-!
# Tokens of Java
-/

namespace CallAtlas.Languages.Java

open CallAtlas.Syntax

/-- Groups of digits with separators between them. -/
private def groups (digit : CharSet) : Pattern := .separated digit

/-- Decimal digits without leading zeros. -/
private def digits : Pattern :=
  .choice
    [.text "0",
      .seq
        [.set (.span '1' '9'),
          .opt
            (.seq
              [.opt (.text "_"), .many1 (.set .digit),
                .many (.seq [.many1 (.text "_"), .many1 (.set .digit)])])]]

/-- The opening of a hexadecimal number. -/
private def hexOpening : Pattern := .choice [.text "0x", .text "0X"]

/-- The mark of a long integer. -/
private def long : Pattern := .opt (.oneOf "lL")

/-- The mark of a floating point number. -/
private def floatMark : Pattern := .oneOf "fFdD"

/-- Decimal integers. -/
def decimalInteger : Pattern := .seq [digits, long]

/-- Hexadecimal integers. -/
def hexInteger : Pattern := .seq [hexOpening, groups .hexDigit, long]

/-- Octal integers. -/
def octalInteger : Pattern :=
  .seq [.choice [.text "0o", .text "0O", .text "0"], groups .octalDigit, long]

/-- Binary integers. -/
def binaryInteger : Pattern :=
  .seq [.choice [.text "0b", .text "0B"], groups (.span '0' '1'), long]

/-- Decimal floating point numbers. -/
def decimalFloat : Pattern :=
  let decimal := groups .digit
  let sign := Pattern.opt (.oneOf "-+")
  let exponent := Pattern.seq [.oneOf "eE", sign, decimal]
  .choice
    [.seq [decimal, .text ".", .opt decimal, .opt exponent, .opt floatMark],
      .seq [.text ".", decimal, .opt exponent, .opt floatMark],
      .seq [digits, .oneOf "eEpP", sign, decimal, .opt floatMark],
      .seq [digits, .opt exponent, floatMark]]

/-- Hexadecimal floating point numbers. -/
def hexFloat : Pattern :=
  let hex := groups .hexDigit
  .seq
    [hexOpening,
      .choice [.seq [hex, .opt (.text ".")], .seq [.opt hex, .text ".", hex]],
      .opt (.seq [.oneOf "eEpP", .opt (.oneOf "-+"), digits, .opt floatMark])]

/-- Characters. -/
def character : Pattern :=
  .seq
    [.text "'",
      .many1
        (.choice
          [.noneOf "\\'\n", .seq [.text "\\", .set .notNewline], .text "\\\n"]),
      .text "'"]

/-- Text in a string. -/
def stringText : TokenRule :=
  { matcher := .pattern (.many1 (.noneOf "\"\\")), rank := 1, immediate := true }

/-- Text in a text block. -/
def blockText : TokenRule := { matcher := .pattern (.many1 (.noneOf "\"\\")) }

/-- A quote in a text block, with the text after it. -/
def quotedBlockText : TokenRule :=
  { matcher :=
      .pattern (.seq [.text "\"", .many (.either (.noneOf "\"\\") (.text "\\\""))]) }

/-- Escape sequences. -/
def escapeSequence : Pattern :=
  let hex := Pattern.set .hexDigit
  .seq
    [.text "\\",
      .choice
        [.set (.complement (.union (.ofString "xu") .octalDigit)),
          .seq [.set .octalDigit, .upTo (.set .octalDigit) 2], .seq [.text "x", .times hex 2],
          .seq [.text "u", .times hex 4],
          .seq [.text "u\x7b", .many1 hex, .text "\x7d"]]]

/-- A backslash with a character that it does not escape. -/
def plainEscape : Pattern := .seq [.text "\\", .noneOf "bfnrts'\"\\"]

/-- Identifiers. -/
def identifier : Pattern :=
  .seq
    [.set (.any [.identifierStart, .ofString "_$"]),
      .many (.set (.any [.identifierContinue, .ofString "_$", .char '\u00A2']))]

/-- Comments to the end of the line. -/
def lineComment : Pattern := .seq [.text "//", .many (.set .notNewline)]

/-- Comments with an end of their own. -/
def blockComment : Pattern :=
  .seq
    [.text "/*", .many (.noneOf "*"), .many1 (.text "*"),
      .many (.seq [.noneOf "/*", .many (.noneOf "*"), .many1 (.text "*")]), .text "/"]

end CallAtlas.Languages.Java

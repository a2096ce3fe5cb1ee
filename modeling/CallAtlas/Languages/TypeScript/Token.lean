import CallAtlas.Syntax.Rule

/-!
# Tokens of TypeScript
-/

namespace CallAtlas.Languages.TypeScript

open CallAtlas.Syntax

/-- The blanks of the language, over and above those of ASCII. -/
def blank : CharSet :=
  .any
    [.blank, .spaceSeparator, .char '\uFEFF', .char '\u2028', .char '\u2029', .char '\u2060',
      .char '\u200B']

/-- What stands neither at the beginning of an identifier nor inside one. -/
private def boundary : CharSet :=
  .union (.range 0 0x1F) (.union blank (.ofString ":;`\"'@#.,|^&<=>+-*/\\%?!~()[]\x7b\x7d"))

/-- A code point written by its number. -/
private def numbered : Pattern :=
  .choice
    [.seq [.text "\\u", .times (.set .hexDigit) 4],
      .seq [.text "\\u\x7b", .many1 (.set .hexDigit), .text "\x7d"]]

/-- Identifiers: all but blanks and operators may stand in them, and digits not at the
beginning. -/
def identifier : Pattern :=
  .seq
    [.either (.set (.complement (.union boundary .digit))) numbered,
      .many (.either (.set (.complement boundary)) numbered)]

/-- The names of private members. -/
def privateIdentifier : Pattern := .seq [.text "#", identifier]

/-- The part of an identifier of markup that tells it from other identifiers. -/
def dashedIdentifier : TokenRule :=
  let letters := CharSet.any [.span 'a' 'z', .span 'A' 'Z', .ofString "_$"]
  let inner := CharSet.union letters .digit
  .ofPattern
    (.seq
      [.set letters, .many (.set inner), .text "-", .many (.set (.union inner (.char '-')))])

/-- Digits with single separators between them. -/
private def digits (digit : CharSet) : Pattern :=
  .seq [.set digit, .many (.seq [.opt (.text "_"), .set digit])]

/-- Number literals. -/
def number : Pattern :=
  let decimal := digits .digit
  let exponent := Pattern.seq [.oneOf "eE", .opt (.oneOf "+-"), decimal]
  let hex := Pattern.seq [.choice [.text "0x", .text "0X"], digits .hexDigit]
  let binary := Pattern.seq [.choice [.text "0b", .text "0B"], digits (.span '0' '1')]
  let octal := Pattern.seq [.choice [.text "0o", .text "0O"], digits .octalDigit]
  let whole :=
    Pattern.choice
      [.text "0",
        .seq
          [.opt (.text "0"), .set (.span '1' '9'), .opt (.seq [.opt (.text "_"), decimal])]]
  .choice
    [hex, .seq [whole, .text ".", .opt decimal, .opt exponent],
      .seq [.text ".", decimal, .opt exponent], .seq [whole, exponent], decimal, binary, octal,
      .seq [.choice [hex, binary, octal, decimal], .text "n"]]

/-- Escape sequences. -/
def escapeSequence : Pattern :=
  let hex := Pattern.set .hexDigit
  .seq
    [.text "\\",
      .choice
        [.set (.complement (.union (.ofString "xu") .octalDigit)),
          .seq [.set .octalDigit, .upTo (.set .octalDigit) 2], .seq [.text "x", .times hex 2],
          .seq [.text "u", .times hex 4],
          .seq [.text "u\x7b", .many1 hex, .text "\x7d"],
          .seq [.oneOf "\r?", .oneOf "\n\u2028\u2029"]]]

/-- Text in a double-quoted string. -/
def doubleText : TokenRule :=
  { matcher := .pattern (.many1 (.noneOf "\"\\\r\n")), rank := 1, immediate := true }

/-- Text in a single-quoted string. -/
def singleText : TokenRule :=
  { matcher := .pattern (.many1 (.noneOf "'\\\r\n")), rank := 1, immediate := true }

/-- Text in an attribute of markup. -/
private def attributeText (quote : String) : TokenRule :=
  let notReference :=
    Pattern.seq
      [.text "&", .set (.complement (.any [.char '#', .span 'A' 'Z', .span 'a' 'z']))]
  { matcher := .pattern (.many1 (.either (.noneOf (quote ++ "&")) notReference)), rank := 1,
    immediate := true }

/-- Text in a double-quoted attribute. -/
def doubleAttributeText : TokenRule := attributeText "\""

/-- Text in a single-quoted attribute. -/
def singleAttributeText : TokenRule := attributeText "'"

/-- Text in markup. It neither begins nor ends with a space and does not go beyond its line. -/
def markupText : TokenRule :=
  .ofPattern
    (.seq
      [.noneOf "\x7b\x7d<>\n& ",
        .opt (.seq [.many (.noneOf "\x7b\x7d<>\n&"), .noneOf "\x7b\x7d<>\n& "])])

/-- Text in markup after two slashes, up to the end of its line. -/
def slashedText : TokenRule := .ofPattern (.seq [.text "//", .many (.noneOf "\n")])

/-- A character written by its name or number in markup. -/
def characterReference : TokenRule :=
  let letter := Pattern.set (.union (.span 'A' 'Z') (.span 'a' 'z'))
  .ofPattern
    (.seq
      [.text "&",
        .choice
          [.seq
              [.text "#",
                .choice
                  [.seq [.oneOf "xX", .set .hexDigit, .upTo (.set .hexDigit) 5],
                    .seq [.set .digit, .upTo (.set .digit) 4]]],
            .seq [letter, .upTo letter 29]],
        .text ";"])

/-- Comments. -/
def comment : Pattern :=
  .choice
    [.seq [.text "//", .many (.noneOf "\r\n\u2028\u2029")],
      .seq
        [.text "/*", .many (.noneOf "*"), .many1 (.text "*"),
          .many (.seq [.noneOf "/*", .many (.noneOf "*"), .many1 (.text "*")]), .text "/"]]

/-- A character in the template of a component. -/
def componentText : TokenRule := { matcher := .pattern (.set .notNewline) }

/-- The inside of a regular expression. -/
def regexText : TokenRule :=
  let escaped := Pattern.seq [.text "\\", .set .notNewline]
  { matcher :=
      .pattern
        (.many1
          (.choice
            [.seq [.text "[", .many (.either escaped (.noneOf "]\n\\")), .text "]"], escaped,
              .noneOf "/\\[\n"]))
    rank := -1
    immediate := true }

/-- The letters after a regular expression. -/
def regexFlags : TokenRule := .adjoining (.many1 (.set (.span 'a' 'z')))

end CallAtlas.Languages.TypeScript

import CallAtlas.Failure
import CallAtlas.Languages.C.Outline
import CallAtlas.Languages.Go.Outline
import CallAtlas.Languages.Java.Outline
import CallAtlas.Languages.Python.Outline
import CallAtlas.Languages.TypeScript.Outline

/-!
# Adapters

An adapter makes the outline of a text in one language, or throws. The adapter of a language with
a grammar parses the text first and refuses texts with syntax errors.
-/

namespace CallAtlas

open Syntax

/-- What makes the outline of a text in some language. -/
structure Adapter where
  /-- The language tag. -/
  languageId : Text
  /-- The extensions of the files that the adapter is made for. -/
  extensions : List String := []
  /-- A grammar that the adapter asks for although there is no such grammar. -/
  missingGrammar : Option Text := none
  /-- The outline of a text. -/
  outline : (content path : Text) → Except Thrown Outline

namespace Adapter

/-- A tree, or the syntax error in it. -/
def accept (tree : Tree) : Except Thrown Tree :=
  if tree.hasError then
    .error (.failure (Failure.syntaxNear (tree.firstError.startPoint.row + 1)))
  else .ok tree

/-- The tree of a text, or the syntax error in it. -/
def parse (language : Language) (source : Source) : Except Thrown Tree :=
  accept (language.parse source)

/-- The adapter of a language. -/
def ofLanguage (languageId : String) (extensions : List String) (language : Language)
    (outline : Source → Tree → Outline) : Adapter :=
  { languageId := Text.ofString languageId
    extensions
    outline := fun content _ => do
      let source := Source.ofText content
      return outline source (← parse language source) }

/-- The adapter of a language whose grammar does not exist. No text can be parsed. -/
def withoutGrammar (languageId grammar : Text) : Adapter :=
  { languageId
    missingGrammar := some grammar
    outline := fun _ path =>
      .error (.failure (Failure.of .parse
        (Text.ofString "No " ++ grammar ++ Text.ofString " parser available for " ++ path))) }

/-- The extensions of TypeScript files. -/
def typescriptExtensions : List String := [".ts", ".mts", ".cts", ".tsx"]

/-- TypeScript with type assertions. -/
def typescript : Adapter :=
  ofLanguage "typescript" typescriptExtensions Languages.TypeScript.assertionLanguage
    Languages.TypeScript.outline

/-- TypeScript with markup. -/
def tsx : Adapter :=
  ofLanguage "typescript" typescriptExtensions Languages.TypeScript.markupLanguage
    Languages.TypeScript.outline

/-- JavaScript, which is read as TypeScript with markup. -/
def javascript : Adapter :=
  ofLanguage "javascript" [".js", ".jsx", ".mjs", ".cjs"]
    Languages.TypeScript.markupLanguage Languages.TypeScript.outline

/-- C. -/
def c : Adapter := ofLanguage "c" [".c", ".h"] Languages.C.language Languages.C.outline

/-- Go. -/
def go : Adapter := ofLanguage "go" [".go"] Languages.Go.language Languages.Go.outline

/-- Java. -/
def java : Adapter :=
  ofLanguage "java" [".java"] Languages.Java.language Languages.Java.outline

/-- Python. -/
def python : Adapter :=
  ofLanguage "python" [".py", ".pyi"] Languages.Python.language
    Languages.Python.outline

end Adapter

end CallAtlas

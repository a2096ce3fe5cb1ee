import CallAtlas.Model.Lines

/-!
# From an outline to definitions

The declarations of an outline become the definitions of a file in four steps: their lines are
brought into the file, repeated declarations are dropped, the rest is ordered by first line with
outer declarations before inner ones, and declarations that partially overlap an earlier one
are dropped. What is left nests or lies apart, and each call goes to the innermost definition
that covers its line. Calls outside every definition go to one that stands for the module, which
exists only if there are such calls.
-/

namespace CallAtlas

namespace Declaration

/-- The enclosing class, unless its name is empty. -/
def owner? (d : Declaration) : Option Text := d.className.filter fun c => !c.isEmpty

/-- The name with that of the enclosing class before it. -/
def qualifiedName (d : Declaration) : Text := Outline.qualify d.owner? d.name

end Declaration

namespace Assembly

/-- A number brought between two bounds. -/
def clamp (n low high : Number) : Number :=
  Number.atMost high (Number.atLeast low n)

/-- The last line of a file; an empty file has one line. -/
def lastLine (lineCount : Number) : Number := Number.atLeast 1 lineCount

/-- A declaration with its lines brought into the file. -/
def clampDeclaration (lineCount : Number) (d : Declaration) : Declaration :=
  let first := clamp d.startLine 1 (lastLine lineCount)
  { d with startLine := first, endLine := clamp d.endLine first (lastLine lineCount) }

/-- Do two declarations say the same? -/
def same (a b : Declaration) : Bool :=
  a.kind == b.kind && a.qualifiedName == b.qualifiedName && a.range == b.range

/-- The declarations without those that repeat an earlier one. -/
def dropRepeated : List Declaration → List Declaration
  | [] => []
  | d :: ds => d :: (dropRepeated ds).filter fun e => !same d e

/-- By first line, and outer declarations before inner ones. -/
def outerFirst (a b : Declaration) : Bool :=
  a.startLine < b.startLine || (a.startLine == b.startLine && b.endLine ≤ a.endLine)

/-- The declarations in order; equal ranges keep their places. -/
def order (ds : List Declaration) : List Declaration := ds.mergeSort outerFirst

/-- Drops ordered declarations that partially overlap an earlier one that was kept. `opened`
holds the kept declarations that are still open, the innermost first. -/
def dropOverlaps (opened : List Declaration) : List Declaration → List Declaration
  | [] => []
  | d :: ds =>
    let opened := opened.dropWhile fun o => o.endLine < d.startLine
    match opened with
    | [] => d :: dropOverlaps [d] ds
    | parent :: _ =>
      if parent.range.contains d.range then d :: dropOverlaps (d :: opened) ds
      else dropOverlaps opened ds

/-- The declarations that become definitions. -/
def settle (lineCount : Number) (ds : List Declaration) : List Declaration :=
  dropOverlaps [] (order (dropRepeated (ds.map (clampDeclaration lineCount))))

/-- By line, then by column. -/
def callBefore (a b : CallSite) : Bool :=
  a.line < b.line || (a.line == b.line && a.column ≤ b.column)

/-- Calls by place; calls at the same place keep their order. -/
def orderCalls (cs : List CallSite) : List CallSite := cs.mergeSort callBefore

/-- The declaration that a call belongs to, with its number. -/
def ownerOf (kept : List Declaration) (c : CallSite) : Option (Declaration × Nat) :=
  LineRange.innermost? (fun (p : Declaration × Nat) => p.1.range) kept.zipIdx c.line

/-- The calls of one declaration, by its number, or for none those outside all of them. -/
def callsOf (kept : List Declaration) (calls : List CallSite) (number : Option Nat) :
    List CallSite :=
  orderCalls (calls.filter fun c => (ownerOf kept c).map Prod.snd == number)

/-- The definition of a declaration. -/
def define (filePath : Text) (d : Declaration) (calls : List CallSite) : Definition :=
  { kind := .declared d.kind
    name := d.name
    qualifiedName := d.qualifiedName
    className := d.owner?
    filePath
    startLine := d.startLine
    endLine := d.endLine
    calls }

/-- The definition that stands for the module. -/
def moduleDefinition (filePath : Text) (lineCount : Number) (calls : List CallSite) : Definition :=
  { kind := .module
    name := moduleName
    qualifiedName := moduleName
    filePath
    startLine := 1
    endLine := lastLine lineCount
    calls }

/-- The definitions of a file. -/
def definitions (filePath : Text) (lineCount : Number) (declarations : List Declaration)
    (calls : List CallSite) : List Definition :=
  let kept := settle lineCount declarations
  let outside := callsOf kept calls none
  let inside := kept.zipIdx.map fun (d, i) => define filePath d (callsOf kept calls (some i))
  if outside.isEmpty then inside else moduleDefinition filePath lineCount outside :: inside

end Assembly

end CallAtlas

import CallAtlas.Model.Basic

/-!
# The symbol index

The symbol index of a model maps each bare name to the definitions that carry it, by file path and
then in the order of the file. Definitions that stand for a module are not in it.
-/

namespace CallAtlas

/-- A definition in the index, with the language of its file. -/
structure IndexedDefinition where
  language : Text
  definition : Definition
deriving DecidableEq, Inhabited

/-- The definitions of a model by name, in the order in which the names first appear. -/
structure SymbolIndex where
  buckets : List (Text × List IndexedDefinition) := []

namespace RepoModel

/-- The files of a model in the order of their paths. -/
def filesByPath (m : RepoModel) : List (Text × FileModel) :=
  m.files.mergeSort fun a b => !Text.before b.1 a.1

/-- The definitions of a model that can be looked up, in order. -/
def symbols (m : RepoModel) : List IndexedDefinition :=
  m.filesByPath.flatMap fun f =>
    (f.2.definitions.filter fun d => !d.isModule).map fun d => ⟨f.2.language, d⟩

end RepoModel

namespace SymbolIndex

/-- Puts a definition at the end of the bucket of its name. -/
def insert (e : IndexedDefinition) :
    List (Text × List IndexedDefinition) → List (Text × List IndexedDefinition)
  | [] => [(e.definition.name, [e])]
  | (name, bucket) :: rest =>
    if name = e.definition.name then (name, bucket ++ [e]) :: rest
    else (name, bucket) :: insert e rest

/-- The index of a model. -/
def build (m : RepoModel) : SymbolIndex :=
  ⟨m.symbols.foldl (fun buckets e => insert e buckets) []⟩

/-- The definitions that carry a name, in files of one language if one is given. -/
def resolve (index : SymbolIndex) (name : Text) (language : Option Text := none) :
    List Definition :=
  let bucket := (index.buckets.lookup name).getD []
  let matching :=
    match language with
    | none => bucket
    | some l => bucket.filter fun e => e.language = l
  matching.map IndexedDefinition.definition

/-- The names in the index, sorted. -/
def names (index : SymbolIndex) : List Text := Text.sort (index.buckets.map Prod.fst)

/-- The number of definitions in the index. -/
def size (index : SymbolIndex) : Nat := index.buckets.foldr (fun b n => b.2.length + n) 0

end SymbolIndex

end CallAtlas

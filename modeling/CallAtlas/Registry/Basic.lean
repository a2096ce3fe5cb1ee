import CallAtlas.Languages.Adapter
import CallAtlas.Log.Basic
import CallAtlas.Path.Basic

/-!
# The registry of adapters

The registry maps file extensions, in lower case, to adapters. An adapter is made when it is first
asked for and kept from then on; a failure to make it is logged, and it is tried again the next
time. What was thrown instead of an adapter may have no text for the log, and then asking throws. A
custom adapter replaces what was registered for its extension, and a language is found through the
first extension registered for it.
-/

namespace CallAtlas

/-- What makes an adapter: the adapter, or what is thrown instead. -/
abbrev AdapterFactory := Except Thrown Adapter

/-- An adapter that was made, with a number that no other one has. -/
structure AdapterInstance where
  number : Nat
  adapter : Adapter

/-- What is registered for an extension. -/
structure RegistryEntry where
  languageId : Text
  factory : AdapterFactory
  /-- The entry is there from the beginning. -/
  builtin : Bool
  made : Option AdapterInstance := none
  /-- How often the factory was asked. -/
  asked : Nat := 0

/-- The registered extensions, in order. -/
structure Registry where
  entries : List (Text × RegistryEntry)
  /-- The number of the next adapter that is made. -/
  nextNumber : Nat := 0
  /-- The grammars that were asked for and do not exist. -/
  missed : List Text := []

namespace Registry

/-- The built-in adapters by extension. -/
def builtins : List (String × Adapter) :=
  [(".py", .python), (".pyi", .python), (".ts", .typescript), (".mts", .typescript),
    (".cts", .typescript), (".tsx", .tsx), (".js", .javascript), (".jsx", .javascript),
    (".mjs", .javascript), (".cjs", .javascript), (".go", .go),
    (".java", .java), (".c", .c), (".h", .c)]

/-- The entries that are there from the beginning. -/
def builtinEntries : List (Text × RegistryEntry) :=
  builtins.map fun b =>
    (Text.ofString b.1, { languageId := b.2.languageId, factory := .ok b.2, builtin := true })

/-- The registry with the built-in adapters. -/
def initial : Registry := { entries := builtinEntries }

/-- Forgets all custom adapters and all adapters that were made. -/
def reset (r : Registry) : Registry := { r with entries := builtinEntries }

/-- What is registered for an extension. -/
def entry? (r : Registry) (extension : Text) : Option RegistryEntry :=
  r.entries.lookup extension.toLower

/-- Puts an entry in its place, which is the end for a new extension. -/
def put (extension : Text) (entry : RegistryEntry) :
    List (Text × RegistryEntry) → List (Text × RegistryEntry)
  | [] => [(extension, entry)]
  | e :: rest => if e.1 = extension then (extension, entry) :: rest else e :: put extension entry rest

/-- Registers an adapter for an extension. -/
def register (r : Registry) (extension languageId : Text) (factory : AdapterFactory) :
    Registry × List LogEntry :=
  let key := extension.toLower
  let replaced := ((r.entry? extension).map RegistryEntry.builtin).getD false
  let log :=
    if replaced then
      [.withValues .warn (Text.ofString "Overriding built-in adapter for extension " ++ key)
        [("languageId", .str languageId)]]
    else []
  ({ r with entries := put key { languageId, factory, builtin := false } r.entries }, log)

/-- Asks for the adapter of an extension, which is made if it was not yet. A failure to make it is
logged with the text of what was thrown; a value that has no text makes room for another error. -/
def askExtension (r : Registry) (extension : Text) :
    Registry × Except Thrown (Option AdapterInstance) × List LogEntry :=
  let key := extension.toLower
  match r.entry? extension with
  | none => (r, .ok none, [])
  | some e =>
    match e.made with
    | some i => (r, .ok (some i), [])
    | none =>
      match e.factory with
      | .ok adapter =>
        let i : AdapterInstance := ⟨r.nextNumber, adapter⟩
        ({ r with
           entries := put key { e with made := some i, asked := e.asked + 1 } r.entries
           nextNumber := r.nextNumber + 1 }, .ok (some i), [])
      | .error thrown =>
        let r := { r with entries := put key { e with asked := e.asked + 1 } r.entries }
        match thrown.text? with
        | some message =>
          let log := LogEntry.withValues .error
            (Text.ofString "Failed to create adapter for extension " ++ key)
            [("source", if e.builtin then "builtin" else "custom"), ("error", .str message)]
          (r, .ok none, [log])
        | none => (r, .error .withoutText, [])

/-- Asks for the adapter of a language: that of the first extension registered for it. -/
def askLanguage (r : Registry) (languageId : Text) :
    Registry × Except Thrown (Option AdapterInstance) × List LogEntry :=
  match r.entries.find? fun e => e.2.languageId == languageId with
  | none => (r, .ok none, [])
  | some e => r.askExtension e.1

/-- The adapter for an extension, if asking for it gives one. -/
def forExtension (r : Registry) (extension : Text) :
    Registry × Option AdapterInstance × List LogEntry :=
  let (r, answer, log) := r.askExtension extension
  (r, answer.toOption.join, log)

/-- The adapter for a language, if asking for it gives one. -/
def forLanguage (r : Registry) (languageId : Text) :
    Registry × Option AdapterInstance × List LogEntry :=
  let (r, answer, log) := r.askLanguage languageId
  (r, answer.toOption.join, log)

/-- What is reported of a grammar that does not exist. -/
def noParserEntry (grammar : Text) : LogEntry :=
  .withValues .error (Text.ofString "Failed to create parser for " ++ grammar)
    [("error", "Invalid language object")]

/-- Asks for the grammar of an adapter. A grammar that does not exist is reported once. -/
def requestGrammar (r : Registry) (adapter : Adapter) : Registry × List LogEntry :=
  match adapter.missingGrammar with
  | none => (r, [])
  | some grammar =>
    if r.missed.contains grammar then (r, [])
    else ({ r with missed := grammar :: r.missed }, [noParserEntry grammar])

/-- The registered extensions, in order. -/
def extensions (r : Registry) : List Text := r.entries.map Prod.fst

/-- The language of an extension. -/
def languageOf? (r : Registry) (extension : Text) : Option Text :=
  (r.entry? extension).map RegistryEntry.languageId

/-- The language of a path, by its extension. -/
def detect? (r : Registry) (path : Text) : Option Text :=
  let extension := Path.extensionOf path
  if extension.isEmpty then none else r.languageOf? extension

end Registry

end CallAtlas

import Reflection.Acting
import Reflection.Config.Basic
import Reflection.Database
import Reflection.Json.Printer
import Reflection.Json.Reader

/-!
# Config registries

A config registry keeps values by key. A document maps each key to a registered type name and a
value in JSON. Loading a document binds all of its keys or, on the first entry that does not fit,
none; saving writes every value under the name of its type.
-/
namespace Reflection

/-- Values by key, of types registered in one database. -/
structure ConfigRegistry where
  database : String
  entries : Dictionary Any := .empty

namespace ConfigRegistry

/-- The registry over a database in which no key is bound. -/
def ofDatabase (database : String) : ConfigRegistry := ⟨database, .empty⟩

/-- Bind a key: the value it had, and the registry. -/
def set (registry : ConfigRegistry) (key : String) (value : Any) : Option Any × ConfigRegistry :=
  (registry.entries.find? key, { registry with entries := registry.entries.insert key value })

/-- A const reference to the value of a key. -/
def get (registry : ConfigRegistry) (key : String) : Option Any :=
  (registry.entries.find? key).map (·.asRef)

/-- The value of a key as a value of some type. -/
def getAs (registry : ConfigRegistry) (types : Types) (key : String) (type : Ty) :
    Fallible ConfigError Value :=
  match registry.entries.find? key with
  | none => throw (.missingKey key)
  | some value => do
    let part ← (value.cast types type).mapError .reflection
    pure (value.read part.path)

/-- Overwrite the value of a key as a value of some type: what it was, and the registry. -/
def update (registry : ConfigRegistry) (types : Types) (key : String) (type : Ty) (new : Value) :
    Fallible ConfigError (Value × ConfigRegistry) :=
  match registry.entries.find? key with
  | none => throw (.missingKey key)
  | some value => do
    let part ← (value.castMut types type).mapError .reflection
    pure (value.read part.path,
      { registry with entries := registry.entries.insert key (value.put part.path new) })

/-- Remove a key: its value, and the registry. -/
def remove (registry : ConfigRegistry) (key : String) : Option Any × ConfigRegistry :=
  (registry.entries.find? key, { registry with entries := registry.entries.erase key })

/-- The value an entry of a document describes. -/
def readEntry (format : ConfigFormat) (scope : Scope) (key : String) (entry : Json) :
    Except ConfigError Any := do
  let some typeName := (entry.member? "type").bind Json.string?
    | .error (.invalidDocument s!"'{key}' has no type name")
  let some json := entry.member? "value"
    | .error (.invalidDocument s!"'{key}' has no value")
  let some type := scope.database.get typeName | .error (.unknownType typeName)
  let codec ← format.codecOf scope.types (some type)
  let value ← codec.deserialize json
  if value.type? ≠ some type then
    .error (.invalidDocument
      s!"'{key}' deserialized as '{value.typeName scope.types}', expected '{typeName}'")
  else .ok value

/-- The values the entries of a document describe, up to the first that does not fit. -/
def readEntries (format : ConfigFormat) (scope : Scope) :
    List (String × Json) → Except ConfigError (List (String × Any))
  | [] => .ok []
  | (key, entry) :: rest => do
    let value ← readEntry format scope key entry
    let values ← readEntries format scope rest
    .ok ((key, value) :: values)

/-- Bind the keys of a document: how many there are. -/
def loadValue (format : ConfigFormat) (store : Store) (registry : ConfigRegistry)
    (document : Json) : Acted ConfigRegistry ConfigError Nat :=
  Acting.on registry <|
    match document.members? with
    | none => throw (.invalidDocument "expected an object at the top level")
    | some members => do
      let loaded ← .attempt
        (.ofExcept (readEntries format (store.scope registry.database) members))
      modify fun registry => { registry with entries := registry.entries.insertAll loaded }
      .attempt (.ofLogged (.note .debug s!"Loaded {loaded.length} config entries"))
      pure loaded.length

/-- Bind the keys of a document given as text. -/
def loadText (format : ConfigFormat) (store : Store) (registry : ConfigRegistry)
    (text : String) : Acted ConfigRegistry ConfigError Nat :=
  match Json.read? text with
  | none => Acting.on registry (throw .json)
  | some document => registry.loadValue format store document

/-- Bind the keys of a document in a file, given what the file contains if it can be reached. -/
def loadFile (format : ConfigFormat) (store : Store) (registry : ConfigRegistry) (path : String) :
    Option String → Acted ConfigRegistry ConfigError Nat
  | some contents => registry.loadText format store contents
  | none => Acting.on registry (throw (.missingFile path))

/-- Write the values of some entries. -/
def writeEntries (format : ConfigFormat) (types : Types) :
    List (String × Any) → Fallible ConfigError (List (String × Json))
  | [] => pure []
  | (key, value) :: rest => do
    let codec ← Fallible.ofExcept (format.codecOf types value.type?)
    let json ← codec.serialize types value
    let entry := Json.ofMembers [("type", .string (value.typeName types)), ("value", json)]
    let others ← writeEntries format types rest
    pure ((key, entry) :: others)

/-- The document of all entries. -/
def toValue (format : ConfigFormat) (types : Types) (registry : ConfigRegistry) :
    Fallible ConfigError Json := do
  let members ← writeEntries format types registry.entries.entries
  pure (.object members)

/-- The document of all entries as text over several lines. -/
def toText (format : ConfigFormat) (types : Types) (registry : ConfigRegistry) :
    Fallible ConfigError String := do
  pure (← registry.toValue format types).pretty

/-- What is written to a file, if it can be reached; the document is made first. -/
def saveFile (format : ConfigFormat) (types : Types) (registry : ConfigRegistry) (path : String)
    (reachable : Bool) : Fallible ConfigError String := do
  let text ← registry.toText format types
  if reachable then pure text else throw (.missingFile path)

end ConfigRegistry

end Reflection

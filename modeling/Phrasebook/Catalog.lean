import Phrasebook.Dictionary
import Phrasebook.Json.Reader
import Phrasebook.Json.Value
import Phrasebook.Text.Blank

/-!
# Catalogs

A catalog holds the texts of one language: a value for some keys of some namespaces. Its text is
JSON with the namespaces and the keys in code point order, so equal catalogs have equal texts.

This is the resource document of a language (specification, sections 3 and 6), with its reader and
its printer.
-/

namespace Phrasebook

/-- The texts of one language. -/
structure Catalog where
  namespaces : Dictionary (Dictionary String)
  deriving DecidableEq

namespace Catalog

/-- The catalog without namespaces. -/
def empty : Catalog := ⟨Dictionary.empty⟩

instance : Inhabited Catalog := ⟨empty⟩

/-- There are no namespaces. -/
def isEmpty (catalog : Catalog) : Bool := catalog.namespaces.isEmpty

/-- The value of a key. -/
def get? (catalog : Catalog) (ns key : String) : Option String :=
  (catalog.namespaces.get? ns).bind (·.get? key)

/-- Adds a namespace without keys unless it is there. -/
def touch (catalog : Catalog) (ns : String) : Catalog :=
  ⟨catalog.namespaces.insertNew ns Dictionary.empty⟩

/-- Gives a key a value. -/
def insert (catalog : Catalog) (ns key value : String) : Catalog :=
  ⟨catalog.namespaces.modify ns Dictionary.empty (·.insert key value)⟩

/-- Gives a key a value unless it has one. -/
def insertNew (catalog : Catalog) (ns key value : String) : Catalog :=
  ⟨catalog.namespaces.modify ns Dictionary.empty (·.insertNew key value)⟩

/-- Keeps the keys that satisfy a condition, and the namespaces that have any. -/
def retain (keep : String → String → Bool) (catalog : Catalog) : Catalog :=
  ⟨(catalog.namespaces.mapValues fun ns keys => keys.filter fun key _ => keep ns key).filter
    fun _ keys => !keys.isEmpty⟩

/-- The number of keys. -/
def keyCount (catalog : Catalog) : Nat := catalog.namespaces.total (·.size)

/-- The namespaces, keys and values, in order. -/
def toList (catalog : Catalog) : List (String × String × String) :=
  catalog.namespaces.toList.flatMap fun (ns, keys) =>
    keys.toList.map fun (key, value) => (ns, key, value)

/-! ## Text -/

/-- The catalog as a JSON value. -/
def toJson (catalog : Catalog) : Json.Value :=
  .object (catalog.namespaces.toList.map fun (ns, keys) =>
    (ns, .object (keys.toList.map fun (key, value) => (key, .text value))))

/-- The text of a catalog, which ends its last line. -/
def text (catalog : Catalog) : String := catalog.toJson.pretty ++ "\n"

/-- Reads the keys of a namespace. -/
def namespaceReader : Json.Reader (Dictionary String) :=
  Json.Reader.object (fun key keys => do
    Json.Reader.colon
    pure (keys.insert key (← Json.Reader.text))) Dictionary.empty

/-- Reads a catalog. A namespace that occurs again takes the place of the one before. -/
def reader : Json.Reader Catalog :=
  Json.Reader.object (fun ns catalog => do
    Json.Reader.colon
    pure ⟨catalog.namespaces.insert ns (← namespaceReader)⟩) empty

/-- The catalog with a text. A blank text is the empty catalog. -/
def ofText (text : String) : Except Json.Defect Catalog :=
  if Text.isBlankText text then .ok empty else reader.run text

end Catalog

end Phrasebook

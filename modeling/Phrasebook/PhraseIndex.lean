import Phrasebook.Catalog
import Phrasebook.Key

/-!
# Phrases and their keys

The index answers which key a phrase has. A key of the source catalog carries a phrase if its value
is not the untranslated mark: the value itself, or, if the keys are phrases, the text of the key. The
index is built by going through the catalog once. The first key that carries a phrase stands for it;
from its second key on, the phrase is listed as an ambiguity.

Models the namespace index (specification, section 4.1), the loop that builds it included.
-/

namespace Phrasebook

/-- A phrase that several keys of a namespace carry, the first of them standing for it. -/
structure Ambiguity where
  ns : String
  phrase : String
  keys : List String
  deriving DecidableEq, Repr

/-- Lists one more key of a phrase that has a first key: in the entry of the phrase or, if there is
none yet, in a new one. -/
def Ambiguity.note (ns phrase first key : String) : List Ambiguity → List Ambiguity
  | [] => [⟨ns, phrase, [first, key]⟩]
  | entry :: rest =>
    if entry.ns == ns && entry.phrase == phrase then
      { entry with keys := entry.keys ++ [key] } :: rest
    else entry :: note ns phrase first key rest

/-- What an index is made of. Both tables have the shape of a catalog: in each namespace, the phrase
of a key and the key of a phrase. -/
structure PhraseTables where
  keys : Catalog
  phrases : Catalog
  ambiguities : List Ambiguity
  deriving DecidableEq

namespace PhraseTables

/-- The tables without namespaces. -/
def empty : PhraseTables := ⟨Catalog.empty, Catalog.empty, []⟩

/-- The phrase of a key with a value other than the untranslated mark. -/
def phraseOf (language : KeyLanguage) (key value : String) : String :=
  match language with
  | .target => value
  | .source => Key.unescape key

/-- Begins a namespace. -/
def touch (tables : PhraseTables) (ns : String) : PhraseTables :=
  { tables with keys := tables.keys.touch ns, phrases := tables.phrases.touch ns }

/-- Gives a key its phrase. The first key of a phrase claims it. -/
def enter (tables : PhraseTables) (ns key phrase : String) : PhraseTables :=
  let keys := tables.keys.insert ns key phrase
  match tables.phrases.get? ns phrase with
  | none => { tables with keys, phrases := tables.phrases.insert ns phrase key }
  | some first =>
    { tables with keys, ambiguities := Ambiguity.note ns phrase first key tables.ambiguities }

section Reading

variable (language : KeyLanguage) (untranslated : String)

/-- Takes in a key with its value, which may be the untranslated mark. -/
def readKey (ns : String) (tables : PhraseTables) (entry : String × String) : PhraseTables :=
  if entry.2 == untranslated then tables
  else tables.enter ns entry.1 (phraseOf language entry.1 entry.2)

/-- Takes in a namespace. -/
def readNamespace (tables : PhraseTables) (entry : String × Dictionary String) : PhraseTables :=
  entry.2.toList.foldl (readKey language untranslated entry.1) (tables.touch entry.1)

/-- The tables of a source catalog. -/
def ofCatalog (catalog : Catalog) : PhraseTables :=
  catalog.namespaces.toList.foldl (readNamespace language untranslated) empty

end Reading

end PhraseTables

/-- The index of a source catalog. -/
structure PhraseIndex extends PhraseTables where
  built : ∃ language untranslated catalog,
    PhraseTables.ofCatalog language untranslated catalog = toPhraseTables
  deriving DecidableEq

namespace PhraseIndex

/-- The index of a source catalog. -/
def ofCatalog (catalog : Catalog) (language : KeyLanguage) (untranslated : String) :
    PhraseIndex :=
  ⟨PhraseTables.ofCatalog language untranslated catalog, language, untranslated, catalog, rfl⟩

/-- The index of nothing. -/
def empty : PhraseIndex := ofCatalog Catalog.empty .target ""

instance : Inhabited PhraseIndex := ⟨empty⟩

/-- The key that stands for a phrase. -/
def lookup? (index : PhraseIndex) (ns phrase : String) : Option String :=
  index.phrases.get? ns phrase

/-- The phrase that a key carries. -/
def phraseForKey? (index : PhraseIndex) (ns key : String) : Option String :=
  index.keys.get? ns key

/-- The number of keys of a namespace that carry a phrase. -/
def keyCount (index : PhraseIndex) (ns : String) : Nat :=
  ((index.keys.namespaces.get? ns).map (·.size)).getD 0

/-- The number of phrases of all namespaces. -/
def size (index : PhraseIndex) : Nat := index.phrases.keyCount

/-- No key carries a phrase. -/
def isEmpty (index : PhraseIndex) : Bool := index.size == 0

end PhraseIndex

end Phrasebook

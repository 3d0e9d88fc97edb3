import Phrasebook.Dictionary
import Phrasebook.Rewriting

/-!
# Pending phrases

The phrases that wait for a translation, each with the namespaces that ask for it, and the files
that they were found in.

Models the queue of the coordinator and its set of affected files (specification, section 4.3).
-/

namespace Phrasebook

/-- Phrases that wait for a translation. -/
structure Pending where
  /-- The namespaces of each phrase. -/
  requests : Dictionary TextSet
  files : TextSet
  deriving DecidableEq

namespace Pending

/-- No phrases. -/
def empty : Pending := ⟨Dictionary.empty, Dictionary.empty⟩

instance : Inhabited Pending := ⟨empty⟩

/-- Adds a phrase of a namespace that was found in a file. -/
def add (pending : Pending) (phrase ns file : String) : Pending :=
  ⟨pending.requests.modify phrase Dictionary.empty (·.add ns), pending.files.add file⟩

/-- Adds phrases without a key. -/
def addUnresolved (pending : Pending) (unresolved : List Unresolved) : Pending :=
  unresolved.foldl (fun pending phrase =>
    pending.add phrase.phrase phrase.ns phrase.location.file) pending

/-- The phrases, in order. -/
def phrases (pending : Pending) : List String := pending.requests.keys

/-- The phrases with their namespaces, in order. -/
def pairs (pending : Pending) : List (String × String) :=
  pending.requests.toList.flatMap fun (phrase, namespaces) =>
    namespaces.keys.map fun ns => (phrase, ns)

/-- The number of phrases, each counted once for every namespace. -/
def size (pending : Pending) : Nat := pending.pairs.length

end Pending

end Phrasebook

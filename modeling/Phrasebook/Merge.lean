import Phrasebook.Outcome

/-!
# Merging catalogs

`Merge.run` brings a source and a target catalog in line with the keys that scripts use. Both
catalogs get the same keys. Values that are there stay; a missing value is filled in from what is
known of its key, or is the untranslated mark.

Models `merge` of the reconciler (specification, section 4.4).
-/

namespace Phrasebook

/-- How catalogs are merged. -/
structure Merge where
  keyLanguage : KeyLanguage
  /-- The value of keys without a known one. -/
  untranslated : String
  /-- Keys that no script uses are removed. -/
  prune : Bool
  deriving DecidableEq, Repr

/-- Merged catalogs. -/
structure Merged where
  source : Catalog
  target : Catalog
  /-- The number of keys removed from the source catalog. -/
  pruned : Nat
  deriving DecidableEq

namespace Merge

/-- The used keys with their phrases, those of outcomes included. -/
def withOutcomes (used : Catalog) (outcomes : List Outcome) : Catalog :=
  outcomes.foldl (fun used outcome => used.insertNew outcome.ns outcome.key outcome.phrase) used

/-- The catalog without unused keys. -/
def keepUsed (used catalog : Catalog) : Catalog :=
  catalog.retain fun ns key => (used.get? ns key).isSome

/-- The catalog with the used keys. -/
def addUsed (untranslated : String) (used catalog : Catalog) : Catalog :=
  used.toList.foldl (fun catalog (ns, key, _) => catalog.insertNew ns key untranslated) catalog

/-- The catalog with the namespaces and keys of another one. -/
def addKeys (untranslated : String) (other catalog : Catalog) : Catalog :=
  other.namespaces.toList.foldl (fun catalog (ns, keys) =>
    keys.keys.foldl (fun catalog key => catalog.insertNew ns key untranslated)
      (catalog.touch ns)) catalog

/-- The catalog with known values in place of the untranslated mark. -/
def fill (untranslated : String) (known? : String → String → Option String) (catalog : Catalog) :
    Catalog :=
  ⟨catalog.namespaces.mapValues fun ns keys => keys.mapValues fun key value =>
    if value = untranslated then (known? ns key).getD value else value⟩

/-- The source value that is known of a key. -/
def sourceValue? (rule : Merge) (used : Catalog) (ns key : String) : Option String :=
  (used.get? ns key).or (if rule.keyLanguage = .source then some (Key.unescape key) else none)

/-- The target value that is known of a key. -/
def targetValue? (rule : Merge) (outcomes : List Outcome) (ns key : String) : Option String :=
  ((outcomes.find? fun outcome => outcome.ns == ns && outcome.key == key).map (·.value)).or
    (if rule.keyLanguage = .target then some (Key.unescape key) else none)

/-- The catalogs after outcomes, when scripts use some keys. -/
def run (rule : Merge) (outcomes : List Outcome) (used source target : Catalog) : Merged :=
  let used := withOutcomes used outcomes
  let keep := fun catalog => if rule.prune then keepUsed used catalog else catalog
  let extendedSource := addUsed rule.untranslated used (keep source)
  let extendedTarget := addUsed rule.untranslated used (keep target)
  let fullTarget := addKeys rule.untranslated extendedSource extendedTarget
  let fullSource := addKeys rule.untranslated fullTarget extendedSource
  { source := fill rule.untranslated (rule.sourceValue? used) fullSource
    target := fill rule.untranslated (rule.targetValue? outcomes) fullTarget
    pruned := source.keyCount - (keep source).keyCount }

end Merge

end Phrasebook

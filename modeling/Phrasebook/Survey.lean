import Phrasebook.SourceScope

/-!
# Surveys

A survey goes through all source files and notes the keys of the phrases in their marker calls. A
phrase has the key of its outcome, if it was just translated, or else the one in the index. Files
that cannot be searched are noted as failures.

Models the full scan (specification, section 4.4a) and the keys that it observes.
-/

namespace Phrasebook

/-- A file that could not be searched, and why. -/
structure FileFailure where
  file : String
  message : String
  deriving DecidableEq, Repr

/-- What a survey found. -/
structure Survey where
  /-- The keys in use, with their phrases. -/
  used : Catalog
  failures : List FileFailure
  /-- The number of files gone through. -/
  files : Nat
  deriving DecidableEq

namespace Survey

/-- Every file could be searched. -/
def isComplete (survey : Survey) : Bool := survey.failures.isEmpty

/-- The key of a phrase, by the outcomes and then by the index. -/
def keyOf? (outcomes : List Outcome) (index : PhraseIndex) (ns phrase : String) :
    Option String :=
  ((outcomes.find? fun outcome => outcome.ns == ns && outcome.phrase == phrase).map (·.key)).or
    (index.lookup? ns phrase)

/-- A key in use. -/
structure Use where
  ns : String
  key : String
  phrase : String
  deriving DecidableEq, Repr

/-- The use of a key that a marker call is. -/
def use? (rules : MarkerRules) (key? : String → String → Option String) (call : MarkerCall) :
    Option Use :=
  if rules.namespaces.contains call.namespaceName then
    (key? call.namespaceName call.phrase).map fun key =>
      ⟨call.namespaceName, key, call.phrase⟩
  else none

/-- The uses of keys in a file. -/
def usesOf (scope : SourceScope) (rules : MarkerRules)
    (key? : String → String → Option String) (tree : FileTree) (file : String) :
    Except Problem (List Use) := do
  let unit ← ((scope.readUnit file).runOn tree).1
  (rules.find unit).map fun calls => calls.filterMap (use? rules key?)

/-- The survey with what was found in one more file. -/
def note (survey : Survey) (file : String) (found : Except Problem (List Use)) : Survey :=
  match found with
  | .ok uses =>
    { survey with
      used := uses.foldl (fun used use => used.insert use.ns use.key use.phrase) survey.used
      files := survey.files + 1 }
  | .error problem =>
    { survey with
      failures := survey.failures ++ [⟨file, problem.message⟩]
      files := survey.files + 1 }

/-- The survey of some files. Files below vendor directories are not gone through. -/
def ofFiles (scope : SourceScope) (rules : MarkerRules)
    (key? : String → String → Option String) (tree : FileTree) (files : List String) : Survey :=
  (files.filter (!rules.isVendored ·)).foldl
    (fun survey file => survey.note file (usesOf scope rules key? tree file))
    ⟨Catalog.empty, [], 0⟩

/-- The survey of all source files. -/
def run (scope : SourceScope) (rules : MarkerRules) (outcomes : List Outcome)
    (index : PhraseIndex) (tree : FileTree) : Survey :=
  ofFiles scope rules (keyOf? outcomes index) tree (scope.files tree).keys

end Survey

end Phrasebook

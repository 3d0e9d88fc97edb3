import Phrasebook.Key
import Phrasebook.Marker.Text
import Phrasebook.Path
import Phrasebook.PhraseIndex
import Phrasebook.Problem
import Phrasebook.Script.Calls

/-!
# Rewriting marker calls

A marker call of a phrase with a key becomes a reference to that key: `i18n.s('你好')` becomes
`i18n.t('hello')`, in the quotes of the phrase. Everything else of a unit stays as it is, marker
calls of phrases without a key included. Units below a vendor directory are not looked at.

Models the source rewriter (specification, section 4.2).
-/

namespace Phrasebook

/-- How calls are found in a unit. -/
inductive CallSource where
  /-- In its syntax tree. -/
  | tree
  /-- In its text. -/
  | text
  deriving DecidableEq, Repr, Inhabited

/-- What a build does about phrases without a key. -/
inductive BuildMode where
  /-- They are translated. -/
  | development
  /-- They are a problem. -/
  | production
  deriving DecidableEq, Repr, Inhabited

/-- How a unit is searched for marker calls. -/
structure MarkerRules where
  marker : String
  namespaces : List String
  vendorDirectories : List String
  source : CallSource
  deriving DecidableEq, Repr

/-- A marker call of a phrase without a key. -/
structure Unresolved where
  phrase : String
  ns : String
  location : Location
  sourceLine : String
  deriving DecidableEq, Repr

/-- A rewritten unit. -/
structure Rewriting where
  code : String
  /-- The number of marker calls that became references. -/
  replaced : Nat
  unresolved : List Unresolved
  deriving DecidableEq, Repr

/-- The namespace of the phrase. -/
def MarkerCall.namespaceName (call : MarkerCall) : String := call.ns?.getD Key.defaultNamespace

/-- The problem of a phrase that must have a key. -/
def Unresolved.problem (unresolved : Unresolved) : Problem :=
  .untranslated unresolved.phrase unresolved.ns unresolved.location

/-- The unit changed. -/
def Rewriting.isChanged (rewriting : Rewriting) : Bool := rewriting.replaced > 0

/-! ## Splicing -/

namespace Splice

open Text

/-- The text after an offset, if the offset lies between two characters. -/
def dropBytes? : Nat → List Char → Option (List Char)
  | 0, text => some text
  | _ + 1, [] => none
  | bytes + 1, c :: rest =>
    if c.utf8Size ≤ bytes + 1 then dropBytes? (bytes + 1 - c.utf8Size) rest else none

/-- The text before an offset, if the offset lies between two characters. -/
def takeBytes? : Nat → List Char → Option (List Char)
  | 0, _ => some []
  | _ + 1, [] => none
  | bytes + 1, c :: rest =>
    if c.utf8Size ≤ bytes + 1 then (takeBytes? (bytes + 1 - c.utf8Size) rest).map (c :: ·)
    else none

/-- The text between two offsets. -/
def slice? (start stop : Nat) (text : List Char) : Option (List Char) :=
  if start ≤ stop then (dropBytes? start text).bind (takeBytes? (stop - start)) else none

/-- The text from a cursor on with new texts in place of spans, and the number of replaced spans.
A span that starts before the cursor or inside a character stays as it is. -/
def fromCursor (text : List Char) (cursor : Nat) :
    List (Span × List Char) → List Char × Nat
  | [] => ((dropBytes? cursor text).getD [], 0)
  | (span, replacement) :: rest =>
    match slice? cursor span.start text with
    | none => fromCursor text cursor rest
    | some before =>
      let (after, count) := fromCursor text span.stop rest
      (before ++ replacement ++ after, count + 1)

end Splice

/-! ## Units -/

/-- The calls of a unit whose callee starts with the marker. -/
def CallSource.calls (source : CallSource) (marker : String) (unit : SourceUnit) :
    Except Problem (List Call) :=
  match source with
  | .text => .ok (Marker.Text.calls marker unit)
  | .tree =>
    match Script.calls? marker unit with
    | some calls => .ok calls
    | none => .error (.script unit.path none)

namespace MarkerRules

/-- The path leads through a vendor directory. -/
def isVendored (rules : MarkerRules) (path : String) : Bool :=
  (Path.names path).any rules.vendorDirectories.contains

/-- The marker calls of a unit in the order of their starts. -/
def find (rules : MarkerRules) (unit : SourceUnit) : Except Problem (List MarkerCall) :=
  (rules.source.calls rules.marker unit).map fun calls =>
    (calls.filterMap (Call.marker? rules.marker)).mergeSort fun first second =>
      first.span.start ≤ second.span.start

/-- The marker calls of a unit, all of known namespaces. -/
def findKnown (rules : MarkerRules) (unit : SourceUnit) : Except Problem (List MarkerCall) := do
  let calls ← rules.find unit
  match calls.find? fun call => !rules.namespaces.contains call.namespaceName with
  | some call => .error (.settings (.unknownNamespace call.namespaceName call.location))
  | none => .ok calls

/-- The reference that a marker call becomes, in the quotes of its phrase. -/
def reference (rules : MarkerRules) (call : MarkerCall) (key : String) : List Char :=
  rules.marker.toList ++ ['.', 't', '(']
    ++ Literal.quoteChars (Key.reference call.namespaceName key).toList call.quote ++ [')']

/-- What a marker call becomes. -/
def replacement? (rules : MarkerRules) (index : PhraseIndex) (call : MarkerCall) :
    Option (Span × List Char) :=
  (index.lookup? call.namespaceName call.phrase).map fun key =>
    (call.span, rules.reference call key)

/-- A marker call of a phrase without a key. -/
def unresolved? (index : PhraseIndex) (call : MarkerCall) : Option Unresolved :=
  if (index.lookup? call.namespaceName call.phrase).isSome then none
  else some ⟨call.phrase, call.namespaceName, call.location, call.sourceLine⟩

/-- The unit with references in place of its marker calls. -/
def rewrite (rules : MarkerRules) (index : PhraseIndex) (unit : SourceUnit) :
    Except Problem Rewriting :=
  if rules.isVendored unit.path then .ok ⟨unit.code, 0, []⟩
  else
    (rules.findKnown unit).map fun calls =>
      let (code, replaced) :=
        Splice.fromCursor unit.code.toList 0 (calls.filterMap (rules.replacement? index))
      ⟨String.ofList code, replaced, calls.filterMap (unresolved? index)⟩

/-- The rewritten unit, in which production leaves no phrase without a key. -/
def rewriteIn (rules : MarkerRules) (mode : BuildMode) (index : PhraseIndex)
    (unit : SourceUnit) : Except Problem Rewriting := do
  let rewriting ← rules.rewrite index unit
  match mode, rewriting.unresolved with
  | .production, first :: _ => .error first.problem
  | _, _ => .ok rewriting

end MarkerRules

end Phrasebook

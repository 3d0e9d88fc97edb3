import Phrasebook.Marker
import Phrasebook.Script.Program

/-!
# Calls of a script

`Script.calls?` lists the calls of a script whose callee path starts with a marker, each before
the calls inside it, in the order of the syntax tree.

Models the `ast` call source (specification, section 4.2a): the visitor over the tree of a script.
-/

namespace Phrasebook.Script

open Phrasebook.Text

namespace Node

/-- The static path of a callee: a name or `this`, then members named by a word or by a string in
brackets. -/
def calleePath? : Node → Option (List String)
  | .wrapped _ inner _ => inner.calleePath?
  | .name text => some [text]
  | .form .this _ => some ["this"]
  | .member object property =>
    match property with
    | .name text => object.calleePath?.map (· ++ [text])
    | .form .computed [key] =>
      match key.unwrapped with
      | .string (some value) _ => object.calleePath?.map (· ++ [value])
      | _ => none
    | _ => none
  | _ => none

/-- The argument that an expression is. A template without substitutions counts as a literal in
single quotes. -/
def argument (node : Node) : Argument :=
  match node.unwrapped with
  | .string (some value) quote => .text value quote
  | .template (some value) [] => .text value .single
  | _ => .other

/-- A call as it stands in a tree. -/
structure CallSite where
  start : Nat
  stop : Nat
  calleePath : List String
  arguments : List Argument
  deriving DecidableEq, Repr

/-- The call of a callee at the offsets of its ends, if its path starts with the marker. -/
def site? (marker : String) (start stop : Nat) (callee : Node) (arguments : List Node) :
    Option CallSite :=
  match callee.calleePath? with
  | some (head :: path) =>
    if head = marker then some ⟨start, stop, head :: path, arguments.map argument⟩ else none
  | _ => none

mutual

/-- The calls of a tree, in order. -/
def sites (marker : String) : Node → List CallSite
  | .name _ => []
  | .string _ _ => []
  | .template _ substitutions => sitesOfAll marker substitutions
  | .wrapped _ inner types => sites marker inner ++ sitesOfAll marker types
  | .member object property => sites marker object ++ sites marker property
  | .call start stop callee arguments types =>
    (site? marker start stop callee arguments).toList
      ++ (sites marker callee ++ (sitesOfAll marker arguments ++ sitesOfAll marker types))
  | .form _ parts => sitesOfAll marker parts

/-- The calls of trees, in order. -/
def sitesOfAll (marker : String) : List Node → List CallSite
  | [] => []
  | node :: rest => sites marker node ++ sitesOfAll marker rest

end

end Node

/-- A call site of a text as a call of its unit. -/
def Node.CallSite.call (path : String) (text : List Char) (site : Node.CallSite) : Call :=
  let (before, after) := splitAtOffset site.start text
  let place := Position.betweenMixed before after
  { calleePath := site.calleePath
    arguments := site.arguments
    span := ⟨site.start, site.stop⟩
    location := ⟨path, place.line, place.column⟩
    sourceLine := place.sourceLine }

/-- The calls of a unit, or `none` if it is no script. Offsets and lines count without a byte
order mark. -/
def calls? (marker : String) (unit : SourceUnit) : Option (List Call) :=
  let text := dropMark unit.code.toList
  (Node.ofText? unit.path text).map fun node =>
    (node.sites marker).map (Node.CallSite.call unit.path text)

end Phrasebook.Script

import Phrasebook.Literal
import Phrasebook.Text.Position

/-!
# Calls and marker calls

A call source reduces a script to calls with a static callee path: `i18n.s('你好')` has the path
`["i18n", "s"]`. A marker call is a call `<marker>.s(phrase)` or `<marker>.s(phrase, namespace)`
whose arguments are string literals; `Call.marker?` is the one place that decides this.

Models the normalized call nodes and the matching of markers over them (specification, section
4.2a).
-/

namespace Phrasebook

/-- A script: its path, which also decides the syntax, and its text. -/
structure SourceUnit where
  path : String
  code : String
  deriving DecidableEq, Repr

/-- A range of bytes of a text. -/
structure Span where
  start : Nat
  stop : Nat
  deriving DecidableEq, Repr

/-- Where a call stands: the file and the place of its first character. -/
structure Location where
  file : String
  line : Nat
  column : Nat
  deriving DecidableEq, Repr

/-- An argument of a call. -/
inductive Argument where
  /-- A string literal, or a template literal without substitutions. -/
  | text (value : String) (quote : Quote)
  /-- Anything else. -/
  | other
  deriving DecidableEq, Repr

/-- A call with a static callee path. -/
structure Call where
  calleePath : List String
  arguments : List Argument
  span : Span
  location : Location
  sourceLine : String
  deriving DecidableEq, Repr

/-- A call that asks for the translation of a phrase. -/
structure MarkerCall where
  phrase : String
  /-- Without one, the phrase belongs to the default namespace. -/
  ns? : Option String
  quote : Quote
  span : Span
  location : Location
  sourceLine : String
  deriving DecidableEq, Repr

namespace Call

/-- The marker call that a call is, if it is one. -/
def marker? (marker : String) (call : Call) : Option MarkerCall :=
  if call.calleePath = [marker, "s"] then
    match call.arguments with
    | [.text phrase quote] =>
      some ⟨phrase, none, quote, call.span, call.location, call.sourceLine⟩
    | [.text phrase quote, .text ns _] =>
      some ⟨phrase, some ns, quote, call.span, call.location, call.sourceLine⟩
    | _ => none
  else none

end Call

end Phrasebook

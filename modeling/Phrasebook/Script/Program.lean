import Phrasebook.Path
import Phrasebook.Script.Grammar.Module

/-!
# Whole scripts

`Node.ofText?` reads a script as a module. The extension of its path decides the syntax. A
script may begin with a byte order mark, which is not read, and with a line that names its
interpreter.

Models the choice of a syntax and the entry of the script parser (specification, section 4.2a).
-/

namespace Phrasebook.Script

open Phrasebook.Script.Parser

/-! ## Syntax by path -/

/-- The surroundings of a script with this path. -/
def Context.ofPath (path : String) : Context :=
  match Path.extension? path with
  | some "ts" | some "mts" | some "cts" => { typed := true, markup := false }
  | some "js" | some "jsx" | some "mjs" | some "cjs" => { typed := false, markup := true }
  | _ => { typed := true, markup := true }

/-! ## Reading -/

/-- The script without a byte order mark at its start. -/
def dropMark : List Char → List Char
  | '\ufeff' :: rest => rest
  | text => text

/-- The offset after the line that names an interpreter, and the rest after it. -/
def dropInterpreter (text : List Char) : Nat × List Char :=
  match text with
  | '#' :: '!' :: rest =>
    let line := rest.takeWhile fun c => !isLineEnd c
    (2 + Text.byteLength line, rest.drop line.length)
  | _ => (0, text)

/-- The items up to the end of a script. -/
def program (g : Grammar) : Parser Node :=
  loop (fun (found : List Node) => do
    match ← token with
    | .finish => pure (.inr (.group found))
    | _ => pure (.inl (found ++ [← g .item]))) []

/-- The depth of nested productions that a script of some length can need. -/
def depthBound (length : Nat) : Nat := 64 * (length + 2)

/-- The syntax tree of a script without a byte order mark. -/
def Node.ofText? (path : String) (text : List Char) : Option Node :=
  let (offset, rest) := dropInterpreter text
  let start : Cursor := ⟨Lexeme.next false offset true rest, none⟩
  match program (Grammar.iterate Grammar.production (depthBound text.length))
      (Context.ofPath path) start with
  | .done node _ => some node
  | .stuck _ => none

end Phrasebook.Script

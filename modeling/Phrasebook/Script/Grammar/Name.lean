import Phrasebook.Script.Parser

/-!
# Names and operators

Productions for identifiers and property names, and the tables of operators.
-/

namespace Phrasebook.Script.Grammar

open Phrasebook.Script.Parser

/-- Any word, keywords included. -/
def identifierName : Parser Node := do
  match ← token with
  | .word word => advance; pure (.name word)
  | _ => fail

/-- Words that should name nothing, though only some places refuse them. -/
def discouragedWords : List String :=
  ["enum", "yield", "let", "static", "implements", "interface", "package", "private", "protected",
   "public"]

/-- A word that may name a variable. `yield` needs leave, `this` may stand for a parameter where
types are read, and `await` names something in ambient declarations only. -/
def identifier (allowYield : Bool) : Parser Node := do
  match ← token with
  | .word word =>
    let context ← context
    let allowed :=
      if word == "this" then context.typed
      else if word == "yield" then allowYield
      else if word == "await" then context.ambient
      else !isKeyword word
    advance
    noteIf (discouragedWords.contains word)
    if allowed then pure (.name word) else fail
  | _ => fail

/-- Names that no declaration should bind. -/
def isUnbindable : Node → Bool
  | .name text => text == "eval" || text == "arguments"
  | _ => false

/-- A word that a declaration binds. -/
def bindingIdentifier (refuseLet : Bool) : Parser Node := do
  if refuseLet && (← isWord "let") then fail
  let found ← identifier true
  noteIf (isUnbindable found)
  pure found

/-- Names of types that no class or interface should have. -/
def namesPrimitive : Node → Bool
  | .name text =>
    ["string", "null", "number", "object", "any", "unknown", "boolean", "bigint", "symbol", "void",
     "never", "intrinsic"].contains text
  | _ => false

/-- A number sign and a name right after it. -/
def privateName : Parser Node := do
  let stop := (← cursor).current.stop
  expectSymbol "#"
  if (← offset) != stop then fail
  pure (.form .privateName [← identifierName])

/-- A name, or a name after a number sign. -/
def identifierOrPrivateName : Parser Node := do
  if ← isSymbol "#" then privateName else identifierName

/-- The name of a property: a word, a string, a number, or an expression in brackets. -/
def propertyName (g : Grammar) : Parser Node := do
  match ← token with
  | .word word => advance; pure (.name word)
  | .string value quote => advance; pure (.string value quote)
  | .number => advance; pure (.form .literal [])
  | .bigInteger => advance; pure (.form .literal [])
  | .symbol "[" => do
    advance
    let first ← allowingIn (g .assignment)
    let typed := (← context).typed
    let rest ← loop (fun (found : List Node) => do
      if ← eatSymbolWhen typed "," then
        pure (.inl (found ++ [← allowingIn (g .assignment)]))
      else pure (.inr found)) []
    noteIf (!rest.isEmpty)
    expectSymbol "]"
    pure (.form .computed (first :: rest))
  | _ => fail

/-- The precedence of a binary operator written as a symbol. -/
def precedence? (symbol : String) : Option Nat :=
  if symbol ∈ ["??", "||"] then some 1
  else if symbol == "&&" then some 2
  else if symbol == "|" then some 3
  else if symbol == "^" then some 4
  else if symbol == "&" then some 5
  else if symbol ∈ ["==", "!=", "===", "!=="] then some 6
  else if symbol ∈ ["<", "<=", ">", ">="] then some 7
  else if symbol ∈ ["<<", ">>", ">>>"] then some 8
  else if symbol ∈ ["+", "-"] then some 9
  else if symbol ∈ ["*", "/", "%"] then some 10
  else if symbol == "**" then some 11
  else none

/-- The precedence of `in` and `instanceof`, and of the type operators `as` and `satisfies`. -/
def relationPrecedence : Nat := 7

/-- The operators that assign, other than `=`. -/
def compoundAssignments : List String :=
  ["+=", "-=", "*=", "/=", "%=", "**=", "<<=", ">>=", ">>>=", "&=", "|=", "^=", "&&=", "||=",
   "??="]

/-- The binary operator at the cursor, with its precedence. -/
def binaryOperator : Parser (Option (String × Nat)) := do
  match ← token with
  | .word "in" =>
    pure (if (← context).allowIn then some ("in", relationPrecedence) else none)
  | .word "instanceof" => pure (some ("instanceof", relationPrecedence))
  | .symbol symbol => pure ((precedence? symbol).map fun precedence => (symbol, precedence))
  | _ => pure none

/-- A binary operator written as a symbol is at the cursor. -/
def atBinarySymbol : Parser Bool := do
  match ← token with
  | .symbol symbol => pure (precedence? symbol).isSome
  | _ => pure false

/-- The assignment operator at the cursor; `true` for `=`. -/
def assignmentOperator : Parser (Option Bool) := do
  match ← token with
  | .symbol symbol =>
    pure (if symbol == "=" then some true
      else if compoundAssignments.contains symbol then some false else none)
  | _ => pure none

/-- Items between commas up to a closing symbol, which is left. A comma may follow the last. -/
def commasUntil {α : Type} (closing : String) (item : Parser α) : Parser (List α) :=
  loop (fun (found : List α) => do
    if ← isSymbol closing then pure (.inr found)
    else
      let found := found ++ [← item]
      unless ← isSymbol closing do expectSymbol ","
      pure (.inl found)) []

/-- Items between commas up to a closing symbol, which is passed. -/
def commaSeparated {α : Type} (closing : String) (item : Parser α) : Parser (List α) := do
  let found ← commasUntil closing item
  expectSymbol closing
  pure found

/-- Items one after another up to a closing symbol, which is passed. -/
def itemsUntil (closing : String) (item : Parser Node) : Parser (List Node) :=
  loop (fun (found : List Node) => do
    if ← eatSymbol closing then pure (.inr found)
    else pure (.inl (found ++ [← item]))) []

/-- A modifier before a name: the word, if a name or a pattern follows it on the same line. -/
def modifier (words : List String) (stopAtBlock : Bool) : Parser (Option String) := do
  if !(← context).typed then pure none
  else
    match ← token with
    | .word word =>
      if !words.contains word then pure none
      else if stopAtBlock && word == "static" && (← peekSymbol openBrace) then pure none
      else
        let next ← peekLexeme
        let follows := !next.newline && match next.token with
          | .word _ => true
          | .string .. => true
          | .number => true
          | .bigInteger => true
          | .symbol symbol => ["[", openBrace, "*", "...", "#"].contains symbol
          | _ => false
        if follows then advance; pure (some word) else pure none
    | _ => pure none

/-- Modifiers in front of a parameter. -/
def parameterModifiers : List String := ["public", "protected", "private", "readonly"]

/-- Passes a modifier in front of a parameter, which only the parameters of a constructor should
have. -/
def eatParameterModifier : Parser Bool := do
  if !(← context).typed then pure false
  else
    match ← token with
    | .word word =>
      if parameterModifiers.contains word then
        match ← peek with
        | .word _ => discard (modifier parameterModifiers false); pure true
        | .symbol openBrace => discard (modifier parameterModifiers false); pure true
        | .symbol "[" => discard (modifier parameterModifiers false); pure true
        | _ => pure false
      else pure false
    | _ => pure false

/-- Passes a modifier that sets who may use a member, or one of the words that mark how a type
parameter varies, which no member should have. The result is the first kind. -/
def accessModifier : Parser (Option String) := do
  let found ← modifier ["public", "protected", "private", "in", "out"] false
  pure (found.filter fun word => word != "in" && word != "out")

end Phrasebook.Script.Grammar

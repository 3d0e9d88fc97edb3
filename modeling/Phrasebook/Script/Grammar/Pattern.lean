import Phrasebook.Script.Grammar.Name

/-!
# Patterns and parameters

Productions for what declarations bind: names, destructuring patterns with default values, and
lists of parameters with their types.
-/

namespace Phrasebook.Script.Grammar

open Phrasebook.Script.Parser

/-- Reads a type. The token after it also counts as read inside the type. -/
def typing {α : Type} (parser : Parser α) : Parser α :=
  within (fun context => { context with inType := true }) parser

/-- The type after a colon, where types are read. -/
def annotation (g : Grammar) : Parser (List Node) := typing do
  if ← eatSymbolWhen (← context).typed ":" then pure [← g .typeExpression] else pure []

/-- A pattern with an optional default value, which declarations without values should not have. -/
def bindingElement (g : Grammar) : Parser Node := do
  let left ← g .pattern
  if ← eatSymbol "=" then
    let value ← allowingIn (g .assignment)
    noteIf (← context).ambient
    pure (.form .assignment [left, value])
  else pure left

/-- Passes a question mark that declarations without values may put after a pattern. -/
def eatAmbientMark : Parser Unit := do
  if (← context).ambient then discard (eatSymbol "?")

/-- A destructuring pattern in brackets. Nothing should follow a rest element. -/
def arrayPattern (g : Grammar) : Parser Node := do
  expectSymbol "["
  let elements ← loop (fun ((found, hasRest) : List Node × Bool) => do
    if ← eatSymbol "]" then pure (.inr found)
    else if ← eatSymbol "," then pure (.inl (found, hasRest))
    else
      noteIf hasRest
      let isRest ← eatSymbol "..."
      let element ←
        if isRest then do pure (Node.form .spread [← g .pattern]) else bindingElement g
      unless ← isSymbol "]" do expectSymbol ","
      pure (.inl (found ++ [element], hasRest || isRest))) ([], false)
  eatAmbientMark
  pure (.form .array elements)

/-- A property of a destructuring pattern. -/
def patternProperty (g : Grammar) : Parser Node := do
  if ← eatSymbol "..." then pure (.form .spread [← g .pattern])
  else
    let key ← propertyName g
    if ← eatSymbol ":" then pure (.form .entry [key, ← bindingElement g])
    else
      match key with
      | .name text =>
        if ← eatSymbol "=" then
          pure (.form .shorthandDefault [key, ← allowingIn (g .assignment)])
        else
          noteIf (isReserved text)
          pure (.form .shorthand [key])
      | _ => fail

/-- Checks the properties of a destructuring pattern: a rest property stands last, without a comma
after it, and is a name if it does. -/
def checkRest (trailingComma : Bool) : List Node → Parser Unit
  | [] => pure ()
  | [.form .spread [inner]] =>
    match inner with
    | .name _ => noteIf trailingComma
    | _ => fail
  | property :: rest => do
    noteIf (!rest.isEmpty && property.kind? == some .spread)
    checkRest trailingComma rest

/-- A destructuring pattern in braces. -/
def objectPattern (g : Grammar) : Parser Node := do
  expectSymbol openBrace
  let (properties, trailingComma) ← awaitingNoColon <|
    loop (fun ((found, afterComma) : List Node × Bool) => do
      if ← isSymbol closeBrace then pure (.inr (found, afterComma))
      else
        let found := found ++ [← patternProperty g]
        if ← isSymbol closeBrace then pure (.inl (found, false))
        else
          expectSymbol ","
          pure (.inl (found, true))) ([], false)
  expectSymbol closeBrace
  checkRest trailingComma properties
  eatAmbientMark
  pure (.form .object properties)

/-- A name or a destructuring pattern. -/
def pattern (g : Grammar) : Parser Node := do
  match ← token with
  | .symbol "[" => arrayPattern g
  | .symbol openBrace => objectPattern g
  | _ => bindingIdentifier false

/-! ## Parameters -/

/-- A parameter without rest dots: a pattern, which may have a default value at once or after its
type. The type of a pattern with a value is passed. -/
def plainParameter (g : Grammar) : Parser Node := do
  let context ← context
  let modified ← eatParameterModifier
  let left ← bindingElement g
  let hasDefault := left.kind? == some .assignment
  let optional ← eatSymbolWhen context.typed "?"
  if optional && hasDefault && !context.ambient then fail
  let types ← annotation g
  noteIf (hasDefault && !types.isEmpty)
  let left := if hasDefault || types.isEmpty then left else Node.group (left :: types)
  let found ←
    if ← eatSymbol "=" then do
      noteIf (optional && !hasDefault)
      let value ← g .assignment
      noteIf context.ambient
      pure (Node.form .assignment [left, value])
    else pure left
  noteIf modified
  pure found

/-- A parameter. -/
def parameter (g : Grammar) : Parser Node := do
  if ← eatSymbol "..." then
    let left ← g .pattern
    let value ← if ← eatSymbol "=" then do pure [← g .assignment] else pure []
    noteIf (!value.isEmpty)
    let types ← annotation g
    if (← context).typed && (← isSymbol "?") then
      advance
      note
    pure (.form .spread (left :: value ++ types))
  else plainParameter g

/-- Parameters between commas up to the closing parenthesis, which is passed. Nothing should follow
a rest parameter. -/
def parameterList (parameter : Parser Node) : Parser (List Node) := do
  let found ← loop (fun ((found, hasRest) : List Node × Bool) => do
    if ← isSymbol ")" then pure (.inr found)
    else
      noteIf hasRest
      let next ← parameter
      unless ← isSymbol ")" do expectSymbol ","
      pure (.inl (found ++ [next], hasRest || next.kind? == some .spread))) ([], false)
  expectSymbol ")"
  pure found

/-- Parameters up to the closing parenthesis, which is passed. -/
def parameters (g : Grammar) : Parser (List Node) := parameterList (parameter g)

/-- Parameters of a function without a body, which have no default values. -/
def signatureParameters (g : Grammar) : Parser (List Node) := do
  let found ← parameters g
  if found.any (·.kind? == some .assignment) then fail else pure found

/-- A parameter of a constructor, which may declare a property. A property has a name or a name
with a default value. -/
def constructorParameter (g : Grammar) : Parser Node := do
  if ← eatSymbol "..." then
    let left ← g .pattern
    pure (.form .spread (left :: (← annotation g)))
  else
    let access ← accessModifier
    let overriding ← modifier ["override"] false
    let readOnly ← modifier ["readonly"] false
    let declares := access.isSome || overriding.isSome || readOnly.isSome
    let named ← lookAhead do
      discard eatParameterModifier
      bindingIdentifier false
    let found ← plainParameter g
    let named := named.isSome || found.kind? == some .assignment
    if declares && !named then fail
    pure (if declares then .form .property [found] else found)

end Phrasebook.Script.Grammar

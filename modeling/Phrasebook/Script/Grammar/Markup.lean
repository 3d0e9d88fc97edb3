import Phrasebook.Script.Grammar.Type

/-!
# Markup

Productions for elements and fragments. The text between tags and the strings of attributes are
not made of tokens: they are read from the characters after the token before them.
-/

namespace Phrasebook.Script.Grammar

open Phrasebook.Script.Parser

/-- A word of markup, which may hold hyphens. -/
def markupWord : Parser String := do
  let current := (← cursor).current
  match current.token with
  | .word word => do
    let more := current.rest.takeWhile fun c => c == '-' || Text.isIdentifierPart c
    resume (current.stop + Text.byteLength more) (current.rest.drop more.length)
    pure (word ++ String.ofList more)
  | _ => fail

/-- The name of an element: a word, a word in a name space, or words between dots. -/
def elementName : Parser String := do
  let first ← markupWord
  if ← eatSymbol ":" then pure (first ++ ":" ++ (← markupWord))
  else
    loop (fun (name : String) => do
      if ← eatSymbol "." then pure (.inl (name ++ "." ++ (← markupWord)))
      else pure (.inr name)) first

/-- An expression in braces, whose closing brace is left as the current token. -/
def containedExpression (g : Grammar) : Parser Node := do
  discard (eatSymbol "...")
  let node ← allowingIn (awaitingNoColon (g .expression))
  unless ← isSymbol closeBrace do fail
  pure node

/-- The value of an attribute, from the equals sign on. A string runs to its closing quote, over
line ends and backslashes. -/
def attributeValue (g : Grammar) : Parser (List Node) := do
  let current := (← cursor).current
  let gap := skipGap false .between current.stop false none current.rest
  match gap.rest with
  | [] => fail
  | quote :: rest =>
    if quote = '"' ∨ quote = '\'' then
      let inside := rest.takeWhile (· != quote)
      match rest.drop inside.length with
      | [] => fail
      | _ :: after => do
        resume (gap.offset + 2 + Text.byteLength inside) after
        pure []
    else
      advance
      if ← eatSymbol openBrace then
        if ← isSymbol closeBrace then fail
        let node ← containedExpression g
        advance
        pure [node]
      else if ← isSymbol "<" then pure [← g (.element false)]
      else fail

/-- Lets a sign `>` that ends a tag stand alone. -/
def splitAngle : Parser Unit := do
  resumeAt (← cursor).current.splitAngle

/-- The attributes of an element. -/
def attributes (g : Grammar) : Parser (List Node) :=
  loop (fun (found : List Node) => do
    splitAngle
    if ← isSymbolIn ["/", ">"] then pure (.inr found)
    else if ← eatSymbol openBrace then
      expectSymbol "..."
      let node ← allowingIn (awaitingNoColon (g .assignment))
      expectSymbol closeBrace
      pure (.inl (found ++ [node]))
    else
      discard markupWord
      if ← eatSymbol ":" then discard markupWord
      if ← isSymbol "=" then pure (.inl (found ++ (← attributeValue g)))
      else pure (.inl found)) []

/-- Passes the current token into the inside of an element, where text between tags is read. -/
def enterMarkup : Parser Unit := do
  let current := (← cursor).current
  resumeAt (Lexeme.nextInMarkup current.stop current.rest)

/-- A child of an element, if one starts here. -/
def child? (g : Grammar) : Parser (Option (List Node)) := do
  match ← token with
  | .markupText => do
    enterMarkup
    pure (some [])
  | .symbol openBrace => do
    advance
    let found ← if ← isSymbol closeBrace then pure [] else do pure [← containedExpression g]
    enterMarkup
    pure (some found)
  | .symbol "<" => do pure (some [← g (.element true)])
  | _ => pure none

/-- The children of an element up to its closing tag. A malformed child is dropped, and nothing is
a child after it. -/
def children (g : Grammar) : Parser (List Node) :=
  loop (fun (found : List Node) => do
    match ← recover (child? g) with
    | some (some more) => pure (.inl (found ++ more))
    | _ => pure (.inr found)) []

/-- Passes the closing bracket of the last tag of an element. -/
def finishElement (nested : Bool) : Parser Unit := do
  splitAngle
  unless ← isSymbol ">" do fail
  if nested then enterMarkup else advance

/-- The children of an element from the closing bracket of its first tag to what opens its second
tag, which is passed. -/
def content (g : Grammar) : Parser (List Node) := do
  splitAngle
  unless ← isSymbol ">" do fail
  enterMarkup
  let found ← children g
  expectSymbol closingBracket
  pure found

/-- An element or a fragment. Both tags of an element have one name. -/
def element (g : Grammar) (nested : Bool) : Parser Node := do
  expectSymbol "<"
  if ← isSymbol ">" then
    let inner ← content g
    finishElement nested
    pure (.form .markup inner)
  else
    let name ← elementName
    let types ←
      if (← context).typed && (← isSymbol "<") then splittingAngles (typeArguments g) else pure []
    let given ← attributes g
    if ← eatSymbol "/" then
      finishElement nested
      pure (.form .markup (given ++ types))
    else
      let inner ← content g
      let closing ← elementName
      finishElement nested
      if closing != name then fail
      pure (.form .markup (given ++ types ++ inner))

end Phrasebook.Script.Grammar

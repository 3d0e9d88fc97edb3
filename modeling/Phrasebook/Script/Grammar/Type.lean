import Phrasebook.Script.Grammar.Pattern

/-!
# Types

Productions for types, type parameters and type arguments. Types matter to the search for calls
because a computed key of a type literal is an expression, and because an expression is told from
a type only by reading it.
-/

namespace Phrasebook.Script.Grammar

open Phrasebook.Script.Parser

/-- Reads inside brackets, where a conditional type may stand again. -/
def bracketed {α : Type} (parser : Parser α) : Parser α :=
  within (fun context => { context with noConditionalType := false }) parser

/-! ## Type arguments and parameters -/

/-- Passes the sign that opens a list of types. Of two signs read as a shift the second is left. -/
def expectOpenAngle : Parser Unit := do
  let current := (← cursor).current
  match current.token with
  | .symbol "<" => advance
  | .symbol "<<" => resumeAt { current with token := .symbol "<", start := current.stop - 1 }
  | _ => fail

/-- The current token opens a list of types. -/
def isOpenAngle : Parser Bool := isSymbolIn ["<", "<<"]

/-- Type arguments with their brackets, of which there should be some. The token after them is read
as outside of them. -/
def typeArguments (g : Grammar) : Parser (List Node) := do
  let found ← typing <| bracketed do
    expectOpenAngle
    commasUntil ">" (g .typeExpression)
  expectSymbol ">"
  noteIf found.isEmpty
  pure found

/-- Words that may stand before a type parameter. -/
def typeParameterModifiers : List String :=
  ["public", "private", "protected", "readonly", "abstract", "const", "override", "in", "out"]

/-- A type parameter with its bound and its default. -/
def typeParameter (g : Grammar) : Parser Node := do
  loop (fun (_ : Unit) => do
    match ← modifier typeParameterModifiers false with
    | some _ => pure (.inl ())
    | none => pure (.inr ())) ()
  discard identifierName
  let bound ← if ← eatWord "extends" then do pure [← g .typeExpression] else pure []
  let default ← if ← eatSymbol "=" then do pure [← g .typeExpression] else pure []
  pure (.group (bound ++ default))

/-- Type parameters with their brackets, of which there should be some. -/
def typeParameters (g : Grammar) : Parser (List Node) :=
  typing <| bracketed do
    expectSymbol "<"
    let found ← commaSeparated ">" (typeParameter g)
    noteIf found.isEmpty
    pure found

/-- Type parameters, if types are read and there are any. -/
def typeParameters? (g : Grammar) : Parser (List Node) := do
  if (← context).typed && (← isSymbol "<") then typeParameters g else pure []

/-! ## Results of functions -/

/-- A type, or a predicate on a parameter, after a colon or an arrow. -/
def resultType (g : Grammar) (mark : String) : Parser Node := typing do
  expectSymbol mark
  let next ← peekLexeme
  let asserts := (← isWord "asserts") && !next.newline && next.token.isReference
  if asserts then advance
  let next ← peekLexeme
  let narrows := (← isReference) && !next.newline && next.token == .word "is"
  if asserts || narrows then
    discard identifierName
    if narrows then
      advance
      g .typeExpression
    else pure (.group [])
  else g .typeExpression

/-- A function type or a constructor type, from its type parameters on. -/
def functionType (g : Grammar) : Parser Node := do
  let types ← typeParameters? g
  expectSymbol "("
  let parameters ← bracketed (signatureParameters g)
  let result ← resultType g "=>"
  pure (.group (parameters ++ types ++ [result]))

/-- After an opening parenthesis: what follows can only be the parameters of a function type. -/
def startsParameters (g : Grammar) : Parser Bool := do
  expectSymbol "("
  if ← isSymbolIn [")", "..."] then pure true
  else
    discard eatParameterModifier
    let named ←
      if ← isAnyWord then do advance; pure true
      else if ← isSymbolIn [openBrace, "["] then do
        pure (← attempt (do pure (some (← pattern g)))).isSome
      else pure false
    if named then
      if ← isSymbolIn [":", ",", "?", "="] then pure true
      else if ← eatSymbol ")" then isSymbol "=>"
      else pure false
    else pure false

/-- A function type starts here. -/
def atFunctionType (g : Grammar) : Parser Bool := do
  if ← isSymbol "<" then pure true
  else if ← isSymbol "(" then do pure ((← lookAhead (startsParameters g)).getD false)
  else pure false

/-! ## Names of types -/

/-- A name with members, which may be any words or only such as name something. A dot at its end is
passed over. -/
def qualifiedName (anyWord : Bool) : Parser Unit := do
  let first ← identifierName
  noteIf (first matches .name "void")
  loop (fun (_ : Unit) => do
    if ← eatSymbol "." then
      if ← isAnyWord then
        discard (if anyWord then identifierName else identifier false)
        pure (.inl ())
      else
        if ← isSymbol "#" then fail
        note
        pure (.inr ())
    else pure (.inr ())) ()

/-- A type given by its name. -/
def typeReference (g : Grammar) : Parser Node := do
  let modified ← eatParameterModifier
  qualifiedName true
  let types ←
    if !(← newline) && (← isOpenAngle) then splittingAngles (typeArguments g) else pure []
  noteIf modified
  pure (.group types)

/-- A type of another module, which a string should name. -/
def importType (g : Grammar) : Parser Node := do
  expectWord "import"
  expectSymbol "("
  let named := (← token) matches .string ..
  advance
  noteIf (!named)
  let options ←
    if (← eatSymbol ",") && (← isSymbol openBrace) then do
      advance
      expectWord "with"
      expectSymbol ":"
      let options ← g .object
      discard (eatSymbol ",")
      expectSymbol closeBrace
      pure [options]
    else pure []
  expectSymbol ")"
  if ← eatSymbol "." then qualifiedName false
  let types ← if ← isSymbol "<" then splittingAngles (typeArguments g) else pure []
  pure (.group (options ++ types))

/-- The type of a value. -/
def typeQuery (g : Grammar) : Parser Node := do
  expectWord "typeof"
  let value ←
    if ← isWord "import" then importType g
    else do
      qualifiedName true
      pure (Node.group [])
  let types ← if !(← newline) && (← isSymbol "<") then typeArguments g else pure []
  pure (.group (value :: types))

/-! ## Members of a type literal -/

/-- Passes the end of a type member: a comma, or the end of a statement. -/
def expectMemberEnd : Parser Unit := do
  unless ← eatSymbol "," do expectStatementEnd

/-- The name of a type member. A string or a number may go on as an expression. -/
def memberName (g : Grammar) : Parser Node := do
  match ← token with
  | .symbol "[" => do
    advance
    let key ← g .assignment
    expectSymbol "]"
    pure (.form .computed [key])
  | .symbol "#" => do
    let key ← privateName
    note
    pure key
  | .string .. => g .member
  | .number => g .member
  | _ => identifierName

/-- An index signature, if one starts here. -/
def indexSignature? (g : Grammar) : Parser (Option Node) := do
  let starts : Parser Bool := do
    expectSymbol "["
    unless ← isReference do fail
    advance
    isSymbolIn [":", ","]
  if (← lookAhead starts).getD false then
    advance
    advance
    unless ← eatSymbol ":" do
      advance
      note
    let index ← g .typeExpression
    expectSymbol "]"
    let value ← annotation g
    expectMemberEnd
    pure (some (.group (index :: value)))
  else pure none

/-- The signature of a call, from its type parameters on, with the end of the member. -/
def callSignature (g : Grammar) : Parser (List Node) := do
  let types ← typeParameters? g
  expectSymbol "("
  let parameters ← signatureParameters g
  let result ← if ← isSymbol ":" then do pure [← resultType g ":"] else pure []
  expectMemberEnd
  pure (parameters ++ types ++ result)

/-- A getter or setter of a type literal, if one starts here. -/
def accessorSignature? (g : Grammar) : Parser (Option Node) :=
  attempt do
    let getter ← eatWord "get"
    unless getter do expectWord "set"
    let key ← memberName g
    expectSymbol "("
    if getter then
      expectSymbol ")"
      let result ← annotation g
      expectMemberEnd
      pure (some (.group (key :: result)))
    else
      let parameters ← signatureParameters g
      if parameters.isEmpty then fail
      expectMemberEnd
      pure (some (.group (key :: parameters.take 1)))

/-- A member of a type literal. -/
def typeMember (g : Grammar) : Parser Node := do
  let constructs : Parser Bool := do
    expectWord "new"
    isSymbolIn ["(", "<"]
  if ← isSymbolIn ["(", "<"] then pure (.group (← callSignature g))
  else if (← lookAhead constructs).getD false then
    advance
    pure (.group (← callSignature g))
  else
    let readOnly := (← modifier ["readonly"] false).isSome
    match ← indexSignature? g with
    | some node => pure node
    | none =>
      match ← (if readOnly then pure none else accessorSignature? g) with
      | some node => pure node
      | none =>
        let key ← memberName g
        discard (eatSymbol "?")
        if ← isSymbolIn ["(", "<"] then
          if readOnly then fail
          pure (.group (key :: (← callSignature g)))
        else
          let type ← annotation g
          expectMemberEnd
          pure (.group (key :: type))

/-- The members of a type literal or an interface, with their braces. -/
def typeMembers (g : Grammar) : Parser Node := typing do
  expectSymbol openBrace
  pure (.group (← bracketed (itemsUntil closeBrace (typeMember g))))

/-! ## Mapped types, tuples and templates -/

/-- A mapped type starts here. -/
def atMappedType : Parser Bool := do
  let starts : Parser Bool := do
    expectSymbol openBrace
    if ← isSymbolIn ["+", "-"] then
      advance
      isWord "readonly"
    else
      discard (eatWord "readonly")
      expectSymbol "["
      unless ← isReference do fail
      advance
      isWord "in"
  pure ((← lookAhead starts).getD false)

/-- A sign before a modifier of a mapped type. -/
def eatSign : Parser Bool := do
  if ← isSymbolIn ["+", "-"] then advance; pure true else pure false

/-- A mapped type. -/
def mappedType (g : Grammar) : Parser Node := do
  expectSymbol openBrace
  if ← eatSign then expectWord "readonly" else discard (eatWord "readonly")
  expectSymbol "["
  discard identifierName
  expectWord "in"
  let source ← g .typeExpression
  let name ← if ← eatWord "as" then do pure [← g .typeExpression] else pure []
  expectSymbol "]"
  if ← eatSign then expectSymbol "?" else discard (eatSymbol "?")
  let type ← annotation g
  expectStatementEnd
  expectSymbol closeBrace
  pure (.group (source :: name ++ type))

/-- The label of a tuple element, with its colon, if there is one. -/
def tupleLabel : Parser Unit := do
  discard <| attempt do
    discard (eatSymbol "...")
    discard identifierName
    discard (eatSymbol "?")
    expectSymbol ":"
    pure (some ())

/-- Whether a tuple must have an element. -/
inductive Presence where
  | required
  | optional
  /-- Any number of elements. -/
  | rest
  deriving DecidableEq

/-- An element of a tuple. -/
def tupleElement (g : Grammar) : Parser (Node × Presence) := do
  tupleLabel
  if ← eatSymbol "..." then pure (← g .typeExpression, .rest)
  else
    let type ← g .typeExpression
    pure (type, if ← eatSymbol "?" then .optional else .required)

/-- A tuple. No required element follows an optional one. -/
def tupleType (g : Grammar) : Parser Node := do
  expectSymbol "["
  let elements ← bracketed (commaSeparated "]" (tupleElement g))
  if (elements.dropWhile (·.2 != .optional)).any (·.2 == .required) then fail
  pure (.group (elements.map (·.1)))

/-- The substitutions of a template, which starts at the current token, and the value of a template
without any. A flag says whether an escape may be malformed. -/
def templateParts (lenient : Bool) (item : Parser Node) : Parser (List Node × Option String) := do
  let start := (← cursor).current
  loop (fun ((found, offset, rest) : List Node × Nat × List Char) => do
    match splitTemplate offset rest with
    | none => do
      resume (offset + Text.byteLength rest) []
      fail
    | some (inside, substitutes, stop, after) =>
      let value := templateValue inside
      resume stop after
      if value.isNone && !lenient then fail
      if substitutes then
        let node ← item
        unless ← isSymbol closeBrace do fail
        let current := (← cursor).current
        pure (.inl (found ++ [node], current.stop, current.rest))
      else pure (.inr (found, if found.isEmpty then value.join else none)))
    ([], start.stop, start.rest)

/-! ## Types -/

/-- Names of types that take no members. -/
def primitiveTypes : List String :=
  ["void", "null", "any", "boolean", "bigint", "never", "number", "object", "string", "symbol",
   "unknown", "undefined"]

/-- A type that is no operator on others. -/
def elementType (g : Grammar) : Parser Node := do
  match ← token with
  | .word "import" => importType g
  | .word "typeof" => typeQuery g
  | .word "this" => do
    advance
    if ← eatWordWhen (!(← newline)) "is" then g .typeExpression else pure (.group [])
  | .word "true" => advance; pure (.group [])
  | .word "false" => advance; pure (.group [])
  | .word word => do
    if word == "asserts" && (← peekWord "this") then
      advance
      advance
      if ← eatWord "is" then g .typeExpression else pure (.group [])
    else if primitiveTypes.contains word && !(← peekSymbol ".") then
      advance
      pure (.group [])
    else if ["void", "yield", "null", "await", "break"].contains word
        || Token.isPlainWord (.word word) then
      typeReference g
    else fail
  | .string .. => advance; pure (.group [])
  | .number => advance; pure (.group [])
  | .bigInteger => advance; pure (.group [])
  | .symbol "-" => do
    advance
    match ← token with
    | .number => advance; pure (.group [])
    | .bigInteger => advance; pure (.group [])
    | _ => fail
  | .symbol openBrace => if ← atMappedType then bracketed (mappedType g) else typeMembers g
  | .symbol "[" => tupleType g
  | .symbol "(" => do
    advance
    let type ← bracketed (g .typeExpression)
    expectSymbol ")"
    pure type
  | .symbol "`" => pure (.group (← bracketed (templateParts true (g .typeExpression))).1)
  | _ => fail

/-- A type with array brackets and indexed accesses. -/
def arrayType (g : Grammar) : Parser Node := do
  let element ← elementType g
  loop (fun (found : Node) => do
    if ← eatSymbolWhen (!(← newline)) "[" then
      if ← eatSymbol "]" then pure (.inl found)
      else
        let index ← bracketed (g .typeExpression)
        expectSymbol "]"
        pure (.inl (.group [found, index]))
    else pure (.inr found)) element

/-- A name that `infer` binds, with its bound. The bound is taken back where it would belong to a
conditional type. -/
def inferredType (g : Grammar) : Parser Node := do
  expectWord "infer"
  discard identifierName
  let bound ← attempt do
    expectWord "extends"
    let bound ← within (fun context => { context with noConditionalType := true }) (g .plainType)
    if (← context).noConditionalType || !(← isSymbol "?") then pure (some bound) else pure none
  pure (.group bound.toList)

/-- A type with prefix operators. -/
def typeOperator (g : Grammar) : Parser Node := do
  if ← isWordIn ["keyof", "unique", "readonly"] then
    advance
    g .typeOperator
  else if ← isWord "infer" then inferredType g
  else arrayType g

/-- Types between an operator, which may also stand before the first. -/
def operatorList (operator : String) (operand : Parser Node) : Parser Node := do
  discard (eatSymbol operator)
  let first ← operand
  loop (fun (found : Node) => do
    if ← eatSymbol operator then pure (.inl (.group [found, ← operand]))
    else pure (.inr found)) first

/-- A type that is no conditional type. -/
def plainType (g : Grammar) : Parser Node := do
  if ← atFunctionType g then functionType g
  else if (← isWord "abstract") && (← peekWord "new") then
    advance
    advance
    functionType g
  else if ← eatWord "new" then functionType g
  else operatorList "|" (operatorList "&" (g .typeOperator))

/-- A type. -/
def typeExpression (g : Grammar) : Parser Node := typing do
  let type ← plainType g
  if (← context).noConditionalType || (← newline) then pure type
  else if ← eatWord "extends" then
    let bound ← within (fun context => { context with noConditionalType := true }) (g .plainType)
    expectSymbol "?"
    let positive ← g .typeExpression
    expectSymbol ":"
    pure (.group [type, bound, positive, ← g .typeExpression])
  else pure type

end Phrasebook.Script.Grammar

import Phrasebook.Script.Grammar.Type

/-!
# Functions and classes

Productions for blocks, functions, methods and classes. The parts of a function are its
parameters, its body and then its types; the parts of a class are its members and then what it
extends. Both are the order in which calls are reported.
-/

namespace Phrasebook.Script.Grammar

open Phrasebook.Script.Parser

/-! ## Blocks and bodies -/

/-- Items up to a closing brace, which is passed. At the end of the script the brace may lack. -/
def itemsInBraces (item : Parser Node) : Parser (List Node) := do
  expectSymbol openBrace
  loop (fun (found : List Node) => do
    if ← eatSymbol closeBrace then pure (.inr found)
    else
      match ← token with
      | .finish => pure (.inr found)
      | _ => pure (.inl (found ++ [← item]))) []

/-- Statements in braces. -/
def block (g : Grammar) : Parser Node := do
  pure (.group (← allowingIn (awaitingNoColon (itemsInBraces (g (.statement true))))))

/-- The body of a function. Where types are read, a function may lack one. -/
def functionBody (g : Grammar) : Parser (List Node) :=
  within (fun context => { context.inBody with hasNewTarget := true }) do
    let lacks := (← context).typed && !(← isSymbol openBrace) && (← endsStatement)
    if lacks then
      discard eatStatementEnd
      pure []
    else pure [← block g]

/-- What is inside a function. -/
structure Signature where
  parameters : List Node
  body : List Node
  /-- The type parameters. -/
  types : List Node
  result : List Node

/-- Notes each parameter with a default value. -/
def noteDefaults : List Node → Parser Unit
  | [] => pure ()
  | parameter :: rest => do
    let plain := match parameter with
      | .form .property [inner] => inner
      | parameter => parameter
    noteIf (plain.kind? == some .assignment)
    noteDefaults rest

/-- A function from its type parameters on. Default values belong to a function with a body. -/
def signature (g : Grammar) (async generator : Bool) : Parser Signature :=
  within (fun context => { context with async, generator }) do
    let types ← typeParameters? g
    expectSymbol "("
    let parameters ←
      within (fun context =>
          { context with
            inParameters := true, inFunction := false, hasNewTarget := true
            colonFollows := false })
        (parameters g)
    let result ←
      if (← context).typed && (← isSymbol ":") then do pure [← resultType g ":"] else pure []
    let body ← functionBody g
    if body.isEmpty then noteDefaults parameters
    pure { parameters, body, types, result }

/-- The function with a signature. -/
def Signature.function (found : Signature) : Node :=
  .form .function (found.parameters ++ found.body ++ found.types ++ found.result)

/-- What a function or a class is part of. -/
inductive Role where
  | declaration
  /-- What a module exports without a name. -/
  | defaultExport
  | expression
  deriving DecidableEq

/-- The name of a function or a class, which a declaration has. -/
def nameFor (role : Role) (refuseLet : Bool) : Parser (Option Node) := do
  if role = .declaration || (← isReference) || (← context).typed && (← isWord "this") then
    pure (some (← bindingIdentifier refuseLet))
  else pure none

/-- A function from its keyword on. Only an expression always has a body. -/
def function (g : Grammar) (async : Bool) (role : Role) : Parser Node := do
  expectWord "function"
  let generator ← eatSymbol "*"
  discard (nameFor role false)
  let found ←
    within (fun context => { context with hasSuper := false }) (signature g async generator)
  if role = .expression && found.body.isEmpty then fail
  pure found.function

/-- The current token is `async`, and `function` follows on the same line. -/
def atAsyncFunction : Parser Bool := do
  if ← isWord "async" then
    let next ← peekLexeme
    pure (next.token == .word "function" && !next.newline)
  else pure false

/-- An asynchronous function from `async` on. -/
def asyncFunction (g : Grammar) (role : Role) : Parser Node := do
  expectWord "async"
  function g true role

/-- The body of an arrow function: a block or an expression. The flag says which. -/
def arrowBody (g : Grammar) (async : Bool) : Parser (Node × Bool) :=
  within (fun context => { context.inBody with async, generator := false }) do
    if ← isSymbol openBrace then pure (← block g, true)
    else pure (← g .assignment, false)

/-! ## Members of a class -/

/-- A list of parameters starts here, so the name before it names a method. -/
def atMethod : Parser Bool := do
  if ← isSymbol "(" then pure true
  else do pure ((← context).typed && (← isSymbol "<"))

/-- The name before this token names a property. -/
def atProperty (lineEnds : Bool) : Parser Bool := do
  if (← context).typed && (← isSymbolIn ["!", ":"]) then pure true
  else if ← isSymbolIn ["=", closeBrace, ";"] then pure true
  else if lineEnds then endsStatement
  else pure false

/-- A private name. -/
def isPrivate (key : Node) : Bool := key.kind? == some .privateName

/-- The name of a class member. -/
def classMemberName (g : Grammar) : Parser Node := do
  if ← isSymbol "#" then
    let key ← privateName
    noteIf (key matches .form .privateName [.name "constructor"])
    pure key
  else propertyName g

/-- The name of a constructor. -/
def isConstructorName : Node → Bool
  | .name text => text == "constructor"
  | .string value _ => value == some "constructor"
  | _ => false

/-- The words in front of the name of a class member. -/
structure MemberModifiers where
  /-- `declare`. -/
  declared : Bool := false
  /-- A word that sets who may use the member. -/
  restricted : Bool := false
  /-- `static` before the other words. -/
  static : Bool := false
  /-- `static` after other words. -/
  lateStatic : Bool := false
  isAbstract : Bool := false
  overriding : Bool := false
  readOnly : Bool := false
  /-- `accessor`. -/
  automatic : Bool := false

/-- A method, getter or setter from its parameters on. -/
def method (g : Grammar) (key : Node) (modifiers : MemberModifiers) (async generator : Bool) :
    Parser Node := do
  let found ← signature g async generator
  noteIf (if isPrivate key then modifiers.restricted
    else modifiers.isAbstract && !found.body.isEmpty)
  pure (.form .method [key, found.function])

/-- A property from the end of its name on. What ends it may lack. -/
def classProperty (g : Grammar) (key : Node) (modifiers : MemberModifiers) (optional : Bool) :
    Parser Node := do
  if isConstructorName key then fail
  noteIf (isPrivate key && modifiers.declared)
  noteIf (isPrivate key && modifiers.isAbstract)
  if (← context).typed && !optional then discard (eatSymbol "!")
  let type ← annotation g
  let value ←
    if ← eatSymbol "=" then
      within (fun context => { context with allowIn := true, async := false, generator := false })
        (do pure [← g .assignment])
    else pure []
  unless ← eatStatementEnd do note
  unless modifiers.automatic do
    noteIf (if isPrivate key then modifiers.restricted
      else modifiers.isAbstract && !value.isEmpty)
  pure (.group (key :: value ++ type))

/-- The type parameters that a constructor should not have. -/
def constructorTypes (g : Grammar) : Parser (List Node) := do
  if (← context).typed && (← isSymbol "<") then
    if ← peekSymbol ">" then
      advance
      advance
      note
      note
      pure []
    else
      let types ← typeParameters g
      for _ in types do note
      pure types
  else pure []

/-- A constructor from its parameters on. Without a body, its parameters declare no properties and
have no default values. -/
def constructor (g : Grammar) (key : Node) (modifiers : MemberModifiers) : Parser Node :=
  within (fun context => { context with async := false, generator := false }) do
    let types ← constructorTypes g
    expectSymbol "("
    let parameters ← awaitingNoColon (parameterList (constructorParameter g))
    let result ← annotation g
    noteIf (!result.isEmpty)
    let body ← functionBody g
    if body.isEmpty then
      for parameter in parameters do noteIf (parameter.kind? == some .property)
      if (← context).typed then noteDefaults parameters
    noteIf modifiers.static
    noteIf modifiers.isAbstract
    let parts := key :: parameters ++ body ++ types ++ result
    pure (if body.isEmpty then .group parts else .form .constructor parts)

/-- A member whose name was also a modifier word: `declare` or `static`. -/
def namedAsModifier? (g : Grammar) (word : String) (lineEnds : Bool) : Parser (Option Node) := do
  let optional : Parser Bool := do
    if (← context).typed then eatSymbol "?" else pure false
  if ← atMethod then
    let _ ← optional
    pure (some (← method g (.name word) {} false false))
  else if (← atProperty lineEnds) || (← context).typed && (← isSymbol "?") then
    pure (some (← classProperty g (.name word) {} (← optional)))
  else pure none

/-- A member from its name on. -/
def namedMember (g : Grammar) (modifiers : MemberModifiers) : Parser Node := do
  let key ←
    if modifiers.readOnly && (← isSymbolIn ["!", ":"]) then pure (Node.name "readonly")
    else classMemberName g
  let optional ← if (← context).typed then eatSymbol "?" else pure false
  if ← atMethod then
    if modifiers.readOnly then fail
    if isConstructorName key then constructor g key modifiers
    else method g key modifiers false false
  else
    let accessor :=
      match key with
      | .name text => text == "get" || text == "set"
      | _ => false
    let generatorBelow := (← newline) && (← isSymbol "*")
    if accessor && !(← atProperty false) && !generatorBelow then
      let key ← classMemberName g
      noteIf modifiers.readOnly
      noteIf (isConstructorName key)
      method g key modifiers false false
    else if ← atProperty true then classProperty g key modifiers optional
    else
      match key with
      | .name "async" => do
        if ← newline then fail
        discard (modifier ["override"] false)
        let generator ← eatSymbol "*"
        let key ← classMemberName g
        if isConstructorName key then fail
        noteIf modifiers.readOnly
        if (← context).typed then discard (eatSymbol "?")
        method g key modifiers true generator
      | _ => fail

/-- `accessor` is here, and a name follows on the same line. -/
def atAutoAccessor : Parser Bool := do
  if (← context).typed && (← isWord "accessor") then
    let next ← peekLexeme
    let names := match next.token with
      | .word _ => true
      | .string .. => true
      | .number => true
      | .symbol symbol => symbol == "[" || symbol == "#"
      | _ => false
    pure (names && !next.newline)
  else pure false

/-- Passes more modifiers of a member. -/
def moreModifiers (modifiers : MemberModifiers) : Parser MemberModifiers := do
  let found ← loop (fun (found : MemberModifiers) => do
    match ← modifier ["abstract", "readonly", "override", "static"] true with
    | some "abstract" => pure (.inl { found with isAbstract := true })
    | some "readonly" => pure (.inl { found with readOnly := true })
    | some "override" => pure (.inl { found with overriding := true })
    | some _ => pure (.inl { found with lateStatic := true })
    | none => pure (.inr found)) modifiers
  if ← atAutoAccessor then
    advance
    pure { found with automatic := true }
  else pure found

/-- A block that runs when the class is made. -/
def staticBlock (g : Grammar) : Parser Node :=
  within (fun context => { context.closed with async := false, generator := false }) (block g)

/-- A member after `declare`, an access modifier and `static`. -/
def memberAfterStatic (g : Grammar) (modifiers : MemberModifiers) : Parser Node := do
  let modifiers ← moreModifiers modifiers
  if (modifiers.static || modifiers.lateStatic) && (← isSymbol openBrace) then staticBlock g
  else if (← isWord "static") && (← peekSymbol openBrace) then
    advance
    staticBlock g
  else
    let named := modifiers.restricted || modifiers.isAbstract || modifiers.overriding
    match ← (if (← context).typed && !named then indexSignature? g else pure none) with
    | some node => pure node
    | none =>
      if ← eatSymbol "*" then
        let key ← classMemberName g
        noteIf modifiers.readOnly
        noteIf (isConstructorName key)
        method g key modifiers false true
      else namedMember g modifiers

/-- A member of a class. -/
def classMember (g : Grammar) : Parser Node := do
  let typed := (← context).typed
  if ← eatSymbol ";" then pure (.group [])
  else
    let early ← if typed then eatWord "declare" else pure false
    let access ← accessModifier
    let late ← if typed && !early then eatWord "declare" else pure false
    let declared := early || late
    match ← (if declared then namedAsModifier? g "declare" true else pure none) with
    | some node => pure node
    | none =>
      let static ← eatWord "static"
      match ← (if static then namedAsModifier? g "static" false else pure none) with
      | some node => pure node
      | none => memberAfterStatic g { declared, restricted := access.isSome, static }

/-- The members of a class up to the closing brace, which is passed. A class should have one
constructor with a body. -/
def classMembers (g : Grammar) : Parser (List Node) :=
  loop (fun ((found, constructs) : List Node × Bool) => do
    if ← eatSymbol closeBrace then pure (.inr found)
    else
      let next ← classMember g
      let isConstructor := !(← context).ambient && next.kind? == some .constructor
      noteIf (constructs && isConstructor)
      pure (.inl (found ++ [next], constructs || isConstructor))) ([], false)

/-! ## Classes -/

/-- Extended expressions between commas, up to a body or another such list. -/
def heritageList (g : Grammar) : Parser (List Node) :=
  loop (fun (found : List Node) => do
    let atEnd : Parser Bool := do
      pure ((← isSymbol openBrace) || (← isWordIn ["implements", "extends"]))
    if ← atEnd then pure (.inr found)
    else
      let found := found ++ [← g .heritage]
      if ← eatSymbol "," then pure (.inl found)
      else if ← atEnd then pure (.inr found)
      else fail) []

/-- A superclass with its type arguments. -/
def superclass (g : Grammar) : Parser (List Node) := do
  let expression ← g .leftHandSide
  let types ←
    if (← context).typed && (← isOpenAngle) then typeArguments g else pure []
  pure (expression :: types)

/-- What follows `extends` and `implements` in the head of a class. Each of them should stand once,
in this order, and one class is extended. -/
def classHeritage (g : Grammar) : Parser (List Node × List Node) := do
  let typed := (← context).typed
  let super ← if ← eatWord "extends" then superclass g else pure []
  if ← eatSymbolWhen (typed && !super.isEmpty) "," then
    for _ in ← heritageList g do note
  if ← eatWord "extends" then
    note
    discard (superclass g)
  let interfaces ← if ← eatWordWhen typed "implements" then heritageList g else pure []
  if ← eatWordWhen typed "implements" then
    note
    discard (heritageList g)
  let late ←
    if ← eatWordWhen typed "extends" then do
      note
      superclass g
    else pure []
  pure (if super.isEmpty then late else super, interfaces)

/-- A class from its keyword on. -/
def classDefinition (g : Grammar) (role : Role) : Parser Node :=
  within (fun context => { context with hasNewTarget := true }) do
    expectWord "class"
    let name? ← nameFor role true
    noteIf ((← context).typed && name?.any namesPrimitive)
    let types ← typeParameters? g
    let (super, interfaces) ← classHeritage g
    expectSymbol openBrace
    let members ←
      within (fun context => { context with colonFollows := false, hasSuper := true })
        (classMembers g)
    pure (.form .classBody (members ++ super.take 1 ++ types ++ super.drop 1 ++ interfaces))

end Phrasebook.Script.Grammar

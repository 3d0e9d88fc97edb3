import Phrasebook.Script.Grammar.Function

/-!
# Expressions

Productions for expressions. A parenthesised list is read once and then taken as the parameters
of an arrow function or as an expression. Where types are read, type arguments, type parameters
and result types are tried, and left aside if what follows does not fit them.
-/

namespace Phrasebook.Script.Grammar

open Phrasebook.Script.Parser

/-- Gets stuck unless there is a value. -/
def require {α : Type} : Option α → Parser α
  | some value => pure value
  | none => fail

/-- A token that an expression may start with. -/
def startsExpression : Token → Bool
  | .word word =>
    !isKeyword word
      || ["this", "super", "null", "true", "false", "function", "class", "new", "delete", "typeof",
        "void", "import"].contains word
  | .string .. => true
  | .number => true
  | .bigInteger => true
  | .symbol symbol =>
    ["`", "(", "[", openBrace, "/", "/=", "+", "-", "~", "!", "++", "--", "<", "#"].contains symbol
  | _ => false

/-- A token that an operand may start with after type arguments, which are then none. -/
def startsOperand : Token → Bool
  | .word word =>
    Token.isReference (.word word)
      || ["this", "super", "null", "true", "false", "function", "class", "new", "delete", "typeof",
        "void", "import", "await", "yield"].contains word
  | .symbol openBrace => false
  | token => startsExpression token

/-! ## Literals and arguments -/

/-- An argument or an array element. -/
def argument (g : Grammar) : Parser Node := do
  if ← eatSymbol "..." then pure (.form .spread [← g .assignment]) else g .assignment

/-- Arguments with their parentheses, and the offset after them. A comma may follow the last, if
`commaMayEnd` says so. -/
def arguments (g : Grammar) (commaMayEnd : Bool) : Parser (List Node × Nat) := do
  expectSymbol "("
  let found ← allowingIn <| awaitingNoColon <| loop (fun (found : List Node) => do
    if ← isSymbol ")" then pure (.inr found)
    else
      let found := found ++ [← argument g]
      unless ← isSymbol ")" do
        expectSymbol ","
        if !commaMayEnd && (← isSymbol ")") then fail
      pure (.inl found)) []
  pure (found, ← advanceOver)

/-- An array. -/
def arrayLiteral (g : Grammar) : Parser Node := do
  expectSymbol "["
  let elements ← allowingIn <| awaitingNoColon <| loop (fun (found : List Node) => do
    if ← eatSymbol "]" then pure (.inr found)
    else if ← eatSymbol "," then pure (.inl (found ++ [.form .hole []]))
    else
      let found := found ++ [← argument g]
      unless ← isSymbol "]" do expectSymbol ","
      pure (.inl found)) []
  pure (.form .array elements)

/-- Reads a method, in which `super` has members. -/
def withSuper {α : Type} (parser : Parser α) : Parser α :=
  within (fun context => { context with hasSuper := true }) parser

/-- A property after a word that may announce a getter, a setter or an asynchronous method. -/
def announcedMethod (g : Grammar) (word : String) : Parser Node := do
  if word == "get" then
    let key ← propertyName g
    let found ← withSuper (signature g false false)
    pure (.form .method (key :: found.result ++ found.body))
  else if word == "set" then
    let key ← propertyName g
    let found ← withSuper (signature g false false)
    noteIf found.parameters.isEmpty
    pure (.form .method (key :: found.parameters.take 2 ++ found.body))
  else if word == "async" then
    let generator ← eatSymbol "*"
    let key ← propertyName g
    withSuper (method g key {} true generator)
  else fail

/-- The name of a property is not followed by what a property goes on with. Where types are read
this is a mistake that is passed over. -/
def lacksValue (key : Node) : Parser Bool := do
  if !(← context).typed then pure false
  else
    match ← token with
    | .word _ => pure false
    | .string .. => pure false
    | .number => pure false
    | .symbol closeBrace => pure !(key matches .name _)
    | .symbol symbol => pure !(["(", "[", ":", ",", "?", "=", "*", "<"].contains symbol)
    | _ => pure true

/-- A property of an object. -/
def objectProperty (g : Grammar) : Parser Node := do
  if ← eatSymbol "..." then pure (.form .spread [← g .assignment])
  else if ← eatSymbol "*" then
    let key ← propertyName g
    withSuper (method g key {} false true)
  else
    let modified ← eatParameterModifier
    let key ← propertyName g
    if ← lacksValue key then
      note
      pure (.form .entry [key, .invalid])
    else if ← eatSymbol ":" then pure (.form .entry [key, ← g .assignment])
    else if ← atMethod then withSuper (method g key {} false false)
    else
      match key with
      | .name word => do
        noteIf (← eatSymbol "?")
        if ← eatSymbol "=" then pure (.form .shorthandDefault [key, ← g .assignment])
        else if ← isSymbolIn [",", closeBrace] then pure (.form .shorthand [key])
        else
          noteIf (modified && ["get", "set", "async"].contains word)
          announcedMethod g word
      | _ => fail

/-- An object. -/
def objectLiteral (g : Grammar) : Parser Node := do
  expectSymbol openBrace
  pure (.form .object
    (← allowingIn (awaitingNoColon (commaSeparated closeBrace (objectProperty g)))))

/-- A template without a tag, which starts at the current token. -/
def templateLiteral (g : Grammar) : Parser Node := do
  let (substitutions, value) ←
    templateParts false (allowingIn (awaitingNoColon (g .expression)))
  pure (.template value substitutions)

/-- A template after its tag, which starts at the current token. -/
def taggedTemplate (g : Grammar) (tag : Node) (types : List Node) : Parser Node := do
  let (substitutions, _) ← templateParts true (allowingIn (awaitingNoColon (g .expression)))
  noteIf tag.isOptional
  pure (.form .taggedTemplate (tag :: types ++ substitutions))

/-- The flags of a regular expression. -/
def regexFlags : List Char := ['d', 'g', 'i', 'm', 's', 'u', 'v', 'y']

/-- A regular expression, whose first slash is the current token or starts it. Each of its flags
should be known and stand once. -/
def regularExpression : Parser Node := do
  let current := (← cursor).current
  let (offset, text) :=
    if current.token == .symbol "/=" then (current.stop - 1, '=' :: current.rest)
    else (current.stop, current.rest)
  match dropRegexBody .plain text with
  | some (length, after) => do
    let flags :=
      if after.head?.any Text.isIdentifierStart then after.takeWhile Text.isIdentifierPart else []
    resume (offset + length + Text.byteLength flags) (after.drop flags.length)
    noteIf (flags.any fun flag => !regexFlags.contains flag)
    noteIf (regexFlags.any fun flag => 1 < flags.count flag)
    pure (.form .literal [])
  | none => do
    resumeAt { current with token := .deadEnd }
    fail

/-! ## Assignments and conditionals -/

/-- An assignment, if an operator follows its left side. -/
def assignmentRest (g : Grammar) (left : Node) : Parser Node := do
  match ← assignmentOperator with
  | none => pure left
  | some true => do
    let left ← require (left.toPattern .target)
    let destructures := left.kind? == some .array || left.kind? == some .object
    unless destructures || left.isAssignable do fail
    advance
    pure (.form .assignment [left, ← g .assignment])
  | some false => do
    unless left.isAssignable do fail
    advance
    pure (.form .compoundAssignment [left, ← g .assignment])

/-- A conditional expression from its question mark on. -/
def conditionalRest (g : Grammar) (test : Node) : Parser Node := do
  expectSymbol "?"
  let positive ← within (fun context =>
    { context with allowIn := true, inConditional := true, colonFollows := true }) (g .assignment)
  expectSymbol ":"
  let negative ← within (fun context =>
    { context with inConditional := true, colonFollows := false }) (g .assignment)
  pure (.form .conditional [test, positive, negative])

/-- A binary expression. A first operand that is missing before an operator is given up. -/
def binary (g : Grammar) : Parser Node := do
  match ← recover (g .unary) with
  | some left => if left.isArrow then pure left else g (.binaryRest left 0)
  | none =>
    if (← token).isFault then fail
    match ← binaryOperator with
    | some _ => g (.binaryRest .invalid 0)
    | none => fail

/-- A conditional expression. -/
def conditional (g : Grammar) : Parser Node := do
  let test ← binary g
  if !test.isArrow && (← isSymbol "?") then conditionalRest g test else pure test

/-! ## Parenthesised lists -/

/-- An item of a parenthesised list. -/
structure ParenItem where
  node : Node
  /-- The item can only be a parameter. -/
  isPattern : Bool

/-- Says that an arrow function may start here. -/
def markArrowStart : Parser Unit := do
  let cursor ← cursor
  moveTo { cursor with arrowStart := some cursor.current.start }

/-- The expression of an item, before a question mark and a type. -/
def parenExpression (g : Grammar) : Parser Node := do
  let typed := (← context).typed
  if typed && (← isReference) then do
    assignmentRest g (← binary g)
  else if typed && (← isSymbol "...") && Token.isReference (← peek) then do
    advance
    pure (.form .spread [← binary g])
  else argument g

/-- Passes the question mark of an optional parameter, or reads the branches of a conditional.
The flag says that the item is an optional parameter. -/
def parenOptional (g : Grammar) (node : Node) : Parser (Node × Bool) := do
  if (← context).typed && (← isSymbol "?") then
    match ← peek with
    | .symbol symbol =>
      if [",", ":", ")", "="].contains symbol then
        advance
        noteIf (node.kind? == some .spread)
        match node with
        | .name _ => pure (node, true)
        | .form .spread [.name _] => pure (node, true)
        | _ => fail
      else if node.kind? == some .spread then pure (node, false)
      else pure (← conditionalRest g node, false)
    | _ =>
      if node.kind? == some .spread then pure (node, false)
      else pure (← conditionalRest g node, false)
  else pure (node, false)

/-- The expression of an item as a parameter. -/
def itemPattern? : Node → Option Node
  | .form .spread [inner] => (inner.toPattern .binding).map fun pattern => .form .spread [pattern]
  | node => node.toPattern .binding

/-- An item of a parenthesised list. -/
def parenItem (g : Grammar) : Parser ParenItem := do
  markArrowStart
  let modified ← eatParameterModifier
  let (node, optional) ← parenOptional g (← parenExpression g)
  if optional || (← context).typed && (← isSymbol ":") then
    let pattern ← require (itemPattern? node)
    let takesType := pattern.kind? != some .invalid && pattern.kind? != some .assignment
    let types ← if takesType then annotation g else pure []
    let pattern := if types.isEmpty then pattern else Node.group (pattern :: types)
    let pattern ←
      if ← eatSymbol "=" then do pure (Node.form .assignment [pattern, ← g .assignment])
      else pure pattern
    noteIf modified
    pure ⟨pattern, true⟩
  else
    noteIf modified
    pure ⟨node, false⟩

/-- The name that a parameter is, whatever its type. -/
def isNamed : Node → Bool
  | .name _ => true
  | .form .other (.name _ :: _) => true
  | _ => false

/-- The items as parameters. A rest parameter that others follow is dropped. -/
def itemsToParameters : List ParenItem → Option (List Node)
  | [] => some []
  | item :: rest => do
    if !rest.isEmpty && item.node.kind? == some .spread then itemsToParameters rest
    else
      let first ← if item.isPattern then some item.node else itemPattern? item.node
      pure (first :: (← itemsToParameters rest))

/-- A parenthesised list with the offset after it. An arrow function whose arrow stands on a new
line after its only parameter counts as one more item. -/
def parenItems (g : Grammar) : Parser (List ParenItem × Nat) := do
  expectSymbol "("
  let found ← allowingIn <| awaitingNoColon <| loop (fun (found : List ParenItem) => do
    if ← isSymbol ")" then pure (.inr found)
    else
      let found := found ++ [← parenItem g]
      let found ←
        if (← eatSymbol "=>") && found.head?.any (isNamed ·.node) then do
          let parameters ← require (itemsToParameters found)
          let (body, _) ← arrowBody g false
          pure (found ++ [⟨.form .arrow (parameters ++ [body]), false⟩])
        else pure found
      unless ← isSymbol ")" do expectSymbol ","
      pure (.inl found)) []
  pure (found, ← advanceOver)

/-- An arrow function from its arrow on. -/
def arrowRest (g : Grammar) (async : Bool) (items : List ParenItem) (result : List Node) :
    Parser (Node × Bool) := do
  expectSymbol "=>"
  let parameters ← require (itemsToParameters items)
  let (body, isBlock) ← arrowBody g async
  pure (.form .arrow (parameters ++ [body] ++ result), isBlock)

/-- An arrow function with a result type in a branch of a conditional expression, if the rest of
the conditional fits after it. -/
def arrowInConditional? (g : Grammar) (async : Bool) (items : List ParenItem) :
    Parser (Option Node) := do
  let context ← context
  if context.typed && context.inConditional && (← isSymbol ":") then
    attempt do
      let result ← resultType g ":"
      let (arrow, _) ← arrowRest g async items [result]
      if context.colonFollows && !(← isSymbol ":") then fail
      pure (some arrow)
  else pure none

/-- The result type before an arrow. -/
def arrowResult? (g : Grammar) : Parser (Option Node) := do
  let context ← context
  if context.typed && !context.colonFollows && (← isSymbol ":") then
    attempt do
      let result ← resultType g ":"
      unless ← isSymbol "=>" do fail
      pure (some result)
  else pure none

/-- A parenthesised expression. -/
def parenthesised (items : List ParenItem) : Option Node :=
  if items.any (·.node.kind? == some .spread) then none
  else
    match items with
    | [] => none
    | [item] => some (.wrapped .parentheses item.node [])
    | items => some (.wrapped .parentheses (.form .sequence (items.map (·.node))) [])

/-- Notes each default value of an object among the items of a parenthesised expression. -/
def noteShorthandDefaults : List ParenItem → Parser Unit
  | [] => pure ()
  | item :: rest => do
    match item with
    | ⟨.form .object properties, false⟩ =>
      for property in properties do noteIf (property.kind? == some .shorthandDefault)
    | _ => pure ()
    noteShorthandDefaults rest

/-- A parenthesised expression or an arrow function. After `async`, which started at an offset, it
is a call or an asynchronous arrow function. -/
def parenOrArrow (g : Grammar) (canBeArrow : Bool) (async? : Option Nat) : Parser Node := do
  let (items, stop) ← parenItems g
  match ← arrowInConditional? g async?.isSome items with
  | some arrow => pure arrow
  | none =>
    let result ← arrowResult? g
    if items.any (·.isPattern) || result.isSome || (← isSymbol "=>") then
      if (← newline) || !canBeArrow then fail
      let (arrow, isBlock) ← arrowRest g async?.isSome items result.toList
      if isBlock && (← atBinarySymbol) then
        let found ← g (.binaryRest arrow 0)
        unless ← endsStatement do note
        pure found
      else pure arrow
    else
      noteShorthandDefaults items
      match async? with
      | some start => pure (.call start stop (.name "async") (items.map (·.node)) [])
      | none => require (parenthesised items)

/-! ## Primary expressions -/

/-- Type parameters of an arrow function. Where markup is read too, the first of them is followed
by a comma, a bound or a default, because it could be an element otherwise. -/
def arrowTypeParameters? (g : Grammar) : Parser (Option (List Node)) := do
  let unlikeMarkup : Parser Bool := do
    expectSymbol "<"
    discard (eatWord "const")
    discard identifierName
    if ← eatWord "extends" then pure !(← isSymbolIn ["=", ">", "/"])
    else isSymbolIn [",", "="]
  let opens ←
    if (← context).markup then do pure ((← lookAhead unlikeMarkup).getD false) else pure true
  if opens then pure (some (← typeParameters g)) else pure none

/-- A generic asynchronous arrow function after `async`. -/
def genericAsyncArrow (g : Grammar) : Parser Node := do
  let types ← require (← arrowTypeParameters? g)
  expectSymbol "("
  let parameters ← parameters g
  let result ← if ← isSymbol ":" then do pure [← resultType g ":"] else pure []
  expectSymbol "=>"
  let (body, _) ← arrowBody g true
  pure (.form .arrow (parameters ++ [body] ++ types ++ result))

/-- A name, or an arrow function whose only parameter is a name. -/
def nameOrArrow (g : Grammar) (canBeArrow : Bool) : Parser Node := do
  let context ← context
  unless (← isReference) || (← isWord "let") do fail
  let asynchronous ← isWord "async"
  let name ← identifier (!context.generator)
  let setsElements := context.inLoopHead && (← isWord "of") && !(← peekSymbol "=>")
  if canBeArrow && asynchronous && !(← newline) && setsElements then
    noteIf (!context.inAwaitingHead)
    pure name
  else if canBeArrow && asynchronous && !(← newline) && (← isReference) then
    let isAs ← isWord "as"
    let parameter ← bindingIdentifier false
    if context.typed && isAs && !(← isSymbol "=>") then
      pure (.wrapped .typed name [← g .typeExpression])
    else
      expectSymbol "=>"
      let (body, _) ← arrowBody g true
      pure (.form .arrow [parameter, body])
  else if ← eatSymbolWhen (canBeArrow && !(← newline)) "=>" then
    noteIf (isUnbindable name)
    let (body, _) ← arrowBody g false
    pure (.form .arrow [name, body])
  else pure name

/-- What starts with `async`. -/
def startedByAsync (g : Grammar) (canBeArrow : Bool) : Parser Node := do
  if ← atAsyncFunction then asyncFunction g .expression
  else
    let start ← offset
    let next ← peekLexeme
    let generic ←
      if canBeArrow && (← context).typed && next.token == .symbol "<" then
        attempt do
          advance
          pure (some (← genericAsyncArrow g))
      else pure none
    match generic with
    | some arrow => pure arrow
    | none =>
      if canBeArrow && next.token == .symbol "(" && !next.newline then
        advance
        parenOrArrow g true (some start)
      else nameOrArrow g canBeArrow

/-- A primary expression. -/
def primary (g : Grammar) : Parser Node := do
  let cursor ← cursor
  let canBeArrow := cursor.arrowStart == some cursor.current.start
  match cursor.current.token with
  | .word "this" => advance; pure (.form .this [])
  | .word "null" => advance; pure (.form .literal [])
  | .word "true" => advance; pure (.form .literal [])
  | .word "false" => advance; pure (.form .literal [])
  | .word "function" => function g false .expression
  | .word "class" => classDefinition g .expression
  | .word "async" => startedByAsync g canBeArrow
  | .word _ => nameOrArrow g canBeArrow
  | .symbol "#" => do
    advance
    pure (.form .privateName [← identifierName])
  | .string value quote => advance; pure (.string value quote)
  | .number => advance; pure (.form .literal [])
  | .bigInteger => advance; pure (.form .literal [])
  | .symbol "[" => arrayLiteral g
  | .symbol openBrace => objectLiteral g
  | .symbol "(" => parenOrArrow g canBeArrow none
  | .symbol "/" => regularExpression
  | .symbol "/=" => regularExpression
  | .symbol "`" => templateLiteral g
  | _ => fail

/-! ## Member accesses and calls -/

/-- Type arguments that neither a call nor another operand follows. -/
def freeTypeArguments? (g : Grammar) : Parser (Option (List Node)) := do
  if (← context).typed && (← isSymbol "<") then
    attempt do
      let types ← typeArguments g
      if ← isSymbolIn ["<", ">", "+", "-", "(", "`"] then pure none
      else if (← newline) || (← atBinarySymbol) || !startsOperand (← token) then
        pure (some types)
      else pure none
  else pure none

/-- Type arguments that the arguments of a call follow. -/
def callTypeArguments? (g : Grammar) : Parser (List Node) := do
  if (← context).typed && (← isOpenAngle) then
    let types ← attempt do
      let types ← typeArguments g
      if ← isSymbol "(" then pure (some types) else pure none
    pure (types.getD [])
  else pure []

/-- A call of `callee`, or a link of an optional chain. -/
def callNode (optional : Bool) (start stop : Nat) (callee : Node) (arguments types : List Node) :
    Node :=
  if optional || callee.isOptionalChain then .form .optionalCall (callee :: arguments ++ types)
  else .call start stop callee arguments types

/-- A member access, or a link of an optional chain. -/
def memberNode (optional : Bool) (object property : Node) : Node :=
  if optional || object.isOptionalChain then .form .optionalMember [object, property]
  else .member object property

/-- Which member accesses and calls may follow an expression. -/
structure Links where
  calls : Bool := true
  /-- Members in brackets. -/
  computed : Bool := true

/-- Every link but a call. -/
def Links.members : Links := { calls := false }

/-- An expression followed by type arguments, if a call, a template or the end of the expression
follows them. The flag says that the expression may go on. -/
def afterTypeArguments? (g : Grammar) (start : Nat) (links : Links) (object : Node) :
    Parser (Option (Node × Bool)) :=
  attempt <| joiningAngles do
    let types ← typeArguments g
    if links.calls && (← isSymbol "(") then
      let (arguments, stop) ← arguments g true
      pure (some (callNode false start stop object arguments types, true))
    else if ← isSymbol "`" then
      pure (some (← taggedTemplate g object types, true))
    else if (← isSymbol "=") || (← isWordIn ["as", "satisfies"]) then
      pure (some (.form .instantiation (object :: types), false))
    else pure none

/-- Passes the mark of an optional chain: its symbol, or a question mark before a dot, which is
left. -/
def eatOptionalMark : Parser Bool := do
  if ← eatSymbol "?." then pure true
  else if (← isSymbol "?") && (← peekSymbol ".") then
    advance
    advance
    pure true
  else pure false

/-- Checks that `super` has members here and that no optional chain starts with it. -/
def checkSuper (optional : Bool) : Parser Unit := do
  let context ← context
  if optional || !context.typed && !context.hasSuper then fail

/-- One more member access, call or template after an expression that started at an offset. -/
def subscript (g : Grammar) (start : Nat) (links : Links) (object : Node) :
    Parser (Node ⊕ Node) := do
  let optional ← eatOptionalMark
  let kind := object.kind?
  if kind == some .import && !(links.calls && (← isSymbol "(")) then fail
  if ← eatSymbolWhen links.computed "[" then
    let property ← allowingIn (awaitingNoColon (g .expression))
    expectSymbol "]"
    if kind == some .super then checkSuper optional
    pure (.inl (memberNode optional object (.form .computed [property])))
  else
    let types ← if optional then callTypeArguments? g else pure []
    if (optional || links.calls) && (← isSymbol "(") then
      let (arguments, stop) ← arguments g (kind != some .import || (← context).typed)
      if kind == some .import && arguments.isEmpty then fail
      if kind == some .super && optional then fail
      pure (.inl (callNode optional start stop object arguments types))
    else if optional || (← eatSymbolWhen (!optional) ".") then
      let property ← identifierOrPrivateName
      if kind == some .super then
        checkSuper optional
        if property.kind? == some .privateName then fail
      pure (.inl (memberNode optional object property))
    else if kind == some .super then fail
    else if ← isSymbol "`" then
      pure (.inl (← taggedTemplate g object []))
    else pure (.inr object)

/-- Member accesses, calls and templates after an expression that started at an offset. -/
def subscripts (g : Grammar) (start : Nat) (links : Links) (object : Node) : Parser Node :=
  loop (fun (object : Node) => do
    let typed := (← context).typed
    let plain := object.kind? != some .super && object.kind? != some .import
    if typed && !(← newline) && (← isSymbol "!") then
      unless plain do fail
      advance
      pure (.inl (.wrapped .nonNull object []))
    else
      let angle := typed && plain && (← isOpenAngle)
      match ← (if angle then afterTypeArguments? g start links object else pure none) with
      | some (node, true) => pure (.inl node)
      | some (node, false) => pure (.inr node)
      | none =>
        match ← (if angle then freeTypeArguments? g else pure none) with
        | some types => pure (.inl (.form .instantiation (object :: types)))
        | none => subscript g start links object) object

/-- What a class or an interface extends, with its type arguments. -/
def heritage (g : Grammar) : Parser Node := do
  let start ← offset
  let extended ← subscripts g start { calls := false, computed := false } (← identifierName)
  let named := match extended with
    | .name _ => true
    | .member _ _ => true
    | node => node.kind? == some .instantiation
  noteIf (!named)
  pure (.group (extended :: (← if ← isSymbol "<" then typeArguments g else pure [])))

/-- `import` as an expression, after its keyword. -/
def importExpression (g : Grammar) (start : Nat) (links : Links) : Parser Node := do
  if ← eatSymbol "." then
    if ← eatWord "meta" then subscripts g start links (.form .metaProperty [])
    else if ← isWordIn ["defer", "source"] then
      advance
      subscripts g start links (.form .import [])
    else fail
  else subscripts g start links (.form .import [])

/-- `new` after its keyword. -/
def construction (g : Grammar) (start : Nat) : Parser Node := do
  if ← eatSymbol "." then
    expectWord "target"
    noteIf (!(← context).hasNewTarget)
    subscripts g start Links.members (.form .metaProperty [])
  else
    let callee ← g .member
    if callee.isArrow then pure callee
    else
      if callee.isOptional then fail
      let types ← splittingAngles (callTypeArguments? g)
      if ← isSymbol "(" then
        let (arguments, _) ← arguments g true
        subscripts g start Links.members (.form (.new true) (callee :: arguments ++ types))
      else pure (.form (.new false) [callee])

/-- A member access or `new` without arguments, or what is closer. -/
def member (g : Grammar) : Parser Node := joiningAngles do
  let start ← offset
  if ← eatWord "new" then construction g start
  else if ← eatWord "super" then subscripts g start Links.members (.form .super [])
  else if ← eatWord "import" then importExpression g start Links.members
  else
    let object ← primary g
    if object.isArrow then pure object
    else
      let object := match ← freeTypeArguments? g with
        | some types => Node.form .instantiation (object :: types)
        | none => object
      subscripts g start Links.members object

/-- An element or a fragment of markup starts here. -/
def atMarkup : Parser Bool := do
  if (← context).markup && (← isSymbol "<") then
    let next ← peek
    pure (next.isWord || next == .symbol ">")
  else pure false

/-- A call or what is closer than one. -/
def leftHandSide (g : Grammar) : Parser Node := do
  let start ← offset
  if ← atMarkup then g (.element false)
  else if ← eatWord "super" then subscripts g start {} (.form .super [])
  else if ← eatWord "import" then importExpression g start {}
  else
    let callee ← g .member
    if callee.isArrow then pure callee
    else
      let types ← callTypeArguments? g
      if callee.kind? == some (.new false) then
        if types.isEmpty then pure callee else fail
      else if ← isSymbol "(" then
        let (arguments, stop) ← arguments g true
        subscripts g start {} (callNode false start stop callee arguments types)
      else pure callee

/-! ## Operators -/

/-- `await` after its keyword. Outside of asynchronous functions it is a name before a comma, a
closing bracket and the end of a statement. -/
def awaitRest (g : Grammar) : Parser Node := do
  let context ← context
  if ← isSymbol "*" then fail
  else if !context.async && ((← isSymbolIn [")", "]", ","]) || (← endsStatement)) then
    note
    pure (.name "await")
  else
    noteIf (context.inFunction && !context.async)
    noteIf (context.inParameters && !context.inFunction)
    pure (.form .await [← g .unary])

/-- A prefix operator whose missing operand is given up. -/
def prefixed (g : Grammar) : Parser Node := do
  let deletes ← isWord "delete"
  advance
  let operand ←
    match ← recover (g .unary) with
    | some operand => pure operand
    | none => do
      note
      pure .invalid
  noteIf (deletes && operand matches .name _)
  noteIf (deletes && (← context).typed && !operand.isMember)
  pure (.form .unary [operand])

/-- A type assertion after its opening bracket. -/
def assertion (g : Grammar) : Parser Node := do
  if ← eatWord "const" then
    expectSymbol ">"
    pure (.wrapped .constant (← g .unary) [])
  else
    let type ← g .typeExpression
    expectSymbol ">"
    pure (.form .typeAssertion [← g .unary, type])

/-- An expression with prefix operators, or with a postfix increment or decrement. -/
def unary (g : Grammar) : Parser Node := do
  let context ← context
  if ← eatSymbolWhen (context.typed && !context.markup) "<" then assertion g
  else if ← isSymbolIn ["++", "--"] then
    advance
    let operand ← g .unary
    if operand.refusesIncrement context.typed then note
    pure (.form .update [operand])
  else if (← isSymbolIn ["+", "-", "~", "!"]) || (← isWordIn ["delete", "void", "typeof"]) then
    prefixed g
  else if ← eatWord "await" then awaitRest g
  else
    let operand ← g .leftHandSide
    let closed := operand.isArrow || operand.kind? == some .markup
    if !closed && !(← newline) && (← isSymbolIn ["++", "--"]) then
      advance
      pure (.form .update [operand])
    else pure operand

/-- The type after `as` or `satisfies`, which is passed. Outside of types the signs `<` and `>` join
again after it with the signs after them. -/
def operandType (g : Grammar) : Parser Node := do
  let type ← typing do
    advance
    g .typeExpression
  unless (← context).inType do resumeAt (← cursor).current.joinAngle
  pure type

/-- What follows the left operand of a binary expression, down to a precedence. Operands of `??`
should not be other logical expressions. -/
def binaryRest (g : Grammar) (left : Node) (precedence : Nat) : Parser Node :=
  loop (fun (left : Node) => do
    let typing := (← context).typed && precedence < relationPrecedence && !(← newline)
    if typing && (← isWord "as") then
      if ← peekWord "const" then
        advance
        advance
        pure (.inl (.wrapped .constant left []))
      else pure (.inl (.wrapped .typed left [← operandType g]))
    else if typing && (← isWord "satisfies") then
      pure (.inl (.wrapped .satisfying left [← operandType g]))
    else
      match ← binaryOperator with
      | none => pure (.inr left)
      | some (operator, level) =>
        if level ≤ precedence then pure (.inr left)
        else
          advance
          let power := operator == "**"
          if power && (left.kind? == some .unary || left.kind? == some .await) then fail
          let first ← g .unary
          let right ← g (.binaryRest first (if power then level - 1 else level))
          noteIf (operator == "??" && left.kind? == some .logical)
          noteIf (operator == "??" && right.kind? == some .logical)
          let kind := if operator == "&&" || operator == "||" then Kind.logical else Kind.binary
          pure (.inl (.form kind [left, right]))) left

/-- `yield` from its keyword on. -/
def yieldExpression (g : Grammar) : Parser Node := do
  advance
  let context ← context
  if context.inParameters && !context.inFunction then fail
  let ends := (← endsStatement) || !(← isSymbol "*") && !startsExpression (← token)
  if ends then pure (.form .yield [])
  else
    discard (eatSymbol "*")
    pure (.form .yield [← g .assignment])

/-- An assignment expression without type parameters at its start. -/
def plainAssignment (g : Grammar) : Parser Node := do
  if (← context).generator && (← isWord "yield") then yieldExpression g
  else
    let cursor ← cursor
    let starts := match cursor.current.token with
      | .symbol symbol => symbol == "("
      | .word word => word == "yield" || Token.isPlainWord (.word word)
      | _ => false
    moveTo { cursor with arrowStart := if starts then some cursor.current.start else none }
    let left ← conditional g
    match left.kind? with
    | some .arrow => pure left
    | some .conditional => pure left
    | some .binary => pure left
    | some .logical => pure left
    | some .unary => pure left
    | some .update => pure left
    | _ => assignmentRest g left

/-- A generic arrow function, possibly in further type parameters. -/
def genericArrow? (g : Grammar) : Parser (Option Node) :=
  attempt <| awaitingNoColon do
    match ← arrowTypeParameters? g with
    | none => pure none
    | some types =>
      match ← g .ungrouped with
      | .form .arrow parts => pure (some (.form .arrow (parts ++ types)))
      | _ => pure none

/-- An assignment expression that starts no markup. -/
def ungrouped (g : Grammar) : Parser Node := do
  let opens := (← context).typed && (← isSymbol "<") && (← peek).isWord
  match ← (if opens then genericArrow? g else pure none) with
  | some node => pure node
  | none => plainAssignment g

/-- An assignment expression. A sign `<` at its start opens markup, type parameters of an arrow
function or a type assertion, tried in this order. -/
def assignment (g : Grammar) : Parser Node := do
  let context ← context
  let markup ←
    if context.typed && context.markup && (← isSymbol "<") then
      attempt (do pure (some (← ungrouped g)))
    else pure none
  match markup with
  | some node => pure node
  | none => ungrouped g

/-- Expressions between commas. -/
def expression (g : Grammar) : Parser Node := do
  let first ← g .assignment
  if ← isSymbol "," then
    loop (fun (found : List Node) => do
      if ← eatSymbol "," then pure (.inl (found ++ [← g .assignment]))
      else pure (.inr (.form .sequence found))) [first]
  else pure first

end Phrasebook.Script.Grammar

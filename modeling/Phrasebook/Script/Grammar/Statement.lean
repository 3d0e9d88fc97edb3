import Phrasebook.Script.Grammar.Expression

/-!
# Statements and declarations

Productions for statements, for declarations of variables, functions and classes, and for the
declarations of types. Words such as `type` and `namespace` start a declaration only where a name
follows.
-/

namespace Phrasebook.Script.Grammar

open Phrasebook.Script.Parser

/-- Reads declarations without values. -/
def ambiently {α : Type} (parser : Parser α) : Parser α :=
  within (fun context => { context with ambient := true }) parser

/-! ## Variables -/

/-- The keyword before a variable. -/
inductive VariableKind where
  | var
  | let
  | const
  deriving DecidableEq

/-- A variable with its type and its value. -/
structure Declarator where
  target : Node
  type : List Node
  value : List Node := []

/-- The variable with its parts. -/
def Declarator.node (found : Declarator) : Node :=
  .group (found.target :: found.type ++ found.value)

/-- A variable. Outside the head of a loop, a destructuring pattern needs a value. -/
def declarator (g : Grammar) (kind : VariableKind) (inHead : Bool) : Parser Declarator := do
  let context ← context
  let named := !(← isSymbolIn ["[", openBrace])
  if kind != .var && (← isWord "let") then fail
  let target ← g .pattern
  if context.typed && named then discard (eatSymbol "!")
  let type ← annotation g
  if inHead && (← isWordIn ["in", "of"]) then pure { target, type }
  else if ← eatSymbol "=" then pure { target, type, value := [← g .assignment] }
  else
    let constant := kind == .const && !inHead
    if constant && !context.ambient then note
    if named || context.ambient || constant then pure { target, type } else fail

/-- The head of a loop over elements or keys goes on without a variable. -/
def atEmptyHead (g : Grammar) : Parser Bool := do
  let rest : Parser Unit := do
    unless (← eatWord "of") || (← eatWord "in") do fail
    discard (g .assignment)
    expectSymbol ")"
  if (← context).typed && (← isWordIn ["in", "of"]) then do
    pure (← lookAhead rest).isSome
  else pure false

/-- Variables between commas. A list may end in a comma or be empty before a semicolon. -/
def declarators (g : Grammar) (kind : VariableKind) (inHead : Bool) : Parser (List Node) := do
  if inHead && (← atEmptyHead g) then
    note
    pure []
  else
    loop (fun (found : List Node) => do
      if ← isSymbol ";" then
        note
        pure (.inr found)
      else
        let read := declarator g kind inHead
        let next ← if kind == .var && inHead then read else allowingIn read
        let found := found ++ [next.node]
        if ← eatSymbol "," then pure (.inl found) else pure (.inr found)) []

/-- Passes tokens up to the end of a statement or to a fault. -/
def skipStatement : Parser Unit :=
  loop (fun (_ : Unit) => do
    if ← eatStatementEnd then pure (.inr ())
    else
      advance
      pure (if (← token).isFault then .inr () else .inl ())) ()

/-- A declaration of variables after its keyword. What follows a variable on its line without
belonging to it is passed over. -/
def variableStatement (g : Grammar) (kind : VariableKind) : Parser Node := do
  let found ← declarators g kind false
  unless ← eatStatementEnd do
    note
    discard (recover (g .expression))
    skipStatement
  pure (.group found)

/-- The current token is `let` and starts a declaration. -/
def atLetDeclaration : Parser Bool := do
  if ← isWord "let" then
    match ← peek with
    | .symbol symbol => pure (symbol == openBrace || symbol == "[")
    | .word word =>
      pure (["yield", "await", "let"].contains word || Token.isPlainWord (.word word))
    | _ => pure false
  else pure false

/-- The keyword of a declaration of variables, which is passed. -/
def variableKeyword? (declarations : Bool) : Parser (Option VariableKind) := do
  if ← eatWord "var" then pure (some .var)
  else if declarations && (← isWord "const") && !((← context).typed && (← peekWord "enum")) then
    advance
    pure (some .const)
  else if declarations && (← atLetDeclaration) then
    advance
    pure (some .let)
  else pure none

/-- A declaration of resources, if one starts here. Its end is that of the last value. Each resource
should have a name and a value. -/
def resources? (g : Grammar) : Parser (Option Node) := do
  let next ← peekLexeme
  if (← isWord "using") && !next.newline && next.token.isReference then
    advance
    let found ← loop (fun (found : List Declarator) => do
      if ← isSymbol ";" then
        note
        pure (.inr found)
      else
        let found := found ++ [← declarator g .var false]
        if ← eatSymbol "," then pure (.inl found) else pure (.inr found)) []
    unless (← context).typed do note
    for resource in found do
      noteIf (!(resource.target matches .name _))
      noteIf resource.value.isEmpty
    pure (some (.group (found.map Declarator.node)))
  else pure none

/-! ## Declarations of types -/

/-- A member of an enumeration. A token in the place of a comma is passed, and the token after it
counts as the comma. -/
def enumMember (g : Grammar) : Parser Node := do
  let key ←
    match ← token with
    | .string value quote => do
      advance
      pure (Node.string value quote)
    | .number => do
      advance
      note
      pure (.form .literal [])
    | .symbol "[" => do
      advance
      discard (g .expression)
      note
      expectSymbol "]"
      pure (.form .computed [])
    | _ => identifierName
  if ← eatSymbol "=" then pure (.group [key, ← g .assignment])
  else
    unless ← isSymbolIn [",", closeBrace] do
      advance
      resumeAt { (← cursor).current with token := .symbol "," }
    pure (.group [key])

/-- An enumeration after its keyword. A comma between members may lack. -/
def enumeration (g : Grammar) : Parser Node := do
  discard identifierName
  expectSymbol openBrace
  loop (fun (found : List Node) => do
    if ← eatSymbol closeBrace then pure (.inr (.group found))
    else
      let found := found ++ [← enumMember g]
      unless (← eatSymbol ",") || (← isSymbol closeBrace) do note
      pure (.inl found)) []

/-- An interface after its keyword. -/
def interface (g : Grammar) : Parser Node := do
  noteIf (namesPrimitive (← identifierName))
  let types ← typeParameters? g
  let extended ← if ← eatWord "extends" then heritageList g else pure []
  if ← isWord "extends" then
    loop (fun (_ : Unit) => do
      match ← token with
      | .symbol openBrace => pure (.inr ())
      | .finish => fail
      | .deadEnd => fail
      | _ => do
        advance
        pure (.inl ())) ()
  let body ← typeMembers g
  pure (.group (types ++ extended ++ [body]))

/-- A type alias after its keyword. -/
def typeAlias (g : Grammar) : Parser Node := do
  discard identifierName
  let types ← typeParameters? g
  let type ← typing do
    expectSymbol "="
    g .typeExpression
  expectStatementEnd
  pure (.group (types ++ [type]))

/-- The body of a namespace, whose items are those of a module. -/
def moduleBlock (g : Grammar) : Parser Node := do
  pure (.group (← allowingIn (awaitingNoColon (itemsInBraces (g .item)))))

/-- The names and the body of a namespace. -/
def namespaceBody (g : Grammar) : Parser Node := do
  discard identifierName
  if ← eatSymbol "." then g .namespaceBody else moduleBlock g

/-- A module named by a string or by `global`, from its name on. -/
def ambientModule (g : Grammar) : Parser Node := do
  match ← token with
  | .word "global" => advance
  | .string .. => advance
  | _ => fail
  if ← isSymbol openBrace then moduleBlock g
  else
    expectStatementEnd
    pure (.group [])

/-- A declaration that a word starts. The word is passed, unless `ahead` says that it is the
current token. -/
def wordDeclaration? (g : Grammar) (word : String) (ahead : Bool) : Parser (Option Node) := do
  let broken ← newline
  let pass : Parser Unit := do
    if ahead then advance
  let named ← do pure (ahead || (← isReference))
  if word == "abstract" then
    if ahead || (← isWord "class") && !broken then
      pass
      pure (some (← classDefinition g .declaration))
    else pure none
  else if word == "enum" && named then
    pass
    pure (some (← enumeration g))
  else if word == "interface" && named then
    pass
    pure (some (← interface g))
  else if word == "namespace" && named then
    pass
    pure (some (← namespaceBody g))
  else if word == "type" && (ahead || named && !broken) then
    pass
    pure (some (← typeAlias g))
  else if word == "module" && !broken then
    pass
    match ← token with
    | .string .. => pure (some (← ambientModule g))
    | .finish => fail
    | token =>
      if token.isFault then fail
      else if ahead || token.isReference then pure (some (← namespaceBody g))
      else pure none
  else pure none

/-- A declaration after `declare`. -/
def ambientDeclaration? (g : Grammar) : Parser (Option Node) := do
  noteIf (← context).ambient
  ambiently do
    if ← isWord "function" then pure (some (← function g false .declaration))
    else if ← isWord "class" then pure (some (← classDefinition g .declaration))
    else if (← isWord "const") && (← peekWord "enum") then
      advance
      advance
      pure (some (← enumeration g))
    else if ← eatWord "var" then pure (some (← variableStatement g .var))
    else if ← eatWord "const" then pure (some (← variableStatement g .const))
    else if ← eatWord "let" then pure (some (← variableStatement g .let))
    else
      match ← token with
      | .word "global" => pure (some (← ambientModule g))
      | .word word => wordDeclaration? g word true
      | _ => pure none

/-- A declaration of types after the word that starts it. -/
def typeDeclaration? (g : Grammar) (word : String) : Parser (Option Node) := do
  if word == "declare" then ambientDeclaration? g
  else if word == "global" then
    if ← isSymbol openBrace then pure (some (← moduleBlock g)) else pure none
  else wordDeclaration? g word false

/-! ## Compound statements -/

/-- An expression in parentheses after a keyword. -/
def condition (g : Grammar) : Parser Node := do
  expectSymbol "("
  let test ← allowingIn (g .expression)
  expectSymbol ")"
  pure test

/-- A conditional statement after its keyword. -/
def ifStatement (g : Grammar) : Parser Node := do
  let test ← condition g
  let positive ← g (.statement false)
  let negative ← if ← eatWord "else" then do pure [← g (.statement false)] else pure []
  pure (.group (test :: positive :: negative))

/-- The head of a counting loop after its first part. The second semicolon may lack. -/
def countingHead (g : Grammar) (start : List Node) : Parser Node := do
  expectSymbol ";"
  let test ←
    if ← eatSymbol ";" then pure []
    else
      let test ← allowingIn (g .expression)
      discard (eatSymbol ";")
      pure [test]
  let step ← if ← isSymbol ")" then pure [] else do pure [← allowingIn (g .expression)]
  pure (.group (start ++ test ++ step))

/-- The word before a resource, read as an expression. -/
def announcesResource : Node → Bool
  | .name "using" => true
  | .form .await [.name "using"] => true
  | _ => false

/-- The head of a loop from the word between what it sets and what it runs over. The flag says that
it takes the elements of a value. -/
def eachHead (g : Grammar) (left : Node) : Parser (Node × Bool) := do
  let elements ← isWord "of"
  advance
  let value ← allowingIn (if elements then g .assignment else g .expression)
  pure (.group [left, value], elements)

/-- The head of a loop, and whether it takes the elements of a value. -/
def loopHead (g : Grammar) : Parser (Node × Bool) := do
  match ← variableKeyword? true with
  | some kind => do
    let found ← within (fun context => { context with allowIn := false }) (declarators g kind true)
    if ← isWordIn ["in", "of"] then eachHead g (.group found)
    else pure (← countingHead g found, false)
  | none =>
    if ← isSymbol ";" then pure (← countingHead g [], false)
    else
      let start ← within (fun context => { context with allowIn := false }) (g .expression)
      let declares := (← context).typed && announcesResource start && !(← isWord "of")
        && ((← peekWord "of") || (← peekWord "in"))
      if declares then eachHead g (← bindingIdentifier false)
      else if ← isWordIn ["in", "of"] then eachHead g (← require (start.toPattern .target))
      else pure (← countingHead g [start], false)

/-- The statement that a loop repeats. -/
def loopBody (g : Grammar) : Parser Node :=
  within (fun context => { context with inBreakable := true, inLoop := true })
    (g (.statement false))

/-- A loop after `for`. -/
def forStatement (g : Grammar) : Parser Node := do
  let awaits ← eatWord "await"
  expectSymbol "("
  let (head, elements) ←
    within (fun context => { context with inLoopHead := true, inAwaitingHead := awaits })
      (loopHead g)
  expectSymbol ")"
  let body ← loopBody g
  if awaits && !elements then fail
  pure (.group [head, body])

/-- The cases of a `switch`. At most one of them is `default`. -/
def switchCases (g : Grammar) : Parser (List Node) := do
  expectSymbol openBrace
  loop (fun ((found, hasDefault) : List Node × Bool) => do
    if ← eatSymbol closeBrace then pure (.inr found)
    else
      let test ←
        if ← eatWord "case" then do pure [← allowingIn (g .expression)]
        else
          expectWord "default"
          pure []
      if test.isEmpty && hasDefault then fail
      expectSymbol ":"
      let body ← within (fun context => { context with inBreakable := true }) <|
        loop (fun (body : List Node) => do
          if (← isWordIn ["case", "default"]) || (← isSymbol closeBrace) then pure (.inr body)
          else pure (.inl (body ++ [← g (.statement true)]))) []
      pure (.inl (found ++ [.group (test ++ body)], hasDefault || test.isEmpty))) ([], false)

/-- A `catch` clause, if there is one. -/
def catchClause (g : Grammar) : Parser (List Node) := do
  if ← eatWord "catch" then
    let parameter ←
      if ← eatSymbol "(" then do
        let left ← g .pattern
        let types ← annotation g
        expectSymbol ")"
        pure (left :: types)
      else pure []
    pure (parameter ++ [← block g])
  else pure []

/-- A `finally` block, if there is one. -/
def finallyClause (g : Grammar) : Parser (List Node) := do
  if ← eatWord "finally" then do pure [← block g] else pure []

/-- A `try` statement after its keyword. Both of its clauses may lack. -/
def tryStatement (g : Grammar) : Parser Node := do
  let body ← block g
  let handler ← catchClause g
  let last ← finallyClause g
  if handler.isEmpty && last.isEmpty then note
  pure (.group (body :: handler ++ last))

/-- What follows `break` or `continue`, which only some statements allow. -/
def leaveStatement (allowed : Context → Bool) : Parser Node := do
  let context ← context
  let known ←
    if ← eatStatementEnd then pure true
    else
      let label ← identifier (!context.generator)
      expectStatementEnd
      pure (match label with
        | .name label => context.labels.contains label
        | _ => false)
  unless known && allowed context do note
  pure (.group [])

/-- What follows `return`, which belongs into a function. -/
def returnStatement (g : Grammar) : Parser Node := do
  let value ←
    if ← eatStatementEnd then pure (.group [])
    else
      let value ← allowingIn (g .expression)
      expectStatementEnd
      pure value
  unless (← context).inFunction do note
  pure value

/-- A statement that a keyword starts, if one does. -/
def keywordStatement? (g : Grammar) (word : String) : Parser (Option Node) := do
  let after := fun (parser : Parser Node) => do
    advance
    pure (some (← parser))
  match word with
  | "break" => after (leaveStatement (·.inBreakable))
  | "continue" => after (leaveStatement (·.inLoop))
  | "debugger" => after do
    expectStatementEnd
    pure (.group [])
  | "do" => after do
    let body ← loopBody g
    expectWord "while"
    let test ← condition g
    discard eatStatementEnd
    pure (.group [test, body])
  | "for" => after (forStatement g)
  | "if" => after (ifStatement g)
  | "return" => after (returnStatement g)
  | "switch" => after do
    let value ← condition g
    pure (.group (value :: (← switchCases g)))
  | "throw" => after do
    if ← newline then fail
    let value ← allowingIn (g .expression)
    expectStatementEnd
    pure value
  | "try" => after (tryStatement g)
  | "while" => after do
    let test ← condition g
    pure (.group [test, ← loopBody g])
  | "with" => after do
    let object ← condition g
    pure (.group [object, ← g (.statement false)])
  | "catch" => do
    discard (recover (catchClause g))
    discard (recover (finallyClause g))
    pure (some .invalid)
  | "finally" => do
    discard (recover (finallyClause g))
    pure (some .invalid)
  | "function" => do pure (some (← function g false .declaration))
  | "class" => do pure (some (← classDefinition g .declaration))
  | _ => pure none

/-! ## Statements -/

/-- A statement after the label that was read as an expression. A label should not repeat one
around it, nor stand before a function. -/
def labelled (g : Grammar) (label : String) : Parser Node := do
  let repeated := (← context).labels.filter (· == label)
  let isFunction ← isWord "function"
  let generates := isFunction && (← peekSymbol "*")
  let found ←
    within (fun context => { context with inBreakable := true, labels := label :: context.labels })
      (g (.statement false))
  noteIf isFunction
  noteIf generates
  for _ in repeated do note
  pure found

/-- A statement that an expression starts. Where an operator follows an expression that could not
go on, both belong to one statement. -/
def expressionStatement (g : Grammar) : Parser Node := do
  let found ← allowingIn (g .expression)
  let typed := (← context).typed
  let finish : Parser Node := do
    if ← eatStatementEnd then pure found
    else if ← atBinarySymbol then g (.binaryRest found 0)
    else fail
  match found with
  | .name word =>
    if ← eatSymbol ":" then labelled g word
    else
      match ← (if typed then typeDeclaration? g word else pure none) with
      | some node => pure node
      | none =>
        if ← eatWordWhen (typed && word == "abstract") "interface" then
          note
          interface g
        else finish
  | _ => finish

/-- `await` before `using` that starts no declaration. The statement may end right after its
expression. -/
def awaitStatement (g : Grammar) : Parser Node := do
  let first ← awaitRest g
  let found ← allowingIn (g (.binaryRest first 0))
  discard eatStatementEnd
  pure found

/-- `import` at the start of a statement, where it is an expression. -/
def importStatement (g : Grammar) : Parser Node := do
  if (← peekSymbol "(") || (← peekSymbol ".") then
    let found ← allowingIn (g .expression)
    discard eatStatementEnd
    pure found
  else fail

/-- A declaration of an interface, an alias or an enumeration, if one starts here: its word and its
name stand on one line. -/
def namedDeclaration? (g : Grammar) (word : String) : Parser (Option Node) := do
  let next ← peekLexeme
  if !(← context).typed || next.newline || !next.token.isWord then pure none
  else
    let after := fun (parser : Parser Node) => do
      advance
      pure (some (← parser))
    match word with
    | "interface" => after (interface g)
    | "type" => after (typeAlias g)
    | "enum" => after (enumeration g)
    | _ => pure none

/-- A statement that a word starts. -/
def wordStatement (g : Grammar) (word : String) (declarations : Bool) : Parser Node := do
  if word == "import" then importStatement g
  else if (← context).typed && word == "const" && (← peekWord "enum") then
    advance
    advance
    enumeration g
  else if declarations && word == "await" && (← peekWord "using") then
    advance
    match ← resources? g with
    | some node => pure node
    | none => awaitStatement g
  else
    match ← variableKeyword? declarations with
    | some kind => variableStatement g kind
    | none =>
      if ← atAsyncFunction then asyncFunction g .declaration
      else
        match ← (if declarations then resources? g else pure none) with
        | some node => pure node
        | none =>
          match ← keywordStatement? g word with
          | some node => pure node
          | none =>
            match ← namedDeclaration? g word with
            | some node => pure node
            | none => expressionStatement g

/-- A statement; declarations may be refused. -/
def statement (g : Grammar) (declarations : Bool) : Parser Node :=
  awaitingNoColon do
    match ← token with
    | .symbol ";" => advance; pure (.group [])
    | .symbol openBrace => block g
    | .word word => wordStatement g word declarations
    | _ => expressionStatement g

end Phrasebook.Script.Grammar

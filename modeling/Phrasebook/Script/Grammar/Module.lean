import Phrasebook.Script.Grammar.Markup
import Phrasebook.Script.Grammar.Statement

/-!
# Imports and exports

Productions for the items of a module: statements, imports and exports. `production` joins all
productions of the grammar.
-/

namespace Phrasebook.Script.Grammar

open Phrasebook.Script.Parser

/-! ## Clauses -/

/-- A string literal. -/
def stringLiteral : Parser Unit := do
  match ← token with
  | .string .. => advance
  | _ => fail

/-- The attributes of an import on the same line. Only where types are read do they belong to the
import. -/
def importAttributes (g : Grammar) : Parser (List Node) := do
  if (← context).typed && !(← newline) && (← isWordIn ["with", "assert"]) then
    advance
    pure [← objectLiteral g]
  else pure []

/-- The module after `from` and its attributes. The end of the statement may lack. -/
def fromClause (g : Grammar) : Parser Node := do
  expectWord "from"
  stringLiteral
  let given ← importAttributes g
  discard eatStatementEnd
  pure (.group given)

/-- The name of an export: a word or a string. -/
def exportName : Parser Node := do
  match ← token with
  | .string value quote => advance; pure (.string value quote)
  | _ => identifierName

/-- The rest of `name as name` after `type` in a list of imports or exports, where `type` itself
may be the name. The flag says that the names are complete. -/
def typeSpecifier (binding : Parser Node) : Parser Bool := do
  if (← context).typed && (← isAnyWord) then
    if ← eatWord "as" then
      if ← isAnyWord then
        if (← eatWord "as") && (← isAnyWord) then
          discard binding
          pure true
        else
          unless ← isSymbolIn [",", closeBrace] do discard binding
          pure true
      else pure true
    else
      advance
      pure false
  else pure false

/-- A name in a list of imports. -/
def importSpecifier : Parser Node := do
  match ← token with
  | .string .. => do
    advance
    expectWord "as"
    bindingIdentifier false
  | .word word => do
    advance
    let next ← token
    let complete ← if word == "type" then typeSpecifier (bindingIdentifier false) else pure false
    if complete then pure (.group [])
    else if ← eatWord "as" then bindingIdentifier false
    else
      let name := match word, next with
        | "type", .word inner => if inner == "as" then word else inner
        | _, _ => word
      if isReserved name then fail
      pure (.group [])
  | _ => fail

/-- A name that only another module can export: a string or a word that no variable has. -/
def isForeign : Node → Bool
  | .string _ _ => true
  | .name text => isKeyword text || text == "enum" || text == "package"
  | _ => false

/-- A name in a list of exports. -/
def exportSpecifier : Parser Node := do
  let first ← exportName
  let second ← token
  let isType := (← context).typed && (first matches .name "type") && second.isWord
  let complete ← if isType then typeSpecifier identifierName else pure false
  if ← eatWordWhen (!complete) "as" then discard exportName
  pure (match second with
    | .word word => if isType && !complete then .name word else first
    | _ => first)

/-- The module or the name after the equals sign of an import. -/
def importEquals : Parser Node := do
  expectSymbol "="
  if (← isWord "require") && (← peekSymbol "(") then
    advance
    advance
    stringLiteral
    expectSymbol ")"
  else qualifiedName false
  expectStatementEnd
  pure (.group [])

/-! ## Imports -/

/-- What `import` imports. -/
inductive ImportPhase where
  | evaluation
  | deferred
  | source
  deriving DecidableEq

/-- The phase that a word announces. -/
def ImportPhase.ofWord? (word : String) : Option ImportPhase :=
  match word with
  | "defer" => some .deferred
  | "source" => some .source
  | _ => none

/-- The names between `import` and `from` after a name for all of the module, if there is one. Only
the values of a module have names of their own. -/
def importedNames (phase : ImportPhase) : Parser Unit := do
  if ← eatSymbolWhen (phase != .source) "*" then
    expectWord "as"
    discard (bindingIdentifier false)
  else if ← eatSymbolWhen (phase = .evaluation) openBrace then
    discard (commaSeparated closeBrace importSpecifier)

/-- The names between `import` and `from`. The result says that an equals sign follows the first. -/
def importNames : Parser Bool := do
  let typed := (← context).typed
  if !(← isReference) then
    importedNames .evaluation
    pure false
  else
    let first ← bindingIdentifier false
    let isType := typed && (first matches .name "type")
    if isType && (← isSymbolIn ["*", openBrace]) then
      importedNames .evaluation
      pure false
    else
      let fromFollows ← isWord "from"
      let whole ←
        if isType && (← isReference)
            && (!fromFollows || (← peekWord "from") || (← peekSymbol "=")) then
          bindingIdentifier false
        else pure first
      if typed && (← isSymbol "=") then pure true
      else
        let phase? := match whole with
          | .name word => ImportPhase.ofWord? word
          | _ => none
        let named ← isSymbolIn ["*", openBrace]
        match phase? with
        | some phase =>
          if named then importedNames phase
          else
            if (← isReference) && !(← isWord "from") || (← peekWord "from") then
              discard (bindingIdentifier false)
            unless ← isWord "from" do expectSymbol ","
            importedNames .evaluation
        | none =>
          unless ← isWord "from" do expectSymbol ","
          importedNames .evaluation
        pure false

/-- An import. -/
def importItem (g : Grammar) : Parser Node := do
  if (← peekSymbol "(") || (← peekSymbol ".") then importStatement g
  else
    expectWord "import"
    match ← token with
    | .string .. => do
      advance
      let given ← importAttributes g
      discard eatStatementEnd
      pure (.group given)
    | _ =>
      if ← importNames then importEquals else fromClause g

/-! ## Exports -/

/-- What `export default` exports. -/
def defaultExport (g : Grammar) : Parser Node := do
  let next ← peekLexeme
  let typed := (← context).typed
  if typed && (← isWord "abstract") && next.token == .word "class" && !next.newline then
    advance
    classDefinition g .defaultExport
  else if typed && (← isWord "abstract") && next.token == .word "interface" then
    advance
    advance
    interface g
  else if ← eatWordWhen typed "interface" then interface g
  else if ← isWord "class" then classDefinition g .defaultExport
  else if ← atAsyncFunction then asyncFunction g .defaultExport
  else if ← isWord "function" then function g false .defaultExport
  else
    let value ← allowingIn (g .assignment)
    expectStatementEnd
    pure value

/-- A list of exports, with the module that they come from, if there is one. -/
def exportList (g : Grammar) : Parser Node := do
  discard (eatWordWhen (← context).typed "type")
  if ← eatSymbol "*" then
    if ← eatWord "as" then discard exportName
    fromClause g
  else
    expectSymbol openBrace
    let names ← commaSeparated closeBrace exportSpecifier
    if ← isWord "from" then fromClause g
    else
      for name in names do noteIf (isForeign name)
      discard eatStatementEnd
      pure (.group [])

/-- A declaration that is exported, if one starts here. -/
def exportedDeclaration? (g : Grammar) : Parser (Option Node) := do
  if ← isWord "class" then pure (some (← classDefinition g .declaration))
  else if ← atAsyncFunction then pure (some (← asyncFunction g .declaration))
  else if ← isWord "function" then pure (some (← function g false .declaration))
  else if (← context).typed && (← isWord "const") && (← peekWord "enum") then
    advance
    advance
    pure (some (← enumeration g))
  else
    match ← variableKeyword? true with
    | some kind => pure (some (← variableStatement g kind))
    | none => pure none

/-- Exports that only a script with types has, if one starts here. -/
def typedExport? (g : Grammar) : Parser (Option Node) := do
  let declared ← if ← eatWord "declare" then ambientDeclaration? g else pure none
  match declared with
  | some node => pure (some node)
  | none =>
    let word? := match ← token with
      | .word word => some word
      | _ => none
    match ← attempt (do wordDeclaration? g (← require word?) true) with
    | some node => pure (some node)
    | none =>
      if ← eatWord "import" then
        if (← isWord "type") && (← peek).isWord then advance
        discard identifierName
        pure (some (← importEquals))
      else if ← eatSymbol "=" then
        let value ← allowingIn (g .expression)
        expectStatementEnd
        pure (some value)
      else if ← eatWord "as" then
        expectWord "namespace"
        discard (identifier false)
        expectStatementEnd
        pure (some (.group []))
      else pure none

/-- An export. -/
def exportItem (g : Grammar) : Parser Node := do
  expectWord "export"
  match ← (if (← context).typed then typedExport? g else pure none) with
  | some node => pure node
  | none =>
    if ← eatWord "default" then defaultExport g
    else
      match ← exportedDeclaration? g with
      | some node => pure node
      | none => exportList g

/-- A statement, import or export. -/
def item (g : Grammar) : Parser Node := do
  if ← isWord "import" then allowingIn (importItem g)
  else if ← isWord "export" then allowingIn (exportItem g)
  else statement g true

/-- The production of each goal. -/
def production (g : Grammar) : Grammar
  | .item => item g
  | .statement declarations => statement g declarations
  | .expression => expression g
  | .assignment => assignment g
  | .ungrouped => ungrouped g
  | .binaryRest left precedence => binaryRest g left precedence
  | .unary => unary g
  | .leftHandSide => leftHandSide g
  | .member => member g
  | .pattern => pattern g
  | .typeExpression => typeExpression g
  | .plainType => plainType g
  | .typeOperator => typeOperator g
  | .element nested => element g nested
  | .object => objectLiteral g
  | .heritage => heritage g
  | .namespaceBody => namespaceBody g

end Phrasebook.Script.Grammar

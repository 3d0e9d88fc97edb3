import Phrasebook.Script.Lexer
import Phrasebook.Script.Node

/-!
# Parsers over tokens

A parser reads from a cursor, which holds the current token and the characters after it. It ends
with a result and a cursor, or stuck at a cursor: where it got stuck matters, because some
mistakes are passed over and reading goes on from there. A fault is passed once: by the mistake
that it leads to, or by one that is noted while the fault is the current token.

A grammar is a parser for each goal. Productions take the grammar they recur to as a parameter,
so each is an ordinary definition, and `Grammar.iterate` ties the knot for any depth.
-/

namespace Phrasebook.Script

/-- What the surroundings of a construct allow. -/
structure Context where
  /-- Types and declarations of types are read. -/
  typed : Bool
  /-- Markup is read. -/
  markup : Bool
  /-- The operator `in` may stand in an expression. -/
  allowIn : Bool := true
  /-- The body of a generator, where `yield` is an operator. -/
  generator : Bool := false
  /-- The body of an asynchronous function, where `await` is an operator everywhere. -/
  async : Bool := false
  /-- A branch of a conditional expression. -/
  inConditional : Bool := false
  /-- A branch that a colon must follow. -/
  colonFollows : Bool := false
  /-- A declaration without a value. -/
  ambient : Bool := false
  /-- A type before `extends`, which must not start a conditional type. -/
  noConditionalType : Bool := false
  /-- A type. -/
  inType : Bool := false
  /-- The signs `<` and `>` join with the signs after them also inside a type. -/
  joinsAngles : Bool := false
  /-- A reading that may be taken back. -/
  tentative : Bool := false
  /-- The body of a function. -/
  inFunction : Bool := false
  /-- The parameters of a function. -/
  inParameters : Bool := false
  /-- A class, the parameters of a function or its body, where `new` has a target. -/
  hasNewTarget : Bool := false
  /-- The head of a loop. -/
  inLoopHead : Bool := false
  /-- The head of a loop that awaits. -/
  inAwaitingHead : Bool := false
  /-- A statement that `break` may leave. -/
  inBreakable : Bool := false
  /-- A loop. -/
  inLoop : Bool := false
  /-- The labels of the statements around. -/
  labels : List String := []
  /-- A member of a class or a method of an object, where `super` has members. -/
  hasSuper : Bool := false

namespace Context

/-- The signs `<` and `>` are tokens of their own. -/
def splitsAngles (context : Context) : Bool := context.inType && !context.joinsAngles

/-- No statement around may be left. -/
def closed (context : Context) : Context :=
  { context with inBreakable := false, inLoop := false, labels := [] }

/-- In the body of a function. -/
def inBody (context : Context) : Context := { context.closed with inFunction := true }

end Context

/-- Where reading stands. -/
structure Cursor where
  current : Lexeme
  /-- Where an arrow function may start, if anywhere. -/
  arrowStart : Option Nat

namespace Cursor

/-- The cursor at the next token. -/
def next (context : Context) (cursor : Cursor) : Cursor :=
  { cursor with current := cursor.current.following context.splitsAngles }

/-- The cursor after a fault, if one is the current token. -/
def overFault (context : Context) (cursor : Cursor) : Cursor :=
  if cursor.current.token.isFault then cursor.next context else cursor

end Cursor

/-- How a parser ends. -/
inductive Outcome (α : Type) where
  | done (value : α) (cursor : Cursor)
  | stuck (cursor : Cursor)

/-- A parser. -/
def Parser (α : Type) : Type := Context → Cursor → Outcome α

namespace Parser

variable {α β σ : Type}

instance : Monad Parser where
  pure value := fun _ cursor => .done value cursor
  bind parser next := fun context cursor =>
    match parser context cursor with
    | .done value cursor => next value context cursor
    | .stuck cursor => .stuck cursor

/-- Gets stuck here. A fault is passed. -/
def fail : Parser α := fun context cursor => .stuck (cursor.overFault context)

/-- The surroundings. -/
def context : Parser Context := fun context cursor => .done context cursor

/-- The cursor. -/
def cursor : Parser Cursor := fun _ cursor => .done cursor cursor

/-- The current token. -/
def token : Parser Token := fun _ cursor => .done cursor.current.token cursor

/-- The offset of the current token. -/
def offset : Parser Nat := fun _ cursor => .done cursor.current.start cursor

/-- A line ends before the current token. -/
def newline : Parser Bool := fun _ cursor => .done cursor.current.newline cursor

/-- Moves the cursor. -/
def moveTo (cursor : Cursor) : Parser Unit := fun _ _ => .done () cursor

/-- Reads in changed surroundings. -/
def within (change : Context → Context) (parser : Parser α) : Parser α :=
  fun context cursor => parser (change context) cursor

/-- Reads without moving the cursor. -/
def lookAhead (parser : Parser α) : Parser (Option α) := fun context cursor =>
  match parser { context with tentative := true } cursor with
  | .done value _ => .done (some value) cursor
  | .stuck _ => .done none cursor

/-- Reads, or goes back to where it started. -/
def attempt (parser : Parser (Option α)) : Parser (Option α) := fun context cursor =>
  match parser { context with tentative := true } cursor with
  | .done (some value) cursor => .done (some value) cursor
  | _ => .done none cursor

/-- Reads, or goes on from where it got stuck. -/
def recover (parser : Parser α) : Parser (Option α) := fun context cursor =>
  match parser context cursor with
  | .done value cursor => .done (some value) cursor
  | .stuck cursor => .done none cursor

/-- Repeats a step at most `fuel` times, until it gives a result. -/
def loopFor (step : σ → Parser (σ ⊕ α)) : Nat → σ → Parser α
  | 0, _ => fail
  | fuel + 1, state => do
    match ← step state with
    | .inl state => loopFor step fuel state
    | .inr value => pure value

/-- Repeats a step until it gives a result. Each step but the last consumes a token, so the number
of characters left bounds the steps. -/
def loop (step : σ → Parser (σ ⊕ α)) (state : σ) : Parser α := fun context cursor =>
  loopFor step (cursor.current.rest.length + 2) state context cursor

/-! ## Tokens -/

/-- The lexeme after the current one. -/
def peekLexeme : Parser Lexeme := fun context cursor =>
  .done (cursor.next context).current cursor

/-- The token after the current one. -/
def peek : Parser Token := do pure (← peekLexeme).token

/-- Moves to the next token. -/
def advance : Parser Unit := fun context cursor => .done () (cursor.next context)

/-- The offset after the current token, which is then passed. -/
def advanceOver : Parser Nat := fun context cursor =>
  .done cursor.current.stop (cursor.next context)

/-- Goes on after `rest`, which starts at `offset`, without a token read yet there. -/
def resume (offset : Nat) (rest : List Char) : Parser Unit := fun context cursor =>
  .done () { cursor with current := Lexeme.next context.splitsAngles offset false rest }

/-- Goes on with a token. -/
def resumeAt (lexeme : Lexeme) : Parser Unit := fun _ cursor =>
  .done () { cursor with current := lexeme }

/-- Notes a mistake that is passed over, with a fault where one is the current token. -/
def note : Parser Unit := fun context cursor =>
  .done () (if context.tentative then cursor else cursor.overFault context)

/-- The current token is this symbol. -/
def isSymbol (symbol : String) : Parser Bool := do pure ((← token) == .symbol symbol)

/-- The current token is this word. -/
def isWord (word : String) : Parser Bool := do pure ((← token) == .word word)

/-- The current token is one of these symbols. -/
def isSymbolIn (symbols : List String) : Parser Bool := do
  match ← token with
  | .symbol symbol => pure (symbols.contains symbol)
  | _ => pure false

/-- The current token is one of these words. -/
def isWordIn (words : List String) : Parser Bool := do
  match ← token with
  | .word word => pure (words.contains word)
  | _ => pure false

/-- The next token is this symbol. -/
def peekSymbol (symbol : String) : Parser Bool := do pure ((← peek) == .symbol symbol)

/-- The next token is this word. -/
def peekWord (word : String) : Parser Bool := do pure ((← peek) == .word word)

/-- Passes a symbol if it is the current token. -/
def eatSymbol (symbol : String) : Parser Bool := do
  if ← isSymbol symbol then advance; pure true else pure false

/-- Passes a word if it is the current token. -/
def eatWord (word : String) : Parser Bool := do
  if ← isWord word then advance; pure true else pure false

/-- Passes a symbol if a condition holds and it is the current token. -/
def eatSymbolWhen (condition : Bool) (symbol : String) : Parser Bool :=
  if condition then eatSymbol symbol else pure false

/-- Passes a word if a condition holds and it is the current token. -/
def eatWordWhen (condition : Bool) (word : String) : Parser Bool :=
  if condition then eatWord word else pure false

/-- Passes a symbol, which must be the current token. -/
def expectSymbol (symbol : String) : Parser Unit := do
  unless ← eatSymbol symbol do fail

/-- Passes a word, which must be the current token. -/
def expectWord (word : String) : Parser Unit := do
  unless ← eatWord word do fail

/-- The current token is a word. -/
def isAnyWord : Parser Bool := do
  match ← token with
  | .word _ => pure true
  | _ => pure false

/-- The current token is a word that a reference may use. -/
def isReference : Parser Bool := do pure (Token.isReference (← token))

/-- A statement may end here: at a semicolon, before a closing brace, at the end, or where a line
ended. -/
def endsStatement : Parser Bool := do
  match ← token with
  | .symbol ";" => pure true
  | .symbol closeBrace => pure true
  | .finish => pure true
  | _ => newline

/-- Passes the end of a statement if there is one. -/
def eatStatementEnd : Parser Bool := do
  if ← eatSymbol ";" then pure true else endsStatement

/-- Passes the end of a statement, which must be here. -/
def expectStatementEnd : Parser Unit := do
  unless ← eatStatementEnd do fail

/-- Notes a mistake if there is one. -/
def noteIf (mistake : Bool) : Parser Unit := do
  if mistake then note

/-- Reads types and expressions where `in` is an operator. -/
def allowingIn (parser : Parser α) : Parser α :=
  within (fun context => { context with allowIn := true }) parser

/-- Reads where the signs `<` and `>` join with the signs after them also inside types. -/
def joiningAngles (parser : Parser α) : Parser α :=
  within (fun context => { context with joinsAngles := true }) parser

/-- Reads where the signs `<` and `>` are tokens of their own inside types. -/
def splittingAngles (parser : Parser α) : Parser α :=
  within (fun context => { context with joinsAngles := false }) parser

/-- Reads where no colon of a conditional is awaited. -/
def awaitingNoColon (parser : Parser α) : Parser α :=
  within (fun context => { context with colonFollows := false }) parser

end Parser

/-! ## Grammars -/

/-- What a grammar reads. -/
inductive Goal where
  /-- A statement, import or export at the top of a module. -/
  | item
  /-- A statement; declarations may be refused. -/
  | statement (declarations : Bool)
  /-- A list of expressions between commas. -/
  | expression
  | assignment
  /-- An assignment expression that starts no markup. -/
  | ungrouped
  /-- What follows the left operand of a binary expression, down to a precedence. -/
  | binaryRest (left : Node) (precedence : Nat)
  | unary
  /-- A call or what is closer than one. -/
  | leftHandSide
  /-- A member access or `new` without arguments, or what is closer. -/
  | member
  /-- A name or a destructuring pattern. -/
  | pattern
  | typeExpression
  /-- A type that is no conditional type. -/
  | plainType
  /-- A type with prefix operators. -/
  | typeOperator
  /-- A markup element, from its opening bracket on. The flag says that markup surrounds it. -/
  | element (nested : Bool)
  /-- An object. -/
  | object
  /-- What a class or an interface extends: a name with what may follow it, other than a call and
  a member in brackets. -/
  | heritage
  /-- The names and the body of a namespace. -/
  | namespaceBody

/-- A parser for each goal. -/
abbrev Grammar := Goal → Parser Node

/-- The grammar of a production, cut off below some depth. -/
def Grammar.iterate (production : Grammar → Grammar) : Nat → Grammar
  | 0 => fun _ => Parser.fail
  | depth + 1 => fun goal => production (Grammar.iterate production depth) goal

end Phrasebook.Script

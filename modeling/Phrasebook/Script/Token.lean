import Phrasebook.Literal

/-!
# Tokens of a script

A script is read as words, string literals, numbers and symbols. Regular expressions, template
chunks and markup text are read where the grammar asks for them, because only the grammar knows
that they may stand there. A stretch of text that is no token counts as a fault, which some
mistakes pass over.
-/

namespace Phrasebook.Script

/-- A token. -/
inductive Token where
  /-- An identifier or a keyword, with its escapes decoded. -/
  | word (name : String)
  /-- A string literal. Without a value, it holds half of a surrogate pair. -/
  | string (value : Option String) (quote : Quote)
  | number
  | bigInteger
  /-- An operator or a bracket. -/
  | symbol (text : String)
  /-- The text between tags of markup. -/
  | markupText
  /-- The end of the script. -/
  | finish
  /-- No token starts here, but one may follow. -/
  | fault
  /-- A regular expression that does not end. Nothing can be read after it. -/
  | deadEnd
  deriving DecidableEq, Repr

/-- A token and where it stands. -/
structure Lexeme where
  token : Token
  /-- The offset of the token. -/
  start : Nat
  /-- The offset after the token. -/
  stop : Nat
  /-- A line ends between the token before and this one. -/
  newline : Bool
  /-- The characters after the token. -/
  rest : List Char

/-- Words that are never identifiers. -/
def keywords : List String :=
  ["break", "case", "catch", "class", "const", "continue", "debugger", "default", "delete", "do",
   "else", "export", "extends", "finally", "for", "function", "if", "import", "in", "instanceof",
   "new", "return", "super", "switch", "this", "throw", "try", "typeof", "var", "void", "while",
   "with", "null", "true", "false"]

/-- Words that no reference may use in a module. -/
def reservedWords : List String :=
  keywords ++ ["let", "yield", "await", "enum", "implements", "package", "protected", "interface",
    "private", "public"]

/-- A word that is never an identifier. -/
def isKeyword (name : String) : Bool := keywords.contains name

/-- A word that no reference may use in a module. -/
def isReserved (name : String) : Bool := reservedWords.contains name

namespace Token

/-- A word that a reference may use. -/
def isReference : Token → Bool
  | .word text => !isReserved text && text != "static"
  | _ => false

/-- No token. -/
def isFault : Token → Bool
  | .fault => true
  | .deadEnd => true
  | _ => false

/-- A word that is no keyword. -/
def isPlainWord : Token → Bool
  | .word text => !isKeyword text && text != "let" && text != "yield" && text != "await"
  | _ => false

/-- Any word. -/
def isWord : Token → Bool
  | .word _ => true
  | _ => false

end Token

/-- The symbol that opens a block. -/
@[match_pattern]
abbrev openBrace : String := "\x7b"

/-- The symbol that closes a block. -/
@[match_pattern]
abbrev closeBrace : String := "\x7d"

/-- The symbol that opens a closing tag of markup. -/
@[match_pattern]
abbrev closingBracket : String := "</"

/-- The symbols, longer ones before the symbols they start with. -/
def symbols : List String :=
  [">>>=", "...", "===", "!==", "**=", "<<=", ">>=", ">>>", "&&=", "||=", "??=", "=>", "==", "!=",
   "+=", "++", "-=", "--", "*=", "**", "/=", "%=", "<=", "<<", ">=", ">>", "&=", "&&", "|=", "||",
   "^=", "??", "?.", openBrace, closeBrace, "(", ")", "[", "]", ";", ",", "<", ">", "+", "-", "*",
   "/", "%", "&", "|", "^", "!", "~", "?", ":", "=", ".", "@", "#", "`"]

end Phrasebook.Script

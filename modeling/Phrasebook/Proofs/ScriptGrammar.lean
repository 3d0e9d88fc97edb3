import Phrasebook.Proofs.ScriptParsers
import Phrasebook.Script.Program

/-!
# Statements that call with literals

How a script is read that is one call: of a member of a name, with strings and templates without
substitutions as arguments. The name may be any word that a reference may use, also one that starts
a statement elsewhere, such as `async` or `type`: a dot follows it. What stands inside the
parentheses is read through all levels of the grammar, from an assignment down to a literal and back
up past the operators that are not there.

Results:
* `Grammar.readsLiterals_iterate`: a literal before a comma or a parenthesis is read as an argument.
* `Grammar.reads_leftHandSide_of_callsMember`: a call is read up to the end of the script.
* `Grammar.reads_program_of_callsMember`: a script that is one call is read as a module with it.
-/

namespace Phrasebook.Script

open Phrasebook.Script.Parser

namespace Token

/-- A token that ends an argument or a statement. -/
def Ends (token : Token) : Prop := token = .symbol "," ∨ token = .symbol ")" ∨ token = .finish

/-- A token that starts a literal: a string or the quote before a template. -/
def StartsLiteral (token : Token) : Prop :=
  (∃ value quote, token = .string value quote) ∨ token = .symbol "`"

/-- A token that starts an operand: a reference or a literal. -/
def IsOperand (token : Token) : Prop := token.isReference = true ∨ token.StartsLiteral

/-- A reference is none of the words with a meaning of their own. -/
theorem ne_of_isReference {word : String} (h : (Token.word word).isReference = true) :
    ∀ other ∈ "static" :: reservedWords, word ≠ other := by
  simp only [isReference, isReserved, Bool.and_eq_true, Bool.not_eq_true', bne_iff_ne, ne_eq,
    List.contains_eq_mem, decide_eq_false_iff_not] at h
  rintro other hother rfl
  rcases List.mem_cons.1 hother with hstatic | hreserved
  · exact h.2 hstatic
  · exact h.1 hreserved

theorem IsOperand.ne_symbol {token : Token} (h : token.IsOperand) {symbol : String}
    (hsymbol : symbol ≠ "`") : token ≠ .symbol symbol := by
  rintro rfl
  rcases h with h | ⟨_, _, h⟩ | h <;> cases h
  exact hsymbol rfl

theorem IsOperand.ne_word {token : Token} (h : token.IsOperand) {word : String}
    (hword : word ∈ "static" :: reservedWords) : token ≠ .word word := by
  rintro rfl
  rcases h with h | ⟨_, _, h⟩ | h
  · exact ne_of_isReference h _ hword rfl
  · cases h
  · cases h

end Token

namespace Grammar

variable {g : Grammar} {lexeme after : Lexeme} {node : Node}

/-! ## What does not go on -/

/-- No link follows a node before the end. -/
theorem reads_subscripts_of_ends (hend : lexeme.token.Ends) (hnode : node.kind? = none)
    (start : Nat) (links : Links) :
    Reads (subscripts g start links node) lexeme node lexeme := by
  refine .of_stays fun context arrowStart => ?_
  unfold subscripts
  rcases hend with h | h | h <;>
    simp [h, hnode, isOpenAngle, subscript, eatOptionalMark]

/-- No binary operator follows a node before the end. -/
theorem reads_binaryRest_of_ends (hend : lexeme.token.Ends) (precedence : Nat) :
    Reads (binaryRest g node precedence) lexeme node lexeme := by
  refine .of_stays fun context arrowStart => ?_
  unfold binaryRest
  rcases hend with h | h | h <;> simp [h, binaryOperator, precedence?]

/-- No assignment follows a node before the end. -/
theorem reads_assignmentRest_of_ends (hend : lexeme.token.Ends) :
    Reads (assignmentRest g node) lexeme node lexeme := by
  refine .of_stays fun context arrowStart => ?_
  unfold assignmentRest
  rcases hend with h | h | h <;> simp [h, assignmentOperator, compoundAssignments]

theorem reads_freeTypeArguments?_of_ne (h : lexeme.token ≠ .symbol "<") :
    Reads (freeTypeArguments? g) lexeme none lexeme := by
  refine .of_stays fun context arrowStart => ?_
  unfold freeTypeArguments?
  simp [h]

/-! ## Operands -/

/-- A string literal or a template without substitutions: the lexeme that it starts with, its tree
and the lexeme after it. -/
inductive Quoted : Lexeme → Node → Lexeme → Prop
  | string {literal after : Lexeme} {value : Option String} {quote : Quote}
      (htoken : literal.token = .string value quote) (hnext : Follows literal after) :
      Quoted literal (.string value quote) after
  | template {literal after : Lexeme} {inside rest : List Char} {stop : Nat} {value : Option String}
      (htoken : literal.token = .symbol "`")
      (hsplit : splitTemplate literal.stop literal.rest = some (inside, false, stop, rest))
      (hvalue : templateValue inside = some value)
      (hnext : ∀ alone, Lexeme.next alone stop false rest = after) :
      Quoted literal (.template value []) after

namespace Quoted

variable {literal : Lexeme}

theorem startsLiteral (h : Quoted literal node after) : literal.token.StartsLiteral := by
  cases h with
  | string htoken _ => exact .inl ⟨_, _, htoken⟩
  | template htoken _ _ _ => exact .inr htoken

theorem kind?_eq_none (h : Quoted literal node after) : node.kind? = none := by
  cases h <;> rfl

/-- What a literal is follows from its first token. -/
theorem unique {node' : Node} {after' : Lexeme} (h : Quoted literal node after)
    (h' : Quoted literal node' after') : node = node' ∧ after = after' := by
  cases h with
  | string htoken hnext =>
    cases h' with
    | string htoken' hnext' =>
      cases htoken.symm.trans htoken'
      exact ⟨rfl, hnext.unique hnext'⟩
    | template htoken' _ _ _ => cases htoken.symm.trans htoken'
  | template htoken hsplit hvalue hnext =>
    cases h' with
    | string htoken' _ => cases htoken.symm.trans htoken'
    | template _ hsplit' hvalue' hnext' =>
      cases hsplit.symm.trans hsplit'
      cases hvalue.symm.trans hvalue'
      exact ⟨rfl, (hnext false).symm.trans (hnext' false)⟩

/-- A literal is a primary expression. -/
theorem reads_primary (h : Quoted literal node after) : Reads (primary g) literal node after := by
  intro context arrowStart
  unfold primary
  cases h with
  | string htoken hnext => exact ⟨arrowStart, by simp [htoken, hnext.next]⟩
  | template htoken hsplit hvalue hnext =>
    exact ⟨arrowStart, by simp [htoken, templateLiteral, templateParts, hsplit, hvalue, hnext]⟩

end Quoted

/-- A literal is a member expression. -/
theorem reads_member_of_quoted (hliteral : Quoted lexeme node after) (hend : after.token.Ends) :
    Reads (member g) lexeme node after := by
  have hopens : after.token ≠ .symbol "<" := by rcases hend with h | h | h <;> simp [h]
  obtain ⟨_, htypes⟩ := (reads_freeTypeArguments?_of_ne (g := g) hopens).exists_run
  have hlinks : Reads (subscripts g lexeme.start Links.members node) after node after :=
    reads_subscripts_of_ends hend hliteral.kind?_eq_none lexeme.start Links.members
  obtain ⟨_, hlinks⟩ := hlinks.exists_run
  obtain ⟨_, hprimary⟩ := (hliteral.reads_primary (g := g)).exists_run
  intro context arrowStart
  unfold member
  rcases hliteral.startsLiteral with ⟨_, _, htoken⟩ | htoken <;>
    simp [htoken, hprimary, Node.isArrow, hliteral.kind?_eq_none, htypes, hlinks]

/-- No function follows a word before a dot. -/
theorem reads_atAsyncFunction_of_dot {dot : Lexeme} (hnext : Follows lexeme dot)
    (hdot : dot.token = .symbol ".") : Reads atAsyncFunction lexeme false lexeme := by
  refine .of_stays fun context arrowStart => ?_
  unfold atAsyncFunction
  by_cases hasync : lexeme.token = .word "async" <;> simp [hasync, hnext.next, hdot]

/-- A reference before a dot is a name, also where it could start an arrow function. -/
theorem reads_primary_of_reference {dot : Lexeme} {word : String}
    (hword : lexeme.token = .word word) (hreference : (Token.word word).isReference = true)
    (hnext : Follows lexeme dot) (hdot : dot.token = .symbol ".") :
    Reads (primary g) lexeme (.name word) dot := by
  have hplain := Token.ne_of_isReference hreference
  simp only [reservedWords, keywords, List.cons_append, List.nil_append, List.forall_mem_cons]
    at hplain
  have hsymbol : (Token.symbol ".").isReference = false := rfl
  obtain ⟨_, hfunction⟩ := (reads_atAsyncFunction_of_dot hnext hdot).exists_run
  intro context arrowStart
  unfold primary
  by_cases hasync : word = "async"
  · subst hasync
    simp [hword, hreference, startedByAsync, hfunction, nameOrArrow, identifier, hnext.next, hdot,
      hsymbol, isKeyword, keywords, discouragedWords]
  · simp [hword, hreference, hasync, hplain, nameOrArrow, identifier, hnext.next, hdot, hsymbol,
      isKeyword, keywords, discouragedWords]

/-- The lexemes of a reference, a dot and a word. -/
structure NamesMember (object property : String) (first after : Lexeme) : Prop where
  object_eq : first.token = .word object
  isReference : (Token.word object).isReference = true
  exists_name : ∃ dot name, Follows first dot ∧ dot.token = .symbol "."
    ∧ Follows dot name ∧ name.token = .word property ∧ Follows name after

theorem NamesMember.unique {object property object' property' : String}
    {first after after' : Lexeme} (h : NamesMember object property first after)
    (h' : NamesMember object' property' first after') :
    object = object' ∧ property = property' ∧ after = after' := by
  obtain ⟨hobject, -, dot, name, hdot, -, hnameNext, hname, hafter⟩ := h
  obtain ⟨hobject', -, dot', name', hdot', -, hnameNext', hname', hafter'⟩ := h'
  obtain rfl := hdot.unique hdot'
  obtain rfl := hnameNext.unique hnameNext'
  exact ⟨Token.word.inj (hobject.symm.trans hobject'), Token.word.inj (hname.symm.trans hname'),
    hafter.unique hafter'⟩

/-- A member of a name is read up to its arguments. -/
theorem reads_member_of_namesMember {object property : String}
    (hnames : NamesMember object property lexeme after) (hopening : after.token = .symbol "(") :
    Reads (member g) lexeme (.member (.name object) (.name property)) after := by
  obtain ⟨hobject, hreference, dot, name, hdotNext, hdot, hnameNext, hname, hnext⟩ := hnames
  have hplain := Token.ne_of_isReference hreference
  simp only [reservedWords, keywords, List.cons_append, List.nil_append, List.forall_mem_cons]
    at hplain
  have hopens : dot.token ≠ .symbol "<" := by simp [hdot]
  obtain ⟨_, hprimary⟩ :=
    (reads_primary_of_reference (g := g) hobject hreference hdotNext hdot).exists_run
  obtain ⟨_, htypes⟩ := (reads_freeTypeArguments?_of_ne (g := g) hopens).exists_run
  intro context arrowStart
  unfold member
  simp [hobject, hplain, hprimary, Node.isArrow, Node.kind?, htypes, subscripts, hdot, subscript,
    isOpenAngle, eatOptionalMark, Links.members, hnameNext.next, identifierOrPrivateName,
    identifierName, hname, hnext.next, memberNode, Node.isOptionalChain, Node.isOptional, hopening]

/-! ## From operands to assignments -/

/-- An operand that no operator follows is a unary expression. -/
theorem reads_unary_of_leftHandSide (hfirst : lexeme.token.IsOperand) (hend : after.token.Ends)
    (hnode : node.kind? = none) (hread : Reads (g .leftHandSide) lexeme node after) :
    Reads (unary g) lexeme node after := by
  obtain ⟨_, hread⟩ := hread.exists_run
  have hword : ∀ word ∈ ["delete", "void", "typeof", "await"], lexeme.token ≠ .word word := by
    intro word hmem
    refine hfirst.ne_word ?_
    revert hmem
    revert word
    decide
  simp only [List.forall_mem_cons] at hword
  intro context arrowStart
  unfold unary
  rcases hend with h | h | h <;>
    simp [hfirst.ne_symbol, hword, hread, Node.isArrow, hnode, h]

/-- A unary expression that no operator follows is an assignment expression. -/
theorem reads_assignment_of_unary (hfirst : lexeme.token.IsOperand) (hend : after.token.Ends)
    (hnode : node.kind? = none) (hread : Reads (g .unary) lexeme node after)
    (hrest : Reads (g (.binaryRest node 0)) after node after) :
    Reads (assignment g) lexeme node after := by
  obtain ⟨_, hread⟩ := hread.exists_run
  obtain ⟨_, hrest⟩ := hrest.exists_run
  have hassignment : Reads (assignmentRest g node) after node after :=
    reads_assignmentRest_of_ends hend
  obtain ⟨_, hassignment⟩ := hassignment.exists_run
  have hyield : lexeme.token ≠ .word "yield" := hfirst.ne_word (by decide)
  have hquestion : after.token ≠ .symbol "?" := by rcases hend with h | h | h <;> simp [h]
  intro context arrowStart
  unfold assignment ungrouped plainAssignment conditional binary
  simp [hfirst.ne_symbol, hyield, recover, hread, Node.isArrow, hnode, hrest, hquestion,
    hassignment]

theorem reads_assignment_iterate {depth : Nat} (hfirst : lexeme.token.IsOperand)
    (hend : after.token.Ends) (hnode : node.kind? = none)
    (hread : Reads (Grammar.iterate production (depth + 1) .leftHandSide) lexeme node after) :
    Reads (Grammar.iterate production (depth + 3) .assignment) lexeme node after := by
  refine reads_assignment_of_unary hfirst hend hnode ?_ (reads_binaryRest_of_ends hend 0)
  exact reads_unary_of_leftHandSide hfirst hend hnode hread

/-! ## Arguments -/

/-- Literals between commas from a lexeme on up to a closing parenthesis. -/
inductive Literals : Lexeme → List Node → Lexeme → Prop
  | nil {closing : Lexeme} (hclosing : closing.token = .symbol ")") : Literals closing [] closing
  | last {literal closing : Lexeme} {node : Node} (hliteral : Quoted literal node closing)
      (hclosing : closing.token = .symbol ")") : Literals literal [node] closing
  | cons {literal comma next closing : Lexeme} {node : Node} {rest : List Node}
      (hliteral : Quoted literal node comma) (hsymbol : comma.token = .symbol ",")
      (hnext : Follows comma next) (more : Literals next rest closing) :
      Literals literal (node :: rest) closing

theorem Literals.closing_eq {first closing : Lexeme} {found : List Node}
    (h : Literals first found closing) : closing.token = .symbol ")" := by
  induction h with
  | nil hclosing => exact hclosing
  | last _ hclosing => exact hclosing
  | cons _ _ _ _ ih => exact ih

theorem Quoted.ne_symbol {literal : Lexeme} (h : Quoted literal node after) {symbol : String}
    (hsymbol : symbol ≠ "`") : literal.token ≠ .symbol symbol :=
  Token.IsOperand.ne_symbol (.inr h.startsLiteral) hsymbol

theorem Literals.unique {first closing closing' : Lexeme} {found found' : List Node}
    (h : Literals first found closing) (h' : Literals first found' closing') :
    found = found' ∧ closing = closing' := by
  induction h generalizing found' closing' with
  | nil hclosing =>
    cases h' with
    | nil _ => exact ⟨rfl, rfl⟩
    | last hliteral _ => exact absurd hclosing (hliteral.ne_symbol (by decide))
    | cons hliteral _ _ _ => exact absurd hclosing (hliteral.ne_symbol (by decide))
  | last hliteral hclosing =>
    cases h' with
    | nil hclosing' => exact absurd hclosing' (hliteral.ne_symbol (by decide))
    | last hliteral' _ =>
      obtain ⟨rfl, rfl⟩ := hliteral.unique hliteral'
      exact ⟨rfl, rfl⟩
    | cons hliteral' hsymbol _ _ =>
      obtain ⟨rfl, rfl⟩ := hliteral.unique hliteral'
      exact absurd (hclosing.symm.trans hsymbol) (by decide)
  | cons hliteral hsymbol hnext _ ih =>
    cases h' with
    | nil hclosing' => exact absurd hclosing' (hliteral.ne_symbol (by decide))
    | last hliteral' hclosing' =>
      obtain ⟨rfl, rfl⟩ := hliteral.unique hliteral'
      exact absurd (hclosing'.symm.trans hsymbol) (by decide)
    | cons hliteral' _ hnext' more' =>
      obtain ⟨rfl, rfl⟩ := hliteral.unique hliteral'
      obtain rfl := hnext.unique hnext'
      obtain ⟨rfl, rfl⟩ := ih more'
      exact ⟨rfl, rfl⟩

/-- The grammar reads a literal as an argument. -/
def ReadsLiterals (g : Grammar) : Prop :=
  ∀ {literal after : Lexeme} {node : Node}, Quoted literal node after → after.token.Ends →
    Reads (g .assignment) literal node after

/-- A literal that no parenthesis follows is no callee. -/
theorem reads_leftHandSide_of_quoted (hliteral : Quoted lexeme node after)
    (hend : after.token.Ends) (hread : Reads (g .member) lexeme node after) :
    Reads (leftHandSide g) lexeme node after := by
  obtain ⟨_, hread⟩ := hread.exists_run
  have hnode := hliteral.kind?_eq_none
  intro context arrowStart
  unfold leftHandSide
  rcases hliteral.startsLiteral with ⟨_, _, htoken⟩ | htoken <;>
    rcases hend with h | h | h <;>
    simp [htoken, atMarkup, hread, callTypeArguments?, isOpenAngle, h, Node.isArrow, hnode]

/-- **A literal before a comma or a parenthesis is read as an argument.** -/
theorem readsLiterals_iterate (depth : Nat) :
    ReadsLiterals (Grammar.iterate production (depth + 4)) := by
  intro literal after node hliteral hend
  have hmember : Reads (Grammar.iterate production (depth + 1) .member) literal node after :=
    reads_member_of_quoted hliteral hend
  have hcallee : Reads (Grammar.iterate production (depth + 2) .leftHandSide) literal node after :=
    reads_leftHandSide_of_quoted hliteral hend hmember
  exact reads_assignment_iterate (.inr hliteral.startsLiteral) hend hliteral.kind?_eq_none hcallee

/-- A loop whose steps each read a literal with what follows it reads all literals. -/
theorem reads_loopFor_of_literals {step : List Node → Parser (List Node ⊕ List Node)}
    {first closing : Lexeme} {arguments : List Node} (h : Literals first arguments closing)
    (hdone : ∀ found, Reads (step found) closing (.inr found) closing)
    (hlast : ∀ {literal node}, Quoted literal node closing → ∀ found,
      Reads (step found) literal (.inl (found ++ [node])) closing)
    (hcomma : ∀ {literal node comma next}, Quoted literal node comma →
      comma.token = .symbol "," → Follows comma next → ∀ found,
        Reads (step found) literal (.inl (found ++ [node])) next)
    {fuel : Nat} (hfuel : arguments.length < fuel) (found : List Node) :
    Reads (loopFor step fuel found) first (found ++ arguments) closing := by
  induction h generalizing fuel found with
  | nil hclosing =>
    obtain ⟨fuel, rfl⟩ := Nat.exists_eq_succ_of_ne_zero (Nat.ne_zero_of_lt hfuel)
    rw [List.append_nil]
    exact .loopFor_done (hdone found)
  | last hliteral hclosing =>
    obtain ⟨fuel, rfl⟩ := Nat.exists_eq_add_of_le' hfuel
    exact .loopFor_next (hlast hliteral found) (.loopFor_done (hdone _))
  | @cons _ _ _ _ node _ hliteral hsymbol hnext more ih =>
    obtain ⟨fuel, rfl⟩ := Nat.exists_eq_succ_of_ne_zero (Nat.ne_zero_of_lt hfuel)
    have hrest := ih hdone hlast (Nat.lt_of_succ_lt_succ hfuel) (found ++ [node])
    rw [List.append_assoc, List.singleton_append] at hrest
    exact .loopFor_next (hcomma hliteral hsymbol hnext found) hrest

/-- What is read up to a parenthesis, which is passed. -/
theorem exists_run_enclosed {α : Type} {items : Parser α} {found : α}
    {first opening closing : Lexeme} (hopening : opening.token = .symbol "(")
    (hfirst : Follows opening first) (hitems : Reads items first found closing) (context : Context)
    (arrowStart : Option Nat) :
    ∃ moved, (do expectSymbol "("; let found ← items; pure (found, ← advanceOver) : Parser _)
        context ⟨opening, arrowStart⟩
      = .done (found, closing.stop) (Cursor.next context ⟨closing, moved⟩) := by
  obtain ⟨moved, hitems⟩ := hitems context arrowStart
  refine ⟨moved, ?_⟩
  rw [bind_apply, expectSymbol_apply _ _ hopening]
  dsimp only
  rw [hfirst.next, bind_apply, hitems]
  rfl

/-- **Arguments are read up to their closing parenthesis**, which is passed. Without any, nothing is
asked of the grammar. -/
theorem exists_run_arguments {first opening closing : Lexeme} {found : List Node}
    (hg : found = [] ∨ ReadsLiterals g) (hopening : opening.token = .symbol "(")
    (hfirst : Follows opening first) (hliterals : Literals first found closing)
    (hfuel : found.length < first.rest.length + 2) (context : Context) (arrowStart : Option Nat) :
    ∃ moved, arguments g true context ⟨opening, arrowStart⟩
      = .done (found, closing.stop) (Cursor.next context ⟨closing, moved⟩) := by
  have hclosing := hliterals.closing_eq
  refine exists_run_enclosed hopening hfirst (.within (.within (.loop ?_) _) _) context arrowStart
  rcases hg with rfl | hg
  · cases hliterals
    exact .loopFor_done (.of_stays fun context arrowStart => by simp [hclosing])
  refine reads_loopFor_of_literals hliterals ?_ ?_ ?_ hfuel []
  · intro found
    exact .of_stays fun context arrowStart => by simp [hclosing]
  · intro literal node hliteral found context arrowStart
    obtain ⟨moved, hread⟩ := hg hliteral (Or.inr (Or.inl hclosing)) context arrowStart
    exact ⟨moved, by simp [hliteral.ne_symbol, argument, hread, hclosing]⟩
  · intro literal node comma next hliteral hsymbol hnext found context arrowStart
    obtain ⟨moved, hread⟩ := hg hliteral (Or.inl hsymbol) context arrowStart
    exact ⟨moved, by simp [hliteral.ne_symbol, argument, hread, hsymbol, hnext.next]⟩

theorem reads_arguments {first opening closing after : Lexeme} {found : List Node}
    (hg : ReadsLiterals g) (hopening : opening.token = .symbol "(") (hfirst : Follows opening first)
    (hliterals : Literals first found closing) (hfuel : found.length < first.rest.length + 2)
    (hnext : Follows closing after) :
    Reads (arguments g true) opening (found, closing.stop) after := by
  intro context arrowStart
  obtain ⟨moved, hrun⟩ :=
    exists_run_arguments (.inr hg) hopening hfirst hliterals hfuel context arrowStart
  exact ⟨moved, by rw [hrun, hnext.next]⟩

/-! ## Calls -/

/-- The lexemes of a call of a member of a name with literals as arguments, from the name up
to the closing parenthesis. -/
structure CallsMember (object property : String) (found : List Node) (first closing : Lexeme) :
    Prop where
  exists_parts : ∃ opening literal, NamesMember object property first opening
    ∧ opening.token = .symbol "(" ∧ Follows opening literal ∧ Literals literal found closing
    ∧ found.length < literal.rest.length + 2

/-- What a call of a member with literals is follows from its first token. -/
theorem CallsMember.unique {object property object' property' : String} {found found' : List Node}
    {first closing closing' : Lexeme} (h : CallsMember object property found first closing)
    (h' : CallsMember object' property' found' first closing') :
    object = object' ∧ property = property' ∧ found = found' ∧ closing = closing' := by
  obtain ⟨opening, literal, hnames, -, hliteral, hliterals, -⟩ := h.exists_parts
  obtain ⟨opening', literal', hnames', -, hliteral', hliterals', -⟩ := h'.exists_parts
  obtain ⟨rfl, rfl, rfl⟩ := hnames.unique hnames'
  obtain rfl := hliteral.unique hliteral'
  obtain ⟨rfl, rfl⟩ := hliterals.unique hliterals'
  exact ⟨rfl, rfl, rfl, rfl⟩

/-- The tree of such a call. -/
def memberCall (object property : String) (found : List Node) (first closing : Lexeme) : Node :=
  .call first.start closing.stop (.member (.name object) (.name property)) found []

/-- **A call is read up to its closing parenthesis.** -/
theorem reads_leftHandSide_of_callsMember {object property : String} {found : List Node}
    {first closing : Lexeme} (hg : ReadsLiterals g)
    (hmember : ∀ {opening}, NamesMember object property first opening →
      opening.token = .symbol "(" →
        Reads (g .member) first (.member (.name object) (.name property)) opening)
    (hcall : CallsMember object property found first closing) (hnext : Follows closing after)
    (hend : after.token.Ends) :
    Reads (leftHandSide g) first (memberCall object property found first closing) after := by
  obtain ⟨opening, literal, hnames, hopening, hliteral, hliterals, hfuel⟩ := hcall.exists_parts
  have hplain := Token.ne_of_isReference hnames.isReference
  simp only [reservedWords, keywords, List.cons_append, List.nil_append, List.forall_mem_cons]
    at hplain
  obtain ⟨_, hcallee⟩ := (hmember hnames hopening).exists_run
  obtain ⟨_, harguments⟩ :=
    (reads_arguments hg hopening hliteral hliterals hfuel hnext).exists_run
  have hlinks : Reads
      (subscripts g first.start {} (memberCall object property found first closing)) after
      (memberCall object property found first closing) after :=
    reads_subscripts_of_ends hend rfl first.start {}
  obtain ⟨_, hlinks⟩ := hlinks.exists_run
  intro context arrowStart
  unfold leftHandSide
  unfold memberCall at hlinks ⊢
  simp [hnames.object_eq, hplain, atMarkup, hcallee, callTypeArguments?, isOpenAngle, hopening,
    Node.isArrow, Node.kind?, harguments, callNode, Node.isOptionalChain, Node.isOptional, hlinks]

/-! ## Statements -/

/-- An assignment expression at the end of a script is an expression statement. -/
theorem reads_expressionStatement_of_call {found : List Node} {start stop : Nat} {callee : Node}
    (hend : after.token = .finish)
    (hread : Reads (g .expression) lexeme (.call start stop callee found []) after) :
    Reads (expressionStatement g) lexeme (.call start stop callee found []) after := by
  obtain ⟨_, hread⟩ := hread.exists_run
  intro context arrowStart
  unfold expressionStatement
  simp [hread, eatStatementEnd, endsStatement, hend]

theorem reads_expression_of_assignment (hend : after.token = .finish)
    (hread : Reads (g .assignment) lexeme node after) :
    Reads (expression g) lexeme node after := by
  obtain ⟨_, hread⟩ := hread.exists_run
  intro context arrowStart
  unfold expression
  simp [hread, hend]

/-- No keyword is a reference. -/
theorem reads_keywordStatement?_of_isReference {word : String}
    (h : (Token.word word).isReference = true) :
    Reads (keywordStatement? g word) lexeme none lexeme := by
  have hplain := Token.ne_of_isReference h
  simp only [reservedWords, keywords, List.cons_append, List.nil_append, List.forall_mem_cons]
    at hplain
  refine .of_stays fun context arrowStart => ?_
  unfold keywordStatement?
  simp [hplain]

/-- **A reference before a dot starts no declaration.** -/
theorem reads_statement_of_reference {word : String} {dot : Lexeme}
    (hword : lexeme.token = .word word) (hreference : (Token.word word).isReference = true)
    (hnext : Follows lexeme dot) (hdot : dot.token = .symbol ".")
    (hread : Reads (expressionStatement g) lexeme node after) :
    Reads (item g) lexeme node after := by
  have hplain := Token.ne_of_isReference hreference
  simp only [reservedWords, keywords, List.cons_append, List.nil_append, List.forall_mem_cons]
    at hplain
  have hsymbol : (Token.symbol ".").isReference = false := rfl
  obtain ⟨_, hasync⟩ := (reads_atAsyncFunction_of_dot hnext hdot).exists_run
  have hkeyword : Reads (keywordStatement? g word) lexeme none lexeme :=
    reads_keywordStatement?_of_isReference hreference
  obtain ⟨_, hkeyword⟩ := hkeyword.exists_run
  obtain ⟨_, hread⟩ := hread.exists_run
  intro context arrowStart
  unfold item statement
  simp [hword, hplain, wordStatement, variableKeyword?, atLetDeclaration, hasync, resources?,
    hnext.next, hdot, hsymbol, hkeyword, namedDeclaration?, Token.isWord, hread]

/-- A call is an item of a module. -/
theorem reads_item_of_callsMember {object property : String} {found : List Node}
    {first closing : Lexeme} (depth : Nat)
    (hcall : CallsMember object property found first closing) (hnext : Follows closing after)
    (hend : after.token = .finish) :
    Reads (Grammar.iterate production (depth + 9) .item) first
      (memberCall object property found first closing) after := by
  obtain ⟨opening, -, hnames, -⟩ := hcall.exists_parts
  obtain ⟨dot, -, hdotNext, hdot, -⟩ := hnames.exists_name
  have hends : after.token.Ends := Or.inr (Or.inr hend)
  have hoperand : first.token.IsOperand := by
    rw [hnames.object_eq]
    exact Or.inl hnames.isReference
  have hcallee : Reads (Grammar.iterate production (depth + 5) .leftHandSide) first
      (memberCall object property found first closing) after :=
    reads_leftHandSide_of_callsMember (readsLiterals_iterate depth)
      (fun hnames hopening => reads_member_of_namesMember hnames hopening) hcall hnext hends
  have hassignment := reads_assignment_iterate hoperand hends rfl hcallee
  have hexpression : Reads (Grammar.iterate production (depth + 8) .expression) first
      (memberCall object property found first closing) after :=
    reads_expression_of_assignment hend hassignment
  exact reads_statement_of_reference hnames.object_eq hnames.isReference hdotNext hdot
    (reads_expressionStatement_of_call hend hexpression)

end Grammar

open Grammar

/-- **A script that is one call is read as a module with that call.** -/
theorem reads_program_of_callsMember {object property : String} {found : List Node}
    {first closing last : Lexeme} {bound : Nat} (hbound : 9 ≤ bound)
    (hcall : CallsMember object property found first closing) (hnext : Follows closing last)
    (hend : last.token = .finish) :
    Reads (program (Grammar.iterate production bound)) first
      (.group [memberCall object property found first closing]) last := by
  obtain ⟨opening, -, hnames, -⟩ := hcall.exists_parts
  obtain ⟨depth, rfl⟩ := Nat.exists_eq_add_of_le' hbound
  obtain ⟨_, hitem⟩ := (reads_item_of_callsMember depth hcall hnext hend).exists_run
  intro context arrowStart
  unfold program
  simp [hnames.object_eq, hitem, hend]

end Phrasebook.Script

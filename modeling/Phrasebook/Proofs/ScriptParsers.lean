import Phrasebook.Script.Parser

/-!
# What parsers do

What a parser does in given surroundings at a given cursor, for the parsers that all productions are
made of. A production is run by rewriting with these equations.

`Reads` says where a parser gets to, whatever the surroundings are: the lexeme it stops at is named,
the place where an arrow function may start is not.

Results:
* `Parser.loopFor_apply`: a loop takes one step and goes on.
* `Reads.exists_run`: reading from a lexeme on, in all surroundings at once.
-/

namespace Phrasebook.Script

variable {α β σ : Type}

namespace Parser

variable (context : Context) (cursor : Cursor)

/-! ## Steps -/

@[simp] theorem pure_apply (value : α) :
    (pure value : Parser α) context cursor = .done value cursor := rfl

@[simp] theorem bind_apply (parser : Parser α) (next : α → Parser β) :
    (parser >>= next) context cursor = match parser context cursor with
      | .done value after => next value context after
      | .stuck after => .stuck after := rfl

@[simp] theorem ite_apply (condition : Prop) [Decidable condition] (first second : Parser α) :
    (if condition then first else second) context cursor
      = if condition then first context cursor else second context cursor := by
  split <;> rfl

@[simp] theorem loop_apply (step : σ → Parser (σ ⊕ α)) (state : σ) :
    loop step state context cursor
      = loopFor step (cursor.current.rest.length + 2) state context cursor := rfl

@[simp] theorem loopFor_apply (step : σ → Parser (σ ⊕ α)) (fuel : Nat) (state : σ) :
    loopFor step (fuel + 1) state context cursor = match step state context cursor with
      | .done (.inl state) after => loopFor step fuel state context after
      | .done (.inr value) after => .done value after
      | .stuck after => .stuck after := by
  rw [loopFor, bind_apply]
  cases step state context cursor with
  | done value after => cases value <;> rfl
  | stuck after => rfl

/-! ## Surroundings and places -/

@[simp] theorem context_apply : Parser.context context cursor = .done context cursor := rfl

@[simp] theorem cursor_apply : Parser.cursor context cursor = .done cursor cursor := rfl

@[simp] theorem moveTo_apply (after : Cursor) : moveTo after context cursor = .done () after := rfl

@[simp] theorem resume_apply (offset : Nat) (rest : List Char) :
    resume offset rest context cursor
      = .done () { cursor with
          current := Lexeme.next context.splitsAngles offset false rest } := rfl

@[simp] theorem offset_apply : offset context cursor = .done cursor.current.start cursor := rfl

@[simp] theorem newline_apply : newline context cursor = .done cursor.current.newline cursor := rfl

@[simp] theorem noteIf_false : noteIf false context cursor = .done () cursor := rfl

@[simp] theorem allowingIn_apply (parser : Parser α) :
    allowingIn parser context cursor = parser { context with allowIn := true } cursor := rfl

@[simp] theorem joiningAngles_apply (parser : Parser α) :
    joiningAngles parser context cursor = parser { context with joinsAngles := true } cursor := rfl

@[simp] theorem awaitingNoColon_apply (parser : Parser α) :
    awaitingNoColon parser context cursor
      = parser { context with colonFollows := false } cursor := rfl

/-! ## Tokens -/

@[simp] theorem token_apply : token context cursor = .done cursor.current.token cursor := rfl

@[simp] theorem peekLexeme_apply :
    peekLexeme context cursor = .done (cursor.next context).current cursor := rfl

@[simp] theorem peek_apply :
    peek context cursor = .done (cursor.next context).current.token cursor := rfl

@[simp] theorem advance_apply : advance context cursor = .done () (cursor.next context) := rfl

@[simp] theorem advanceOver_apply :
    advanceOver context cursor = .done cursor.current.stop (cursor.next context) := rfl

@[simp] theorem isReference_apply :
    isReference context cursor = .done cursor.current.token.isReference cursor := rfl

@[simp] theorem isSymbol_apply (symbol : String) :
    isSymbol symbol context cursor = .done (cursor.current.token == .symbol symbol) cursor := rfl

@[simp] theorem isWord_apply (word : String) :
    isWord word context cursor = .done (cursor.current.token == .word word) cursor := rfl

@[simp] theorem isSymbolIn_apply (symbols : List String) :
    isSymbolIn symbols context cursor
      = .done (symbols.any fun symbol => cursor.current.token == .symbol symbol) cursor := by
  cases htoken : cursor.current.token <;> simp [isSymbolIn, htoken, List.any_eq]

@[simp] theorem isWordIn_apply (words : List String) :
    isWordIn words context cursor
      = .done (words.any fun word => cursor.current.token == .word word) cursor := by
  cases htoken : cursor.current.token <;> simp [isWordIn, htoken, List.any_eq]

@[simp] theorem peekSymbol_apply (symbol : String) :
    peekSymbol symbol context cursor
      = .done ((cursor.next context).current.token == .symbol symbol) cursor := rfl

@[simp] theorem peekWord_apply (word : String) :
    peekWord word context cursor
      = .done ((cursor.next context).current.token == .word word) cursor := rfl

@[simp] theorem eatSymbol_apply (symbol : String) :
    eatSymbol symbol context cursor
      = if cursor.current.token = .symbol symbol then .done true (cursor.next context)
        else .done false cursor := by
  simp [eatSymbol]

@[simp] theorem eatWord_apply (word : String) :
    eatWord word context cursor
      = if cursor.current.token = .word word then .done true (cursor.next context)
        else .done false cursor := by
  simp [eatWord]

@[simp] theorem eatSymbolWhen_apply (condition : Bool) (symbol : String) :
    eatSymbolWhen condition symbol context cursor
      = if condition = true ∧ cursor.current.token = .symbol symbol
        then .done true (cursor.next context) else .done false cursor := by
  cases condition <;> simp [eatSymbolWhen]

@[simp] theorem expectSymbol_apply {symbol : String}
    (h : cursor.current.token = .symbol symbol) :
    expectSymbol symbol context cursor = .done () (cursor.next context) := by
  simp [expectSymbol, h]

end Parser

/-! ## Reading -/

/-- The token after a lexeme, also where the signs `<` and `>` stand alone. -/
def Follows (lexeme after : Lexeme) : Prop := ∀ alone, lexeme.following alone = after

/-- The token that is read where another one stops. -/
theorem Follows.of_next {lexeme after : Lexeme} (htoken : lexeme.token ≠ .deadEnd)
    (h : ∀ alone, Lexeme.next alone lexeme.stop false lexeme.rest = after) :
    Follows lexeme after := by
  intro alone
  unfold Lexeme.following
  rw [if_neg htoken, h]

/-- One token follows another one. -/
theorem Follows.unique {lexeme after other : Lexeme} (h : Follows lexeme after)
    (hother : Follows lexeme other) : after = other := (h false).symm.trans (hother false)

theorem Follows.next {lexeme after : Lexeme} (h : Follows lexeme after) (context : Context)
    (arrowStart : Option Nat) :
    Cursor.next context ⟨lexeme, arrowStart⟩ = ⟨after, arrowStart⟩ := by
  rw [Cursor.next, h]

/-- The parser reads a value from a lexeme on and stops at another one, whatever the surroundings
are. -/
def Reads (parser : Parser α) (lexeme : Lexeme) (value : α) (after : Lexeme) : Prop :=
  ∀ context arrowStart, ∃ moved, parser context ⟨lexeme, arrowStart⟩ = .done value ⟨after, moved⟩

namespace Reads

open Phrasebook.Script.Parser

variable {parser : Parser α} {value : α} {lexeme after : Lexeme}

/-- A parser that leaves the cursor where it is. -/
theorem of_stays (h : ∀ context arrowStart,
    parser context ⟨lexeme, arrowStart⟩ = .done value ⟨lexeme, arrowStart⟩) :
    Reads parser lexeme value lexeme :=
  fun context arrowStart => ⟨arrowStart, h context arrowStart⟩

theorem bind {next : α → Parser β} {result : β} {last : Lexeme}
    (hfirst : Reads parser lexeme value after) (hnext : Reads (next value) after result last) :
    Reads (parser >>= next) lexeme result last := by
  intro context arrowStart
  obtain ⟨between, hfirst⟩ := hfirst context arrowStart
  obtain ⟨moved, hnext⟩ := hnext context between
  exact ⟨moved, by rw [bind_apply, hfirst]; exact hnext⟩

theorem within (h : Reads parser lexeme value after) (change : Context → Context) :
    Reads (Parser.within change parser) lexeme value after :=
  fun context arrowStart => h (change context) arrowStart

theorem loop {step : σ → Parser (σ ⊕ α)} {state : σ}
    (h : Reads (loopFor step (lexeme.rest.length + 2) state) lexeme value after) :
    Reads (Parser.loop step state) lexeme value after := h

/-- The last step of a loop. -/
theorem loopFor_done {step : σ → Parser (σ ⊕ α)} {fuel : Nat} {state : σ}
    (h : Reads (step state) lexeme (.inr value) after) :
    Reads (loopFor step (fuel + 1) state) lexeme value after := by
  intro context arrowStart
  obtain ⟨moved, h⟩ := h context arrowStart
  exact ⟨moved, by rw [loopFor_apply, h]⟩

/-- Another step of a loop. -/
theorem loopFor_next {step : σ → Parser (σ ⊕ α)} {fuel : Nat} {state next : σ} {last : Lexeme}
    (h : Reads (step state) lexeme (.inl next) after)
    (hnext : Reads (loopFor step fuel next) after value last) :
    Reads (loopFor step (fuel + 1) state) lexeme value last := by
  intro context arrowStart
  obtain ⟨between, h⟩ := h context arrowStart
  obtain ⟨moved, hnext⟩ := hnext context between
  exact ⟨moved, by rw [loopFor_apply, h]; exact hnext⟩

/-- Reading from a lexeme on, in all surroundings at once. -/
theorem exists_run (h : Reads parser lexeme value after) :
    ∃ moved : Context → Option Nat → Option Nat, ∀ context arrowStart,
      parser context ⟨lexeme, arrowStart⟩ = .done value ⟨after, moved context arrowStart⟩ := by
  obtain ⟨moved, hmoved⟩ := Classical.skolem.1 fun context => Classical.skolem.1 (h context)
  exact ⟨moved, hmoved⟩

end Reads

end Phrasebook.Script

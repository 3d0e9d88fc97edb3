import Mathlib.Tactic.Tauto
import Phrasebook.Proofs.CallTexts
import Phrasebook.Proofs.LaminarSplicing
import Phrasebook.Script.Calls

/-!
# Nested calls

The calls in a syntax tree follow from how a parser goes through the text. The cursor
never moves back before the trees that were read so far, so the calls of the next tree start after
the calls of these, and a call that is made around trees spans all of them. `Gathers` says this of
a parser that is given trees and keeps trees, with a rule for each way to put parsers together;
`Nests` is its case for parsers that start from nothing.

A tree may hold the same call twice, and trees may be dropped, so all that is said about the calls
of trees is which ones they have. Where the text of a call is written, they have that call or none
of a member: `Occurrence.Made` is kept by the same rules.

Results:
* `Nested.append`, `Nested.call`: trees that follow others, and a call around trees.
* `Gathers.bind`: what one parser reads is held for the next one.
* `Leads.loopFor`: an invariant of each step is one of a loop.
* `Yields.bind`: of what kind the results of a parser are.
-/

namespace Phrasebook

open Text Splice

namespace Script

variable {α β σ : Type}

/-! ## Calls of trees -/

/-- A call of a tree: its span, the path of its callee, if it has one, and its arguments. -/
structure Occurrence where
  span : Span
  path? : Option (List String)
  arguments : List Argument

namespace Node

mutual

/-- All calls of a tree. -/
def occurrences : Node → List Occurrence
  | .name _ => []
  | .string _ _ => []
  | .template _ substitutions => occurrencesOfAll substitutions
  | .wrapped _ inner types => occurrences inner ++ occurrencesOfAll types
  | .member object property => occurrences object ++ occurrences property
  | .call start stop callee arguments types =>
    ⟨⟨start, stop⟩, callee.calleePath?, arguments.map argument⟩
      :: (occurrences callee ++ (occurrencesOfAll arguments ++ occurrencesOfAll types))
  | .form _ parts => occurrencesOfAll parts

/-- All calls of trees. -/
def occurrencesOfAll : List Node → List Occurrence
  | [] => []
  | node :: rest => occurrences node ++ occurrencesOfAll rest

end

end Node

/-- The trees have this call. -/
def HasCall (call : Occurrence) (nodes : List Node) : Prop := call ∈ Node.occurrencesOfAll nodes

/-- The tree has this call. -/
def Node.HasCall (call : Occurrence) (node : Node) : Prop := call ∈ node.occurrences

section HasCall

variable (call : Occurrence)

@[simp] theorem not_hasCall_nil : ¬HasCall call [] := List.not_mem_nil

@[simp] theorem hasCall_cons (node : Node) (rest : List Node) :
    HasCall call (node :: rest) ↔ node.HasCall call ∨ HasCall call rest := List.mem_append

@[simp] theorem hasCall_append (front back : List Node) :
    HasCall call (front ++ back) ↔ HasCall call front ∨ HasCall call back := by
  induction front with
  | nil => simp
  | cons node rest ih => rw [List.cons_append, hasCall_cons, ih, hasCall_cons, or_assoc]

@[simp] theorem hasCall_ite (condition : Prop) [Decidable condition] (first second : List Node) :
    HasCall call (if condition then first else second)
      ↔ condition ∧ HasCall call first ∨ ¬condition ∧ HasCall call second := by
  split <;> simp [*]

theorem hasCall_of_take (count : Nat) (nodes : List Node) (h : HasCall call (nodes.take count)) :
    HasCall call nodes := by
  rw [← List.take_append_drop count nodes]
  exact (hasCall_append call _ _).2 (.inl h)

theorem hasCall_of_drop (count : Nat) (nodes : List Node) (h : HasCall call (nodes.drop count)) :
    HasCall call nodes := by
  rw [← List.take_append_drop count nodes]
  exact (hasCall_append call _ _).2 (.inr h)

namespace Node

@[simp] theorem not_hasCall_name (text : String) : ¬(Node.name text).HasCall call :=
  List.not_mem_nil

@[simp] theorem not_hasCall_string (value : Option String) (quote : Quote) :
    ¬(Node.string value quote).HasCall call := List.not_mem_nil

@[simp] theorem hasCall_form (kind : Kind) (parts : List Node) :
    (Node.form kind parts).HasCall call ↔ Script.HasCall call parts := .rfl

@[simp] theorem hasCall_group (parts : List Node) :
    (Node.group parts).HasCall call ↔ Script.HasCall call parts := .rfl

@[simp] theorem hasCall_template (value : Option String) (substitutions : List Node) :
    (Node.template value substitutions).HasCall call ↔ Script.HasCall call substitutions := .rfl

@[simp] theorem hasCall_wrapped (wrapper : Wrapper) (inner : Node) (types : List Node) :
    (Node.wrapped wrapper inner types).HasCall call
      ↔ inner.HasCall call ∨ Script.HasCall call types := List.mem_append

@[simp] theorem hasCall_member (object property : Node) :
    (Node.member object property).HasCall call
      ↔ object.HasCall call ∨ property.HasCall call := List.mem_append

@[simp] theorem hasCall_call (start stop : Nat) (callee : Node) (arguments types : List Node) :
    (Node.call start stop callee arguments types).HasCall call
      ↔ call = ⟨⟨start, stop⟩, callee.calleePath?, arguments.map argument⟩
        ∨ callee.HasCall call ∨ Script.HasCall call arguments ∨ Script.HasCall call types := by
  unfold HasCall
  rw [occurrences, List.mem_cons, List.mem_append, List.mem_append]
  rfl

@[simp] theorem hasCall_ite (condition : Prop) [Decidable condition] (first second : Node) :
    (if condition then first else second).HasCall call
      ↔ condition ∧ first.HasCall call ∨ ¬condition ∧ second.HasCall call := by
  split <;> simp [*]

end Node

end HasCall

/-! ## Nested spans -/

/-- The span covers a piece of the text that ends with a closing parenthesis. -/
def Closes (text : List Char) (span : Span) : Prop :=
  ∃ before piece after, text = before ++ (piece ++ [')']) ++ after
    ∧ span.start = byteLength before ∧ span.stop = byteLength (before ++ (piece ++ [')']))

namespace Closes

variable {text : List Char} {span : Span}

theorem covers (h : Closes text span) : Covers text span := by
  obtain ⟨before, piece, after, htext, hstart, hstop⟩ := h
  exact ⟨before, piece ++ [')'], after, htext, hstart, hstop⟩

theorem start_lt_stop (h : Closes text span) : span.start < span.stop := by
  obtain ⟨before, piece, after, -, hstart, hstop⟩ := h
  have hparenthesis : ')'.utf8Size = 1 := rfl
  simp only [byteLength_append, byteLength_cons, byteLength_nil] at hstop
  omega

/-- From a place in the text to the end of a closing parenthesis. -/
theorem of_endsWith {start stop offset : Nat} {rest after : List Char}
    (hstart : Passes 0 text start rest) (hends : EndsWith ")" offset stop text after)
    (hle : start ≤ offset) : Closes text ⟨start, stop⟩ := by
  obtain ⟨front, rfl, rfl⟩ := hstart
  obtain ⟨-, -, place, hplace, rfl, before, htext, rfl⟩ := hends
  obtain ⟨piece, rfl, rfl⟩ := exists_append_of_byteLength_le htext (by omega)
  have hparenthesis : ')'.utf8Size = 1 := rfl
  have hlength : ")".length = 1 := rfl
  exact ⟨front, piece, after, by simp, by simp, by simp; omega⟩

end Closes

/-- Where the text of a call stands at the start of the call, that is what it calls, and with which
arguments. Calls of a name alone are left out, as are calls whose callee has no path. -/
def Occurrence.Made (text : List Char) (call : Occurrence) : Prop :=
  ∀ marker nodes stop, CallAt text call.span.start marker nodes stop →
    ∀ head name more, call.path? = some (head :: name :: more) →
      call.span.stop = stop ∧ call.path? = some [marker, "s"]
        ∧ call.arguments = nodes.map Node.argument

/-- Nothing is asked of a call whose callee has no path. -/
theorem Occurrence.made_of_none {text : List Char} {call : Occurrence} (h : call.path? = none) :
    call.Made text := by
  intro _ _ _ _ head name more hpath
  rw [h] at hpath
  cases hpath

/-- The calls of the trees cover pieces of the text between two offsets that end with a closing
parenthesis, and nest. They are the calls that are written there. -/
structure Nested (text : List Char) (low high : Nat) (nodes : List Node) : Prop where
  le : low ≤ high
  closes : ∀ call, HasCall call nodes → Closes text call.span
  within : ∀ call, HasCall call nodes → low ≤ call.span.start ∧ call.span.stop ≤ high
  nests : ∀ first, HasCall first nodes → ∀ second, HasCall second nodes →
    first.span.Nests second.span
  made : ∀ call, HasCall call nodes → call.Made text

namespace Nested

variable {text : List Char} {low middle high : Nat} {nodes others : List Node}

theorem nil (h : low ≤ high) : Nested text low high [] :=
  ⟨h, by simp, by simp, by simp, by simp⟩

theorem widen {low' high' : Nat} (h : Nested text low high nodes) (hlow : low' ≤ low)
    (hhigh : high ≤ high') : Nested text low' high' nodes where
  le := Nat.le_trans hlow (Nat.le_trans h.le hhigh)
  closes := h.closes
  within call hcall :=
    ⟨Nat.le_trans hlow (h.within call hcall).1, Nat.le_trans (h.within call hcall).2 hhigh⟩
  nests := h.nests
  made := h.made

/-- Trees that follow others. -/
theorem append (h : Nested text low middle nodes) (hothers : Nested text middle high others) :
    Nested text low high (nodes ++ others) where
  le := Nat.le_trans h.le hothers.le
  closes call hcall :=
    ((hasCall_append call _ _).1 hcall).elim (h.closes call) (hothers.closes call)
  within call hcall := ((hasCall_append call _ _).1 hcall).elim
    ((h.widen (Nat.le_refl _) hothers.le).within call)
    ((hothers.widen h.le (Nat.le_refl _)).within call)
  nests := by
    have hbetween : ∀ first, HasCall first nodes → ∀ second, HasCall second others →
        first.span.Nests second.span := fun first hfirst second hsecond =>
      .inl (Nat.le_trans (h.within first hfirst).2 (hothers.within second hsecond).1)
    intro first hfirst second hsecond
    rcases (hasCall_append _ _ _).1 hfirst with hfirst | hfirst <;>
      rcases (hasCall_append _ _ _).1 hsecond with hsecond | hsecond
    · exact h.nests first hfirst second hsecond
    · exact hbetween first hfirst second hsecond
    · exact (hbetween second hsecond first hfirst).symm
    · exact hothers.nests first hfirst second hsecond
  made call hcall := ((hasCall_append call _ _).1 hcall).elim (h.made call) (hothers.made call)

/-- Trees with no other calls. -/
theorem of_hasCall (h : Nested text low high nodes)
    (hothers : ∀ call, HasCall call others → HasCall call nodes) :
    Nested text low high others where
  le := h.le
  closes call hcall := h.closes call (hothers call hcall)
  within call hcall := h.within call (hothers call hcall)
  nests first hfirst second hsecond :=
    h.nests first (hothers first hfirst) second (hothers second hsecond)
  made call hcall := h.made call (hothers call hcall)

/-- A call around trees, from the place where they start to a closing parenthesis. -/
theorem call {stop : Nat} {after : List Char} {node : Node} {outer : Occurrence}
    (h : Nested text low high nodes) (hlow : ∃ rest, Passes 0 text low rest)
    (hends : EndsWith ")" high stop text after) (hspan : outer.span = ⟨low, stop⟩)
    (hmade : outer.Made text)
    (hnode : ∀ call, node.HasCall call → call = outer ∨ HasCall call nodes) :
    Nested text low stop [node] := by
  obtain ⟨rest, hrest⟩ := hlow
  have hcall : ∀ call, HasCall call [node] → call = outer ∨ HasCall call nodes :=
    fun call hcall => hnode call (by simpa using hcall)
  have hinside : ∀ call, HasCall call nodes → call.span.Inside outer.span := fun call hcall => by
    rw [hspan]
    exact ⟨(h.within call hcall).1, Nat.le_trans (h.within call hcall).2 (Nat.le_of_lt hends.lt)⟩
  refine ⟨Nat.le_trans h.le (Nat.le_of_lt hends.lt), fun call hmem => ?_, fun call hmem => ?_,
    fun first hfirst second hsecond => ?_, fun call hmem => ?_⟩
  · obtain rfl | hmem := hcall call hmem
    · rw [hspan]
      exact .of_endsWith hrest hends h.le
    · exact h.closes call hmem
  · obtain rfl | hmem := hcall call hmem
    · rw [hspan]
      exact ⟨Nat.le_refl _, Nat.le_refl _⟩
    · have hwithin := hinside call hmem
      rw [hspan] at hwithin
      exact hwithin
  · obtain rfl | hfirst := hcall first hfirst <;> obtain rfl | hsecond := hcall second hsecond
    · exact .inr (.inr (.inl (.refl _)))
    · exact .inr (.inr (.inr (hinside second hsecond)))
    · exact .inr (.inr (.inl (hinside first hfirst)))
    · exact h.nests first hfirst second hsecond
  · obtain rfl | hmem := hcall call hmem
    · exact hmade
    · exact h.made call hmem

end Nested

/-! ## Trees in results -/

/-- Results that hold trees. -/
class Trees (α : Type) where
  /-- The trees that a result holds. -/
  trees : α → List Node

export Trees (trees)

instance : Trees Node := ⟨fun node => [node]⟩
instance [Trees α] : Trees (List α) := ⟨fun values => values.flatMap trees⟩
instance [Trees α] : Trees (Option α) := ⟨fun value? => value?.toList.flatMap trees⟩
instance [Trees α] [Trees β] : Trees (α × β) := ⟨fun pair => trees pair.1 ++ trees pair.2⟩
instance [Trees α] [Trees β] : Trees (α ⊕ β) := ⟨Sum.elim trees trees⟩
instance : Trees (ForInStep Unit) := ⟨fun _ => []⟩
instance : Trees Unit := ⟨fun _ => []⟩
instance : Trees Bool := ⟨fun _ => []⟩
instance : Trees Nat := ⟨fun _ => []⟩
instance : Trees String := ⟨fun _ => []⟩
instance : Trees Token := ⟨fun _ => []⟩
instance : Trees Lexeme := ⟨fun _ => []⟩
instance : Trees Context := ⟨fun _ => []⟩
instance : Trees Cursor := ⟨fun _ => []⟩

/-- Results that hold no trees. -/
class Treeless (α : Type) [Trees α] : Prop where
  trees_eq_nil : ∀ value : α, trees value = []

attribute [simp] Treeless.trees_eq_nil

instance : Treeless (ForInStep Unit) := ⟨fun _ => rfl⟩
instance : Treeless Unit := ⟨fun _ => rfl⟩
instance : Treeless Bool := ⟨fun _ => rfl⟩
instance : Treeless Nat := ⟨fun _ => rfl⟩
instance : Treeless String := ⟨fun _ => rfl⟩
instance : Treeless Token := ⟨fun _ => rfl⟩
instance : Treeless Lexeme := ⟨fun _ => rfl⟩
instance : Treeless Context := ⟨fun _ => rfl⟩
instance : Treeless Cursor := ⟨fun _ => rfl⟩

instance [Trees α] [Treeless α] : Treeless (Option α) where
  trees_eq_nil
    | none => rfl
    | some value => by simp [trees]

instance [Trees α] [Treeless α] [Trees β] [Treeless β] : Treeless (α × β) where
  trees_eq_nil pair := by simp [trees]

@[simp] theorem trees_node (node : Node) : trees node = [node] := rfl
@[simp] theorem trees_nil [Trees α] : trees ([] : List α) = [] := rfl
@[simp] theorem trees_cons [Trees α] (value : α) (rest : List α) :
    trees (value :: rest) = trees value ++ trees rest := rfl
@[simp] theorem trees_append [Trees α] (front back : List α) :
    trees (front ++ back) = trees front ++ trees back := List.flatMap_append
@[simp] theorem trees_nodes (nodes : List Node) : trees nodes = nodes := by
  induction nodes with
  | nil => rfl
  | cons node rest ih => rw [trees_cons, ih]; rfl
@[simp] theorem trees_none [Trees α] : trees (none : Option α) = [] := rfl
@[simp] theorem trees_some [Trees α] (value : α) : trees (some value) = trees value :=
  List.append_nil _
@[simp] theorem trees_option (node? : Option Node) : trees node? = node?.toList := by
  cases node? <;> rfl
@[simp] theorem trees_prod [Trees α] [Trees β] (pair : α × β) :
    trees pair = trees pair.1 ++ trees pair.2 := rfl
@[simp] theorem trees_inl [Trees α] [Trees β] (value : α) :
    trees (Sum.inl value : α ⊕ β) = trees value := rfl
@[simp] theorem trees_inr [Trees α] [Trees β] (value : β) :
    trees (Sum.inr value : α ⊕ β) = trees value := rfl

/-! ## Leading from one place to another -/

/-- The cursor after reading stands in the text and not before the one where reading began. -/
def Cursor.Reaches (text : List Char) (cursor after : Cursor) : Prop :=
  after.current.Stands text ∧ cursor.current.start ≤ after.current.start

namespace Cursor.Reaches

variable {text : List Char} {first second third : Cursor}

theorem refl (h : first.current.Stands text) : first.Reaches text first := ⟨h, Nat.le_refl _⟩

theorem trans (h : first.Reaches text second) (hthird : second.Reaches text third) :
    first.Reaches text third :=
  ⟨hthird.1, Nat.le_trans h.2 hthird.2⟩

end Cursor.Reaches

/-- Reading may be grouped in any way. -/
theorem Parser.bind_bind {γ : Type} (parser : Parser α) (next : α → Parser β)
    (last : β → Parser γ) :
    (parser >>= next) >>= last = parser >>= fun value => next value >>= last := by
  funext context cursor
  simp only [bind_apply]
  cases parser context cursor <;> rfl

/-- From where the first condition holds, reading leads to where the second one does, or gets stuck
somewhere in the text. -/
def Leads (text : List Char) (pre : Cursor → Prop) (parser : Parser α)
    (post : α → Cursor → Prop) : Prop :=
  ∀ context cursor, cursor.current.Stands text → pre cursor →
    match parser context cursor with
    | .done value after => cursor.Reaches text after ∧ post value after
    | .stuck after => cursor.Reaches text after

variable {text : List Char}

namespace Leads

variable {pre : Cursor → Prop} {parser : Parser α} {post : α → Cursor → Prop}

theorem imp {pre' : Cursor → Prop} {post' : α → Cursor → Prop} (h : Leads text pre parser post)
    (hpre : ∀ cursor, cursor.current.Stands text → pre' cursor → pre cursor)
    (hpost : ∀ value cursor, cursor.current.Stands text → post value cursor →
      post' value cursor) :
    Leads text pre' parser post' := by
  intro context cursor hstands hcursor
  have hread := h context cursor hstands (hpre cursor hstands hcursor)
  cases hrun : parser context cursor with
  | done value after =>
    rw [hrun] at hread
    exact ⟨hread.1, hpost value after hread.1.1 hread.2⟩
  | stuck after =>
    rw [hrun] at hread
    exact hread

theorem pure {value : α}
    (h : ∀ cursor, cursor.current.Stands text → pre cursor → post value cursor) :
    Leads text pre (pure value) post :=
  fun _ cursor hstands hcursor => ⟨.refl hstands, h cursor hstands hcursor⟩

theorem bind {next : α → Parser β} {post' : β → Cursor → Prop} (h : Leads text pre parser post)
    (hnext : ∀ value, Leads text (post value) (next value) post') :
    Leads text pre (parser >>= next) post' := by
  intro context cursor hstands hcursor
  have hread := h context cursor hstands hcursor
  rw [Parser.bind_apply]
  cases hrun : parser context cursor with
  | stuck after =>
    rw [hrun] at hread
    exact hread
  | done value middle =>
    rw [hrun] at hread
    have hafter := hnext value context middle hread.1.1 hread.2
    dsimp only
    cases hrest : next value context middle with
    | done result after =>
      rw [hrest] at hafter
      exact ⟨hread.1.trans hafter.1, hafter.2⟩
    | stuck after =>
      rw [hrest] at hafter
      exact hread.1.trans hafter

theorem bindPure {value : α} {next : α → Parser β} {post : β → Cursor → Prop}
    (hnext : Leads text pre (next value) post) :
    Leads text pre (Pure.pure value >>= next) post := hnext

theorem fail : Leads text pre (Parser.fail : Parser α) post := by
  intro context cursor hstands _
  show cursor.Reaches text (cursor.overFault context)
  unfold Cursor.overFault
  split
  · exact hstands.following _
  · exact .refl hstands

theorem ite {condition : Prop} [Decidable condition] {first second : Parser α}
    (hfirst : Leads text pre first post) (hsecond : Leads text pre second post) :
    Leads text pre (if condition then first else second) post := by
  split
  · exact hfirst
  · exact hsecond

/-- The current token is known where it is the symbol. -/
theorem ifSymbol {symbol : String} {first second : Parser α}
    (hfirst : Leads text (fun cursor => pre cursor ∧ cursor.current.token = .symbol symbol) first
      post)
    (hsecond : Leads text pre second post) :
    Leads text pre (Parser.isSymbol symbol >>= fun found => if found then first else second)
      post := by
  intro context cursor hstands hcursor
  by_cases htoken : cursor.current.token = .symbol symbol
  · have hrun : (Parser.isSymbol symbol >>= fun found => if found then first else second)
        context cursor = first context cursor := by
      rw [Parser.bind_apply, Parser.isSymbol_apply, beq_iff_eq.2 htoken]
      rfl
    rw [hrun]
    exact hfirst context cursor hstands ⟨hcursor, htoken⟩
  · have hrun : (Parser.isSymbol symbol >>= fun found => if found then first else second)
        context cursor = second context cursor := by
      rw [Parser.bind_apply, Parser.isSymbol_apply, beq_eq_false_iff_ne.2 htoken]
      rfl
    rw [hrun]
    exact hsecond context cursor hstands hcursor

theorem within (h : Leads text pre parser post) (change : Context → Context) :
    Leads text pre (Parser.within change parser) post :=
  fun context => h (change context)

/-- The cursor is known to what follows. -/
theorem cursor {next : Cursor → Parser α}
    (h : ∀ cursor, Leads text (fun here => pre here ∧ here = cursor) (next cursor) post) :
    Leads text pre (Parser.cursor >>= next) post :=
  fun context cursor hstands hcursor => h cursor context cursor hstands ⟨hcursor, rfl⟩

/-- Going on with a token that stands in the text. -/
theorem resumeAt {lexeme : Lexeme} {post : Unit → Cursor → Prop}
    (h : ∀ cursor, cursor.current.Stands text → pre cursor →
      lexeme.Stands text ∧ cursor.current.start ≤ lexeme.start
        ∧ post () { cursor with current := lexeme }) :
    Leads text pre (Parser.resumeAt lexeme) post := by
  intro context cursor hstands hcursor
  obtain ⟨hlexeme, hle, hpost⟩ := h cursor hstands hcursor
  exact ⟨⟨hlexeme, hle⟩, hpost⟩

/-- A step keeps an invariant until it ends with a result. -/
theorem loopFor {step : σ → Parser (σ ⊕ α)} {inv : σ → Cursor → Prop}
    (hstep : ∀ state, Leads text (inv state) (step state) (Sum.elim inv post)) (fuel : Nat)
    (state : σ) : Leads text (inv state) (Parser.loopFor step fuel state) post := by
  induction fuel generalizing state with
  | zero => exact fail
  | succ fuel ih =>
    refine bind (hstep state) fun value => ?_
    cases value with
    | inl state => exact ih state
    | inr value => exact pure fun _ _ => id

theorem loop {step : σ → Parser (σ ⊕ α)} {inv : σ → Cursor → Prop} {state : σ}
    (hstep : ∀ state, Leads text (inv state) (step state) (Sum.elim inv post)) :
    Leads text (inv state) (Parser.loop step state) post :=
  fun context cursor => loopFor hstep _ state context cursor

end Leads

/-! ## Kinds of results -/

/-- What the parser reads is of some kind, if it reads anything. -/
def Yields (parser : Parser α) (p : α → Prop) : Prop :=
  ∀ context cursor value after, parser context cursor = .done value after → p value

namespace Yields

variable {parser : Parser α} {p : α → Prop} {next : α → Parser β} {q : β → Prop}

theorem trivial (h : ∀ value, p value) : Yields parser p := fun _ _ value _ _ => h value

theorem pure {value : α} (h : p value) : Yields (pure value) p := by
  rintro _ _ _ _ ⟨⟩
  exact h

/-- The state after a step of a loop. -/
theorem inl {value : σ} {r : σ → Prop} {s : α → Prop} (h : r value) :
    Yields (Pure.pure (.inl value) : Parser (σ ⊕ α)) (Sum.elim r s) := pure h

theorem fail : Yields (Parser.fail : Parser α) p := by
  intro context cursor value after hrun
  unfold Parser.fail at hrun
  cases hrun

theorem bind (h : Yields parser p) (hnext : ∀ value, p value → Yields (next value) q) :
    Yields (parser >>= next) q := by
  intro context cursor value after hrun
  rw [Parser.bind_apply] at hrun
  cases hfirst : parser context cursor with
  | stuck _ => rw [hfirst] at hrun; cases hrun
  | done found middle =>
    rw [hfirst] at hrun
    exact hnext found (h _ _ _ _ hfirst) _ _ _ _ hrun

/-- What the first parser reads does not matter. -/
theorem skip (hnext : ∀ value, Yields (next value) q) : Yields (parser >>= next) q :=
  bind (p := fun _ => True) (trivial fun _ => True.intro) fun value _ => hnext value

theorem ite {condition : Prop} [Decidable condition] {first second : Parser α}
    (hfirst : Yields first p) (hsecond : Yields second p) :
    Yields (if condition then first else second) p := by
  split
  · exact hfirst
  · exact hsecond

/-- A step that is taken or not, before the rest. -/
theorem iteThen {condition : Prop} [Decidable condition] {first : Parser Unit}
    {next : Unit → Parser β} (hnext : Yields (next ()) q) :
    Yields (if condition then first >>= next else next ()) q := ite (skip fun _ => hnext) hnext

/-- One of two steps before the rest. -/
theorem iteBoth {condition : Prop} [Decidable condition] {other : Parser α}
    (hnext : ∀ value, Yields (next value) q) :
    Yields (if condition then parser >>= next else other >>= next) q :=
  ite (skip hnext) (skip hnext)

theorem imp {p' : α → Prop} (h : Yields parser p) (hp : ∀ value, p value → p' value) :
    Yields parser p' := fun context cursor value after hrun =>
  hp value (h context cursor value after hrun)

theorem within (h : Yields parser p) (change : Context → Context) :
    Yields (Parser.within change parser) p := fun context => h (change context)

/-- An attempt gives what is read, or nothing. -/
theorem attempt {parser : Parser (Option α)}
    (h : Yields parser fun value? => ∀ value, value? = some value → p value) :
    Yields (Parser.attempt parser) fun value? => ∀ value, value? = some value → p value := by
  intro context cursor value? after hrun
  unfold Parser.attempt at hrun
  split at hrun
  · next found middle hfound =>
    cases hrun
    exact h _ _ _ _ hfound
  · cases hrun
    exact nofun

end Yields

/-! ## Gathering -/

/-- The calls of the trees nest between an offset and the cursor. -/
def Holds (text : List Char) (low : Nat) (held : List Node) (cursor : Cursor) : Prop :=
  Nested text low cursor.current.start held

/-- Trees are held from an offset on, and others are kept after reading. -/
def Gathers (text : List Char) (low : Nat) (held : List Node) (parser : Parser α)
    (kept : α → List Node) : Prop :=
  Leads text (Holds text low held) parser fun value => Holds text low (kept value)

/-- The calls of what the parser reads nest. -/
class Nests (text : List Char) [Trees α] (parser : Parser α) : Prop where
  gathers : ∀ low, Gathers text low [] parser trees

variable {low : Nat} {held : List Node}

/-- What is held before a cursor is held before a later one. -/
theorem Holds.reaches {cursor after : Cursor} (h : Holds text low held cursor)
    (hafter : cursor.Reaches text after) : Holds text low held after :=
  h.widen (Nat.le_refl _) hafter.2

theorem Holds.of_hasCall {fewer : List Node} {cursor : Cursor} (h : Holds text low held cursor)
    (hfewer : ∀ call, HasCall call fewer → HasCall call held) : Holds text low fewer cursor :=
  Nested.of_hasCall h hfewer

/-- Going on with the current token changed. -/
theorem Leads.resumeWith {change : Lexeme → Lexeme}
    (h : ∀ lexeme, lexeme.Stands text →
      (change lexeme).Stands text ∧ lexeme.start ≤ (change lexeme).start) (here : Cursor) :
    Leads text (fun cursor => Holds text low held cursor ∧ cursor = here)
      (Parser.resumeAt (change here.current)) fun _ => Holds text low held :=
  Leads.resumeAt fun cursor hstands ⟨hheld, hhere⟩ => by
    subst hhere
    obtain ⟨hchanged, hle⟩ := h cursor.current hstands
    exact ⟨hchanged, hle, hheld.widen (Nat.le_refl _) hle⟩

/-- Going on after a rest of the text that lies ahead. -/
theorem Leads.resume (held : List Node) {pre : Cursor → Prop} {post : α → Cursor → Prop}
    {offset : Nat} {rest : List Char} {next : Unit → Parser α}
    (hpre : ∀ cursor, cursor.current.Stands text → pre cursor →
      Holds text low held cursor ∧ Passes 0 text offset rest ∧ cursor.current.start ≤ offset)
    (hnext : Leads text (Holds text low held) (next ()) post) :
    Leads text pre (Parser.resume offset rest >>= next) post := by
  have hresume : Leads text pre (Parser.resume offset rest) fun _ => Holds text low held := by
    intro context cursor hstands hcursor
    obtain ⟨hheld, hpasses, hle⟩ := hpre cursor hstands hcursor
    obtain ⟨hlexeme, hlater⟩ := Lexeme.stands_next context.splitsAngles false hpasses
    have hreaches : cursor.Reaches text
        { cursor with current := Lexeme.next context.splitsAngles offset false rest } :=
      ⟨hlexeme, Nat.le_trans hle hlater⟩
    exact ⟨hreaches, hheld.reaches hreaches⟩
  exact hresume.bind fun _ => hnext

/-- What is held before may stand before all that is read. -/
theorem Gathers.frame {parser : Parser α} {kept : α → List Node}
    (h : ∀ low, Gathers text low [] parser kept) :
    Gathers text low held parser fun value => held ++ kept value := by
  intro context cursor hstands hheld
  have hread := h cursor.current.start context cursor hstands (.nil (Nat.le_refl _))
  cases hrun : parser context cursor with
  | done value after =>
    rw [hrun] at hread
    refine ⟨hread.1, ?_⟩
    exact Nested.append hheld hread.2
  | stuck after =>
    rw [hrun] at hread
    exact hread

/-- What is held and what is read is held for the rest. -/
theorem Leads.gather [Trees α] {parser : Parser α} [h : Nests text parser] {next : α → Parser β}
    {post : β → Cursor → Prop}
    (hnext : ∀ value, Leads text (Holds text low (held ++ trees value)) (next value) post) :
    Leads text (Holds text low held) (parser >>= next) post :=
  Leads.bind (Gathers.frame h.gathers) hnext

namespace Gathers

variable {parser : Parser α} {next : α → Parser β} {kept : β → List Node}

/-- What is held is held for what comes after the current token is changed. -/
theorem resumeWith (change : Lexeme → Lexeme) {next : Unit → Parser β}
    (h : ∀ lexeme, lexeme.Stands text →
      (change lexeme).Stands text ∧ lexeme.start ≤ (change lexeme).start)
    (hnext : Gathers text low held (next ()) kept) :
    Gathers text low held
      (Parser.cursor >>= fun here => Parser.resumeAt (change here.current) >>= next) kept :=
  Leads.cursor fun here => Leads.bind (Leads.resumeWith h here) fun _ => hnext

/-- Less may be kept, and more held. -/
theorem weaken {less : List Node} {kept kept' : α → List Node}
    (h : Gathers text low less parser kept)
    (hheld : ∀ call, HasCall call less → HasCall call held := by
      intro call; simp <;> tauto)
    (hkept : ∀ value call, HasCall call (kept' value) → HasCall call (kept value) := by
      intro value call; simp <;> tauto) :
    Gathers text low held parser kept' :=
  h.imp (fun _ _ hcursor => hcursor.of_hasCall hheld) fun value _ _ hcursor =>
    hcursor.of_hasCall (hkept value)

theorem pure {value : β}
    (h : ∀ call, HasCall call (kept value) → HasCall call held := by
      intro call; simp <;> tauto) :
    Gathers text low held (pure value) kept :=
  Leads.pure fun _ _ hcursor => hcursor.of_hasCall h

/-- What was held and what is read is held for the rest. -/
theorem bind [Trees α] [Nests text parser]
    (hnext : ∀ value, Gathers text low (held ++ trees value) (next value) kept) :
    Gathers text low held (parser >>= next) kept := Leads.gather hnext

/-- The same, for a parser whose calls are shown to nest. -/
theorem bindOf [Trees α] (h : Nests text parser)
    (hnext : ∀ value, Gathers text low (held ++ trees value) (next value) kept) :
    Gathers text low held (parser >>= next) kept := bind hnext

/-- What is held is given to the parser, and what it keeps is held for the rest. -/
theorem comp {given : List Node} {between : α → List Node}
    (h : Gathers text low given parser between)
    (hnext : ∀ value, Gathers text low (between value) (next value) kept)
    (hgiven : ∀ call, HasCall call given → HasCall call held := by
      intro call; simp <;> tauto) :
    Gathers text low held (parser >>= next) kept :=
  Leads.bind (h.weaken hgiven fun _ _ => id) hnext

/-- The parser keeps what is held. -/
theorem bindKept [Trees α] (h : Gathers text low held parser fun value => held ++ trees value)
    (hnext : ∀ value, Gathers text low (held ++ trees value) (next value) kept) :
    Gathers text low held (parser >>= next) kept := Leads.bind h hnext

/-- What the first parser reads is given to the second one, whose result is held for the rest. -/
theorem bindBind [Trees β] {γ : Type} {second : α → Parser β} {next : β → Parser γ}
    {kept : γ → List Node} (h : Nests text (parser >>= second))
    (hnext : ∀ value, Gathers text low (held ++ trees value) (next value) kept) :
    Gathers text low held (parser >>= fun value => second value >>= next) kept := by
  rw [← Parser.bind_bind]
  exact bindOf h hnext

theorem bindPure {value : α} (hnext : Gathers text low held (next value) kept) :
    Gathers text low held (Pure.pure value >>= next) kept := Leads.bindPure hnext

/-- The last parser gives the result. -/
theorem last [Trees β] {parser : Parser β} (h : Nests text parser) :
    Gathers text low held parser trees := by
  have hframe : Gathers text low held parser fun value => held ++ trees value := frame h.gathers
  exact hframe.weaken

/-- The same, for a parser whose calls are known to nest. -/
theorem nests [Trees β] {parser : Parser β} [h : Nests text parser] :
    Gathers text low held parser trees := last h

theorem fail : Gathers text low held (Parser.fail : Parser β) kept := Leads.fail

theorem ite {condition : Prop} [Decidable condition] {first second : Parser β}
    (hfirst : Gathers text low held first kept) (hsecond : Gathers text low held second kept) :
    Gathers text low held (if condition then first else second) kept := Leads.ite hfirst hsecond

/-- A step that is taken or not, before the rest. -/
theorem iteThen {condition : Prop} [Decidable condition] {first : Parser Unit} [Nests text first]
    {next : Unit → Parser β} (hnext : Gathers text low held (next ()) kept) :
    Gathers text low held (if condition then first >>= next else next ()) kept :=
  ite (bind fun _ => hnext.weaken) hnext

/-- A step that is left out or not, before the rest. -/
theorem iteElse {condition : Prop} [Decidable condition] {second : Parser Unit}
    [Nests text second] {next : Unit → Parser β} (hnext : Gathers text low held (next ()) kept) :
    Gathers text low held (if condition then next () else second >>= next) kept :=
  ite hnext (bind fun _ => hnext.weaken)

/-- One of two steps before the rest. -/
theorem iteBoth [Trees α] {condition : Prop} [Decidable condition] {first second : Parser α}
    [Nests text first] [Nests text second]
    (hnext : ∀ value, Gathers text low (held ++ trees value) (next value) kept) :
    Gathers text low held (if condition then first >>= next else second >>= next) kept :=
  ite (bind hnext) (bind hnext)

theorem within {parser : Parser β} (h : Gathers text low held parser kept)
    (change : Context → Context) :
    Gathers text low held (Parser.within change parser) kept := Leads.within h change

/-- A look ahead leaves everything as it was. -/
theorem lookAhead {next : Option α → Parser β}
    (hnext : ∀ value?, Gathers text low held (next value?) kept) :
    Gathers text low held (Parser.lookAhead parser >>= next) kept := by
  have hlook : Gathers text low held (Parser.lookAhead parser) fun _ => held := by
    intro context cursor hstands hheld
    unfold Parser.lookAhead
    cases parser { context with tentative := true } cursor with
    | _ => exact ⟨.refl hstands, hheld⟩
  exact Leads.bind hlook hnext

/-- An attempt that fails leaves everything as it was. -/
theorem attempt {parser : Parser (Option α)} {kept : Option α → List Node}
    (h : Gathers text low held parser kept)
    (hnone : ∀ call, HasCall call (kept none) → HasCall call held := by
      intro call; simp <;> tauto) :
    Gathers text low held (Parser.attempt parser) kept := by
  intro context cursor hstands hheld
  have hread := h { context with tentative := true } cursor hstands hheld
  unfold Parser.attempt
  cases hrun : parser { context with tentative := true } cursor with
  | done value? after =>
    rw [hrun] at hread
    cases value? with
    | none => exact ⟨.refl hstands, hheld.of_hasCall hnone⟩
    | some value => exact hread
  | stuck after => exact ⟨.refl hstands, hheld.of_hasCall hnone⟩

/-- What is kept from some place on is kept from an earlier one on. -/
theorem widen {start : Nat} {kept : β → List Node} {parser : Parser β}
    (h : Gathers text start held parser kept) (hle : low ≤ start) :
    Leads text (Holds text start held) parser fun value => Holds text low (kept value) :=
  h.imp (fun _ _ => id) fun _ _ _ hcursor => Nested.widen hcursor hle (Nat.le_refl _)

/-- What is read is held from here on. -/
theorem here {parser : Parser β} {kept : β → List Node}
    (h : ∀ start, (∃ rest, Passes 0 text start rest) → Gathers text start [] parser kept) :
    Gathers text low [] parser kept := fun context cursor hstands hheld =>
  (h cursor.current.start hstands.start).widen hheld.le context cursor hstands
    (.nil (Nat.le_refl _))

/-- What starts here is held from here on, where something is known of the place. -/
theorem offsetOf (p : Nat → Prop) {next : Nat → Parser β} {kept : β → List Node}
    (hnext : ∀ start, (∃ rest, Passes 0 text start rest) → p start →
      Gathers text start [] (next start) kept) :
    Leads text (fun cursor => Holds text low [] cursor ∧ p cursor.current.start)
      (Parser.offset >>= next) fun value => Holds text low (kept value) :=
  fun context cursor hstands ⟨hheld, hp⟩ =>
    (hnext cursor.current.start hstands.start hp).widen hheld.le context cursor hstands
      (.nil (Nat.le_refl _))

theorem offset {next : Nat → Parser β} {kept : β → List Node}
    (hnext : ∀ start, (∃ rest, Passes 0 text start rest) →
      Gathers text start [] (next start) kept) :
    Gathers text low [] (Parser.offset >>= next) kept :=
  (offsetOf (fun _ => True) fun start hstart _ => hnext start hstart).imp
    (fun _ _ hheld => ⟨hheld, trivial⟩) fun _ _ _ => id

/-- A loop that starts from what is held. -/
theorem lastLoop [Trees α] [Trees σ] {step : σ → Parser (σ ⊕ α)} {state : σ}
    (hstep : ∀ state, Gathers text low (trees state) (step state) trees)
    (hstate : ∀ call, HasCall call (trees state) → HasCall call held := by
      intro call; simp <;> tauto) :
    Gathers text low held (Parser.loop step state) trees := by
  have hloop : Gathers text low (trees state) (Parser.loop step state) trees :=
    Leads.loop fun state => (hstep state).imp (fun _ _ => id) fun value _ _ => by
      cases value <;> exact id
  exact hloop.weaken hstate

/-- A loop that starts from what is held, whose states are of some kind. -/
theorem lastLoopOf [Trees α] [Trees σ] {step : σ → Parser (σ ⊕ α)} {state : σ} (p : σ → Prop)
    (hstate : p state)
    (hstep : ∀ state, p state → Gathers text low (trees state) (step state) trees)
    (hkind : ∀ state, p state → Yields (step state) (Sum.elim p fun _ => True))
    (hheld : ∀ call, HasCall call (trees state) → HasCall call held := by
      intro call; simp <;> tauto) :
    Gathers text low held (Parser.loop step state) trees := by
  have hloop : Leads text (fun cursor => p state ∧ Holds text low (trees state) cursor)
      (Parser.loop step state) fun value => Holds text low (trees value) := by
    let inv (state : σ) (cursor : Cursor) : Prop := p state ∧ Holds text low (trees state) cursor
    refine Leads.loop fun state context cursor hstands (hinv : inv state cursor) => ?_
    obtain ⟨hp, hcursor⟩ := hinv
    have hread := hstep state hp context cursor hstands hcursor
    have hvalue := hkind state hp context cursor
    cases hrun : step state context cursor with
    | stuck after =>
      rw [hrun] at hread
      exact hread
    | done value after =>
      rw [hrun] at hread
      refine ⟨hread.1, ?_⟩
      cases value with
      | inl next => exact ⟨hvalue _ _ hrun, hread.2⟩
      | inr result => exact hread.2
  exact hloop.imp (fun _ _ hcursor => ⟨hstate, hcursor.of_hasCall hheld⟩) fun _ _ _ => id

end Gathers

namespace Nests

open Phrasebook.Script.Parser

variable {parser : Parser α}

/-- A parser that leaves the cursor where it is and reads no trees. -/
theorem of_stays [Trees α] (h : ∀ context cursor, ∃ value : α, trees value = [] ∧
    parser context cursor = .done value cursor) : Nests text parser where
  gathers low context cursor hstands hheld := by
    obtain ⟨value, hvalue, hrun⟩ := h context cursor
    rw [hrun]
    refine ⟨.refl hstands, ?_⟩
    show Holds text low (trees value) cursor
    rw [hvalue]
    exact hheld

instance : Nests text Parser.context := of_stays fun context _ => ⟨context, rfl, rfl⟩
instance : Nests text cursor := of_stays fun _ cursor => ⟨cursor, rfl, rfl⟩
instance : Nests text token := of_stays fun _ cursor => ⟨cursor.current.token, rfl, rfl⟩
instance : Nests text newline := of_stays fun _ cursor => ⟨cursor.current.newline, rfl, rfl⟩
instance : Nests text Parser.offset := of_stays fun _ cursor => ⟨cursor.current.start, rfl, rfl⟩
instance : Nests text peekLexeme := of_stays fun _ _ => ⟨_, rfl, rfl⟩

instance [Trees α] : Nests text (fail : Parser α) := ⟨fun _ => .fail⟩

instance : Nests text advance where
  gathers _ _ _ hstands hheld :=
    ⟨hstands.following _, hheld.widen (Nat.le_refl _) (hstands.following _).2⟩

instance : Nests text note where
  gathers low context cursor hstands hheld := by
    show cursor.Reaches text (if context.tentative then cursor else cursor.overFault context) ∧ _
    have h : cursor.Reaches text
        (if context.tentative then cursor else cursor.overFault context) := by
      unfold Cursor.overFault
      split
      · exact ⟨hstands, Nat.le_refl _⟩
      split
      · exact hstands.following _
      · exact ⟨hstands, Nat.le_refl _⟩
    exact ⟨h, hheld.widen (Nat.le_refl _) h.2⟩

theorem resumeWith (change : Lexeme → Lexeme)
    (h : ∀ lexeme, lexeme.Stands text →
      (change lexeme).Stands text ∧ lexeme.start ≤ (change lexeme).start) :
    Nests text (cursor >>= fun here => resumeAt (change here.current)) :=
  ⟨fun _ => Leads.cursor (Leads.resumeWith h)⟩

theorem within [Trees α] (h : Nests text parser) (change : Context → Context) :
    Nests text (within change parser) :=
  ⟨fun low => Leads.within (h.gathers low) change⟩

instance [Trees α] [h : Nests text parser] : Nests text (allowingIn parser) := h.within _
instance [Trees α] [h : Nests text parser] : Nests text (splittingAngles parser) := h.within _
instance [Trees α] [h : Nests text parser] : Nests text (awaitingNoColon parser) := h.within _

instance [Trees α] [h : Nests text parser] : Nests text (recover parser) where
  gathers low context cursor hstands hheld := by
    have hread := h.gathers low context cursor hstands hheld
    unfold recover
    cases hrun : parser context cursor with
    | done value after =>
      rw [hrun] at hread
      refine ⟨hread.1, ?_⟩
      show Holds text low (trees (some value)) after
      rw [trees_some]
      exact hread.2
    | stuck after =>
      rw [hrun] at hread
      exact ⟨hread, hheld.widen (Nat.le_refl _) hread.2⟩

theorem attempt [Trees α] {parser : Parser (Option α)} (h : Nests text parser) :
    Nests text (attempt parser) :=
  ⟨fun low => (h.gathers low).attempt⟩

theorem discard [Trees α] (_ : Nests text parser) : Nests text (discard parser) :=
  ⟨fun _ => .bind fun _ => .pure⟩

instance [Trees α] [h : Nests text parser] : Nests text (Functor.discard parser) := h.discard

theorem loop [Trees α] [Trees σ] {step : σ → Parser (σ ⊕ α)} {state : σ}
    (hstep : ∀ low state, Gathers text low (trees state) (step state) trees)
    (hstate : trees state = [] := by rfl) : Nests text (Parser.loop step state) where
  gathers low := by
    have hloop : Gathers text low (trees state) (Parser.loop step state) trees :=
      .lastLoop (hstep low) fun _ => id
    rwa [hstate] at hloop

instance [Trees α] {condition : Prop} [Decidable condition] {first second : Parser α}
    [Nests text first] [Nests text second] :
    Nests text (if condition then first else second) :=
  ⟨fun low => .ite (gathers low) (gathers low)⟩

instance [Trees α] [Treeless α] (value : α) : Nests text (Pure.pure value : Parser α) :=
  ⟨fun _ => .pure⟩
instance [Trees α] : Nests text (Pure.pure [] : Parser (List α)) := ⟨fun _ => .pure⟩
instance [Trees α] : Nests text (Pure.pure none : Parser (Option α)) := ⟨fun _ => .pure⟩

theorem forIn {γ : Type} {values : List γ} {body : γ → Unit → Parser (ForInStep Unit)}
    (h : ∀ value, Nests text (body value ())) : Nests text (forIn values () body) := by
  induction values with
  | nil => exact inferInstanceAs (Nests text (Pure.pure ()))
  | cons value rest ih =>
    rw [List.forIn_cons]
    refine ⟨fun _ => .bindOf (h value) fun step => ?_⟩
    cases step with
    | done _ => exact .pure
    | yield _ => exact .last ih

instance {γ : Type} (values : List γ) (each : γ → Parser Unit) [∀ value, Nests text (each value)] :
    Nests text (ForIn.forIn values PUnit.unit fun value _ => do
      each value
      Pure.pure (ForInStep.yield PUnit.unit)) :=
  .forIn fun _ => ⟨fun _ => .bind fun _ => .pure⟩

instance : Nests text peek := ⟨fun _ => .bind fun _ => .pure⟩
instance (symbol : String) : Nests text (isSymbol symbol) := ⟨fun _ => .bind fun _ => .pure⟩
instance (word : String) : Nests text (isWord word) := ⟨fun _ => .bind fun _ => .pure⟩

instance (symbols : List String) : Nests text (isSymbolIn symbols) where
  gathers _ := .bind fun value => by split <;> exact .pure

instance (words : List String) : Nests text (isWordIn words) where
  gathers _ := .bind fun value => by split <;> exact .pure

instance (symbol : String) : Nests text (peekSymbol symbol) := ⟨fun _ => .bind fun _ => .pure⟩
instance (word : String) : Nests text (peekWord word) := ⟨fun _ => .bind fun _ => .pure⟩
instance (symbol : String) : Nests text (eatSymbol symbol) :=
  ⟨fun _ => .bind fun _ => .ite (.bind fun _ => .pure) .pure⟩
instance (word : String) : Nests text (eatWord word) :=
  ⟨fun _ => .bind fun _ => .ite (.bind fun _ => .pure) .pure⟩
instance (condition : Bool) (symbol : String) : Nests text (eatSymbolWhen condition symbol) :=
  inferInstanceAs (Nests text (if condition then _ else _))
instance (condition : Bool) (word : String) : Nests text (eatWordWhen condition word) :=
  inferInstanceAs (Nests text (if condition then _ else _))
instance (symbol : String) : Nests text (expectSymbol symbol) :=
  ⟨fun _ => .bind fun _ => .ite .pure .fail⟩
instance (word : String) : Nests text (expectWord word) :=
  ⟨fun _ => .bind fun _ => .ite .pure .fail⟩
instance : Nests text isAnyWord := ⟨fun _ => .bind fun _ => by split <;> exact .pure⟩
instance : Nests text isReference := ⟨fun _ => .bind fun _ => .pure⟩
instance : Nests text endsStatement :=
  ⟨fun _ => .bind fun _ => by split <;> first | exact .pure | exact gathers _⟩
instance : Nests text eatStatementEnd :=
  ⟨fun _ => .bind fun _ => .ite .pure (gathers _)⟩
instance : Nests text expectStatementEnd := ⟨fun _ => .bind fun _ => .ite .pure .fail⟩
instance (mistake : Bool) : Nests text (noteIf mistake) := ⟨fun _ => .ite (gathers _) .pure⟩

end Nests

end Script
end Phrasebook

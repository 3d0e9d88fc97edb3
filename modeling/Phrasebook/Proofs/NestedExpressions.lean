import Phrasebook.Proofs.NestedFunctions
import Phrasebook.Proofs.SettledGrammar
import Phrasebook.Script.Grammar.Expression

/-!
# Nested calls in expressions

A call spans from where its callee starts to its closing parenthesis. Parenthesised items stand in
the tree once more where they are the parameters of an arrow function that counts as an item.

Results:
* `Node.hasCall_of_toPattern`: an expression that turns out to be a pattern has no new calls.
* `Grammar.gathers_call`: a call around what was read ends with its closing parenthesis.
* `Grammar.leads_leftHandSide_of_written`: where the text of a call is written, that call is made.
* an instance of `Nests` for each production for expressions.
-/

namespace Phrasebook.Script

namespace Node

@[simp] theorem not_hasCall_invalid (call : Occurrence) : ¬Node.invalid.HasCall call :=
  List.not_mem_nil

variable {call : Occurrence}

mutual

/-- What is read as a pattern has no other calls. -/
theorem hasCall_of_toPattern (role : PatternRole) (node pattern : Node)
    (h : node.toPattern role = some pattern) (hcall : pattern.HasCall call) :
    node.HasCall call := by
  unfold toPattern at h
  split at h
  · next properties =>
    obtain ⟨found, hfound, heq⟩ := Option.bind_eq_some_iff.1 h
    obtain rfl := Option.some.inj heq
    exact hasCall_of_propertiesToPattern role properties found hfound hcall
  · next elements =>
    obtain ⟨found, hfound, heq⟩ := Option.bind_eq_some_iff.1 h
    obtain rfl := Option.some.inj heq
    exact hasCall_of_elementsToPattern role elements found hfound hcall
  · rwa [Option.some.inj h]
  split at h
  · rwa [Option.some.inj h]
  split at h
  · rwa [Option.some.inj h]
  · next left value _ _ _ =>
    split at h
    · rwa [Option.some.inj h]
    · obtain ⟨found, hfound, heq⟩ := Option.bind_eq_some_iff.1 h
      obtain rfl := Option.some.inj heq
      have := hasCall_of_toPattern role left found hfound
      simp at hcall ⊢
      tauto
  · obtain rfl := Option.some.inj h
    simp at hcall
termination_by sizeOf node

theorem hasCall_of_propertiesToPattern (role : PatternRole) (properties found : List Node)
    (h : propertiesToPattern role properties = some found) (hcall : Script.HasCall call found) :
    Script.HasCall call properties := by
  unfold propertiesToPattern at h
  split at h
  · rwa [Option.some.inj h]
  · next key value rest =>
    obtain ⟨pattern, hpattern, hnext⟩ := Option.bind_eq_some_iff.1 h
    obtain ⟨more, hmore, heq⟩ := Option.bind_eq_some_iff.1 hnext
    obtain rfl := Option.some.inj heq
    have := hasCall_of_toPattern role.element value pattern hpattern
    have := hasCall_of_propertiesToPattern role rest more hmore
    simp at hcall ⊢
    tauto
  · next inner rest =>
    split at h <;>
      simp only [Option.bind_eq_bind, Option.bind_eq_some_iff, Option.pure_def,
        Option.some.injEq] at h
    · obtain ⟨_, rfl, more, hmore, rfl⟩ := h
      have := hasCall_of_propertiesToPattern role rest more hmore
      simp at hcall ⊢
      tauto
    · obtain ⟨_, rfl, more, hmore, rfl⟩ := h
      have := hasCall_of_propertiesToPattern role rest more hmore
      simp at hcall ⊢
      tauto
    · obtain ⟨pattern, hpattern, more, hmore, rfl⟩ := h
      have := hasCall_of_toPattern role.element _ pattern hpattern
      have := hasCall_of_propertiesToPattern role rest more hmore
      simp at hcall ⊢
      tauto
  · split at h
    · cases h
    · next node rest _ _ _ =>
      obtain ⟨more, hmore, heq⟩ := Option.bind_eq_some_iff.1 h
      obtain rfl := Option.some.inj heq
      have := hasCall_of_propertiesToPattern role rest more hmore
      simp at hcall ⊢
      tauto
termination_by sizeOf properties

theorem hasCall_of_elementsToPattern (role : PatternRole) (elements found : List Node)
    (h : elementsToPattern role elements = some found) (hcall : Script.HasCall call found) :
    Script.HasCall call elements := by
  unfold elementsToPattern at h
  split at h
  · rwa [Option.some.inj h]
  · next inner rest =>
    split at h
    · obtain ⟨pattern, hpattern, heq⟩ := Option.bind_eq_some_iff.1 h
      obtain rfl := Option.some.inj heq
      have := hasCall_of_toPattern role.element inner pattern hpattern
      simp at hcall ⊢
      tauto
    · have := hasCall_of_elementsToPattern role rest found h hcall
      simp
      tauto
  · next parts rest =>
    obtain ⟨more, hmore, heq⟩ := Option.bind_eq_some_iff.1 h
    obtain rfl := Option.some.inj heq
    have := hasCall_of_elementsToPattern role rest more hmore
    simp at hcall ⊢
    tauto
  · next node rest _ _ =>
    obtain ⟨pattern, hpattern, hnext⟩ := Option.bind_eq_some_iff.1 h
    obtain ⟨more, hmore, heq⟩ := Option.bind_eq_some_iff.1 hnext
    obtain rfl := Option.some.inj heq
    have := hasCall_of_toPattern role.element node pattern hpattern
    have := hasCall_of_elementsToPattern role rest more hmore
    simp at hcall ⊢
    tauto
termination_by sizeOf elements

end

end Node

namespace Grammar

open Phrasebook.Script.Parser Phrasebook.Script.Nests

variable {text : List Char} {g : Grammar} [g.Nesting text] {low : Nat} {held : List Node}

instance : Nests text (g .expression) := ⟨Nesting.gathers .expression⟩
instance : Nests text (g .ungrouped) := ⟨Nesting.gathers .ungrouped⟩
instance : Nests text (g .unary) := ⟨Nesting.gathers .unary⟩
instance (nested : Bool) : Nests text (g (.element nested)) := ⟨Nesting.gathers (.element nested)⟩

theorem gathers_operands (left : Node) (precedence : Nat) :
    Gathers text low [left] (g (.binaryRest left precedence)) trees :=
  Nesting.gathers (.binaryRest left precedence) low

/-! ## Literals and arguments -/

omit [g.Nesting text] in
/-- A value that is required is there. -/
theorem leads_require {α β : Type} {pre : Cursor → Prop} {value? : Option α} {next : α → Parser β}
    {post : β → Cursor → Prop}
    (hnext : ∀ value, value? = some value → Leads text pre (next value) post) :
    Leads text pre (require value? >>= next) post := by
  cases value? with
  | none => exact .fail
  | some value => exact hnext value rfl

omit [g.Nesting text] in
theorem gathers_require {α β : Type} {value? : Option α} {next : α → Parser β}
    {kept : β → List Node}
    (hnext : ∀ value, value? = some value → Gathers text low held (next value) kept) :
    Gathers text low held (require value? >>= next) kept := leads_require hnext

instance : Nests text (argument g) where
  gathers _ := .bind fun _ => .ite (.bind fun value => .pure) .nests

/-- What is held is held, and the current token is a closing parenthesis. -/
def AtClose (text : List Char) (low : Nat) (held : List Node) (cursor : Cursor) : Prop :=
  Holds text low held cursor ∧ cursor.current.token = .symbol ")"

omit [g.Nesting text] in
/-- What ends with a closing parenthesis is held after it. -/
theorem holds_next_of_close {nodes : List Node} (cursor : Cursor)
    (hstands : cursor.current.Stands text) (htoken : cursor.current.token = .symbol ")")
    (h : Nested text low cursor.current.stop nodes) (context : Context) :
    cursor.Reaches text (cursor.next context) ∧ Holds text low nodes (cursor.next context) := by
  have hnext : cursor.next context
      = ⟨Lexeme.next context.splitsAngles cursor.current.stop false cursor.current.rest,
          cursor.arrowStart⟩ := by
    unfold Cursor.next Lexeme.following
    rw [if_neg (by simp [htoken])]
  obtain ⟨hafter, hle⟩ := Lexeme.stands_next context.splitsAngles false hstands.stop
  rw [hnext]
  exact ⟨⟨hafter, Nat.le_trans hstands.le hle⟩, h.widen (Nat.le_refl _) hle⟩

omit [g.Nesting text] in
/-- A call ends with a closing parenthesis. -/
theorem gathers_call {α : Type} {items : Parser α} {kept : α → List Node} {callee : Node}
    (arguments : α → List Node) (types : List Node) (hlow : ∃ rest, Passes 0 text low rest)
    (hitems : Leads text (Holds text low held) items fun found => AtClose text low (kept found))
    (hmade : ∀ stop arguments, Occurrence.Made text ⟨⟨low, stop⟩, callee.calleePath?, arguments⟩)
    (hparts : ∀ found call, callee.HasCall call ∨ HasCall call (arguments found)
      ∨ HasCall call types → HasCall call (kept found)) :
    Gathers text low held
      (items >>= fun found => advanceOver >>= fun stop => pure (found, stop))
      fun pair => [.call low pair.2 callee (arguments pair.1) types] := by
  refine Leads.bind hitems fun found context cursor hstands ⟨hheld, htoken⟩ => ?_
  have hends := hstands.symbol ")" htoken (by decide)
  have hcall : Nested text low cursor.current.stop
      [.call low cursor.current.stop callee (arguments found) types] :=
    Nested.call hheld hlow hends rfl (hmade _ _) fun call hcall => by
      have := hparts found call
      simp at hcall
      tauto
  exact holds_next_of_close cursor hstands htoken hcall context

omit [g.Nesting text] in
/-- Reading items up to a closing parenthesis. -/
theorem leads_untilClose {σ : Type} [Trees σ] {state : σ} {item : σ → Parser (σ ⊕ σ)}
    (hitem : ∀ found, Leads text (Holds text low (held ++ trees found)) (item found)
      (Sum.elim (fun found => Holds text low (held ++ trees found))
        fun found => AtClose text low (held ++ trees found)))
    (hstate : trees state = [] := by rfl) :
    Leads text (Holds text low held)
      (loop (fun found => do if ← isSymbol ")" then pure (.inr found) else item found) state)
      fun found => AtClose text low (held ++ trees found) := by
  refine Leads.imp (Leads.loop fun found => Leads.ifSymbol (Leads.pure fun _ _ => id) (hitem found))
    (fun cursor _ hheld => ?_) fun _ _ _ => id
  rwa [hstate, List.append_nil]

omit [g.Nesting text] in
/-- One more item is found. -/
theorem leads_found {σ : Type} [Trees σ] {before : List Node} {found : σ}
    (h : ∀ call, HasCall call (held ++ trees found) → HasCall call before := by
      intro call; simp <;> tauto) :
    Leads text (Holds text low before) (pure (.inl found))
      (Sum.elim (fun found => Holds text low (held ++ trees found))
        fun found : σ => AtClose text low (held ++ trees found)) :=
  Leads.pure fun _ _ hheld => hheld.of_hasCall h

theorem gathers_arguments (callee : Node) (types : List Node) {commaMayEnd : Bool}
    (hlow : ∃ rest, Passes 0 text low rest)
    (hmade : ∀ stop arguments,
      Occurrence.Made text ⟨⟨low, stop⟩, callee.calleePath?, arguments⟩) :
    Gathers text low (callee :: types) (arguments g commaMayEnd)
      fun pair => [.call low pair.2 callee pair.1 types] := by
  refine .bind fun _ => gathers_call (fun found => found) types hlow (.within (.within
    (leads_untilClose fun found => .gather fun argument => .gather fun _ => .ite leads_found <|
      .gather fun _ => .gather fun _ => .ite (.gather fun _ => leads_found) leads_found) _) _) hmade
    fun (found : List Node) call => ?_
  simp
  tauto

/-- The arguments of a callee without a path. -/
theorem gathers_argumentsAfter (held : List Node) {commaMayEnd : Bool}
    (hlow : ∃ rest, Passes 0 text low rest) :
    Gathers text low held (arguments g commaMayEnd)
      fun pair => [.call low pair.2 (.group held) pair.1 []] :=
  (gathers_arguments (.group held) [] hlow fun _ _ => Occurrence.made_of_none rfl).weaken

instance (commaMayEnd : Bool) : Nests text (arguments g commaMayEnd) where
  gathers _ := .here fun _ hstart => (gathers_argumentsAfter [] hstart).weaken

instance : Nests text (arrayLiteral g) where
  gathers _ := .bind fun _ => .bindOf
    (.within (.within (.loop fun _ found => .bind fun _ => .ite .pure <| .bind fun _ =>
      .ite .pure <| .bind fun argument => .bind fun _ => .iteElse .pure) _) _)
    fun elements => .pure

instance {α : Type} [Trees α] (parser : Parser α) [h : Nests text parser] :
    Nests text (withSuper parser) := h.within _

instance (word : String) : Nests text (announcedMethod g word) where
  gathers _ := by
    refine .ite (.bind fun key => .bind fun found => .pure) <|
      .ite (.bind fun key => .bind fun found => .bind fun _ => .pure fun call => ?_) <|
        .ite (.bind fun _ => .bind fun key => .within gathers_method.weaken _) .fail
    have := hasCall_of_take call 2 found.parameters
    simp
    tauto

instance (key : Node) : Nests text (lacksValue key) where
  gathers _ := .bind fun _ => .ite .pure <| .bind fun token => by split <;> exact .pure

instance : Nests text (objectProperty g) where
  gathers _ := .bind fun _ => .ite (.bind fun value => .pure) <| .bind fun _ =>
    .ite (.bind fun key => .within gathers_method.weaken _) <| .bind fun _ => .bind fun key =>
    .bind fun _ => .ite (.bind fun _ => .pure) <| .bind fun _ => .ite (.bind fun value => .pure) <|
    .bind fun _ => .ite (.within gathers_method.weaken _) <| by
      split
      · exact .bind fun _ => .bind fun _ => .bind fun _ => .ite (.bind fun value => .pure) <|
          .bind fun _ => .ite .pure <| .bind fun _ => .nests
      · exact .fail

instance : Nests text (objectLiteral g) where
  gathers _ := .bind fun _ => .bind fun properties => .pure

instance : Nests text (templateLiteral g) where
  gathers _ := .bind fun (substitutions, value) => .pure

theorem gathers_taggedTemplate {tag : Node} {types : List Node} :
    Gathers text low (tag :: types) (taggedTemplate g tag types) trees :=
  .bind fun (substitutions, value) => .bind fun _ => .pure

omit [g.Nesting text] in
/-- The body of a regular expression starts after its first slash. -/
theorem passes_regexBody {lexeme : Lexeme} (h : lexeme.Stands text) {start : Nat × List Char}
    (hstart : (if lexeme.token == .symbol "/=" then (lexeme.stop - 1, '=' :: lexeme.rest)
      else (lexeme.stop, lexeme.rest)) = start) :
    lexeme.start ≤ start.1 ∧ Passes 0 text start.1 start.2 := by
  split at hstart <;> subst hstart
  · next htoken =>
    exact EndsWith.second (c := '/') (d := '=') (h.symbol "/=" (beq_iff_eq.1 htoken) (by decide))
  · exact ⟨h.le, h.stop⟩

omit [g.Nesting text] in
instance : Nests text regularExpression where
  gathers low := Leads.cursor fun cursor => by
    dsimp only
    generalize hbody : (if cursor.current.token == .symbol "/=" then
      (cursor.current.stop - 1, '=' :: cursor.current.rest)
      else (cursor.current.stop, cursor.current.rest)) = body
    split
    · next length after hafter =>
      have hflags : (if after.head?.any Text.isIdentifierStart
          then after.takeWhile Text.isIdentifierPart else []) <+: after := by
        split
        · exact List.takeWhile_prefix _
        · exact List.nil_prefix
      generalize (if after.head?.any Text.isIdentifierStart
        then after.takeWhile Text.isIdentifierPart else []) = flags at hflags ⊢
      have hpasses := ((passes_dropRegexBody .plain body.2 _ hafter).shift body.1).trans
        (.drop hflags _)
      refine Leads.resume [] (fun here hstands ⟨hheld, hhere⟩ => ?_) <|
        Gathers.bind fun _ => Gathers.bind fun _ => Gathers.pure
      subst hhere
      obtain ⟨hle, hstart⟩ := passes_regexBody hstands hbody
      exact ⟨hheld, hstart.trans hpasses, Nat.le_trans hle hpasses.le⟩
    · have hdead : Leads text (fun here => Holds text low [] here ∧ here = cursor)
          (resumeAt { cursor.current with token := .deadEnd }) fun _ _ => True :=
        Leads.resumeAt fun here hstands ⟨hheld, hhere⟩ => by
          subst hhere
          exact ⟨hstands.withToken (.inr (.inr rfl)), Nat.le_refl _, trivial⟩
      exact Leads.bind hdead fun _ => Leads.fail

/-! ## Assignments and conditionals -/

theorem gathers_assignmentRest {left : Node} :
    Gathers text low [left] (assignmentRest g left) trees := by
  refine .bind fun operator => ?_
  split
  · exact .pure
  · refine gathers_require fun pattern hpattern => ?_
    have hrest : Gathers text low [pattern]
        (do advance; pure (.form .assignment [pattern, ← g .assignment]) : Parser Node) trees :=
      .bind fun _ => .bind fun value => .pure
    have hmades : ∀ call, HasCall call [pattern] → HasCall call [left] := fun call hcall => by
      simpa using Node.hasCall_of_toPattern .target left pattern hpattern (by simpa using hcall)
    exact .iteElse <| hrest.weaken fun call hcall => by simpa using hmades call hcall
  · exact .iteElse <| .bind fun _ => .bind fun value => .pure

theorem gathers_conditionalRest {test : Node} :
    Gathers text low [test] (conditionalRest g test) trees :=
  .bind fun _ => .bindOf (.within inferInstance _) fun positive => .bind fun _ =>
    .bindOf (.within inferInstance _) fun negative => .pure

instance : Nests text (binary g) where
  gathers _ := .bind fun left? => by
    split
    · exact .ite .pure (gathers_operands _ _).weaken
    · refine .bind fun _ => .iteThen <| .bind fun operator => ?_
      split
      · exact (gathers_operands _ _).weaken
      · exact .fail

instance : Nests text (conditional g) where
  gathers _ := .bind fun test => .bind fun _ => .ite gathers_conditionalRest.weaken .pure

/-! ## Parenthesised lists -/

omit [g.Nesting text] in
/-- Noting where an arrow function may start leaves everything else as it was. -/
theorem gathers_arrowStart {α : Type} {start? : Cursor → Option Nat} {next : Unit → Parser α}
    {kept : α → List Node} (hnext : Gathers text low held (next ()) kept) :
    Gathers text low held
      (cursor >>= fun here => moveTo { here with arrowStart := start? here } >>= next) kept :=
  fun context here hstands hheld =>
    hnext context { here with arrowStart := start? here } hstands hheld

omit [g.Nesting text] in
instance : Nests text markArrowStart where
  gathers _ _ _ hstands hheld := ⟨⟨hstands, Nat.le_refl _⟩, hheld⟩

instance : Nests text (parenExpression g) where
  gathers _ := .bind fun _ => .bind fun _ => .ite
    (.bind fun left => gathers_assignmentRest.weaken) <| .bind fun _ => .bind fun _ => .ite
      (.bind fun _ => .bind fun inner => .pure) .nests

theorem gathers_parenOptional {node : Node} :
    Gathers text low [node] (parenOptional g node) trees := by
  refine .bind fun _ => .bind fun _ => .ite (.bind fun token => ?_) .pure
  split
  · refine .ite (.bind fun _ => .bind fun _ => ?_) <| .ite .pure <|
      .comp gathers_conditionalRest fun found => .pure
    split
    · exact .pure
    · exact .pure
    · exact .fail
  · exact .ite .pure <| .comp gathers_conditionalRest fun found => .pure

omit [g.Nesting text] in
theorem hasCall_of_itemPattern? {call : Occurrence} {node pattern : Node}
    (h : itemPattern? node = some pattern) (hcall : pattern.HasCall call) : node.HasCall call := by
  unfold itemPattern? at h
  split at h
  · next inner =>
    obtain ⟨found, hfound, rfl⟩ := Option.map_eq_some_iff.1 h
    simpa using Node.hasCall_of_toPattern .binding inner found hfound (by simpa using hcall)
  · exact Node.hasCall_of_toPattern .binding node pattern h hcall

instance : Trees ParenItem := ⟨fun item => [item.node]⟩

@[simp] theorem trees_parenItem (item : ParenItem) : trees item = [item.node] := rfl

@[simp] theorem map_node (items : List ParenItem) : items.map (·.node) = trees items := by
  induction items with
  | nil => rfl
  | cons item rest ih => rw [List.map_cons, ih]; rfl

instance : Nests text (parenItem g) where
  gathers low := by
    refine .bind fun _ => .bind fun modified => .bind fun node =>
      .comp gathers_parenOptional fun (node, optional) => .bind fun _ => .bind fun _ =>
        .ite (gathers_require fun pattern hpattern => ?_) (.bind fun _ => .pure)
    have hpart : ∀ call, pattern.HasCall call → node.HasCall call := fun call =>
      hasCall_of_itemPattern? hpattern
    refine Gathers.weaken (?_ : Gathers text low [pattern] _ trees) (by
      intro call
      have := hpart call
      simp
      tauto)
    exact .iteBoth fun types => .bind fun _ => .ite
      (.bind fun value => .bindPure <| .bind fun _ => .pure) (.bindPure <| .bind fun _ => .pure)

omit [g.Nesting text] in
theorem hasCall_of_itemsToParameters {call : Occurrence} {items : List ParenItem} :
    ∀ {parameters}, itemsToParameters items = some parameters → HasCall call parameters →
      HasCall call (trees items) := by
  induction items with
  | nil =>
    intro parameters h hcall
    rw [← Option.some.inj h] at hcall
    exact hcall
  | cons item rest ih =>
    intro parameters h hcall
    unfold itemsToParameters at h
    split at h
    · have := ih h hcall
      simp
      tauto
    · have hfirst : ∀ first more, itemsToParameters rest = some more →
          (first.HasCall call → item.node.HasCall call) → some (first :: more) = some parameters →
          HasCall call (trees (item :: rest)) := by
        rintro first more hmore hfirst heq
        obtain rfl := Option.some.inj heq
        have := ih hmore
        simp at hcall ⊢
        tauto
      split at h <;>
        simp only [Option.bind_eq_bind, Option.bind_eq_some_iff, Option.pure_def,
          Option.bind_some] at h
      · obtain ⟨more, hmore, heq⟩ := h
        exact hfirst _ more hmore id heq
      · obtain ⟨first, hpattern, more, hmore, heq⟩ := h
        exact hfirst first more hmore (hasCall_of_itemPattern? hpattern) heq

theorem gathers_parenItems (hlow : ∃ rest, Passes 0 text low rest) :
    Gathers text low [] (parenItems g)
      fun pair => [.call low pair.2 (.name "async") (trees pair.1) []] := by
  -- A call of a name alone is left out.
  refine .bind fun _ => gathers_call trees [] hlow (.within (.within (leads_untilClose fun found =>
    .gather fun item => .gather fun _ => ?_) _) _) (fun _ _ _ _ _ _ head name more hpath => by
      cases hpath) fun (found : List ParenItem) call => by simp
  refine .ite (leads_require fun parameters hparameters => .gather fun (body, isBlock) =>
    .bindPure ?_) (.bindPure (.gather fun _ => .ite leads_found (.gather fun _ => leads_found)))
  have hmades : ∀ call, HasCall call parameters → HasCall call (trees (found ++ [item])) :=
    fun call => hasCall_of_itemsToParameters hparameters
  refine .gather fun _ => .ite (leads_found fun call => ?_) <| .gather fun _ =>
    leads_found fun call => ?_
  all_goals
    have := hmades call
    simp at this ⊢
    tauto

theorem gathers_arrowRest {async : Bool} {items : List ParenItem} {result : List Node}
    (hheld : ∀ call, HasCall call (trees items ++ result) → HasCall call held := by
      intro call; simp <;> tauto) :
    Gathers text low held (arrowRest g async items result) fun pair => held ++ trees pair :=
  .bind fun _ => gathers_require fun parameters hparameters => by
    refine .bind fun (body, isBlock) => .pure fun call => ?_
    have hitems : HasCall call parameters → HasCall call (trees items) :=
      hasCall_of_itemsToParameters hparameters
    have hall := hheld call
    simp at hall ⊢
    tauto

theorem gathers_arrowInConditional? {async : Bool} {items : List ParenItem}
    (hheld : ∀ call, HasCall call (trees items) → HasCall call held := by
      intro call; simp <;> tauto) :
    Gathers text low held (arrowInConditional? g async items)
      fun arrow? => held ++ trees arrow? :=
  .bind fun _ => .bind fun _ => .ite
    (.attempt <| .bind fun result => .bindKept (gathers_arrowRest fun call => by
        have := hheld call
        simp
        tauto) fun (arrow, isBlock) => .bind fun _ => .ite .fail .pure)
    .pure

instance : Nests text (arrowResult? g) where
  gathers _ := .bind fun _ => .bind fun _ => .ite
    (.last <| .attempt ⟨fun _ => .bind fun result => .bind fun _ => .ite .pure .fail⟩) .pure

omit [g.Nesting text] in
theorem hasCall_of_parenthesised {call : Occurrence} {items : List ParenItem} {node : Node}
    (h : parenthesised items = some node) (hcall : node.HasCall call) :
    HasCall call (trees items) := by
  unfold parenthesised at h
  split at h
  · cases h
  split at h
  · cases h
  · obtain rfl := Option.some.inj h
    simpa using hcall
  · obtain rfl := Option.some.inj h
    simpa using hcall

omit [g.Nesting text] in
instance (items : List ParenItem) : Nests text (noteShorthandDefaults items) := by
  induction items with
  | nil => exact inferInstanceAs (Nests text (pure ()))
  | cons item rest ih =>
    refine ⟨fun _ => ?_⟩
    unfold noteShorthandDefaults
    split
    · dsimp only
      exact .bind fun _ => .nests
    · exact .nests

theorem gathers_parenOrArrow (canBeArrow : Bool) {async? : Option Nat}
    (hlow : ∃ rest, Passes 0 text low rest) (hasync : ∀ start, async? = some start → start = low) :
    Gathers text low [] (parenOrArrow g canBeArrow async?) trees := by
  refine .comp (gathers_parenItems hlow) fun (items, stop) => .bindKept gathers_arrowInConditional?
    fun arrow? => ?_
  split
  · exact .pure
  refine .bind fun result => .bind fun _ => .ite (.bind fun _ => .iteThen <|
    .bindKept gathers_arrowRest fun (arrow, isBlock) => .bind fun _ => .ite
      (.comp (gathers_operands _ _) fun found => .bind fun _ => .iteElse .pure) .pure)
    (.bind fun _ => ?_)
  split
  · next start =>
    obtain rfl := hasync start rfl
    exact .pure
  · cases hnode : parenthesised items with
    | none => exact .fail
    | some node =>
      have hmades : ∀ call, node.HasCall call → HasCall call (trees items) := fun _ =>
        hasCall_of_parenthesised hnode
      exact .pure fun call => by
        have := hmades call
        simp
        tauto

/-! ## Primary expressions -/

instance : Nests text (arrowTypeParameters? g) where
  gathers _ := .bind fun _ => .ite
    (.lookAhead fun _ => .bindPure <| .ite (.bind fun types => .pure) .pure)
    (.bindPure <| .ite (.bind fun types => .pure) .pure)

instance : Nests text (genericAsyncArrow g) where
  gathers _ := .bind fun types? => gathers_require fun types htypes => by
    subst htypes
    refine .bind fun _ => .bind fun parameters => .bind fun _ => .ite
      (.bind fun result => .bindPure ?_) (.bindPure ?_)
    all_goals exact .bind fun _ => .bind fun (body, isBlock) => .pure

instance (canBeArrow : Bool) : Nests text (nameOrArrow g canBeArrow) where
  gathers _ := .bind fun _ => .bind fun _ => .bind fun _ => .iteElse <| .bind fun _ =>
    .bind fun name => .bind fun _ => .bind fun _ => .bind fun _ => .ite (.bind fun _ => .pure) <|
    .bind fun _ => .bind fun _ => .ite
      (.bind fun _ => .bind fun parameter => .bind fun _ => .ite (.bind fun type => .pure) <|
        .bind fun _ => .bind fun (body, isBlock) => .pure) <|
      .bind fun _ => .bind fun _ => .ite
        (.bind fun _ => .bind fun (body, isBlock) => .pure) .pure

instance (canBeArrow : Bool) : Nests text (startedByAsync g canBeArrow) where
  gathers _ := .bind fun _ => .ite .nests <| .offset fun start hstart => .bind fun next =>
    .bind fun _ => by
      have hgeneric : ∀ generic : Option Node, Gathers text start (trees generic)
          (match generic with
            | some arrow => pure arrow
            | none =>
              if canBeArrow && next.token == .symbol "(" && !next.newline then do
                advance
                parenOrArrow g true (some start)
              else nameOrArrow g canBeArrow) trees := by
        intro generic
        split
        · exact .pure
        · have hmade := gathers_parenOrArrow (g := g) true hstart fun _ h =>
            (Option.some.inj h).symm
          exact .ite (.bind fun _ => hmade.weaken) .nests
      exact .ite
        (.bindOf (.attempt ⟨fun _ => .bind fun _ => .bind fun arrow => .pure⟩)
          fun generic => (hgeneric generic).weaken)
        (.bindPure (hgeneric none).weaken)

instance : Nests text (primary g) where
  gathers _ := .bind fun cursor => by
    dsimp only
    split
    · exact .bind fun _ => .pure
    · exact .bind fun _ => .pure
    · exact .bind fun _ => .pure
    · exact .bind fun _ => .pure
    · exact .nests
    · exact .nests
    · exact .nests
    · exact .nests
    · exact .bind fun _ => .bind fun name => .pure
    · exact .bind fun _ => .pure
    · exact .bind fun _ => .pure
    · exact .bind fun _ => .pure
    · exact .nests
    · exact .nests
    · exact .here fun _ hstart => gathers_parenOrArrow _ hstart nofun
    · exact .nests
    · exact .nests
    · exact .nests
    · exact .fail

/-! ## Member accesses and calls -/

instance : Nests text (freeTypeArguments? g) where
  gathers _ := .bind fun _ => .bind fun _ => .ite
    (.last <| .attempt ⟨fun _ => .bind fun types => .bind fun _ => .ite .pure <| .bind fun _ =>
      .bind fun _ => .bind fun _ => .ite .pure .pure⟩)
    .pure

omit [g.Nesting text] in
@[simp] theorem hasCall_getD (call : Occurrence) (types? : Option (List Node)) :
    HasCall call (types?.getD []) ↔ HasCall call (trees types?) := by
  cases types? <;> simp

instance : Nests text (callTypeArguments? g) where
  gathers _ := .bind fun _ => .bind fun _ => .ite
    (.bindOf (.attempt ⟨fun _ => .bind fun types => .bind fun _ => .ite .pure .pure⟩)
      fun types? => .pure)
    .pure

section

variable {call : Occurrence} {optional : Bool}

omit [g.Nesting text]

@[simp] theorem hasCall_callNode {start stop : Nat} {callee : Node} {arguments types : List Node} :
    (callNode optional start stop callee arguments types).HasCall call
      ↔ ¬(optional || callee.isOptionalChain)
          ∧ call = ⟨⟨start, stop⟩, callee.calleePath?, arguments.map Node.argument⟩
        ∨ callee.HasCall call ∨ HasCall call arguments ∨ HasCall call types := by
  unfold callNode
  split <;> simp [*]

@[simp] theorem hasCall_memberNode {object property : Node} :
    (memberNode optional object property).HasCall call
      ↔ object.HasCall call ∨ property.HasCall call := by
  unfold memberNode
  split <;> simp

end

/-- The node has no callee path, if calls may follow it. -/
def Links.Pathless (links : Links) (node : Node) : Prop :=
  links.calls = true → node.calleePath? = none

variable {links : Links} {object : Node}

theorem gathers_afterTypeArguments? (hlow : ∃ rest, Passes 0 text low rest)
    (hobject : links.Pathless object) :
    Gathers text low [object] (afterTypeArguments? g low links object)
      fun found? => found?.elim [object] trees := by
  refine .attempt (.within (.bind fun types => .bind fun _ => ?_) _)
  split
  · next hcalls =>
    have hpath := hobject (Bool.and_eq_true_iff.1 hcalls).1
    refine .comp (gathers_argumentsAfter (object :: types) hlow) fun (found, stop) =>
      .pure fun call => ?_
    simp [hpath]
    tauto
  · exact .bind fun _ => .ite (.comp gathers_taggedTemplate fun found => .pure) <|
      .bind fun _ => .bind fun _ => .ite .pure .pure

omit [g.Nesting text] in
instance : Nests text eatOptionalMark where
  gathers _ := .bind fun _ => .ite .pure <| .bind fun _ => .bind fun _ => .ite
    (.bind fun _ => .bind fun _ => .pure) .pure

omit [g.Nesting text] in
instance (optional : Bool) : Nests text (checkSuper optional) where
  gathers _ := .bind fun _ => .ite .fail .pure

theorem gathers_subscript (hlow : ∃ rest, Passes 0 text low rest)
    (hobject : links.Pathless object) :
    Gathers text low [object] (subscript g low links object) trees := by
  refine .bind fun optional => .bind fun _ => .iteThen <| .bind fun _ => .ite
    (.bind fun property => .bind fun _ => .iteThen .pure) <| .iteBoth fun types => .bind fun _ => ?_
  split
  · next hcalls =>
    -- What is no link of an optional chain is a call where calls may follow.
    have hpath : optional = false → object.calleePath? = none := fun hoptional => by
      rw [hoptional, Bool.false_or] at hcalls
      exact hobject (Bool.and_eq_true_iff.1 hcalls).1
    refine .bind fun _ => .comp (gathers_argumentsAfter (object :: types) hlow) fun (found, stop) =>
      .iteThen <| .iteThen <| .pure fun call => ?_
    cases optional with
    | true =>
      simp
      tauto
    | false =>
      simp [hpath rfl]
      tauto
  · refine .bind fun _ => .ite ?_ <| .ite .fail <| .bind fun _ => .ite ?_ .pure
    · exact .bind fun property => .ite (.bind fun _ => .iteThen .pure) .pure
    · exact .comp gathers_taggedTemplate fun found => .pure

section

omit [g.Nesting text]

theorem yields_taggedTemplate (links : Links) {tag : Node} {types : List Node} :
    Yields (taggedTemplate g tag types) links.Pathless :=
  .skip fun _ => .skip fun _ => .pure fun _ => rfl

@[simp] theorem calleePath?_callNode (optional : Bool) (start stop : Nat) (callee : Node)
    (arguments types : List Node) :
    (callNode optional start stop callee arguments types).calleePath? = none := by
  unfold callNode
  split <;> rfl

/-- A member of what has no path has none. -/
theorem pathless_memberNode (hobject : links.Pathless object) (optional : Bool)
    (property : Node) : links.Pathless (memberNode optional object property) := by
  intro hcalls
  unfold memberNode
  split
  · rfl
  · unfold Node.calleePath?
    rw [hobject hcalls]
    grind

theorem yields_afterTypeArguments? {start : Nat} :
    Yields (afterTypeArguments? g start links object) fun found? =>
      ∀ found, found? = some found → links.Pathless found.1 := by
  refine .attempt (.within (.skip fun types => .skip fun _ => .ite ?_ <| .skip fun _ =>
    .ite (.bind (yields_taggedTemplate links) fun node hnode => .pure ?_) <| .skip fun _ =>
      .skip fun _ => .ite (.pure ?_) (.pure nofun)) _)
  · refine .skip fun (found, stop) => .pure ?_
    rintro _ ⟨rfl⟩
    exact fun _ => calleePath?_callNode ..
  · rintro _ ⟨rfl⟩
    exact hnode
  · rintro _ ⟨rfl⟩ _
    rfl

/-- What follows an expression without a path leaves it without one. -/
theorem yields_subscript {start : Nat} (hobject : links.Pathless object) :
    Yields (subscript g start links object) (Sum.elim links.Pathless fun _ => True) := by
  have hmember := pathless_memberNode hobject
  refine .skip fun optional => .skip fun _ => .iteThen <| .skip fun _ => .ite
    (.skip fun property => .skip fun _ => .iteThen <| .inl (hmember _ _)) <|
    .iteBoth fun types => .skip fun _ => .ite ?_ <| .skip fun _ => .ite ?_ <| .ite .fail <|
    .skip fun _ => .ite ?_ (.pure trivial)
  · exact .skip fun _ => .skip fun (found, stop) => .iteThen <| .iteThen <|
      .inl fun _ => calleePath?_callNode ..
  · exact .skip fun property => .ite
      (.skip fun _ => .iteThen <| .inl (hmember _ _)) (.inl (hmember _ _))
  · exact .bind (yields_taggedTemplate links) fun node hnode => .inl hnode

end

/-- Where calls may follow, they follow an expression without a path: the first call of a member is
made before. -/
theorem gathers_subscripts (hlow : ∃ rest, Passes 0 text low rest)
    (hobject : links.Pathless object) :
    Gathers text low [object] (subscripts g low links object) trees := by
  refine .lastLoopOf links.Pathless hobject (fun object hobject => ?_) fun object hobject => ?_
  · refine .bind fun _ => .bind fun _ => .bind fun _ => .ite (.iteElse <| .bind fun _ => .pure) <|
      .bind fun _ => ?_
    refine .comp (.ite (gathers_afterTypeArguments? hlow hobject) .pure) fun found? => ?_
    obtain _ | ⟨node, _ | _⟩ := found?
    · refine .bind fun types? => ?_
      split
      · exact .pure
      · exact (gathers_subscript hlow hobject).weaken
    · exact .pure
    · exact .pure
  · refine .skip fun _ => .skip fun _ => .skip fun _ => .ite
      (.ite (.skip fun _ => .inl hobject) (.skip fun _ => .skip fun _ => .inl hobject)) <|
      .skip fun _ => .bind (.ite yields_afterTypeArguments? (.pure nofun)) fun found? hfound => ?_
    obtain _ | ⟨node, _ | _⟩ := found?
    · refine .skip fun types? => ?_
      split
      · exact .inl fun _ => rfl
      · exact yields_subscript hobject
    · exact .pure trivial
    · exact .inl (hfound _ rfl)

instance : Nests text (heritage g) where
  gathers _ := .offset fun start hstart => .bind fun name =>
    .comp (gathers_subscripts hstart (by nofun)) fun extended => .bind fun _ => .bind fun _ =>
      .iteBoth fun types => .pure

theorem gathers_importExpression (hlow : ∃ rest, Passes 0 text low rest) :
    Gathers text low [] (importExpression g low links) trees :=
  .bind fun _ => .ite
    (.bind fun _ => .ite (gathers_subscripts hlow fun _ => rfl).weaken <| .bind fun _ => .ite
      (.bind fun _ => (gathers_subscripts hlow fun _ => rfl).weaken) .fail)
    (gathers_subscripts hlow fun _ => rfl).weaken

theorem gathers_construction (hlow : ∃ rest, Passes 0 text low rest) :
    Gathers text low [] (construction g low) trees :=
  .bind fun _ => .ite
    (.bind fun _ => .bind fun _ => .bind fun _ => (gathers_subscripts hlow (by nofun)).weaken) <|
    .bind fun callee => .ite .pure <| .iteThen <| .bindOf (.within inferInstance _) fun types =>
      .bind fun _ => .ite (.bind fun (found, stop) =>
        (gathers_subscripts hlow (by nofun)).weaken) .pure

instance : Nests text (member g) :=
  .within ⟨fun _ => .offset fun start hstart => .bind fun _ => .ite
    (gathers_construction hstart).weaken <| .bind fun _ => .ite
      (gathers_subscripts hstart (by nofun)).weaken <| .bind fun _ => .ite
      (gathers_importExpression hstart).weaken <| .bind fun object => .ite .pure <|
      .bind fun types? => (gathers_subscripts hstart (by nofun)).weaken fun call => by
        cases types? <;> simp⟩ _

omit [g.Nesting text] in
instance : Nests text atMarkup where
  gathers _ := .bind fun _ => .bind fun _ => .ite (.bind fun _ => .pure) .pure

/-- Where no text of a call stands, any call may be made. -/
theorem leads_leftHandSide_of_unwritten :
    Leads text (fun cursor => Holds text low [] cursor
        ∧ ∀ marker nodes stop, ¬CallAt text cursor.current.start marker nodes stop)
      (leftHandSide g) fun node => Holds text low [node] := by
  refine Gathers.offsetOf (fun start => ∀ marker nodes stop, ¬CallAt text start marker nodes stop)
    fun start hstart hunwritten => ?_
  refine .bind fun _ => .ite .nests <| .bind fun _ => .ite
    (gathers_subscripts hstart fun _ => rfl).weaken <| .bind fun _ => .ite
    (gathers_importExpression hstart).weaken <| .bind fun callee => .ite .pure <|
    .bind fun types => .ite (.ite .pure .fail) <| .bind fun _ => .ite ?_ .pure
  exact .comp (gathers_arguments callee types hstart
      fun _ _ _ _ _ h => absurd h (hunwritten _ _ _))
    fun (found, stop) => (gathers_subscripts hstart fun _ => calleePath?_callNode ..).weaken

section

omit [g.Nesting text]

/-- The tokens of the text of a call are those of one call only. -/
theorem made_of_callsMember {marker : String} {nodes : List Node} {first closing : Lexeme}
    (hcall : CallsMember marker "s" nodes first closing) (hstands : first.Stands text) :
    Occurrence.Made text
      ⟨⟨first.start, closing.stop⟩, some [marker, "s"], nodes.map Node.argument⟩ := by
  intro marker' nodes' stop' hwritten _ _ _ _
  obtain ⟨closing', hcall', rfl⟩ | hother := hwritten.callsMember hstands
  · obtain ⟨rfl, -, rfl, rfl⟩ := hcall.unique hcall'
    exact ⟨rfl, rfl, rfl⟩
  · -- The marker stands in for nothing.
    obtain ⟨_, _, hnames, -⟩ := hcall.exists_parts
    rw [hnames.object_eq] at hother
    rcases hother with h | h | h <;> cases h

theorem Literals.not_hasCall {literal closing : Lexeme} {nodes : List Node}
    (h : Literals literal nodes closing) (call : Occurrence) : ¬HasCall call nodes := by
  have hquoted : ∀ {literal after : Lexeme} {node : Node}, Quoted literal node after →
      ¬node.HasCall call := fun hliteral => by cases hliteral <;> simp
  induction h with
  | nil _ => simp
  | last hliteral _ => simp [hquoted hliteral]
  | cons hliteral _ _ _ ih => simp [hquoted hliteral, ih]

/-- The tree of a call that is written holds that call alone. -/
theorem nested_memberCall {marker : String} {nodes : List Node} {first closing : Lexeme}
    (hcall : CallsMember marker "s" nodes first closing) (hstands : first.Stands text) :
    Nested text first.start closing.stop [memberCall marker "s" nodes first closing] := by
  obtain ⟨opening, literal, hnames, -, hliteral, hliterals, -⟩ := hcall.exists_parts
  obtain ⟨hopens, hle⟩ := hnames.stands hstands
  obtain ⟨hitem, hle'⟩ := hliteral.stands hopens
  obtain ⟨hcloses, hle''⟩ := hliterals.stands hitem
  have hends := hcloses.symbol ")" hliterals.closing_eq (by decide)
  refine Nested.call (.nil (Nat.le_trans hle (Nat.le_trans hle' hle''))) hstands.start hends rfl
    (made_of_callsMember hcall hstands) fun call hmem => .inl ?_
  simpa [memberCall, hliterals.not_hasCall call, Node.calleePath?] using hmem

end

/-- The arguments of a call that is written are read as they stand, and it is made around them. -/
theorem leads_arguments_of_callsMember [g.Settled] {marker : String} {nodes : List Node}
    {first opening closing literal : Lexeme} (hstands : first.Stands text)
    (hnames : NamesMember marker "s" first opening) (hopening : opening.token = .symbol "(")
    (hliteral : Follows opening literal) (hliterals : Literals literal nodes closing)
    (hfuel : nodes.length < literal.rest.length + 2) :
    Leads text (fun here => here.current = opening) (arguments g true) fun pair =>
      Holds text first.start
        [.call first.start pair.2 (.member (.name marker) (.name "s")) pair.1 []] := by
  rintro context ⟨_, arrowStart⟩ hopens rfl
  have harguments : Nests text (arguments g true) := inferInstance
  have hread := harguments.gathers _ context _ hopens (.nil (Nat.le_refl _))
  obtain ⟨after, hrun⟩ | ⟨moved, hrun⟩ :=
    run_arguments (g := g) hopening hliteral hliterals hfuel context arrowStart
  · rw [hrun] at hread ⊢
    exact hread
  rw [hrun] at hread ⊢
  obtain ⟨hitem, -⟩ := hliteral.stands hopens
  obtain ⟨hcloses, -⟩ := hliterals.stands hitem
  have hcall : Nested text first.start closing.stop [memberCall marker "s" nodes first closing] :=
    nested_memberCall ⟨_, literal, hnames, hopening, hliteral, hliterals, hfuel⟩ hstands
  have hheld := holds_next_of_close ⟨closing, moved⟩ hcloses hliterals.closing_eq hcall context
  exact ⟨hread.1, hheld.2⟩

/-- **Where the text of a call stands, that call is made**, or none. -/
theorem leads_leftHandSide_of_written [g.Settled] {marker : String} {nodes : List Node}
    {stop : Nat} {here : Cursor} (hcall : CallAt text here.current.start marker nodes stop) :
    Leads text (fun cursor => Holds text low [] cursor ∧ cursor = here) (leftHandSide g)
      fun node => Holds text low [node] := by
  rintro context ⟨first, arrowStart⟩ hstands ⟨hheld, rfl⟩
  obtain ⟨closing, hmember, -⟩ | hother := hcall.callsMember hstands
  swap
  · obtain ⟨moved, hrun⟩ := refuses_leftHandSide_of_standsIn (g := g) hother context arrowStart
    rw [hrun]
    exact .refl hstands
  obtain ⟨opening, literal, hnames, hopening, hliteral, hliterals, hfuel⟩ := hmember.exists_parts
  obtain ⟨moved, hrun⟩ | ⟨moved, hrun⟩ :=
    run_leftHandSide_of_callsMember (g := g) hnames hopening context arrowStart
  · rw [hrun]
    exact .refl hstands
  -- The call is made around its arguments, and links may follow it.
  have hcalls : Leads text (fun here => here.current = opening)
      (arguments g true >>= fun pair => subscripts g first.start {}
        (.call first.start pair.2 (.member (.name marker) (.name "s")) pair.1 []))
      fun node => Holds text low [node] :=
    (leads_arguments_of_callsMember hstands hnames hopening hliteral hliterals hfuel).bind
      fun pair => (gathers_subscripts hstands.start fun _ => rfl).widen hheld.le
  have hreaches : Cursor.Reaches text ⟨first, arrowStart⟩ ⟨opening, moved⟩ := hnames.stands hstands
  have hread := hcalls context ⟨opening, moved⟩ hreaches.1 rfl
  rw [← hrun] at hread
  dsimp only at hread ⊢
  cases hresult : leftHandSide g context ⟨first, arrowStart⟩ with
  | done node after =>
    rw [hresult] at hread
    exact ⟨hreaches.trans hread.1, hread.2⟩
  | stuck after =>
    rw [hresult] at hread
    exact hreaches.trans hread

instance [g.Settled] : Nests text (leftHandSide g) where
  gathers low context cursor hstands hheld := by
    by_cases hwritten : ∃ marker nodes stop, CallAt text cursor.current.start marker nodes stop
    · obtain ⟨marker, nodes, stop, hcall⟩ := hwritten
      exact leads_leftHandSide_of_written hcall context cursor hstands ⟨hheld, rfl⟩
    · have hunwritten : ∀ marker nodes stop,
          ¬CallAt text cursor.current.start marker nodes stop :=
        fun marker nodes stop hcall => hwritten ⟨marker, nodes, stop, hcall⟩
      exact leads_leftHandSide_of_unwritten context cursor hstands ⟨hheld, hunwritten⟩

/-! ## Operators -/

instance : Nests text (awaitRest g) where
  gathers _ := .bind fun _ => .bind fun _ => .ite .fail <| .bind fun _ => .bind fun _ => .ite
    (.bind fun _ => .pure) <| .bind fun _ => .bind fun _ => .bind fun operand => .pure

instance : Nests text (prefixed g) where
  gathers _ := by
    refine .bind fun _ => .bind fun _ => .bind fun operand? => ?_
    split
    · exact .bindPure <| .bind fun _ => .bind fun _ => .bind fun _ => .pure
    · exact .bind fun _ => .bindPure <| .bind fun _ => .bind fun _ => .bind fun _ => .pure

instance : Nests text (assertion g) where
  gathers _ := .bind fun _ => .ite (.bind fun _ => .bind fun operand => .pure) <|
    .bind fun type => .bind fun _ => .bind fun operand => .pure

instance : Nests text (unary g) where
  gathers _ := .bind fun _ => .bind fun _ => .ite .nests <| .bind fun _ => .ite
    (.bind fun _ => .bind fun operand => .iteThen .pure) <| .bind fun _ => .bind fun _ =>
    .ite .nests <| .bind fun _ => .ite .nests <| .bind fun operand => .bind fun _ => .bind fun _ =>
    .ite (.bind fun _ => .pure) .pure

instance : Nests text (operandType g) where
  gathers _ := .bindOf (.typing ⟨fun _ => .bind fun _ => .nests⟩) fun type => .bind fun _ =>
    .ite .pure <| .resumeWith Lexeme.joinAngle
      (fun lexeme hstands => ⟨hstands.joinAngle, (Lexeme.Stands.start_joinAngle lexeme).ge⟩) .pure

theorem gathers_binaryRest {left : Node} {precedence : Nat} :
    Gathers text low [left] (binaryRest g left precedence) trees := by
  refine .lastLoop fun left => .bind fun _ => .bind fun _ => .bind fun _ => .ite
    (.bind fun _ => .ite (.bind fun _ => .bind fun _ => .pure) (.bind fun type => .pure)) <|
    .bind fun _ => .ite (.bind fun type => .pure) <| .bind fun operator? => ?_
  split
  · exact .pure
  · exact .ite .pure <| .bind fun _ => .iteThen <| .bindBind
      ⟨fun _ => .bind fun first => (gathers_operands _ _).weaken⟩ fun right =>
      .bind fun _ => .bind fun _ => .pure

instance : Nests text (yieldExpression g) where
  gathers _ := .bind fun _ => .bind fun _ => .iteThen <| .bind fun _ => .bind fun _ =>
    .bind fun _ => .ite .pure <| .bind fun _ => .bind fun value => .pure

instance : Nests text (plainAssignment g) where
  gathers _ := by
    refine .bind fun _ => .bind fun _ => .ite .nests <| gathers_arrowStart <| .bind fun left => ?_
    split
    all_goals first | exact .pure | exact gathers_assignmentRest.weaken

instance : Nests text (genericArrow? g) :=
  .attempt <| .within ⟨fun _ => .bind fun types? => by
    split
    · exact .pure
    · refine .bind fun arrow => ?_
      split <;> exact .pure⟩ _

instance : Nests text (ungrouped g) where
  gathers _ := .bind fun _ => .bind fun _ => .bind fun _ => .bind fun node? => by
    split
    · exact .pure
    · exact .nests

instance : Nests text (assignment g) where
  gathers _ := .bind fun _ => .bind fun _ => .ite
    (.bindOf (.attempt ⟨fun _ => .bind fun node => .pure⟩) fun node? => by
      dsimp only
      split
      · exact .pure
      · exact .nests)
    (.bindPure .nests)

instance : Nests text (expression g) where
  gathers _ := .bind fun first => .bind fun _ => .ite
    (.lastLoop fun found => .bind fun _ => .ite (.bind fun next => .pure) .pure) .pure

end Grammar
end Phrasebook.Script

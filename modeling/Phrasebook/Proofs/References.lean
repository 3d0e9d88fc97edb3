import Mathlib.Logic.Relation
import Phrasebook.Proofs.FailedReconciliation
import Phrasebook.Proofs.Key
import Phrasebook.Proofs.Literal
import Phrasebook.Proofs.RequestAccounting
import Phrasebook.Proofs.Rewriting

/-!
# References can be read

A reference names a namespace and a key with a separator between them, or a key of the default
namespace alone. It can be read as long as neither name has a separator in it. Namespaces have none
in valid settings. Keys have none because every way into the locale files keeps them plain: a key
comes from a translation or a phrase and is escaped, a mark adds no separator, and merging adds no
keys but those of the files, of outcomes and of the index.

Results:
* `Key.decode_reference`: the namespace and the key of a reference.
* `Merge.hasPlainKeys_run`: merging keeps keys plain.
* `Project.hasPlainKeys_of_run`: any steps of a session, whatever they end with, keep keys plain.
* `Project.decodes_of_run`: after any steps, every reference that a rewriting writes is read as the
  namespace and the key that it was written for.
-/

namespace Phrasebook

/-! ## Reading references -/

namespace Key

/-- The key has no separator in it. -/
def IsPlain (key : String) : Prop := separator ∉ key.toList

instance (key : String) : Decidable (IsPlain key) := inferInstanceAs (Decidable (_ ∉ _))

/-- The namespace and the key that a reference names: what stands before and after its first
separator, or the default namespace and all of it. -/
def decode (reference : String) : String × String :=
  if separator ∈ reference.toList then
    (String.ofList (reference.toList.takeWhile (· != separator)),
      String.ofList (reference.toList.dropWhile (· != separator)).tail)
  else (defaultNamespace, reference)

/-- **A reference is read as its namespace and its key**, if neither has a separator. -/
theorem decode_reference {ns key : String} (hns : IsPlain ns) (hkey : IsPlain key) :
    decode (reference ns key) = (ns, key) := by
  unfold reference
  split
  · next hdefault =>
    unfold decode
    rw [if_neg hkey, hdefault]
  · have hchars : (ns ++ String.singleton separator ++ key).toList
        = ns.toList ++ separator :: key.toList := by simp
    have hbefore : ∀ c ∈ ns.toList, (c != separator) = true := by
      intro c hmem
      rw [bne_iff_ne]
      rintro rfl
      exact hns hmem
    unfold decode
    rw [hchars, if_pos (List.mem_append_right _ List.mem_cons_self),
      List.takeWhile_append_of_pos hbefore, List.dropWhile_append_of_pos hbefore]
    simp

theorem isPlain_escape (text : String) : IsPlain (escape text) := separator_notMem_escape text

end Key

theorem Outcome.isPlain_markedKey {key : String} (h : Key.IsPlain key) (attempt : Nat) :
    Key.IsPlain (Outcome.markedKey key attempt) := by
  have hsuffix : Key.separator ∉ Outcome.conflictSuffix.toList := by decide
  unfold Key.IsPlain at h ⊢
  cases attempt with
  | zero => simpa [Outcome.markedKey] using ⟨h, hsuffix⟩
  | succ attempt =>
    have hnumber : Key.separator ∉ (toString (attempt + 2)).toList := by
      rw [Nat.toString_eq_repr, Nat.toList_repr]
      intro hmem
      exact absurd (Nat.isDigit_of_mem_toDigits (by decide) (by decide) hmem) (by decide)
    simp only [Outcome.markedKey, String.toList_append, List.mem_append, not_or]
    exact ⟨⟨h, hsuffix⟩, hnumber⟩

/-! ## Plain keys -/

/-- No key of a catalog has a separator in it. -/
def Catalog.HasPlainKeys (catalog : Catalog) : Prop :=
  ∀ ns key value, catalog.get? ns key = some value → Key.IsPlain key

/-- No key that carries a phrase has a separator in it. -/
def PhraseIndex.HasPlainKeys (index : PhraseIndex) : Prop :=
  ∀ ns key phrase, index.phraseForKey? ns key = some phrase → Key.IsPlain key

/-- No outcome has a key with a separator in it. -/
def Outcome.HavePlainKeys (outcomes : List Outcome) : Prop :=
  ∀ outcome ∈ outcomes, Key.IsPlain outcome.key

theorem Catalog.hasPlainKeys_empty : Catalog.empty.HasPlainKeys := by
  intro ns key value h
  rw [Catalog.get?_empty] at h
  cases h

theorem PhraseIndex.hasPlainKeys_ofCatalog {catalog : Catalog} (h : catalog.HasPlainKeys)
    (language : KeyLanguage) (untranslated : String) :
    (PhraseIndex.ofCatalog catalog language untranslated).HasPlainKeys := by
  intro ns key phrase hcarried
  obtain ⟨value, ⟨hvalue, -⟩, -⟩ := PhraseIndex.phraseForKey?_ofCatalog_eq_some_iff.1 hcarried
  exact h ns key value hvalue

/-- The keys in use are those of outcomes and of the index. -/
theorem Survey.hasPlainKeys_used {outcomes : List Outcome} {index : PhraseIndex}
    (houtcomes : Outcome.HavePlainKeys outcomes) (hindex : index.HasPlainKeys)
    (scope : SourceScope) (rules : MarkerRules) (tree : FileTree) (files : List String) :
    (Survey.ofFiles scope rules (Survey.keyOf? outcomes index) tree files).used.HasPlainKeys := by
  intro ns key phrase hused
  rcases Survey.keyOf?_eq_some (Survey.finds_of_get?_used _ _ _ _ hused).2 with
    ⟨outcome, hmem, -, -, rfl⟩ | ⟨-, hlookup⟩
  · exact houtcomes outcome hmem
  · exact hindex ns key phrase (PhraseIndex.phraseForKey?_of_lookup? hlookup)

namespace Merge

variable {rule : Merge} {outcomes : List Outcome} {used source target : Catalog}

/-- What is there after a merge is used, was there or is the key of an outcome. -/
theorem isPlain_of_keeps (houtcomes : Outcome.HavePlainKeys outcomes) (hused : used.HasPlainKeys)
    (hsource : source.HasPlainKeys) (htarget : target.HasPlainKeys) {ns key : String}
    (hkeeps : rule.keeps (withOutcomes used outcomes) source target ns key = true) :
    Key.IsPlain key := by
  simp only [keeps, Bool.or_eq_true, Bool.and_eq_true, Option.isSome_iff_exists] at hkeeps
  rcases hkeeps with ⟨phrase, hphrase⟩ | ⟨-, ⟨value, hvalue⟩ | ⟨value, hvalue⟩⟩
  · rw [get?_withOutcomes] at hphrase
    rcases Option.or_eq_some_iff.1 hphrase with hphrase | ⟨-, houtcome⟩
    · exact hused ns key phrase hphrase
    · obtain ⟨outcome, hfind, -⟩ := Option.map_eq_some_iff.1 houtcome
      obtain ⟨hmem, -, rfl⟩ := mem_of_find?_both hfind
      exact houtcomes outcome hmem
  · exact hsource ns key value hvalue
  · exact htarget ns key value hvalue

/-- **Merging keeps keys plain.** -/
theorem hasPlainKeys_run (houtcomes : Outcome.HavePlainKeys outcomes) (hused : used.HasPlainKeys)
    (hsource : source.HasPlainKeys) (htarget : target.HasPlainKeys) :
    (rule.run outcomes used source target).source.HasPlainKeys
      ∧ (rule.run outcomes used source target).target.HasPlainKeys := by
  constructor
  · intro ns key value hvalue
    rw [get?_source_run] at hvalue
    split at hvalue
    · next hkeeps => exact isPlain_of_keeps houtcomes hused hsource htarget hkeeps
    · cases hvalue
  · intro ns key value hvalue
    rw [get?_target_run] at hvalue
    split at hvalue
    · next hkeeps => exact isPlain_of_keeps houtcomes hused hsource htarget hkeeps
    · cases hvalue

end Merge

/-! ## Locale files with plain keys -/

namespace Locales

variable {locales : Locales} {before after : FileTree}

/-- No key of the catalogs at the places of the two languages has a separator in it. -/
structure HavePlainKeys (locales : Locales) (files : FileTree) : Prop where
  source : ∀ catalog, locales.standing? locales.sourceLanguage files = some catalog →
    catalog.HasPlainKeys
  target : ∀ catalog, locales.standing? locales.targetLanguage files = some catalog →
    catalog.HasPlainKeys

/-- What is loaded then has plain keys. -/
theorem HavePlainKeys.holds (h : locales.HavePlainKeys before) :
    (∀ source, locales.Holds locales.sourceLanguage before source → source.HasPlainKeys)
      ∧ ∀ target, locales.Holds locales.targetLanguage before target → target.HasPlainKeys := by
  constructor
  · intro source hsource
    rcases eq_empty_or_standing?_of_holds hsource with rfl | hstanding
    · exact Catalog.hasPlainKeys_empty
    · exact h.source source hstanding
  · intro target htarget
    rcases eq_empty_or_standing?_of_holds htarget with rfl | hstanding
    · exact Catalog.hasPlainKeys_empty
    · exact h.target target hstanding

/-- **A reconciliation keeps keys plain**, however it ends. -/
theorem havePlainKeys_of_run {rule : Merge} {outcomes : List Outcome} {survey : Survey}
    {found : Except Problem Reconciliation}
    (hrun : (Reconciliation.run locales rule outcomes survey).runOn before = (found, after))
    (houtcomes : Outcome.HavePlainKeys outcomes) (hused : survey.used.HasPlainKeys)
    (h : locales.HavePlainKeys before) : locales.HavePlainKeys after := by
  have hlanguage : ∀ language catalog,
      (∀ old, locales.standing? language before = some old → old.HasPlainKeys) →
      locales.standing? language after = some catalog → catalog.HasPlainKeys := by
    intro language catalog hold hafter
    rcases Reconciliation.standing?_of_run hrun language with
      hsame | ⟨source, target, hsource, htarget, hread⟩
    · exact hold catalog (hsame ▸ hafter)
    · obtain ⟨hplainSource, hplainTarget⟩ := Merge.hasPlainKeys_run houtcomes hused
        (h.holds.1 source hsource) (h.holds.2 target htarget)
      rcases hread catalog hafter with rfl | rfl | rfl
      · exact Catalog.hasPlainKeys_empty
      · exact hplainSource
      · exact hplainTarget
  exact ⟨fun catalog => hlanguage _ catalog h.source, fun catalog => hlanguage _ catalog h.target⟩

end Locales

/-! ## Steps of a session -/

/-- Valid settings have namespaces without separators. -/
theorem Settings.isPlain_of_fault? {settings : Settings} (hvalid : settings.fault? = none)
    {ns : String} (hmem : ns ∈ settings.namespaces) : Key.IsPlain ns := by
  unfold Settings.fault? at hvalid
  simp only [Option.orElse_eq_orElse, Option.orElse_eq_or, Option.or_eq_none_iff,
    Option.map_eq_none_iff, List.find?_eq_none] at hvalid
  have hname : Settings.isNamespaceName ns = true := by simpa using hvalid.2.2.1 ns hmem
  simp only [Settings.isNamespaceName, Bool.and_eq_true, Bool.not_eq_true', List.contains_eq_mem,
    decide_eq_false_iff_not] at hname
  exact hname.2

namespace Project

open SessionAction

variable {project : Project} {before after start session : Session}

/-- Neither the locale files nor the index have a key with a separator in it. -/
structure HasPlainKeys (project : Project) (session : Session) : Prop where
  locales : project.locales.HavePlainKeys session.files
  index : session.index.HasPlainKeys

/-- Outcomes of translations: of any phrases of any namespaces, translated into any texts, with keys
that were settled against any index. -/
def Translated (project : Project) (outcomes : List Outcome) : Prop :=
  ∃ index candidates, outcomes = (Outcome.assign index candidates).1
    ∧ ∀ candidate ∈ candidates, ∃ phrase ns translation,
      candidate = project.settings.wording.candidate phrase ns translation

theorem translated_assigned (project : Project) (translator : Translator) (pending : Pending)
    (index : PhraseIndex) : project.Translated (project.assigned translator pending index).1 := by
  refine ⟨index, project.candidatesOf translator pending, rfl, fun candidate hmem => ?_⟩
  obtain ⟨translation, -, hcandidate⟩ := exists_of_mem_candidatesOf hmem
  exact ⟨candidate.phrase, candidate.ns, translation, hcandidate⟩

/-- **Translations have plain keys**: escaped texts, some of them marked. -/
theorem Translated.havePlainKeys {outcomes : List Outcome} (h : project.Translated outcomes) :
    Outcome.HavePlainKeys outcomes := by
  obtain ⟨index, candidates, rfl, hcandidates⟩ := h
  intro outcome hmem
  obtain ⟨candidate, hcandidate, -, -, hkey⟩ := Outcome.exists_of_mem_assignAfter hmem
  have hplain : Key.IsPlain candidate.key := by
    obtain ⟨phrase, ns, translation, rfl⟩ := hcandidates candidate hcandidate
    unfold Wording.candidate Wording.key
    cases project.settings.wording.keyLanguage <;> exact Key.isPlain_escape _
  rcases hkey with hkey | ⟨attempt, hkey⟩
  · rw [hkey]
    exact hplain
  · rw [hkey]
    exact Outcome.isPlain_markedKey hplain attempt

/-- The files change, but not at the places of the locale files. -/
structure KeepsPlaces (project : Project) (before after : FileTree) : Prop where
  workingDirectory : after.workingDirectory = before.workingDirectory
  places : ∀ language, after.fileAt? (FileTree.placeOf before.workingDirectory
      (project.locales.pathOf language))
    = before.fileAt? (FileTree.placeOf before.workingDirectory (project.locales.pathOf language))

/-- A step of work, which may end with a problem. -/
inductive Proceeds (project : Project) : Session → Session → Prop
  | edit {before : Session} {files : FileTree} (h : project.KeepsPlaces before.files files) :
      Proceeds project before { before with files }
  | rewrite (before : Session) (mode : BuildMode) (unit : SourceUnit) :
      Proceeds project before ((project.rewrite mode unit).runOn before).2
  | collect (before : Session) (mode : BuildMode) (unit : SourceUnit) :
      Proceeds project before ((project.rewriteCollecting mode unit).runOn before).2
  | flush (before : Session) (translator : Translator) :
      Proceeds project before ((project.flush translator).runOn before).2
  /-- A flush takes what is pending, and other steps may follow before its translations are
  there. -/
  | take (before : Session) : Proceeds project before (unpended before)
  /-- The translations of a flush are there. -/
  | receive (before : Session) (translator : Translator) (taken : Pending) :
      Proceeds project before ((project.flushPending translator taken).runOn before).2
  | reconcile (before : Session) {outcomes : List Outcome} (h : project.Translated outcomes) :
      Proceeds project before ((project.reconcile outcomes).runOn before).2

/-! ## What every step keeps -/

/-- Rewriting changes neither files nor index, and is by the index. -/
theorem rewrites_of_rewrite (project : Project) (mode : BuildMode) (unit : SourceUnit)
    (before : Session) :
    ((project.rewrite mode unit).runOn before).2.files = before.files
      ∧ ((project.rewrite mode unit).runOn before).2.index = before.index
      ∧ ∀ rewriting, ((project.rewrite mode unit).runOn before).1 = .ok rewriting →
        project.rules.rewrite before.index unit = .ok rewriting := by
  unfold rewrite
  rw [runOn_bind_of_runOn (runOn_session before)]
  cases hrewrite : project.rules.rewriteIn mode before.index unit with
  | error problem => exact ⟨rfl, rfl, nofun⟩
  | ok found =>
    have hfound := rewrite_of_rewriteIn hrewrite
    cases mode <;> exact ⟨rfl, rfl, fun rewriting hsame => Except.ok.inj hsame ▸ hfound⟩

theorem rewrites_of_rewriteCollecting (project : Project) (mode : BuildMode) (unit : SourceUnit)
    (before : Session) :
    ((project.rewriteCollecting mode unit).runOn before).2.files = before.files
      ∧ ((project.rewriteCollecting mode unit).runOn before).2.index = before.index
      ∧ ∀ rewriting, ((project.rewriteCollecting mode unit).runOn before).1 = .ok rewriting →
        project.rules.rewrite before.index unit = .ok rewriting := by
  unfold rewriteCollecting
  rw [runOn_bind_of_runOn (runOn_session before)]
  cases hrewrite : project.rules.rewrite before.index unit with
  | error problem => exact ⟨rfl, rfl, nofun⟩
  | ok found =>
    cases mode <;> exact ⟨rfl, rfl, fun rewriting hsame => hsame⟩

/-- **A reconciliation keeps keys plain**, however it ends. -/
theorem hasPlainKeys_of_reconcile {outcomes : List Outcome} {found : Except Problem Reconciliation}
    (hrun : (project.reconcile outcomes).runOn before = (found, after))
    (houtcomes : project.Translated outcomes) (h : project.HasPlainKeys before) :
    project.HasPlainKeys after := by
  have hused := Survey.hasPlainKeys_used houtcomes.havePlainKeys h.index project.scope
    project.rules before.files (project.searched before.files)
  cases found with
  | error problem =>
    obtain ⟨hfiles, hindex, -⟩ := run_of_reconcile_error hrun
    refine ⟨Locales.havePlainKeys_of_run hfiles houtcomes.havePlainKeys hused h.locales, ?_⟩
    rw [hindex]
    exact h.index
  | ok reconciliation =>
    have hreconciled := reconciled_of_reconcile hrun
    have hlocales :=
      Locales.havePlainKeys_of_run hreconciled.files houtcomes.havePlainKeys hused h.locales
    refine ⟨hlocales, ?_⟩
    cases hwritten : reconciliation.isWritten with
    | false =>
      rw [hreconciled.unwritten hwritten]
      exact h.index
    | true =>
      obtain ⟨source, hsource, hindex⟩ := isCurrent_iff.1 (hreconciled.refreshed hwritten)
      rw [hindex]
      exact PhraseIndex.hasPlainKeys_ofCatalog (hlocales.holds.1 source hsource) _ _

/-- **A flush of what was taken keeps keys plain**, however it ends. -/
theorem hasPlainKeys_of_ended {translator : Translator} {taken : Pending}
    {found : Except Problem Flush} (hended : project.Ended translator taken before found after)
    (h : project.HasPlainKeys before) : project.HasPlainKeys after := by
  have htranslated := project.translated_assigned translator taken before.index
  cases hended with
  | idle => exact h
  | late => exact ⟨h.locales, h.index⟩
  | untranslated => exact ⟨h.locales, h.index⟩
  | reconciled _ _ _ hreconcile =>
    exact hasPlainKeys_of_reconcile hreconcile htranslated ⟨h.locales, h.index⟩
  | broken _ _ _ hreconcile =>
    exact hasPlainKeys_of_reconcile hreconcile htranslated ⟨h.locales, h.index⟩

/-- **Every step keeps keys plain.** -/
theorem hasPlainKeys_of_step (hstep : project.Proceeds before after)
    (h : project.HasPlainKeys before) : project.HasPlainKeys after := by
  cases hstep with
  | @edit files hkeeps =>
    have hstanding : ∀ language, project.locales.standing? language files
        = project.locales.standing? language before.files := by
      intro language
      unfold Locales.standing?
      rw [hkeeps.workingDirectory, hkeeps.places]
    refine ⟨⟨?_, ?_⟩, h.index⟩
    · rw [hstanding]
      exact h.locales.source
    · rw [hstanding]
      exact h.locales.target
  | rewrite mode unit =>
    obtain ⟨hfiles, hindex, -⟩ := project.rewrites_of_rewrite mode unit before
    exact ⟨hfiles ▸ h.locales, hindex ▸ h.index⟩
  | collect mode unit =>
    obtain ⟨hfiles, hindex, -⟩ := project.rewrites_of_rewriteCollecting mode unit before
    exact ⟨hfiles ▸ h.locales, hindex ▸ h.index⟩
  | flush translator => exact hasPlainKeys_of_ended (ended_of_flush rfl) ⟨h.locales, h.index⟩
  | take => exact ⟨h.locales, h.index⟩
  | receive translator taken =>
    exact hasPlainKeys_of_ended (project.ended_flushPending translator taken before) h
  | reconcile htranslated => exact hasPlainKeys_of_reconcile rfl htranslated h

/-- **Any steps keep keys plain.** -/
theorem hasPlainKeys_of_run (run : Relation.ReflTransGen project.Proceeds start session)
    (h : project.HasPlainKeys start) : project.HasPlainKeys session := by
  induction run with
  | refl => exact h
  | tail _ hstep ih => exact hasPlainKeys_of_step hstep ih

/-! ## References after any steps -/

end Project

namespace MarkerRules

variable {rules : MarkerRules} {call : MarkerCall} {key : String}

/-- A reference passes a text: it asks for the translation at the literal of the text. -/
def Passes (rules : MarkerRules) (reference : List Char) (text : String) : Prop :=
  ∃ literal, reference = rules.marker.toList ++ ['.', 't', '('] ++ literal ++ [')']
    ∧ Literal.unquote (String.ofList literal) = some text

/-- **What a reference to a key passes.** -/
theorem passes_reference_iff {text : String} :
    rules.Passes (rules.reference call key) text
      ↔ text = Key.reference call.namespaceName key := by
  have hread := Literal.unquote_quoteChars (Key.reference call.namespaceName key).toList call.quote
  rw [String.ofList_toList] at hread
  unfold Passes reference
  constructor
  · rintro ⟨literal, hsame, htext⟩
    rw [List.append_cancel_right_eq, List.append_cancel_left_eq] at hsame
    rw [← hsame, hread] at htext
    exact (Option.some.inj htext).symm
  · rintro rfl
    exact ⟨_, rfl, hread⟩

end MarkerRules

namespace Project

open SessionAction

variable {project : Project} {start session : Session}

/-- The reference to the key that the index gives the phrase of a call can be read: it passes a
text, which names the namespace of the call and the key. -/
structure Decodes (project : Project) (session : Session) (call : MarkerCall) (key : String) :
    Prop where
  known : session.index.lookup? call.namespaceName call.phrase = some key
  passes : ∃ text, project.rules.Passes (project.rules.reference call key) text
  decode : ∀ text, project.rules.Passes (project.rules.reference call key) text →
    Key.decode text = (call.namespaceName, key)

/-- The references of a rewriting are read as the keys that the index gives. -/
theorem decodes_of_rewrite (hvalid : project.settings.fault? = none)
    (h : project.HasPlainKeys session) {unit : SourceUnit} {rewriting : Rewriting}
    (hrewrite : project.rules.rewrite session.index unit = .ok rewriting) :
    ∃ references, project.rules.Refers unit rewriting references
      ∧ ∀ reference ∈ references, project.Decodes session reference.1 reference.2 := by
  rcases MarkerRules.rewrite_eq_ok_iff.1 hrewrite with ⟨-, rfl⟩ | ⟨-, calls, hcalls, -⟩
  · exact ⟨[], ⟨fun _ hmem => absurd hmem List.not_mem_nil, MarkerRules.fromCursor_nil _⟩,
      fun _ hmem => absurd hmem List.not_mem_nil⟩
  · obtain ⟨references, hrefers, hknown⟩ := MarkerRules.exists_refers_of_rewrite hrewrite
    refine ⟨references, hrefers, fun reference hmem => ?_⟩
    obtain ⟨hfind, hnamespaces⟩ := MarkerRules.findKnown_eq_ok_iff.1 hcalls
    obtain ⟨found, hfound, hcall⟩ := hrefers.calls reference hmem
    obtain rfl := Except.ok.inj (hfind.symm.trans hfound)
    have hns : Key.IsPlain reference.1.namespaceName :=
      Settings.isPlain_of_fault? hvalid (hnamespaces reference.1 hcall)
    have hkey : Key.IsPlain reference.2 :=
      h.index _ _ _ (PhraseIndex.phraseForKey?_of_lookup? (hknown reference hmem))
    refine ⟨hknown reference hmem, ⟨_, MarkerRules.passes_reference_iff.2 rfl⟩,
      fun text htext => ?_⟩
    rw [MarkerRules.passes_reference_iff.1 htext, Key.decode_reference hns hkey]

/-- **References can be read after any steps.** Work starts with valid settings and on locale files
whose keys have no separator in them. After any rewritten units, flushes and reconciliations of
translations, whatever they end with, and edits of other files, neither the index nor a locale file
has a key with a separator in it. Every reference of a unit that is rewritten then is read as the
namespace and the key that the index gives, so that no two of these have one reference. -/
theorem decodes_of_run (hvalid : project.settings.fault? = none) {files : FileTree}
    (hstart : project.start files = .ok start) (hplain : project.locales.HavePlainKeys files)
    (run : Relation.ReflTransGen project.Proceeds start session) :
    session.index.HasPlainKeys
    ∧ project.locales.HavePlainKeys session.files
    ∧ (∀ source, project.locales.Holds project.locales.sourceLanguage session.files source →
      source.HasPlainKeys)
    ∧ (∀ target, project.locales.Holds project.locales.targetLanguage session.files target →
      target.HasPlainKeys)
    ∧ (∀ mode unit rewriting,
      ((project.rewrite mode unit).runOn session).1 = .ok rewriting
          ∨ ((project.rewriteCollecting mode unit).runOn session).1 = .ok rewriting →
        ∃ references, project.rules.Refers unit rewriting references
          ∧ ∀ reference ∈ references, project.Decodes session reference.1 reference.2)
    ∧ ∀ first ∈ project.settings.namespaces, ∀ second ∈ project.settings.namespaces,
      ∀ key other, Key.IsPlain key → Key.IsPlain other →
        Key.reference first key = Key.reference second other → first = second ∧ key = other := by
  obtain ⟨hfiles, -, current⟩ := eq_of_start hstart
  have hfirst : project.HasPlainKeys start := by
    rw [← hfiles] at hplain
    obtain ⟨source, hsource, hindex⟩ := isCurrent_iff.1 current
    refine ⟨hplain, ?_⟩
    rw [hindex]
    exact PhraseIndex.hasPlainKeys_ofCatalog (hplain.holds.1 source hsource) _ _
  have hlast := hasPlainKeys_of_run run hfirst
  refine ⟨hlast.index, hlast.locales, hlast.locales.holds.1, hlast.locales.holds.2, ?_, ?_⟩
  · rintro mode unit rewriting (hrewrite | hrewrite)
    · exact decodes_of_rewrite hvalid hlast
        ((project.rewrites_of_rewrite mode unit session).2.2 rewriting hrewrite)
    · exact decodes_of_rewrite hvalid hlast
        ((project.rewrites_of_rewriteCollecting mode unit session).2.2 rewriting hrewrite)
  · intro first hmem second hmem' key other hkey hother hsame
    have hdecode := congrArg Key.decode hsame
    rw [Key.decode_reference (Settings.isPlain_of_fault? hvalid hmem) hkey,
      Key.decode_reference (Settings.isPlain_of_fault? hvalid hmem') hother] at hdecode
    exact Prod.mk.inj hdecode

/-- The reference of the small project after its first flush is read as the key of its phrase. -/
theorem decodes_small_of_run :
    ∃ references, small.rules.Refers smallUnit ⟨"i18n.t('hello')", 1, []⟩ references
      ∧ ∀ reference ∈ references, small.Decodes smallFlushed reference.1 reference.2 := by
  have hvalid : small.settings.fault? = none := by decide +kernel
  have hsource : small.locales.standing? "zh" (smallStart []).files = none := by decide +kernel
  have htarget : small.locales.standing? "en" (smallStart []).files = none := by decide +kernel
  have hplain : small.locales.HavePlainKeys (smallStart []).files :=
    ⟨fun _ hcatalog => absurd (hsource.symm.trans hcatalog) nofun,
      fun _ hcatalog => absurd (htarget.symm.trans hcatalog) nofun⟩
  have run : Relation.ReflTransGen small.Proceeds (smallStart []) smallFlushed :=
    .tail (.tail .refl (.rewrite _ .development smallUnit)) (.flush _ smallTranslator)
  have hrewriting : ((small.rewrite .development smallUnit).runOn smallFlushed).1
      = .ok ⟨"i18n.t('hello')", 1, []⟩ := toOption_eq_some_iff.1 (by decide +kernel)
  exact (decodes_of_run hvalid start_smallStart hplain run).2.2.2.2.1 _ _ _ (.inl hrewriting)

end Project

end Phrasebook

import Phrasebook.Proofs.Pruning

/-!
# What an incomplete survey costs

A survey is incomplete if some file that it goes through cannot be searched. A reconciliation then
takes no key away and leaves all values as they are, but for the untranslated mark. Which files a
survey goes through is not part of that: an included path that does not exist, or one where no walk
can start, only leads to fewer files. So the keys of what was never walked go like any unused key.

The values of both languages stay only if the two have files of their own, or one that held the same
for both (`Locales.Consistent`): two paths can lead to one file of which the reconciliation could
read only one, as it makes the directory on the way of the other.

Results:
* `Project.exists_settles`: the catalogs after a reconciliation, key by key.
* `Project.sparesAll_of_reconcile`: a file that cannot be searched costs no key.
* `Project.prunes_of_reconcile`: which keys go, whatever the walks cover.
* `Project.surveyOf_of_missing`: a survey does not show that an included path does not exist.
-/

namespace Phrasebook

/-- The two languages have files of their own, or their files hold the same. -/
def Locales.Consistent (locales : Locales) (files : FileTree) : Prop :=
  locales.Apart files.workingDirectory
    ∨ ∃ catalog, locales.Holds locales.sourceLanguage files catalog
      ∧ locales.Holds locales.targetLanguage files catalog

namespace Project

variable {project : Project} {before after : Session} {outcomes : List Outcome}
  {reconciliation : Reconciliation} {source target sourceAfter targetAfter : Catalog}

/-- The catalogs in the locale files of two sessions. -/
structure Between (project : Project) (before after : Session)
    (source target sourceAfter targetAfter : Catalog) : Prop where
  holdsSource : project.locales.Holds project.locales.sourceLanguage before.files source
  holdsTarget : project.locales.Holds project.locales.targetLanguage before.files target
  holdsSourceAfter : project.locales.Holds project.locales.sourceLanguage after.files sourceAfter
  holdsTargetAfter : project.locales.Holds project.locales.targetLanguage after.files targetAfter

/-- A reconciliation between catalogs: the kept keys are preserved, and the others go. -/
structure Settles (project : Project) (outcomes : List Outcome) (before after : Session)
    (source target sourceAfter targetAfter : Catalog) : Prop
    extends project.Between before after source target sourceAfter targetAfter where
  kept : ∀ ns key, (project.ruleIn outcomes before).Keeps project.scope project.rules before.files
      (project.searched before.files) outcomes before.index source target ns key →
    source.Preserves project.settings.untranslated sourceAfter ns key
      ∧ target.Preserves project.settings.untranslated targetAfter ns key
  removed : ∀ ns key, ¬(project.ruleIn outcomes before).Keeps project.scope project.rules
      before.files (project.searched before.files) outcomes before.index source target ns key →
    sourceAfter.get? ns key = none ∧ targetAfter.get? ns key = none

/-- **The catalogs around a reconciliation**, if the two languages have files of their own or held
the same. -/
theorem exists_settles
    (h : (project.reconcile outcomes).runOn before = (.ok reconciliation, after))
    (consistent : project.locales.Consistent before.files) :
    ∃ source target sourceAfter targetAfter,
      project.Settles outcomes before after source target sourceAfter targetAfter := by
  have hrun := (reconciled_of_reconcile h).files
  obtain ⟨source, target, -, hsource, htarget, -⟩ := Reconciliation.exists_of_run hrun
  have htargetAfter := Reconciliation.holds_target_of_run hrun hsource htarget
  by_cases apart : project.locales.Apart before.files.workingDirectory
  · exact ⟨source, target, _, _, ⟨hsource, htarget,
      Reconciliation.holds_source_of_run apart hrun hsource htarget, htargetAfter⟩,
      fun ns key hkeeps => Merge.preserves_afterSurvey hkeeps,
      fun ns key hkeeps => Merge.get?_afterSurvey_eq_none hkeeps⟩
  · -- One file, and one catalog, for both languages.
    obtain ⟨catalog, hfirst, hsecond⟩ := consistent.resolve_left apart
    obtain rfl := hsource.unique hfirst
    obtain rfl := htarget.unique hsecond
    have hsourceAfter := Locales.holds_of_readText
      (Reconciliation.readText_source_of_run_of_not_apart apart hrun hsource htarget)
    exact ⟨target, target, _, _, ⟨hsource, htarget, hsourceAfter, htargetAfter⟩,
      fun ns key hkeeps => ⟨(Merge.preserves_afterSurvey hkeeps).2,
        (Merge.preserves_afterSurvey hkeeps).2⟩,
      fun ns key hkeeps => ⟨(Merge.get?_afterSurvey_eq_none hkeeps).2,
        (Merge.get?_afterSurvey_eq_none hkeeps).2⟩⟩

/-- A key of either catalog is kept if nothing is to be removed, or if some file cannot be searched,
or if the key is asked for. -/
theorem keeps_iff_of_isSome {ns key : String}
    (hpresent : (source.get? ns key).isSome ∨ (target.get? ns key).isSome) :
    (project.ruleIn outcomes before).Keeps project.scope project.rules before.files
        (project.searched before.files) outcomes before.index source target ns key
      ↔ project.settings.prune = false ∨ ¬project.Searchable before.files
        ∨ project.Asked outcomes before ns key := by
  unfold Merge.Keeps
  rw [← asked_iff, and_iff_left hpresent, ← Bool.not_eq_true, prune_ruleIn, not_and_or,
    Bool.not_eq_true, or_comm, or_assoc]

/-- What a reconciliation says of keys that it did not remove. -/
theorem pruneSkipped_of_reconcile
    (h : (project.reconcile outcomes).runOn before = (.ok reconciliation, after)) :
    reconciliation.pruneSkipped = true
      ↔ project.settings.prune = true ∧ ¬project.Searchable before.files := by
  obtain ⟨_, _, _, -, -, -, -, -, hskipped⟩ :=
    Reconciliation.exists_of_run (reconciled_of_reconcile h).files
  unfold Searchable
  rw [hskipped, Bool.and_eq_true, Bool.not_eq_true',
    ← Survey.isComplete_ofFiles _ _ _ (Survey.keyOf? outcomes before.index), Bool.not_eq_true]
  exact Iff.rfl

/-- Nothing is counted as removed if some file cannot be searched. -/
theorem pruned_of_not_searchable
    (h : (project.reconcile outcomes).runOn before = (.ok reconciliation, after))
    (unsearchable : ¬project.Searchable before.files) : reconciliation.pruned = 0 := by
  obtain ⟨source, target, -, -, -, -, -, hpruned, -⟩ :=
    Reconciliation.exists_of_run (reconciled_of_reconcile h).files
  have hrule : (project.ruleIn outcomes before).prune = false := by
    rw [← Bool.not_eq_true, prune_ruleIn]
    exact fun hprune => unsearchable hprune.2
  exact hpruned.trans (Merge.pruned_run hrule)

/-! ## Files that cannot be searched -/

/-- A reconciliation took no key away from either catalog and left all values but the untranslated
mark as they were, and it says so. -/
structure SparesAll (project : Project) (before after : Session) (reconciliation : Reconciliation)
    (source target sourceAfter targetAfter : Catalog) : Prop
    extends project.Between before after source target sourceAfter targetAfter where
  preserves : ∀ ns key, (source.get? ns key).isSome ∨ (target.get? ns key).isSome →
    source.Preserves project.settings.untranslated sourceAfter ns key
      ∧ target.Preserves project.settings.untranslated targetAfter ns key
  pruned : reconciliation.pruned = 0
  pruneSkipped : reconciliation.pruneSkipped = project.settings.prune

theorem not_searchable_of_fault {files : FileTree} {file : String} {fault : Problem}
    (hmem : file ∈ project.searched files) (hvendored : project.rules.isVendored file = false)
    (hfault : Survey.callsOf project.scope project.rules files file = .error fault) :
    ¬project.Searchable files := by
  intro searchable
  obtain ⟨calls, hcalls⟩ := searchable file hmem hvendored
  rw [hfault] at hcalls
  cases hcalls

/-- **A file that cannot be searched costs no key**, whatever the other files ask for. -/
theorem sparesAll_of_reconcile
    (h : (project.reconcile outcomes).runOn before = (.ok reconciliation, after))
    (consistent : project.locales.Consistent before.files) {file : String} {fault : Problem}
    (hmem : file ∈ project.searched before.files)
    (hvendored : project.rules.isVendored file = false)
    (hfault : Survey.callsOf project.scope project.rules before.files file = .error fault) :
    ∃ source target sourceAfter targetAfter,
      project.SparesAll before after reconciliation source target sourceAfter targetAfter := by
  have unsearchable := not_searchable_of_fault hmem hvendored hfault
  obtain ⟨source, target, sourceAfter, targetAfter, hcatalogs⟩ := exists_settles h consistent
  refine ⟨source, target, sourceAfter, targetAfter, hcatalogs.toBetween, fun ns key hpresent => ?_,
    pruned_of_not_searchable h unsearchable, ?_⟩
  · exact hcatalogs.kept ns key ((keeps_iff_of_isSome hpresent).2 (.inr (.inl unsearchable)))
  · rw [Bool.eq_iff_iff, pruneSkipped_of_reconcile h, and_iff_left unsearchable]

/-- The small project with a file that holds no text. -/
def smallUnread (more : List (String × FileEntry)) : Session :=
  smallStart (("/p/src/old.ts", .file (.bytes [0xff]) 0) :: ("/p/locales", .directory) :: more)

/-- The small project keeps a key that no script uses, next to a file that holds no text. -/
theorem sparesAll_small_of_reconcile :
    ∃ before after source target sourceAfter targetAfter, source = smallCatalog "greet" "你好"
      ∧ small.SparesAll before after ⟨false, false, 0, true⟩ source target sourceAfter
        targetAfter := by
  let before := smallUnread
    [("/p/locales/zh.json", .file (.text (smallCatalog "greet" "你好").text) 0),
      ("/p/locales/en.json", .file (.text (smallCatalog "greet" "Hi there").text) 0)]
  have hreport : ((small.reconcile []).runOn before).1.toOption
      = some ⟨false, false, 0, true⟩ := by decide +kernel
  have apart : small.locales.Apart before.files.workingDirectory := by decide +kernel
  have hmem : "src/old.ts" ∈ small.searched before.files := by decide +kernel
  have hfault : Survey.callsOf small.scope small.rules before.files "src/old.ts"
      = .error (.file "/p/src/old.ts" .notText) := by decide +kernel
  have hsource : small.locales.Holds "zh" before.files (smallCatalog "greet" "你好") := by
    decide +kernel
  obtain ⟨source, target, sourceAfter, targetAfter, hspares⟩ := sparesAll_of_reconcile
    (SessionAction.runOn_eq_ok hreport) (.inl apart) hmem (by decide +kernel) hfault
  exact ⟨_, _, source, target, sourceAfter, targetAfter, hspares.holdsSource.unique hsource,
    hspares⟩

/-- The small project with both languages in one file, where the path of the target language leads
through a directory that is not there. -/
def smallShared : Project :=
  { small with settings := { small.settings with
      localePath := some "locales/x", sourceLanguage := "/p/locales/zh", targetLanguage := "../zh" } }

/-- **A file that is shared in this way loses a value**: the target catalog is empty when it is
loaded, as there is no way to the file yet, and is saved over the source catalog. -/
theorem not_preserves_of_shared :
    ¬∀ (project : Project) (outcomes : List Outcome) (before after : Session)
      (reconciliation : Reconciliation) (file : String) (fault : Problem)
      (source sourceAfter : Catalog) (ns key value : String),
      project.settings.fault? = none →
      (project.reconcile outcomes).runOn before = (.ok reconciliation, after) →
      file ∈ project.searched before.files → project.rules.isVendored file = false →
      Survey.callsOf project.scope project.rules before.files file = .error fault →
      project.locales.Holds project.locales.sourceLanguage before.files source →
      project.locales.Holds project.locales.sourceLanguage after.files sourceAfter →
      source.get? ns key = some value → value ≠ project.settings.untranslated →
      sourceAfter.get? ns key = some value := by
  intro hall
  let before := smallUnread
    [("/p/locales/zh.json", .file (.text (smallCatalog "greet" "你好").text) 0)]
  have hreport : ((smallShared.reconcile []).runOn before).1.toOption
      = some ⟨false, true, 0, true⟩ := by decide +kernel
  have hfault : Survey.callsOf smallShared.scope smallShared.rules before.files "src/old.ts"
      = .error (.file "/p/src/old.ts" .notText) := by decide +kernel
  have hlost := hall smallShared [] before _ _ "src/old.ts" _ (smallCatalog "greet" "你好")
    (smallCatalog "greet" "greet") "default" "greet" "你好" (by decide +kernel)
    (SessionAction.runOn_eq_ok hreport) (by decide +kernel) (by decide +kernel) hfault
    (by decide +kernel) (by decide +kernel) (by decide) (by decide)
  exact absurd hlost (by decide)

/-! ## Files that are not walked -/

/-- The walks do not cover what is included: a literal path does not exist, or nothing stands where a
walk is to start. -/
def Uncovered (project : Project) (files : FileTree) : Prop :=
  (∃ path, .missing path ∈ project.scope.inclusions files)
    ∨ ∃ start ∈ project.scope.starts files, files.contains start = false

/-- A reconciliation removes a key: it is to remove keys, every file that was walked can be
searched, and the key is not asked for. -/
def Removes (project : Project) (outcomes : List Outcome) (session : Session) (ns key : String) :
    Prop :=
  project.settings.prune = true ∧ project.Searchable session.files
    ∧ ¬project.Asked outcomes session ns key

/-- The keys of both catalogs after a reconciliation, and what it says of them. -/
structure Prunes (project : Project) (outcomes : List Outcome) (before after : Session)
    (reconciliation : Reconciliation) (source target sourceAfter targetAfter : Catalog) : Prop
    extends project.Between before after source target sourceAfter targetAfter where
  removed : ∀ ns key, project.Removes outcomes before ns key →
    sourceAfter.get? ns key = none ∧ targetAfter.get? ns key = none
  spared : ∀ ns key, (source.get? ns key).isSome ∨ (target.get? ns key).isSome →
    ¬project.Removes outcomes before ns key →
    source.Preserves project.settings.untranslated sourceAfter ns key
      ∧ target.Preserves project.settings.untranslated targetAfter ns key
  pruneSkipped : reconciliation.pruneSkipped = true
    ↔ project.settings.prune = true ∧ ¬project.Searchable before.files

/-- **Which keys go is decided by the files that were walked**, whether they are all that is included
or not. -/
theorem prunes_of_reconcile
    (h : (project.reconcile outcomes).runOn before = (.ok reconciliation, after))
    (consistent : project.locales.Consistent before.files) :
    ∃ source target sourceAfter targetAfter,
      project.Prunes outcomes before after reconciliation source target sourceAfter
        targetAfter := by
  obtain ⟨source, target, sourceAfter, targetAfter, hcatalogs⟩ := exists_settles h consistent
  refine ⟨source, target, sourceAfter, targetAfter, hcatalogs.toBetween, ?_, ?_,
    pruneSkipped_of_reconcile h⟩
  · rintro ns key ⟨hprune, searchable, hasked⟩
    refine hcatalogs.removed ns key fun hkeeps => ?_
    rcases hkeeps with hasks | ⟨hrule, -⟩
    · exact hasked (asked_iff.2 hasks)
    · rw [(project.prune_ruleIn outcomes before).2 ⟨hprune, searchable⟩] at hrule
      cases hrule
  · intro ns key hpresent hremoves
    refine hcatalogs.kept ns key ((keeps_iff_of_isSome hpresent).2 ?_)
    unfold Removes at hremoves
    rw [not_and_or, not_and_or, Bool.not_eq_true, not_not] at hremoves
    exact hremoves

/-- The small project with a second included path, which does not exist. -/
def smallPartial : Project :=
  { small with settings := { small.settings with includes := ["src", "lib"] } }

/-- The small project with a key that no file below `src` uses, and with a current index. -/
def smallElsewhere : Session :=
  { smallStart [("/p/locales", .directory),
      ("/p/locales/zh.json", .file (.text (smallCatalog "bye" "再见").text) 0),
      ("/p/locales/en.json", .file (.text (smallCatalog "bye" "Bye!").text) 0)] with
    index := small.indexOf (smallCatalog "bye" "再见") }

theorem runOn_reconcile_smallElsewhere :
    (smallPartial.reconcile []).runOn smallElsewhere
      = (.ok ⟨true, true, 1, false⟩, ((smallPartial.reconcile []).runOn smallElsewhere).2) :=
  SessionAction.runOn_eq_ok (by decide +kernel)

/-- The keys of the small project after a reconciliation without the missing path. -/
theorem prunes_small_of_reconcile :
    ∃ source target sourceAfter targetAfter, smallPartial.Prunes [] smallElsewhere
      ((smallPartial.reconcile []).runOn smallElsewhere).2 ⟨true, true, 1, false⟩ source target
      sourceAfter targetAfter :=
  prunes_of_reconcile runOn_reconcile_smallElsewhere (.inl (by decide +kernel))

/-- **A missing included path does not keep the keys in use below it**: the survey counts as
complete, and the key goes. -/
theorem not_sparesAll_of_uncovered :
    ¬∀ (project : Project) (outcomes : List Outcome) (before after : Session)
      (reconciliation : Reconciliation) (source target sourceAfter targetAfter : Catalog),
      project.settings.fault? = none →
      (project.reconcile outcomes).runOn before = (.ok reconciliation, after) →
      project.Uncovered before.files →
      project.Between before after source target sourceAfter targetAfter →
      (project.surveyOf outcomes before).isComplete = false
        ∧ (∀ ns key, (source.get? ns key).isSome ∨ (target.get? ns key).isSome →
          (sourceAfter.get? ns key).isSome ∧ (targetAfter.get? ns key).isSome)
        ∧ (project.settings.prune = true → reconciliation.pruneSkipped = true) := by
  intro hall
  have huncovered : smallPartial.Uncovered smallElsewhere.files :=
    .inl ⟨"/p/lib", by decide +kernel⟩
  have apart : smallPartial.locales.Apart smallElsewhere.files.workingDirectory := by
    decide +kernel
  obtain ⟨_, _, _, _, hsettles⟩ := exists_settles runOn_reconcile_smallElsewhere (.inl apart)
  have hskipped := (hall _ _ _ _ _ _ _ _ _ (by decide +kernel) runOn_reconcile_smallElsewhere
    huncovered hsettles.toBetween).2.2 rfl
  exact absurd hskipped (by decide)

end Project

/-! ## Included paths that do not exist -/

namespace SourceScope

/-- **An included path that does not exist changes nothing** of what is walked, unless it is the
only one. -/
theorem files_of_missing (scope : SourceScope) {tree : FileTree} {first last : List String}
    {included path : String} (hmissing : scope.include? tree included = .missing path)
    (hother : first ++ last ≠ []) :
    files { scope with includes := first ++ included :: last } tree
      = files { scope with includes := first ++ last } tree := by
  have hstarts : starts { scope with includes := first ++ included :: last } tree
      = starts { scope with includes := first ++ last } tree := by
    unfold starts inclusions
    rw [if_neg (by simp), if_neg (by simpa using hother)]
    have hsame : include? { scope with includes := first ++ included :: last } tree
        = include? { scope with includes := first ++ last } tree := rfl
    have hnone : include? { scope with includes := first ++ last } tree included
        = .missing path := hmissing
    rw [hsame, List.map_append, List.map_append, List.map_cons, List.flatMap_append,
      List.flatMap_append, List.flatMap_cons, hnone]
    rfl
  unfold files
  rw [hstarts]
  rfl

end SourceScope

namespace Project

/-- The project with other included paths. -/
def including (project : Project) (includes : List String) : Project :=
  { project with settings := { project.settings with includes } }

/-- **A survey does not show that an included path does not exist.** -/
theorem surveyOf_of_missing (project : Project) (outcomes : List Outcome) {session : Session}
    {first last : List String} {included path : String}
    (hmissing : project.scope.include? session.files included = .missing path)
    (hother : first ++ last ≠ []) :
    (project.including (first ++ included :: last)).surveyOf outcomes session
      = (project.including (first ++ last)).surveyOf outcomes session := by
  have hsearched : (project.including (first ++ included :: last)).searched session.files
      = (project.including (first ++ last)).searched session.files :=
    congrArg Dictionary.keys (project.scope.files_of_missing hmissing hother)
  unfold surveyOf
  rw [hsearched]
  rfl

end Project

end Phrasebook

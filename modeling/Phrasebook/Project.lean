import Phrasebook.Pending
import Phrasebook.Reconciliation
import Phrasebook.Settings.Validity
import Phrasebook.Ticker
import Phrasebook.Translator

/-!
# Projects at work

A project has settings and a root. A session holds what changes while work goes on: the files, the
index, the pending phrases, and the time in milliseconds. In a session units are rewritten, which
makes phrases pending, and pending phrases are translated in a flush: each phrase once, all within
one timeout. The locale files then take up the translations, and the index follows them.

Models the translation coordinator (specification, section 4.3) with the build context that owns it
(section 9).
-/

namespace Phrasebook

/-! ## Flushes -/

/-- What a flush did. -/
structure Flush where
  /-- The number of phrases that were to be translated. -/
  requested : Nat
  outcomes : List Outcome
  conflicts : List Conflict
  failures : List PhraseFailure
  /-- The files that the phrases were found in. -/
  affected : TextSet
  timedOut : Bool
  reconciliation : Option Reconciliation
  deriving DecidableEq

/-- There was nothing to translate. -/
def Flush.isEmpty (flush : Flush) : Bool := flush.requested == 0

/-! ## Sessions -/

/-- A project. -/
structure Project where
  settings : Settings
  root : String
  deriving DecidableEq, Repr

/-- What changes while work goes on. -/
structure Session where
  files : FileTree
  index : PhraseIndex
  pending : Pending
  /-- How often the index followed the locale files. -/
  version : Nat
  now : Nat
  ticker : Ticker
  /-- What was odd about the included and ignored paths, whenever they were gone through. -/
  notices : List String
  deriving DecidableEq

/-- A step of work. What it changed before a problem stays changed. -/
abbrev SessionAction := ExceptT Problem (StateM Session)

namespace SessionAction

variable {α : Type}

/-- What a step gives, and the session after it. -/
def runOn (action : SessionAction α) (session : Session) : Except Problem α × Session :=
  StateT.run (ExceptT.run action) session

/-- The session. -/
def session : SessionAction Session := get

/-- An action on the files of the session. -/
def onFiles (action : FileAction α) : SessionAction α := do
  let session ← get
  let (found, files) := action.runOn session.files
  set { session with files }
  match found with
  | .ok value => pure value
  | .error problem => throw problem

/-- Lets time pass. -/
def wait (time : Nat) : SessionAction Unit :=
  modify fun session => { session with now := session.now + time }

/-- Waits for a time, unless it has passed. -/
def waitUntil (time : Nat) : SessionAction Unit :=
  modify fun session => { session with now := max session.now time }

/-- Waits for the next tick. -/
def awaitTick : SessionAction Unit :=
  modify fun session =>
    { session with
      now := session.ticker.fireTime session.now
      ticker := session.ticker.fired session.now }

end SessionAction

namespace Project

open SessionAction

/-- The locale files. -/
def locales (project : Project) : Locales := project.settings.locales project.root

/-- Where the sources are. -/
def scope (project : Project) : SourceScope := project.settings.scope project.root

/-- How units are searched for marker calls. -/
def rules (project : Project) : MarkerRules := project.settings.markerRules

/-- The index of a source catalog. -/
def indexOf (project : Project) (catalog : Catalog) : PhraseIndex :=
  PhraseIndex.ofCatalog catalog project.settings.keyLanguage project.settings.untranslated

/-- The index of the source file. -/
def loadIndex (project : Project) : FileAction PhraseIndex := do
  pure (project.indexOf (← project.locales.loadSource))

/-- Starts to work on files. -/
def start (project : Project) (files : FileTree) : Except Problem Session :=
  (project.loadIndex.runOn files).1.map fun index =>
    ⟨files, index, Pending.empty, 0, 0, Ticker.start 0 project.settings.interval, []⟩

/-- Brings the index in line with the source file. -/
def refresh (project : Project) : SessionAction Unit := do
  let index ← onFiles project.loadIndex
  modify fun session => { session with index }

/-- The source files. What is odd about the included and ignored paths is noted. -/
def sourceFiles (project : Project) : SessionAction (List String) := do
  modify fun session =>
    { session with notices := session.notices ++ project.scope.warnings session.files }
  pure (project.scope.files (← session).files).keys

/-- The keys in use, by the outcomes and then by the index. -/
def survey (project : Project) (outcomes : List Outcome) : SessionAction Survey := do
  let files ← project.sourceFiles
  let session ← session
  pure (Survey.ofFiles project.scope project.rules (Survey.keyOf? outcomes session.index)
    session.files files)

/-- Brings the locale files in line with outcomes and the keys in use, and the index with the
locale files if they changed. -/
def reconcile (project : Project) (outcomes : List Outcome) : SessionAction Reconciliation := do
  let survey ← project.survey outcomes
  let reconciliation ←
    onFiles (Reconciliation.run project.locales project.settings.merge outcomes survey)
  if reconciliation.isWritten then
    project.refresh
    modify fun session => { session with version := session.version + 1 }
  pure reconciliation

/-- Makes a phrase pending. -/
def enqueue (phrase ns file : String) : SessionAction Unit :=
  modify fun session => { session with pending := session.pending.add phrase ns file }

/-- Rewrites a unit. In development, its phrases without a key become pending; in production they
are a problem. -/
def rewrite (project : Project) (mode : BuildMode) (unit : SourceUnit) :
    SessionAction Rewriting := do
  match project.rules.rewriteIn mode (← session).index unit with
  | .error problem => throw problem
  | .ok rewriting => do
    if mode = .development then
      modify fun session =>
        { session with pending := session.pending.addUnresolved rewriting.unresolved }
    pure rewriting

/-- Rewrites a unit and lists its phrases without a key. In development they become pending. -/
def rewriteCollecting (project : Project) (mode : BuildMode) (unit : SourceUnit) :
    SessionAction Rewriting := do
  match project.rules.rewrite (← session).index unit with
  | .error problem => throw problem
  | .ok rewriting => do
    if mode = .development then
      modify fun session =>
        { session with pending := session.pending.addUnresolved rewriting.unresolved }
    pure rewriting

/-! ## Flushing -/

/-- The candidates of the translated phrases, one for each namespace. -/
def candidatesOf (project : Project) (translator : Translator) (pending : Pending) :
    List Candidate :=
  pending.pairs.filterMap fun (phrase, ns) =>
    match (translator phrase).result with
    | .ok translation => some (project.settings.wording.candidate phrase ns translation)
    | .error _ => none

/-- Translates phrases that were pending. -/
def flushPending (project : Project) (translator : Translator) (pending : Pending) :
    SessionAction Flush := do
  let phrases := pending.phrases
  let report : Flush := ⟨phrases.length, [], [], [], pending.files, false, none⟩
  if phrases.isEmpty then pure report
  else if translator.batchTime phrases > project.settings.timeout then
    wait project.settings.timeout
    pure { report with timedOut := true }
  else
    wait (translator.batchTime phrases)
    let (outcomes, conflicts) :=
      Outcome.assign (← session).index (project.candidatesOf translator pending)
    let reconciliation ←
      if outcomes.isEmpty then pure none else some <$> project.reconcile outcomes
    pure { report with
      outcomes, conflicts, failures := translator.failuresOf phrases, reconciliation }

/-- Translates the pending phrases; none is pending afterwards. -/
def flush (project : Project) (translator : Translator) : SessionAction Flush := do
  let pending := (← session).pending
  modify fun session => { session with pending := Pending.empty }
  project.flushPending translator pending

end Project

end Phrasebook

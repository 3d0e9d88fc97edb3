import Phrasebook.Survey

/-!
# Feeds

A feed holds the latest rewriting of each file, or why the file could not be rewritten. A file has
one or the other.

Models the table of rewritten files that `build` and `watch` keep, and how a file is fed to it.
-/

namespace Phrasebook

/-- What became of some files. -/
structure Feed where
  outputs : Dictionary Rewriting
  failures : List FileFailure
  deriving DecidableEq

/-- The numbers of a feed. -/
structure FeedSummary where
  files : Nat
  changedFiles : Nat
  replaced : Nat
  unresolved : Nat
  deriving DecidableEq, Repr

namespace Feed

/-- A feed of no files. -/
def empty : Feed := ⟨Dictionary.empty, []⟩

instance : Inhabited Feed := ⟨empty⟩

/-! ## Results of files -/

/-- Forgets that a file could not be rewritten. -/
def withoutFailure (feed : Feed) (file : String) : Feed :=
  { feed with failures := feed.failures.filter (·.file != file) }

/-- The file was rewritten. -/
def accept (feed : Feed) (file : String) (rewriting : Rewriting) : Feed :=
  { feed.withoutFailure file with outputs := feed.outputs.insert file rewriting }

/-- The file could not be rewritten. -/
def reject (feed : Feed) (file message : String) : Feed :=
  ⟨feed.outputs.erase file, (feed.withoutFailure file).failures ++ [⟨file, message⟩]⟩

/-- Takes in the result of a file. Problems with the script are noted, all others are passed on;
what was known of the rewriting stays then. -/
def take (feed : Feed) (file : String) (found : Except Problem Rewriting) :
    Feed × Option Problem :=
  match found with
  | .ok rewriting => (feed.accept file rewriting, none)
  | .error (.script path detail?) =>
    (feed.reject file (Problem.script path detail?).message, none)
  | .error problem => (feed.withoutFailure file, some problem)

/-- Forgets the rewritings of other files. -/
def retain (feed : Feed) (keep : String → Bool) : Feed :=
  { feed with outputs := feed.outputs.filter fun file _ => keep file }

/-! ## Views -/

/-- The phrases without a key in the rewritten files, file by file. -/
def unresolved (feed : Feed) : List Unresolved := feed.outputs.values.flatMap (·.unresolved)

/-- The numbers of a feed. -/
def summary (feed : Feed) : FeedSummary where
  files := feed.outputs.size
  changedFiles := feed.outputs.values.countP Rewriting.isChanged
  replaced := feed.outputs.total Rewriting.replaced
  unresolved := feed.unresolved.length

/-- The failures of some files. -/
def failuresIn (feed : Feed) (files : TextSet) : List FileFailure :=
  feed.failures.filter fun failure => files.contains failure.file

end Feed

end Phrasebook

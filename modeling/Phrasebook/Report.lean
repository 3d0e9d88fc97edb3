import Phrasebook.Feed
import Phrasebook.Project
import Phrasebook.Report.Printed
import Phrasebook.Report.Style
import Phrasebook.Text.DisplayWidth

/-!
# Reports

What the commands tell about their work, line by line. A phrase without a key is shown with its
source line and a caret below the start of its marker call; the caret stands after as many columns
as the text before the call takes on a terminal. Where these are too many to pad a line by, the
report breaks off.

Models what the commands print (specification, sections 7 and 12).
-/

namespace Phrasebook

/-- How grave it is that a phrase has no key. -/
inductive Severity where
  | error
  | warning
  deriving DecidableEq, Repr

/-- A report in colours or without. -/
structure Report where
  colored : Bool
  deriving DecidableEq, Repr

namespace Severity

/-- The name of a severity. -/
def name : Severity → String
  | .error => "error"
  | .warning => "warning"

/-- The colour of a severity. -/
def color : Severity → Color
  | .error => .red
  | .warning => .yellow

end Severity

/-- Locations in the order of files, lines and columns. -/
def Location.isUpTo (first second : Location) : Bool :=
  if first.file ≠ second.file then first.file < second.file
  else if first.line ≠ second.line then first.line < second.line
  else first.column ≤ second.column

namespace Report

/-! ## Parts of lines -/

/-- What stands before good news. -/
def successMark : String := "✓"

/-- What stands before bad news. -/
def failureMark : String := "✘"

/-- Spaces. -/
def spaces (count : Nat) : String := String.ofList (List.replicate count ' ')

/-- A text at the right end of some columns. -/
def alignRight (width : Nat) (text : String) : String := spaces (width - text.length) ++ text

/-- The word for one thing or for several. -/
def plural (count : Nat) (one several : String) : String := if count = 1 then one else several

/-- A number of things. -/
def counted (count : Nat) (one several : String) : String :=
  toString count ++ " " ++ plural count one several

/-- A number of phrases. -/
def phrases (count : Nat) : String := counted count "phrase" "phrases"

/-- A text in a colour. -/
def inColor (report : Report) (color : Color) (text : String) : String :=
  (Style.plain color).paint report.colored text

/-- A text in a strong colour. -/
def inStrong (report : Report) (color : Color) (text : String) : String :=
  (Style.strong color).paint report.colored text

/-- A line of good news. -/
def success (report : Report) (text : String) : String :=
  report.inColor .green successMark ++ " " ++ report.inColor .green text ++ "\n"

/-- A line of bad news. -/
def failure (report : Report) (text : String) : String :=
  report.inColor .red failureMark ++ " " ++ text ++ "\n"

/-- A line of warning. -/
def warning (report : Report) (text : String) : String :=
  report.inStrong .yellow "warning:" ++ " " ++ text ++ "\n"

/-! ## Phrases without a key -/

/-- The name of a finding. -/
def finding (report : Report) (name : String) : String :=
  (Style.mk (some .dimmed) (some .cyan)).paint report.colored name

/-- The columns before the start of a marker call. -/
def caretColumn (phrase : Unresolved) : Nat :=
  Text.displayWidth
    (String.ofList (phrase.sourceLine.toList.take (phrase.location.column - 1)))

/-- The caret of a phrase would stand too far to the right for a line to be padded that much. -/
def isTooFar (phrase : Unresolved) : Bool := Printed.maxPadding < caretColumn phrase

/-- The line with the caret of a phrase. -/
def caretLine (report : Report) (severity : Severity) (width : Nat) (phrase : Unresolved) :
    Printed :=
  if isTooFar phrase then .stopped
  else
    .ofText (spaces width ++ " " ++ report.inColor .blue "|" ++ " " ++ spaces (caretColumn phrase)
      ++ report.inColor severity.color "^" ++ "\n")

/-- The source line of a phrase with a caret below. -/
def sourceLine (report : Report) (severity : Severity) (width : Nat) (phrase : Unresolved) :
    Printed :=
  let bar := report.inColor .blue "|"
  if phrase.sourceLine = "" then .ofText ""
  else
    .ofText (spaces width ++ " " ++ bar ++ "\n"
        ++ report.inColor .blue (alignRight width (toString phrase.location.line)) ++ " " ++ bar
        ++ " " ++ phrase.sourceLine ++ "\n")
      ++ report.caretLine severity width phrase

/-- A phrase without a key. -/
def phrase (report : Report) (severity : Severity) (width : Nat) (phrase : Unresolved) : Printed :=
  .ofText (report.inStrong severity.color severity.name ++ ": " ++ quoted phrase.phrase ++ "  "
      ++ report.finding "missing-translation" ++ "\n"
      ++ "  " ++ report.inColor .blue "-->" ++ " " ++ phrase.location.text ++ "\n")
    ++ report.sourceLine severity width phrase
    ++ .ofText (spaces width ++ " " ++ report.inColor .blue "=" ++ " "
      ++ (Style.mk (some .bold) none).paint report.colored "note:"
      ++ " namespace " ++ quoted phrase.ns ++ "\n\n")

/-- The columns of the longest line number. -/
def lineNumberWidth (unresolved : List Unresolved) : Nat :=
  (unresolved.map fun phrase => (toString phrase.location.line).length).foldl max 0

/-- Phrases without a key, in the order of their locations. -/
def unresolved (report : Report) (severity : Severity) (unresolved : List Unresolved) : Printed :=
  let sorted := unresolved.mergeSort fun first second => first.location.isUpTo second.location
  .join (sorted.map (report.phrase severity (lineNumberWidth unresolved)))

/-- A build ended because of phrases without a key. -/
def aborted (report : Report) (count : Nat) : String :=
  report.inStrong .red "error:" ++ " " ++ phrases count
    ++ " without a translation, build aborted\n"

/-! ## Files, flushes and locale files -/

/-- Files that could not be rewritten, with or without details. -/
def failures (report : Report) (detailed : Bool) (failures : List FileFailure) : String :=
  if failures.isEmpty then ""
  else if detailed then String.join (failures.map fun failure => report.warning failure.message)
  else
    report.warning (toString failures.length ++ " file(s) could not be parsed (use "
      ++ report.inColor .cyan "-v" ++ " for details)")

/-- A conflict between two phrases, with a hint. -/
def conflict (report : Report) (conflict : Conflict) : String :=
  report.inStrong .yellow "warning" ++ ": key " ++ quoted conflict.key ++ " in namespace "
    ++ quoted conflict.ns ++ " is used by " ++ quoted conflict.existing ++ " and "
    ++ quoted conflict.phrase ++ "  " ++ report.finding "translation-conflict" ++ "\n"
    ++ "  " ++ report.inColor .blue "=" ++ " " ++ report.inStrong .cyan "hint:"
    ++ " the second phrase was stored with a __CONFLICT__ suffix; fix the key by hand\n"

/-- What a flush did. -/
def flush (report : Report) (flush : Flush) : String :=
  if flush.isEmpty then ""
  else if flush.timedOut then
    report.warning ("translation of " ++ phrases flush.requested ++ " timed out")
  else
    report.success ("Translated " ++ phrases flush.outcomes.length)
      ++ (if flush.failures.isEmpty then ""
        else report.failure (report.inColor .red
          (phrases flush.failures.length ++ " could not be translated")))
      ++ String.join (flush.conflicts.map report.conflict)

/-- What a reconciliation did. -/
def reconciliation (report : Report) (reconciliation : Reconciliation) : String :=
  (if reconciliation.pruneSkipped then
    report.warning "some source files could not be parsed, unused keys were kept"
  else "")
    ++ report.success
      (if !reconciliation.isWritten then "Locale files are up to date"
      else if reconciliation.pruned = 0 then "Updated locale files"
      else
        "Updated locale files, pruned " ++ toString reconciliation.pruned ++ " unused "
          ++ plural reconciliation.pruned "key" "keys")

/-- The numbers of a feed, whose rewritings were written or not. -/
def summary (report : Report) (written : Bool) (summary : FeedSummary) : String :=
  let text :=
    (if written then "Rewrote " else "Would rewrite ")
      ++ counted summary.replaced "marker" "markers" ++ " in "
      ++ counted summary.changedFiles "file" "files" ++ " ("
      ++ toString summary.files ++ " source " ++ plural summary.files "file" "files"
      ++ " checked)"
  if summary.unresolved = 0 then report.success text
  else
    report.failure text
      ++ report.failure (phrases summary.unresolved ++ " without a translation")

end Report

end Phrasebook

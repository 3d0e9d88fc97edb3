import Phrasebook.Proofs.Catalog
import Phrasebook.Proofs.Json.Extension

/-!
# Catalogs and their texts

A catalog is read back from the text it is written as. So two catalogs with one text are one
catalog, and a file that holds the text of a catalog holds that catalog.

Results:
* `Catalog.ofText_text`: the text of a catalog is read as that catalog.
* `Catalog.text_injective`: different catalogs have different texts.
* `Catalog.eq_of_ofText_prefix`: a first part of the text is read as the empty catalog, as that
  catalog, or not at all.
-/

namespace Phrasebook.Catalog

open Json

/-- Reads the value of a key into the keys of its namespace. -/
def keyEntry (key : String) (keys : Dictionary String) : Reader (Dictionary String) := do
  Reader.colon
  pure (keys.insert key (← Reader.text))

/-- The line of a key, in two parts. -/
def keyLine (item : String × String) : String × List Char :=
  (item.1, afterKey 2 (.text item.2))

theorem reads_keyEntry (item : String × String) (keys : Dictionary String) :
    Reads (keyEntry (keyLine item).1 keys) (keyLine item).2 (keys.insert item.1 item.2) := by
  have hvalue := (reads_text blank_space item.2).map fun value => keys.insert item.1 value
  have htext : (keyLine item).2 = [':'] ++ ([' '] ++ quoteChars item.2) := by
    unfold keyLine afterKey
    dsimp only
    rw [Value.prettyAt, toList_quote]
    rfl
  rw [htext]
  exact reads_colon.bind hvalue

/-- The keys of a namespace as a JSON value. -/
def keysJson (keys : Dictionary String) : Value :=
  .object (keys.toList.map fun (key, value) => (key, .text value))

theorem toList_prettyAt_keysJson (keys : Dictionary String) :
    ((keysJson keys).prettyAt 1).toList = objectLines 1 (keys.toList.map keyLine) := by
  unfold keysJson
  rw [toList_prettyAt_object, List.map_map]
  rfl

/-- The keys of a namespace are read back. -/
theorem reads_namespaceReader (keys : Dictionary String) :
    Reads namespaceReader ([' '] ++ ((keysJson keys).prettyAt 1).toList) keys := by
  have hread := reads_object reads_keyEntry blank_space 1 keys.toList Dictionary.empty
  rw [toList_prettyAt_keysJson]
  rw [Dictionary.foldl_insert_toList keys] at hread
  exact hread

/-- Reads the keys of a namespace into a catalog. -/
def namespaceEntry (ns : String) (catalog : Catalog) : Reader Catalog := do
  Reader.colon
  pure ⟨catalog.namespaces.insert ns (← namespaceReader)⟩

/-- The lines of a namespace, in two parts. -/
def namespaceLines (item : String × Dictionary String) : String × List Char :=
  (item.1, afterKey 1 (keysJson item.2))

theorem reads_namespaceEntry (item : String × Dictionary String) (catalog : Catalog) :
    Reads (namespaceEntry (namespaceLines item).1 catalog) (namespaceLines item).2
      ⟨catalog.namespaces.insert item.1 item.2⟩ := by
  have hkeys := (reads_namespaceReader item.2).map fun keys =>
    (⟨catalog.namespaces.insert item.1 keys⟩ : Catalog)
  exact reads_colon.bind hkeys

/-- The text of a catalog without its line end is read back. -/
theorem reads_reader (catalog : Catalog) :
    Reads reader catalog.toJson.pretty.toList catalog := by
  have hread := reads_object reads_namespaceEntry blank_nil 0 catalog.namespaces.toList empty
  have hfold : ∀ (items : List (String × Dictionary String)) (start : Catalog),
      items.foldl (fun catalog item => ⟨catalog.namespaces.insert item.1 item.2⟩) start
        = ⟨items.foldl (fun found item => found.insert item.1 item.2) start.namespaces⟩ := by
    intro items
    induction items with
    | nil => intro start; rfl
    | cons item items ih => intro start; exact ih _
  rw [hfold, empty, Dictionary.foldl_insert_toList] at hread
  unfold Value.pretty toJson
  rw [toList_prettyAt_object, List.map_map]
  exact hread

theorem isBlankText_text (catalog : Catalog) : Text.isBlankText catalog.text = false := by
  have hhead : ∃ rest, catalog.toJson.pretty.toList = '{' :: rest := by
    unfold Value.pretty toJson
    rw [toList_prettyAt_object]
    cases catalog.namespaces.toList <;> exact ⟨_, rfl⟩
  obtain ⟨rest, hrest⟩ := hhead
  unfold Text.isBlankText text
  rw [String.toList_append, hrest]
  rfl

/-- **The text of a catalog is read as that catalog.** -/
theorem ofText_text (catalog : Catalog) : ofText catalog.text = .ok catalog := by
  have hread : StateT.run reader catalog.text.toList = .ok (catalog, ['\n']) := by
    have hlines := reads_reader catalog ['\n']
    rwa [← show catalog.text.toList = catalog.toJson.pretty.toList ++ ['\n'] from
      String.toList_append] at hlines
  unfold ofText
  rw [isBlankText_text, if_neg Bool.false_ne_true]
  unfold Reader.run
  rw [hread]
  rfl

/-- **Different catalogs have different texts.** -/
theorem text_injective {first second : Catalog} (h : first.text = second.text) :
    first = second := by
  have hread := ofText_text first
  rw [h, ofText_text second] at hread
  exact (Except.ok.inj hread).symm

/-! ## First parts of a text -/

theorem extends_namespaceReader (text : List Char) : Extends namespaceReader text :=
  extends_object (fun _ _ text => (extends_colon text).bind fun _ rest _ =>
    (extends_text rest).bind fun _ _ _ => extends_pure _ _) _ text

theorem extends_reader (text : List Char) : Extends reader text :=
  extends_object (fun _ _ text => (extends_colon text).bind fun _ rest _ =>
    (extends_namespaceReader rest).bind fun _ _ _ => extends_pure _ _) _ text

/-- **A first part of the text of a catalog** is no text of another catalog but the empty one, which
a blank file holds. -/
theorem eq_of_ofText_prefix {catalog found : Catalog} {front back : List Char}
    (htext : catalog.text.toList = front ++ back)
    (hfound : ofText (String.ofList front) = .ok found) : found = empty ∨ found = catalog := by
  unfold ofText at hfound
  split at hfound
  · exact .inl (Except.ok.inj hfound).symm
  · right
    unfold Reader.run at hfound
    rw [String.toList_ofList] at hfound
    cases hrun : StateT.run reader front with
    | error defect => rw [hrun] at hfound; cases hfound
    | ok read =>
      unfold text at htext
      rw [String.toList_append] at htext
      have hvalue := eq_of_reads_of_run (reads_reader catalog) htext (extends_reader front) hrun
      rw [hrun] at hfound
      simp only [bind, Except.bind] at hfound
      split at hfound
      · exact (Except.ok.inj hfound).symm.trans hvalue
      · cases hfound

end Phrasebook.Catalog

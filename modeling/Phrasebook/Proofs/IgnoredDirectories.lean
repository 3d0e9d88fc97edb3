import Phrasebook.Proofs.PathSteps
import Phrasebook.Settings.Validity

/-!
# Ignored directories

A walk enters every directory but vendor ones, and what is ignored is decided at each file alone. So
an ignored directory hides what is below it only if the ignored path also covers the files there. A
literal path does: it covers all paths that start with it. A pattern does if it ends with a star,
which takes up everything that follows. Another pattern that matches a directory may match nothing
below it.

Results:
* `Glob.Pattern.accepts_append`: a pattern that ends with a star accepts longer texts with a text.
* `Glob.isAbsolute_of_mem_expand`: an absolute pattern is expanded to absolute paths.
* `SourceScope.steps_resolve_of_mem_walked`: the name of a walked file leads back to its path.
* `SourceScope.files_of_ignores`: which source files ignored paths leave out.
* `SourceScope.not_hidden_of_ignores`: a pattern that matches a directory may hide nothing below it.
-/

namespace Phrasebook

/-! ## Patterns that end with a star -/

namespace Glob

/-- The part takes up any characters. -/
def Token.isStar : Token → Bool
  | .anyChars | .directories => true
  | _ => false

namespace Pattern

/-- The pattern ends with a star. -/
def endsOpen (pattern : Pattern) : Bool := pattern.getLast?.any Token.isStar

/-- A condition that holds of a longer text later on. -/
theorem holdsLater_append {condition : List Char → Bool} {text : List Char} (more : List Char)
    (hmore : ∀ rest, condition rest = true → condition (rest ++ more) = true)
    (h : holdsLater condition text = true) : holdsLater condition (text ++ more) = true := by
  induction text with
  | nil =>
    have hhere := hmore [] h
    cases more with
    | nil => exact hhere
    | cons c rest => exact Bool.or_eq_true_iff.2 (.inl hhere)
  | cons c rest ih =>
    rw [holdsLater, Bool.or_eq_true] at h
    rw [List.cons_append, holdsLater, Bool.or_eq_true]
    exact h.imp (hmore (c :: rest)) ih

/-- What holds at the end of every text holds of a rest of it. -/
theorem holdsBelow_of_nil {condition : List Char → Bool} (h : condition [] = true)
    (text : List Char) : holdsBelow condition text = true := by
  induction text with
  | nil => exact h
  | cons c rest ih => simp [holdsBelow, ih]

theorem holdsBelow_append {condition : List Char → Bool} {text : List Char} (more : List Char)
    (hmore : ∀ rest, condition rest = true → condition (rest ++ more) = true)
    (h : holdsBelow condition text = true) : holdsBelow condition (text ++ more) = true := by
  induction text with
  | nil => exact @holdsBelow_of_nil condition h more
  | cons c rest ih =>
    rw [holdsBelow, Bool.or_eq_true, Bool.and_eq_true] at h
    rw [List.cons_append, holdsBelow, Bool.or_eq_true, Bool.and_eq_true]
    exact h.imp (And.imp_right (hmore rest)) ih

/-- A star alone takes up every text. -/
theorem matchesChars_star {token : Token} (h : token.isStar = true) (text : List Char) :
    matchesChars [token] text = true := by
  cases token with
  | anyChars =>
    rw [matchesChars]
    induction text with
    | nil => rfl
    | cons c rest ih => simp [holdsLater, ih]
  | directories =>
    rw [matchesChars]
    exact Bool.or_eq_true_iff.2 (.inr (holdsBelow_of_nil rfl text))
  | _ => cases h

/-- **A pattern that ends with a star matches what goes on after a text that it matches.** -/
theorem matchesChars_append {pattern : Pattern} (hopen : pattern.endsOpen = true)
    {text : List Char} (h : matchesChars pattern text = true) (more : List Char) :
    matchesChars pattern (text ++ more) = true := by
  induction pattern generalizing text with
  | nil => cases hopen
  | cons token rest ih =>
    cases rest with
    | nil => exact matchesChars_star (by simpa [endsOpen] using hopen) _
    | cons second rest =>
      have hrest : ∀ text, matchesChars (second :: rest) text = true →
          matchesChars (second :: rest) (text ++ more) = true := fun text =>
        ih (by simpa [endsOpen] using hopen)
      cases token with
      | anyChars =>
        rw [matchesChars] at h ⊢
        exact holdsLater_append more hrest h
      | directories =>
        rw [matchesChars, Bool.or_eq_true] at h ⊢
        exact h.imp (hrest text) (holdsBelow_append more hrest)
      | _ =>
        -- Any other part takes up one character.
        cases text with
        | nil => simp [matchesChars] at h
        | cons c text =>
          rw [List.cons_append]
          simp only [matchesChars, Bool.and_eq_true] at h ⊢
          first
            | exact hrest text h
            | exact ⟨h.1, hrest text h.2⟩

theorem accepts_append {pattern : Pattern} (hopen : pattern.endsOpen = true) {text : String}
    (h : pattern.accepts text = true) (more : String) :
    pattern.accepts (text ++ more) = true := by
  unfold accepts at h ⊢
  rw [String.toList_append]
  exact matchesChars_append hopen h more.toList

end Pattern

/-! ## Absolute patterns -/

namespace Expansion

variable {expansion : Expansion} {enter : List Pattern → String → List String}
  {parts : List Pattern} {path found : String}

theorem eq_of_mem_accept (h : found ∈ expansion.accept path) : found = path := by
  unfold accept at h
  split at h
  · cases h
  · exact List.mem_singleton.1 h

/-- What a matched name leads to is the entry itself or what later parts find from there. -/
theorem of_mem_matchName (h : found ∈ expansion.matchName enter parts path) :
    found = path ∨ ∃ later, found ∈ enter later path := by
  unfold matchName at h
  split at h
  · split at h
    · split at h
      · exact .inl (eq_of_mem_accept h)
      · exact .inr ⟨_, h⟩
    · cases h
  · cases h

theorem of_mem_visit (h : found ∈ expansion.visit enter parts path) :
    found = path ∨ ∃ later, found ∈ enter later path := by
  unfold visit at h
  split at h
  · cases h
  · split at h
    · dsimp only at h
      split at h
      · rcases List.mem_append.1 h with h | h
        · exact .inr ⟨_, h⟩
        · split at h
          · exact .inl (List.mem_singleton.1 h)
          · exact of_mem_matchName h
      · split at h
        · cases h
        · exact of_mem_matchName h
    · exact of_mem_matchName h

/-- **Every property that names keep** passes from the directory where parts start to all paths that
they lead to. -/
theorem of_mem_enterFor {property : String → Prop}
    (hstep : ∀ directory name, property directory → property (step directory name))
    (hjoin : ∀ directory name, property directory → property (Path.join directory name))
    {depth : Nat} {directory : String} (hdirectory : property directory)
    (h : found ∈ expansion.enterFor depth parts directory) : property found := by
  induction depth generalizing parts directory with
  | zero => cases h
  | succ depth ih =>
    cases parts with
    | nil => cases h
    | cons part rest =>
      -- What a path leads to if only the later parts are left.
      have honward : ∀ path, property path →
          found ∈ (if rest.isEmpty then expansion.accept path
            else expansion.enterFor depth rest path) → property found := by
        intro path hpath hfound
        split at hfound
        · exact eq_of_mem_accept hfound ▸ hpath
        · exact ih hpath hfound
      rw [enterFor] at h
      dsimp only at h
      split at h
      · split at h
        · exact honward _ (hstep _ _ hdirectory) h
        · cases h
      · split at h
        · rcases List.mem_append.1 h with h | h
          · obtain ⟨path, hpath, hfound⟩ := List.mem_flatMap.1 h
            have hproperty : property path := by
              unfold children at hpath
              split at hpath
              · obtain ⟨name, -, rfl⟩ := List.mem_map.1 hpath
                exact hstep _ _ hdirectory
              · cases hpath
            rcases of_mem_visit hfound with rfl | ⟨later, hlater⟩
            · exact hproperty
            · exact ih hproperty hlater
          · obtain ⟨path, hpath, hfound⟩ := List.mem_flatMap.1 h
            obtain ⟨name, -, rfl⟩ := List.mem_map.1 hpath
            exact honward _ (hjoin _ _ hdirectory) hfound
        · cases h

end Expansion

/-- **An absolute pattern is expanded to absolute paths.** -/
theorem isAbsolute_of_mem_expand {tree : FileTree} {text : String} {found : List String}
    (habsolute : Path.isAbsolute text = true) (h : expand tree text = .ok found) {path : String}
    (hpath : path ∈ found) : Path.isAbsolute path = true := by
  have hstep : ∀ directory name, Path.isAbsolute directory = true →
      Path.isAbsolute (Expansion.step directory name) = true := by
    intro directory name hdirectory
    unfold Expansion.step
    split
    · next hstart =>
      rw [hstart] at hdirectory
      cases hdirectory
    · exact Path.isAbsolute_join_of_left name hdirectory
  have hstart : Path.isAbsolute "/" = true := by decide
  unfold expand at h
  rw [habsolute] at h
  cases hpattern : Pattern.ofText text with
  | error fault => rw [hpattern] at h; cases h
  | ok pattern =>
    rw [hpattern] at h
    cases hpatterns : (parts (String.ofList (text.toList.dropWhile (· == '/')))).mapM
        Pattern.ofText with
    | error fault =>
      simp only [if_true, hpatterns] at h
      cases h
    | ok patterns =>
      simp only [if_true, hpatterns] at h
      cases h
      exact Expansion.of_mem_enterFor hstep
        (fun directory name => Path.isAbsolute_join_of_left name) hstart hpath

end Glob

/-! ## Walks -/

namespace FileTree

/-- The entries below a place have names. -/
theorem isLater_of_mem_below {tree : FileTree} {place names : Place} {entry : FileEntry}
    (h : (names, entry) ∈ tree.below place) {name : String} (hname : name ∈ names) :
    Path.IsLater (.entry name) := by
  unfold below toList at h
  obtain ⟨⟨other, found⟩, hother, hbelow⟩ := List.mem_filterMap.1 h
  obtain ⟨⟨path, _⟩, -, hpath⟩ := List.mem_map.1 hother
  cases hpath
  dsimp only at hbelow
  split at hbelow
  · cases hbelow
    exact Path.isLater_of_mem_names (List.mem_of_mem_drop hname)
  · cases hbelow

end FileTree

namespace SourceScope

variable {scope : SourceScope} {tree : FileTree}

/-- The paths of the files that walks come to. -/
def walked (scope : SourceScope) (tree : FileTree) : List String :=
  (scope.starts tree).flatMap (scope.walk tree)

/-- A walk stays below its start. -/
theorem isBelow_of_mem_walk {start path : String} (h : path ∈ scope.walk tree start) :
    Path.isBelow start path = true := by
  unfold walk at h
  split at h
  · cases h
  · rw [List.mem_singleton.1 h]
    exact Path.isBelow_refl start
  · split at h
    · cases h
    · obtain ⟨⟨names, entry⟩, hbelow, hpath⟩ := List.mem_filterMap.1 h
      have hnames : ∀ name ∈ names, Path.isAbsolute name = false := fun name hname =>
        (FileTree.isLater_of_mem_below hbelow hname).isAbsolute
      cases entry with
      | directory => cases hpath
      | file content stamp =>
        dsimp only at hpath
        split at hpath
        · cases hpath
        · cases hpath
          exact Path.isBelow_foldl_join start hnames

/-- Where walks start: at the project, at a literal included path, or at what a pattern is expanded
to. -/
theorem of_mem_starts {start : String} (h : start ∈ scope.starts tree) :
    start = scope.root ∨ ∃ included ∈ scope.includes,
      Glob.Pattern.isWild included = false ∧ start = Path.join scope.root included
        ∨ Glob.Pattern.isWild included = true ∧ ∃ found,
          Glob.expand tree (Path.join scope.root included) = .ok found ∧ start ∈ found := by
  obtain ⟨inclusion, hinclusion, hfound⟩ := List.mem_flatMap.1 h
  unfold inclusions at hinclusion
  split at hinclusion
  · rw [List.mem_singleton.1 hinclusion] at hfound
    exact .inl (List.mem_singleton.1 hfound)
  · obtain ⟨included, hincluded, rfl⟩ := List.mem_map.1 hinclusion
    refine .inr ⟨included, hincluded, ?_⟩
    unfold include? at hfound
    dsimp only at hfound
    by_cases hwild : Glob.Pattern.isWild included = true
    · rw [if_pos hwild] at hfound
      cases hexpand : Glob.expand tree (Path.join scope.root included) with
      | error fault => rw [hexpand] at hfound; cases hfound
      | ok found =>
        rw [hexpand] at hfound
        exact .inr ⟨hwild, found, rfl, hfound⟩
    · rw [if_neg hwild] at hfound
      by_cases hcontains : tree.contains (Path.join scope.root included) = true
      · rw [if_pos hcontains] at hfound
        exact .inl ⟨Bool.not_eq_true _ ▸ hwild, List.mem_singleton.1 hfound⟩
      · rw [if_neg hcontains] at hfound
        cases hfound

/-- The project is named from the root, or no pattern is included. Patterns that do not start at the
root are expanded to other paths than they start with. -/
def NamesPlainly (scope : SourceScope) : Prop :=
  Path.isAbsolute scope.root = true
    ∨ ∀ included ∈ scope.includes, Glob.Pattern.isWild included = false

/-- Walks start below the project or at an absolute path. -/
theorem isBelow_or_isAbsolute_of_mem_starts (hplain : scope.NamesPlainly) {start : String}
    (h : start ∈ scope.starts tree) :
    Path.isBelow scope.root start = true ∨ Path.isAbsolute start = true := by
  obtain rfl | ⟨included, hincluded, ⟨-, rfl⟩ | ⟨hwild, found, hexpand, hfound⟩⟩ := of_mem_starts h
  · exact .inl (Path.isBelow_refl _)
  · by_cases habsolute : Path.isAbsolute included = true
    · refine .inr ?_
      unfold Path.join
      rwa [habsolute]
    · exact .inl (Path.isBelow_join scope.root (Bool.not_eq_true _ ▸ habsolute))
  · have hroot := hplain.resolve_right fun hliteral => by
      rw [hliteral included hincluded] at hwild
      cases hwild
    exact .inr (Glob.isAbsolute_of_mem_expand (Path.isAbsolute_join_of_left included hroot) hexpand
      hfound)

/-- **The name of a walked file leads back to its path.** -/
theorem steps_resolve_of_mem_walked (hplain : scope.NamesPlainly) {path : String}
    (h : path ∈ scope.walked tree) :
    Path.steps (scope.resolve (Path.relative scope.root path)) = Path.steps path := by
  obtain ⟨start, hstart, hwalk⟩ := List.mem_flatMap.1 h
  have hbelow := isBelow_of_mem_walk hwalk
  refine Path.steps_join_relative ?_
  rcases isBelow_or_isAbsolute_of_mem_starts hplain hstart with hroot | habsolute
  · exact .inl (Path.isBelow_trans hroot hbelow)
  · exact .inr (Path.isAbsolute_of_isBelow habsolute hbelow)

/-! ## Ignored paths -/

/-- An ignored path hides a file: it lies at the file or above it, or is a pattern that matches the
path of the file, as it is or relative to the project. -/
def Hides (scope : SourceScope) (ignored path : String) : Prop :=
  if Glob.Pattern.isWild ignored then
    ∃ pattern, Glob.Pattern.ofText ignored = .ok pattern
      ∧ (pattern.accepts (Path.relative scope.root path) = true ∨ pattern.accepts path = true)
  else Path.isBelow (scope.resolve ignored) path = true

theorem isIgnored_iff {path : String} :
    scope.isIgnored path = true ↔ ∃ ignored ∈ scope.ignores, scope.Hides ignored path := by
  unfold isIgnored Hides resolve
  rw [List.any_eq_true]
  refine exists_congr fun ignored => and_congr_right fun _ => ?_
  by_cases hwild : Glob.Pattern.isWild ignored = true
  · rw [if_pos hwild, if_pos hwild]
    cases Glob.Pattern.ofText ignored <;> simp
  · rw [if_neg hwild, if_neg hwild]

/-- The ignored path is a directory, whose name is relative to the project: it leads there, or is a
pattern that matches the name. -/
def Ignores (scope : SourceScope) (ignored directory : String) : Prop :=
  if Glob.Pattern.isWild ignored then
    ∃ pattern, Glob.Pattern.ofText ignored = .ok pattern ∧ pattern.accepts directory = true
  else Path.steps (scope.resolve ignored) = Path.steps (scope.resolve directory)

/-- What the ignored path is hides what is below it: a pattern has to end with a star, and the
project must name its files plainly for a literal path. -/
def IgnoresBelow (scope : SourceScope) (ignored : String) : Prop :=
  if Glob.Pattern.isWild ignored then
    ∀ pattern, Glob.Pattern.ofText ignored = .ok pattern → pattern.endsOpen = true
  else scope.NamesPlainly

/-- The name of a file goes on after that of a directory. -/
structure GoesOn (scope : SourceScope) (directory name : String) : Prop where
  text : ∃ more, name = directory ++ more
  steps : Path.isBelow (scope.resolve directory) (scope.resolve name) = true

theorem goesOn_join (scope : SourceScope) (directory : String) {rest : String}
    (h : Path.isAbsolute rest = false) : scope.GoesOn directory (Path.join directory rest) where
  text := (Path.join_eq_append directory h).elim (fun hjoin => ⟨_, hjoin⟩) fun hjoin => ⟨_, hjoin⟩
  steps := Path.isBelow_join_join scope.root directory h

theorem goesOn_of_isStraight (scope : SourceScope) {path : String} {directory rest : List String}
    (h : Path.IsStraight (Path.relative scope.root path) (directory ++ rest)) :
    scope.GoesOn (String.intercalate "/" directory) (Path.relative scope.root path) := by
  have hdirectory : Path.IsStraight (String.intercalate "/" directory) directory := by
    have hlater : ∀ step ∈ directory.map PathStep.entry, Path.IsLater step := by
      intro step hstep
      obtain ⟨name, hname, rfl⟩ := List.mem_map.1 hstep
      exact h.isLater (List.mem_append_left _ hname)
    have hsteps := (Path.steps_intercalate_text hlater).2.2
    rw [List.map_map] at hsteps
    simpa [Path.IsStraight, Function.comp_def, PathStep.text] using hsteps
  refine ⟨?_, h.isBelow_join rfl hdirectory scope.root⟩
  have htext := Path.relative_eq_text scope.root path
  rw [h, List.map_map, show PathStep.text ∘ PathStep.entry = id from rfl, List.map_id] at htext
  obtain ⟨more, hmore⟩ := Text.intercalate_prefix '/' (directory.map String.toList)
    (rest.map String.toList)
  refine ⟨String.ofList more, ?_⟩
  rw [htext, ← String.toList_inj, String.toList_append, String.toList_ofList,
    String.toList_intercalate, String.toList_intercalate, List.map_append]
  exact hmore.symm

/-- An ignored directory hides the files whose names go on after its own. -/
theorem hides_of_ignores {ignored directory path : String}
    (hignores : scope.Ignores ignored directory) (hbelow : scope.IgnoresBelow ignored)
    (hpath : path ∈ scope.walked tree)
    (hname : scope.GoesOn directory (Path.relative scope.root path)) : scope.Hides ignored path := by
  unfold Ignores at hignores
  unfold IgnoresBelow at hbelow
  unfold Hides
  by_cases hwild : Glob.Pattern.isWild ignored = true
  · rw [if_pos hwild] at hignores hbelow ⊢
    obtain ⟨pattern, hpattern, haccepts⟩ := hignores
    obtain ⟨more, hmore⟩ := hname.text
    refine ⟨pattern, hpattern, .inl ?_⟩
    rw [hmore]
    exact Glob.Pattern.accepts_append (hbelow pattern hpattern) haccepts more
  · rw [if_neg hwild] at hignores hbelow ⊢
    have hsteps := hname.steps
    rw [Path.isBelow_iff, steps_resolve_of_mem_walked hbelow hpath] at hsteps
    rwa [Path.isBelow_iff, hignores]

theorem not_goesOn_of_mem_files {ignored directory file : String} (hmem : ignored ∈ scope.ignores)
    (hignores : scope.Ignores ignored directory) (hbelow : scope.IgnoresBelow ignored)
    (hfile : file ∈ (scope.files tree).keys) : ¬scope.GoesOn directory file := by
  obtain ⟨path, hpath, -, hkept, rfl⟩ := mem_files.1 hfile
  intro hname
  have hhidden := isIgnored_iff.2 ⟨ignored, hmem, hides_of_ignores hignores hbelow hpath hname⟩
  rw [hkept] at hhidden
  cases hhidden

/-- **Which source files ignored paths leave out.** If a directory is ignored by a literal path or a
pattern that ends with a star, no file has a name that goes on after the name of the directory, and
no file that is named without steps upwards stands below the directory in the tree. Conversely, every
file that is left out is itself hidden by an ignored path. -/
theorem files_of_ignores (scope : SourceScope) (tree : FileTree) :
    (∀ ignored ∈ scope.ignores, scope.IgnoresBelow ignored →
      (∀ directory rest, scope.Ignores ignored directory → Path.isAbsolute rest = false →
        Path.join directory rest ∉ (scope.files tree).keys)
      ∧ ∀ directory below : Place, scope.Ignores ignored (String.intercalate "/" directory) →
        ∀ file ∈ (scope.files tree).keys, ∀ names, Path.IsStraight file names →
        FileTree.placeOf tree.workingDirectory (scope.resolve file)
          ≠ FileTree.placeOf tree.workingDirectory scope.root ++ (directory ++ below))
    ∧ ∀ path ∈ scope.walked tree, scope.isSource path = true →
      Path.relative scope.root path ∉ (scope.files tree).keys →
      ∃ ignored ∈ scope.ignores, scope.Hides ignored path := by
  refine ⟨fun ignored hmem hbelow => ⟨?_, ?_⟩, ?_⟩
  · intro directory rest hignores hrest hfile
    exact not_goesOn_of_mem_files hmem hignores hbelow hfile (goesOn_join scope directory hrest)
  · intro directory below hignores file hfile names hnames hplace
    rw [resolve, hnames.placeOf_join, List.append_cancel_left_eq] at hplace
    obtain ⟨path, -, -, -, rfl⟩ := mem_files.1 hfile
    exact not_goesOn_of_mem_files hmem hignores hbelow hfile
      (goesOn_of_isStraight scope (hplace ▸ hnames))
  · intro path hpath hsource hmissing
    refine isIgnored_iff.1 ?_
    by_contra hkept
    exact hmissing (mem_files.2 ⟨path, hpath, hsource, Bool.not_eq_true _ ▸ hkept, rfl⟩)

/-- Settings with ignored paths. -/
def smallIgnoring (ignores : List String) : Settings :=
  { localePath := some "locales", namespaces := ["default"], ignores }

/-- A project with two directories below its sources. -/
def smallSources : FileTree :=
  let file : FileEntry := .file (.text "") 0
  ⟨Dictionary.ofList [("/p", .directory), ("/p/src", .directory), ("/p/src/app.ts", file),
    ("/p/src/gen", .directory), ("/p/src/gen/a.ts", file), ("/p/src/lib", .directory),
    ("/p/src/lib/b.ts", file)], ["p"], 1, []⟩

/-- A directory that a pattern with a star at its end matches, and one that a literal path is. -/
theorem files_small_of_ignores :
    let scope := (smallIgnoring ["**/gen*", "./src/lib/"]).scope "/p"
    (scope.files smallSources).keys = ["src/app.ts"]
      ∧ "src/gen/a.ts" ∉ (scope.files smallSources).keys
      ∧ FileTree.placeOf ["p"] (scope.resolve "src/app.ts") ≠ ["p", "src", "lib", "b.ts"] := by
  have hfiles := (files_of_ignores ((smallIgnoring ["**/gen*", "./src/lib/"]).scope "/p")
    smallSources).1
  refine ⟨by decide +kernel, ?_, ?_⟩
  · exact (hfiles "**/gen*" (by decide) (by rintro pattern ⟨⟩; decide)).1 "src/gen" "a.ts"
      ⟨_, rfl, by decide⟩ (by decide)
  · exact (hfiles "./src/lib/" (by decide) (.inl (by decide))).2 ["src", "lib"] ["b.ts"]
      (show Path.steps "/p/./src/lib/" = Path.steps "/p/src/lib" by decide) "src/app.ts"
      (by decide +kernel) ["src", "app.ts"] (show Path.steps "src/app.ts" = _ by decide)

/-- **A pattern that matches a directory may hide nothing below it**: it matches the directory to its
end, but not the paths that go on after it. -/
theorem not_hidden_of_ignores :
    ¬∀ (settings : Settings) (root : String) (tree : FileTree) (ignored directory rest : String),
      settings.fault? = none → ignored ∈ settings.ignores →
      (settings.scope root).Ignores ignored directory →
      tree.isDirectory (Path.join root directory) = true → Path.isAbsolute rest = false →
      Path.join directory rest ∉ ((settings.scope root).files tree).keys := by
  intro hall
  exact hall (smallIgnoring ["**/gen"]) "/p" smallSources "**/gen" "src/gen" "a.ts"
    (by decide +kernel) (by decide) ⟨_, rfl, by decide⟩ (by decide +kernel) (by decide)
    (by decide +kernel)

/-- A literal path hides nothing below a directory either that is walked under another path: the
project is the working directory, and its included pattern is expanded without it. -/
theorem not_hidden_of_not_namesPlainly :
    ∃ settings : Settings, "src/gen" ∈ settings.ignores
      ∧ "src/gen/a.ts" ∈ ((settings.scope ".").files smallSources).keys :=
  ⟨{ smallIgnoring ["src/gen"] with includes := ["sr?"] }, by decide, by decide +kernel⟩

end SourceScope

end Phrasebook

import Mathlib.Data.List.DropRight
import Phrasebook.Proofs.Places

/-!
# The steps of paths

A path is its segments with slashes between them, so what is known of segments is known of paths. A
path seen from a directory has the steps of the directory and then its own, and the path above
another one has all its steps but the last.

Results:
* `Path.steps_join`: the steps of a path seen from a directory.
* `Path.steps_join_relative`: a path below a directory is found again from its name there.
* `Path.IsStraight.placeOf_join`: where a path without steps upwards leads.
* `Path.parent?_cases`, `Path.steps_of_parent?`: the path above another one, and its steps.
-/

namespace Phrasebook

/-! ## Texts between slashes -/

namespace Text

variable {separator : Char}

/-- The pieces of pieces with separators between them. -/
theorem pieces_intercalate {texts : List (List Char)} (hne : texts ≠ [])
    (h : ∀ text ∈ texts, separator ∉ text) :
    pieces separator ([separator].intercalate texts) = texts := by
  induction texts with
  | nil => exact absurd rfl hne
  | cons first rest ih =>
    have hfirst := pieces_of_not_mem (h first List.mem_cons_self)
    cases rest with
    | nil => simpa [List.intercalate] using hfirst
    | cons second rest =>
      rw [List.intercalate_cons_cons, List.append_assoc, List.singleton_append,
        pieces_append_cons, hfirst, ih (by simp) fun text ht => h text (List.mem_cons_of_mem _ ht)]
      rfl

/-- A text is its pieces with separators between them. -/
theorem intercalate_pieces (separator : Char) (text : List Char) :
    [separator].intercalate (pieces separator text) = text := by
  induction text with
  | nil => simp [pieces, List.intercalate]
  | cons c rest ih =>
    obtain ⟨first, more, hrest⟩ := List.exists_cons_of_ne_nil (pieces_ne_nil separator rest)
    rw [hrest] at ih
    rw [pieces, hrest]
    split
    · next hc => rw [List.intercalate_cons_cons, ih, hc]; rfl
    · rw [List.headD_cons, List.tail_cons]
      cases more with
      | nil => simpa [List.intercalate] using ih
      | cons second more =>
        rw [List.intercalate_cons_cons] at ih ⊢
        simpa using ih

theorem split_intercalate {texts : List String} (hne : texts ≠ [])
    (h : ∀ text ∈ texts, '/' ∉ text.toList) :
    split '/' (String.intercalate "/" texts) = texts := by
  unfold split
  rw [String.toList_intercalate]
  refine (congrArg _ (@pieces_intercalate '/' _ (by simpa using hne) ?_)).trans ?_
  · simpa using h
  · simp

theorem intercalate_split (text : String) : String.intercalate "/" (split '/' text) = text := by
  rw [← String.toList_inj, String.toList_intercalate]
  unfold split
  rw [List.map_map, List.map_congr_left (g := id) (by simp), List.map_id]
  exact intercalate_pieces '/' text.toList

end Text

namespace Path

/-! ## Segments and steps -/

theorem segments_ne_nil (path : String) : segments path ≠ [] :=
  mt List.map_eq_nil_iff.1 (Text.pieces_ne_nil '/' path.toList)

theorem intercalate_segments (path : String) : String.intercalate "/" (segments path) = path :=
  Text.intercalate_split path

theorem not_mem_of_mem_segments {path segment : String} (h : segment ∈ segments path) :
    '/' ∉ segment.toList := by
  obtain ⟨piece, hpiece, rfl⟩ := List.mem_map.1 h
  rw [String.toList_ofList]
  exact Text.not_mem_of_mem_pieces hpiece

theorem steps_of_segments {path first : String} {rest : List String}
    (h : segments path = first :: rest) :
    steps path = (firstStep? path first).toList ++ rest.filterMap laterStep? := by
  unfold steps
  rw [h]

theorem length_steps_le (path : String) : (steps path).length ≤ path.length + 1 := by
  obtain ⟨first, rest, hsegments⟩ := List.exists_cons_of_ne_nil (segments_ne_nil path)
  have hcount : (segments path).length = path.toList.count '/' + 1 :=
    (List.length_map _).trans (Text.length_pieces path.toList)
  have hslashes : path.toList.count '/' ≤ path.toList.length := List.count_le_length
  have hfirst : (firstStep? path first).toList.length ≤ 1 := by
    cases firstStep? path first <;> simp
  have hrest := List.length_filterMap_le laterStep? rest
  rw [hsegments, List.length_cons] at hcount
  rw [steps_of_segments hsegments, List.length_append, ← String.length_toList]
  omega

/-- A path starts at the root if nothing stands before its first slash. -/
theorem isAbsolute_iff {path first : String} {rest : List String}
    (h : segments path = first :: rest) : isAbsolute path = true ↔ first = "" ∧ rest ≠ [] := by
  have hpath := intercalate_segments path
  rw [h] at hpath
  by_cases hfirst : first = ""
  · rw [← hpath, hfirst]
    cases rest with
    | nil => simp [isAbsolute]
    | cons second rest => simp [isAbsolute, String.intercalate_cons_cons]
  · have hmore : ∃ more, path = first ++ more := by
      cases rest with
      | nil => exact ⟨"", by simpa using hpath.symm⟩
      | cons second rest =>
        rw [String.intercalate_cons_cons, String.append_assoc] at hpath
        exact ⟨_, hpath.symm⟩
    have hslash : first.toList.head? ≠ some '/' := fun hhead =>
      not_mem_of_mem_segments (h ▸ List.mem_cons_self) (List.mem_of_head? hhead)
    obtain ⟨more, hmore⟩ := hmore
    rw [hmore, isAbsolute_append hfirst more]
    simp [isAbsolute, hslash, hfirst]

theorem laterStep?_eq_none_iff {segment : String} :
    laterStep? segment = none ↔ isIdle segment = true := by
  unfold laterStep? isIdle
  by_cases h : segment = "" ∨ segment = "."
  · simp [h]
  · by_cases hparent : segment = ".." <;> simp_all

theorem filterMap_laterStep?_of_isIdle {segments : List String}
    (h : ∀ segment ∈ segments, isIdle segment = true) : segments.filterMap laterStep? = [] :=
  List.filterMap_eq_nil_iff.2 fun segment hsegment => laterStep?_eq_none_iff.2 (h segment hsegment)

/-- The text of a step is the segment that it comes from. -/
theorem text_of_laterStep? {segment : String} {step : PathStep}
    (h : laterStep? segment = some step) : step.text = segment := by
  unfold laterStep? at h
  split at h
  · cases h
  · split at h <;> cases h
    · next hparent => exact hparent.symm
    · rfl

/-- More segments give more steps. -/
theorem steps_eq_append {path other : String} {front more idle : List String} (hne : front ≠ [])
    (hpath : segments path = front ++ more) (hother : segments other = front ++ idle)
    (hidle : ∀ segment ∈ idle, isIdle segment = true)
    (habsolute : isAbsolute path = isAbsolute other) :
    steps path = steps other ++ more.filterMap laterStep? := by
  obtain ⟨first, rest, rfl⟩ := List.exists_cons_of_ne_nil hne
  have hfirst : firstStep? path first = firstStep? other first := by
    unfold firstStep?
    rw [habsolute]
  rw [steps_of_segments hpath, steps_of_segments hother, hfirst]
  simp [List.filterMap_append, filterMap_laterStep?_of_isIdle hidle]

/-- **The steps of a path seen from a directory**: those of the directory and then its own. -/
theorem steps_join {directory path : String} (hne : directory ≠ "")
    (h : isAbsolute path = false) :
    steps (join directory path) = steps directory ++ (segments path).filterMap laterStep? := by
  obtain ⟨front, idle, hdirectory, hjoin, hfront, hidle⟩ := exists_segments_join hne h
  exact steps_eq_append hfront hjoin hdirectory hidle (isAbsolute_join hne h)

theorem isBelow_iff {directory path : String} :
    isBelow directory path = true ↔ steps directory <+: steps path := by
  unfold isBelow stepsBelow?
  dsimp only
  split
  · next h => simpa using h
  · next h => simpa using h

theorem isBelow_join (directory : String) {path : String} (h : isAbsolute path = false) :
    isBelow directory (join directory path) = true := by
  rw [isBelow_iff]
  by_cases hempty : directory = ""
  · rw [hempty]
    exact List.nil_prefix
  · rw [steps_join hempty h]
    exact List.prefix_append _ _

theorem isAbsolute_join_of_left {directory : String} (path : String)
    (h : isAbsolute directory = true) : isAbsolute (join directory path) = true := by
  have hne : directory ≠ "" := by
    rintro rfl
    cases h
  unfold join
  split
  · next hpath => simpa [hne] using hpath
  · split
    · rwa [isAbsolute_append hne]
    · rwa [String.append_assoc, isAbsolute_append hne]

/-- A path seen from a directory is written after it, with a slash between them if there is none. -/
theorem join_eq_append (directory : String) {path : String} (h : isAbsolute path = false) :
    join directory path = directory ++ path ∨ join directory path = directory ++ ("/" ++ path) := by
  unfold join
  split
  · next hempty =>
    rw [h, Bool.false_or, beq_iff_eq] at hempty
    exact .inl (by rw [hempty, String.empty_append])
  · split
    · exact .inl rfl
    · exact .inr String.append_assoc

theorem isBelow_refl (path : String) : isBelow path path = true :=
  isBelow_iff.2 List.prefix_rfl

theorem isBelow_trans {first second third : String} (h : isBelow first second = true)
    (hthird : isBelow second third = true) : isBelow first third = true :=
  isBelow_iff.2 ((isBelow_iff.1 h).trans (isBelow_iff.1 hthird))

theorem isBelow_foldl_join (directory : String) {names : List String}
    (h : ∀ name ∈ names, isAbsolute name = false) :
    isBelow directory (names.foldl join directory) = true := by
  induction names generalizing directory with
  | nil => exact isBelow_refl directory
  | cons name rest ih =>
    exact isBelow_trans (isBelow_join directory (h name List.mem_cons_self))
      (ih _ fun other hother => h other (List.mem_cons_of_mem _ hother))

/-- What lies below a directory does so wherever the directory is seen from. -/
theorem isBelow_join_join (outer directory : String) {path : String}
    (h : isAbsolute path = false) :
    isBelow (join outer directory) (join outer (join directory path)) = true := by
  by_cases hempty : directory = ""
  · rw [hempty, join_empty, isBelow_iff]
    by_cases houter : outer = ""
    · rw [houter, join_empty]
      exact List.nil_prefix
    · rw [steps_join houter h, steps_join houter (by rfl), show segments "" = [""] from rfl]
      simp [laterStep?]
  · by_cases habsolute : isAbsolute directory = true ∨ outer = ""
    · have houter : ∀ text, isAbsolute text = true ∨ outer = "" → join outer text = text := by
        intro text htext
        unfold join
        rw [if_pos (by simpa using htext)]
      rw [houter directory habsolute, houter _ (by rwa [isAbsolute_join hempty h])]
      exact isBelow_join directory h
    · rw [not_or, Bool.not_eq_true] at habsolute
      obtain ⟨front, idle, hdirectory, hjoin, -, hidle⟩ := exists_segments_join hempty h
      rw [isBelow_iff, steps_join habsolute.2 habsolute.1, steps_join habsolute.2
        (by rw [isAbsolute_join hempty h]; exact habsolute.1), hdirectory, hjoin,
        List.filterMap_append, List.filterMap_append, filterMap_laterStep?_of_isIdle hidle,
        List.append_nil, List.prefix_append_right_inj]
      exact List.prefix_append _ _

/-! ## Names below a directory -/

/-- The step comes from a segment that is not the first one. -/
def IsLater (step : PathStep) : Prop := laterStep? step.text = some step ∧ '/' ∉ step.text.toList

theorem isLater_of_mem (path : String) (segments : List String) {step : PathStep}
    (hsegments : ∀ segment ∈ segments, segment ∈ Path.segments path)
    (h : step ∈ segments.filterMap laterStep?) : IsLater step := by
  obtain ⟨segment, hsegment, hstep⟩ := List.mem_filterMap.1 h
  unfold IsLater
  rw [text_of_laterStep? hstep]
  exact ⟨hstep, not_mem_of_mem_segments (hsegments segment hsegment)⟩

theorem filterMap_laterStep?_map_text {steps : List PathStep} (h : ∀ step ∈ steps, IsLater step) :
    (steps.map PathStep.text).filterMap laterStep? = steps := by
  induction steps with
  | nil => rfl
  | cons step rest ih =>
    rw [List.map_cons, List.filterMap_cons, (h step List.mem_cons_self).1,
      ih fun other hother => h other (List.mem_cons_of_mem _ hother)]

theorem not_mem_of_mem_map_text {steps : List PathStep} (h : ∀ step ∈ steps, IsLater step)
    {text : String} (htext : text ∈ steps.map PathStep.text) : '/' ∉ text.toList := by
  obtain ⟨step, hstep, rfl⟩ := List.mem_map.1 htext
  exact (h step hstep).2

/-- Later steps have no slash in their texts, so they are found again between slashes. -/
theorem segments_intercalate_text {steps : List PathStep} (hne : steps ≠ [])
    (h : ∀ step ∈ steps, IsLater step) :
    segments (String.intercalate "/" (steps.map PathStep.text)) = steps.map PathStep.text :=
  Text.split_intercalate (by simpa using hne) fun _ => not_mem_of_mem_map_text h

/-- The steps of a path: at most one that only the first can be, and later ones. -/
theorem exists_steps_eq (path : String) :
    ∃ later, (∀ step ∈ later, IsLater step)
      ∧ (isAbsolute path = true ∧ steps path = .root :: later
        ∨ isAbsolute path = false ∧ (steps path = .current :: later ∨ steps path = later)) := by
  obtain ⟨first, rest, hsegments⟩ := List.exists_cons_of_ne_nil (segments_ne_nil path)
  have hrest : ∀ step ∈ rest.filterMap laterStep?, IsLater step := fun step =>
    isLater_of_mem path rest fun segment hsegment =>
      hsegments ▸ List.mem_cons_of_mem _ hsegment
  rw [steps_of_segments hsegments]
  unfold firstStep?
  by_cases habsolute : isAbsolute path = true
  · exact ⟨_, hrest, .inl ⟨habsolute, by rw [if_pos habsolute]; rfl⟩⟩
  · rw [if_neg habsolute]
    rw [Bool.not_eq_true] at habsolute
    by_cases hcurrent : first = "."
    · exact ⟨_, hrest, .inr ⟨habsolute, .inl (by rw [if_pos hcurrent]; rfl)⟩⟩
    · rw [if_neg hcurrent]
      refine ⟨_, ?_, .inr ⟨habsolute, .inr rfl⟩⟩
      intro step hstep
      rcases List.mem_append.1 hstep with hfirst | hlater
      · refine isLater_of_mem path [first] ?_ ?_
        · simp [hsegments]
        · simpa using hfirst
      · exact hrest step hlater

theorem not_isLater_root : ¬IsLater .root := fun h => h.2 (by decide)

theorem not_isLater_current : ¬IsLater .current := fun h => by cases h.1

/-- Later steps without steps upwards are names. -/
theorem exists_map_entry {later : List PathStep} (hlater : ∀ step ∈ later, IsLater step)
    (hup : .parent ∉ later) : ∃ names : List String, later = names.map PathStep.entry := by
  induction later with
  | nil => exact ⟨[], rfl⟩
  | cons step rest ih =>
    rw [List.mem_cons, not_or] at hup
    obtain ⟨names, hnames⟩ := ih (fun other hother => hlater other (List.mem_cons_of_mem _ hother))
      hup.2
    have hstep := hlater step List.mem_cons_self
    cases step with
    | root => exact absurd hstep not_isLater_root
    | current => exact absurd hstep not_isLater_current
    | parent => exact absurd rfl hup.1
    | entry name => exact ⟨name :: names, by rw [hnames]; rfl⟩

/-- A step to the working directory is the first one. -/
theorem eq_nil_of_steps_eq_concat_current {path : String} {front : List PathStep}
    (h : steps path = front ++ [.current]) : front = [] := by
  obtain ⟨later, hlater, hsteps⟩ := exists_steps_eq path
  have hmem : .current ∈ later → front = [] := fun hmem =>
    absurd (hlater _ hmem) not_isLater_current
  rw [h] at hsteps
  cases front with
  | nil => rfl
  | cons first rest =>
    rcases hsteps with ⟨-, hsteps⟩ | ⟨-, hsteps | hsteps⟩
    · exact hmem ((List.cons.inj hsteps).2 ▸ by simp)
    · exact hmem ((List.cons.inj hsteps).2 ▸ by simp)
    · exact hmem (hsteps ▸ by simp)

/-- A path starts at the root if its steps do. -/
theorem head?_steps_eq_root_iff {path : String} :
    (steps path).head? = some .root ↔ isAbsolute path = true := by
  obtain ⟨later, hlater, ⟨habsolute, hsteps⟩ | ⟨habsolute, hsteps | hsteps⟩⟩ :=
    exists_steps_eq path
  · simp [hsteps, habsolute]
  · simp [hsteps, habsolute]
  · rw [hsteps, habsolute]
    exact iff_of_false (fun h => not_isLater_root (hlater _ (List.mem_of_head? h))) (by simp)

/-- What lies below an absolute path is absolute. -/
theorem isAbsolute_of_isBelow {directory path : String} (hdirectory : isAbsolute directory = true)
    (h : isBelow directory path = true) : isAbsolute path = true := by
  obtain ⟨rest, hrest⟩ := isBelow_iff.1 h
  rw [← head?_steps_eq_root_iff] at hdirectory ⊢
  rw [← hrest, List.head?_append, hdirectory]
  rfl

/-- A named entry on a path has a name without slashes. -/
theorem isLater_of_mem_names {path name : String} (h : name ∈ names path) :
    IsLater (.entry name) := by
  unfold names at h
  obtain ⟨step, hstep, hname⟩ := List.mem_filterMap.1 h
  obtain ⟨later, hlater, ⟨-, hsteps⟩ | ⟨-, hsteps | hsteps⟩⟩ := exists_steps_eq path <;>
    cases step <;> simp_all

theorem IsLater.isAbsolute {step : PathStep} (h : IsLater step) :
    Path.isAbsolute step.text = false := by
  refine Bool.eq_false_iff.2 fun habsolute => h.2 ?_
  exact List.mem_of_head? (beq_iff_eq.1 habsolute)

theorem IsLater.text_ne {step : PathStep} (h : IsLater step) :
    step.text ≠ "" ∧ step.text ≠ "." := by
  refine not_or.1 fun hidle => ?_
  have hnone := laterStep?_eq_none_iff.2 (show isIdle step.text = true by simpa [isIdle] using hidle)
  rw [h.1] at hnone
  cases hnone

/-- Later steps between slashes are a path with these steps. -/
theorem steps_intercalate_text {steps : List PathStep} (h : ∀ step ∈ steps, IsLater step) :
    isAbsolute (String.intercalate "/" (steps.map PathStep.text)) = false
      ∧ (segments (String.intercalate "/" (steps.map PathStep.text))).filterMap laterStep? = steps
      ∧ Path.steps (String.intercalate "/" (steps.map PathStep.text)) = steps := by
  cases steps with
  | nil => decide
  | cons first rest =>
    have hfirst := (h first List.mem_cons_self).text_ne
    have hlater := filterMap_laterStep?_map_text h
    have hsegments := segments_intercalate_text (by simp) h
    have habsolute := mt (isAbsolute_iff hsegments).1 (fun hroot => hfirst.1 hroot.1)
    refine ⟨Bool.not_eq_true _ ▸ habsolute, by rw [hsegments, hlater], ?_⟩
    rw [steps_of_segments hsegments, firstStep?, if_neg habsolute, if_neg hfirst.2]
    rw [List.map_cons, List.filterMap_cons, (h first List.mem_cons_self).1] at hlater
    rw [(h first List.mem_cons_self).1]
    exact hlater

/-- The steps of a path between slashes are a path with these steps. -/
theorem steps_text (path : String) :
    isAbsolute (String.intercalate "/" ((steps path).map PathStep.text)) = isAbsolute path
      ∧ steps (String.intercalate "/" ((steps path).map PathStep.text)) = steps path := by
  obtain ⟨later, hlater, ⟨habsolute, hsteps⟩ | ⟨habsolute, hsteps | hsteps⟩⟩ :=
    exists_steps_eq path
  · -- The root is a slash, and nothing stands before it.
    rw [habsolute, hsteps]
    cases later with
    | nil => decide
    | cons step rest =>
      have htext : String.intercalate "/" ((.root :: step :: rest).map PathStep.text)
          = String.intercalate "/" ("" :: "" :: (step :: rest).map PathStep.text) := by
        simp only [List.map_cons, PathStep.text, String.intercalate_cons_cons]
        exact String.append_assoc
      have hsegments : segments (String.intercalate "/" ((.root :: step :: rest).map PathStep.text))
          = "" :: "" :: (step :: rest).map PathStep.text := by
        rw [htext]
        refine Text.split_intercalate (by simp) fun text hmem => ?_
        rcases List.mem_cons.1 hmem with rfl | hmem
        · simp
        · rcases List.mem_cons.1 hmem with rfl | hmem
          · simp
          · exact not_mem_of_mem_map_text hlater hmem
      have hroot := (isAbsolute_iff hsegments).2 ⟨rfl, by simp⟩
      refine ⟨hroot, ?_⟩
      rw [steps_of_segments hsegments, firstStep?, if_pos hroot, List.filterMap_cons,
        filterMap_laterStep?_map_text hlater]
      rfl
  · rw [habsolute, hsteps]
    have hsegments : segments (String.intercalate "/" ((.current :: later).map PathStep.text))
        = "." :: later.map PathStep.text := by
      refine Text.split_intercalate (by simp) fun text hmem => ?_
      rcases List.mem_cons.1 hmem with rfl | hmem
      · decide
      · exact not_mem_of_mem_map_text hlater hmem
    have hrelative := mt (isAbsolute_iff hsegments).1 (fun hroot => by simp at hroot)
    refine ⟨Bool.not_eq_true _ ▸ hrelative, ?_⟩
    rw [steps_of_segments hsegments, firstStep?, if_neg hrelative, if_pos rfl,
      filterMap_laterStep?_map_text hlater]
    rfl
  · rw [habsolute, hsteps]
    exact ⟨(steps_intercalate_text hlater).1, (steps_intercalate_text hlater).2.2⟩

theorem eq_empty_of_steps {path : String} (h : steps path = []) : path = "" := by
  obtain ⟨first, rest, hsegments⟩ := List.exists_cons_of_ne_nil (segments_ne_nil path)
  rw [steps_of_segments hsegments, List.append_eq_nil_iff, Option.toList_eq_nil_iff] at h
  unfold firstStep? at h
  have hpath := intercalate_segments path
  by_cases habsolute : isAbsolute path = true
  · simp [habsolute] at h
  · by_cases hcurrent : first = "."
    · simp [habsolute, hcurrent] at h
    · have hfirst : first = "" := by
        simpa [habsolute, hcurrent, laterStep?_eq_none_iff, isIdle] using h.1
      have hrest : rest = [] := by
        by_contra hrest
        exact habsolute ((isAbsolute_iff hsegments).2 ⟨hfirst, hrest⟩)
      rw [← hpath, hsegments, hfirst, hrest]
      rfl

/-- The steps below a directory are no first steps, unless the directory is the empty path. -/
theorem isLater_of_steps_eq_append {directory path : String} {rest : List PathStep}
    (hne : directory ≠ "") (h : steps path = steps directory ++ rest) {step : PathStep}
    (hstep : step ∈ rest) : IsLater step := by
  obtain ⟨first, front, hfront⟩ := List.exists_cons_of_ne_nil (mt eq_empty_of_steps hne)
  obtain ⟨later, hlater, hsteps⟩ := exists_steps_eq path
  rw [h, hfront, List.cons_append] at hsteps
  refine hlater step ?_
  rcases hsteps with ⟨-, hsteps⟩ | ⟨-, hsteps | hsteps⟩
  · exact (List.cons.inj hsteps).2 ▸ List.mem_append_right _ hstep
  · exact (List.cons.inj hsteps).2 ▸ List.mem_append_right _ hstep
  · exact hsteps ▸ List.mem_cons_of_mem _ (List.mem_append_right _ hstep)

/-- The name of a path that lies below a directory, or of one that does not. -/
theorem relative_eq (directory path : String) :
    (∃ rest, steps path = steps directory ++ rest
      ∧ relative directory path = String.intercalate "/" (rest.map PathStep.text))
    ∨ isBelow directory path = false
      ∧ relative directory path = String.intercalate "/" ((steps path).map PathStep.text) := by
  by_cases hbelow : isBelow directory path = true
  · obtain ⟨rest, hrest⟩ := isBelow_iff.1 hbelow
    refine .inl ⟨rest, hrest.symm, ?_⟩
    unfold relative stepsBelow?
    simp [← hrest]
  · rw [Bool.not_eq_true] at hbelow
    refine .inr ⟨hbelow, ?_⟩
    unfold isBelow at hbelow
    unfold relative
    rw [Option.isSome_eq_false_iff, Option.isNone_iff_eq_none] at hbelow
    rw [hbelow]
    rfl

/-- The name of a path is its own steps with slashes between them. -/
theorem relative_eq_text (directory path : String) :
    relative directory path
      = String.intercalate "/" ((steps (relative directory path)).map PathStep.text) := by
  rcases relative_eq directory path with ⟨rest, hrest, hrelative⟩ | ⟨-, hrelative⟩
  · by_cases hempty : directory = ""
    · rw [hempty] at hrest
      rw [hrelative, show rest = steps path from hrest.symm, (steps_text path).2]
    · rw [hrelative, (steps_intercalate_text
        fun step hstep => isLater_of_steps_eq_append hempty hrest hstep).2.2]
  · rw [hrelative, (steps_text path).2]

/-- **A path is found again from its name**, if it lies below the directory where the name is seen
from, or starts at the root. -/
theorem steps_join_relative {directory path : String}
    (h : isBelow directory path = true ∨ isAbsolute path = true) :
    steps (join directory (relative directory path)) = steps path := by
  rcases relative_eq directory path with ⟨rest, hrest, hrelative⟩ | ⟨hbelow, hrelative⟩
  · by_cases hempty : directory = ""
    · rw [hempty] at hrest
      rw [hrelative, hempty, join_empty, show rest = steps path from hrest.symm]
      exact (steps_text path).2
    · obtain ⟨habsolute, hsegments, -⟩ := steps_intercalate_text
        fun step hstep => isLater_of_steps_eq_append hempty hrest hstep
      rw [hrelative, steps_join hempty habsolute, hsegments, hrest]
  · have habsolute : isAbsolute path = true := by simpa [hbelow] using h
    have hjoin : join directory (relative directory path) = relative directory path := by
      unfold join
      rw [hrelative, (steps_text path).1, habsolute, Bool.true_or, if_pos rfl]
    rw [hjoin, hrelative]
    exact (steps_text path).2

/-- The path goes down only, by the names of entries. -/
def IsStraight (path : String) (names : List String) : Prop :=
  steps path = names.map PathStep.entry

namespace IsStraight

variable {path : String} {names : List String} (h : IsStraight path names)
include h

theorem isAbsolute : Path.isAbsolute path = false := by
  rw [Bool.eq_false_iff, Ne, ← head?_steps_eq_root_iff, h]
  cases names <;> simp

/-- The steps of such a path are those of its segments. -/
theorem filterMap_segments : (segments path).filterMap laterStep? = names.map PathStep.entry := by
  obtain ⟨first, rest, hsegments⟩ := List.exists_cons_of_ne_nil (segments_ne_nil path)
  have hsteps := steps_of_segments hsegments
  rw [h, firstStep?, h.isAbsolute, if_neg Bool.false_ne_true] at hsteps
  rw [hsegments, hsteps, List.filterMap_cons]
  by_cases hcurrent : first = "."
  · rw [if_pos hcurrent] at hsteps
    cases names <;> simp at hsteps
  · rw [if_neg hcurrent]
    cases laterStep? first <;> rfl

theorem steps_join (directory : String) :
    steps (join directory path) = steps directory ++ names.map PathStep.entry := by
  by_cases hempty : directory = ""
  · rw [hempty, join_empty]
    exact h
  · rw [Path.steps_join hempty h.isAbsolute, h.filterMap_segments]

/-- A straight path goes on after another one with the first of its names. -/
theorem isBelow_join {front rest : List String} {above : String} (hnames : names = front ++ rest)
    (habove : IsStraight above front) (directory : String) :
    isBelow (join directory above) (join directory path) = true := by
  rw [isBelow_iff, h.steps_join, habove.steps_join, hnames, List.map_append,
    List.prefix_append_right_inj]
  exact List.prefix_append _ _

/-- The names are those of entries. -/
theorem isLater {name : String} (hname : name ∈ names) : IsLater (.entry name) := by
  refine isLater_of_mem_names (show name ∈ Path.names path from ?_)
  unfold Path.names
  rw [h]
  simpa using hname

/-- **Where a straight path leads**: by its names from the directory where it is seen from. -/
theorem placeOf_join (workingDirectory : Place) (directory : String) :
    FileTree.placeOf workingDirectory (join directory path)
      = FileTree.placeOf workingDirectory directory ++ names := by
  rw [FileTree.placeOf_join _ _ h.isAbsolute, FileTree.foldl_stepTo_eq, h.filterMap_segments,
    FileTree.foldl_placeAfter_map_entry]

end IsStraight

/-! ## The path above -/

/-- Segments without the idle ones at the end. -/
theorem exists_trimSegments (first : String) (rest : List String) :
    ∃ kept idle, rest = kept ++ idle ∧ trimSegments (first :: rest) = first :: kept
      ∧ (∀ segment ∈ idle, isIdle segment = true)
      ∧ ∀ last, kept.getLast? = some last → isIdle last = false := by
  refine ⟨rest.rdropWhile isIdle, rest.rtakeWhile isIdle,
    List.rdropWhile_append_rtakeWhile.symm, rfl, fun segment => List.mem_rtakeWhile_imp, ?_⟩
  intro last hlast
  have hne : rest.rdropWhile isIdle ≠ [] := by
    intro hnil
    rw [hnil] at hlast
    cases hlast
  rw [List.getLast?_eq_some_getLast hne] at hlast
  cases hlast
  exact Bool.not_eq_true _ ▸ List.rdropWhile_last_not _ _ hne

/-- The path above another one has its segments up to the last one that is not idle. Slashes and
idle segments at its end do not matter. -/
structure Precedes (parent path : String) : Prop where
  front : ∃ front slash gap last tail, front ≠ []
    ∧ segments parent = front ++ slash ∧ segments path = front ++ (gap ++ last :: tail)
    ∧ (∀ segment ∈ slash ++ gap ++ tail, isIdle segment = true) ∧ isIdle last = false
  isAbsolute : isAbsolute parent = isAbsolute path
  starts : parent.toList <+: path.toList

/-- Nothing is above the root and the empty path. -/
theorem eq_empty_or_steps_eq_root {path : String} {tail : List String}
    (hpath : segments path = "" :: tail) (htail : ∀ segment ∈ tail, isIdle segment = true) :
    path = "" ∨ steps path = [.root] := by
  by_cases hnil : tail = []
  · have htext := intercalate_segments path
    rw [hpath, hnil] at htext
    exact .inl htext.symm
  · rw [steps_of_segments hpath, firstStep?, if_pos ((isAbsolute_iff hpath).2 ⟨rfl, hnil⟩),
      filterMap_laterStep?_of_isIdle htail]
    exact .inr rfl

/-- A single segment that names something is a single step. -/
theorem exists_steps_eq_singleton {path first : String} {tail : List String} (hne : first ≠ "")
    (hpath : segments path = first :: tail) (htail : ∀ segment ∈ tail, isIdle segment = true) :
    isAbsolute path = false ∧ ∃ step, steps path = [step] := by
  have habsolute : isAbsolute path = false :=
    Bool.not_eq_true _ ▸ fun habsolute => hne ((isAbsolute_iff hpath).1 habsolute).1
  refine ⟨habsolute, ?_⟩
  rw [steps_of_segments hpath, firstStep?, habsolute, filterMap_laterStep?_of_isIdle htail]
  by_cases hcurrent : first = "."
  · exact ⟨.current, by simp [hcurrent]⟩
  · cases hstep : laterStep? first with
    | none => simp [laterStep?_eq_none_iff, isIdle, hne, hcurrent] at hstep
    | some step => exact ⟨step, by simp [hcurrent]⟩

section Precedes

variable {path first last : String} {front gap tail : List String}
  (hpath : segments path = (first :: front) ++ (gap ++ last :: tail))
  (hidle : ∀ segment ∈ gap ++ tail, isIdle segment = true) (hlast : isIdle last = false)
include hpath hidle hlast

/-- If nothing is left but the slash at the start, the root precedes the path. -/
theorem precedes_root (hfirst : first = "") (hfront : front = []) : Precedes "/" path := by
  subst hfirst hfront
  have habsolute := (isAbsolute_iff hpath).2 ⟨rfl, by simp⟩
  refine ⟨⟨[""], [""], gap, last, tail, by simp, rfl, hpath, ?_, hlast⟩, ?_, ?_⟩
  · intro segment hsegment
    rw [List.append_assoc, List.singleton_append, List.mem_cons] at hsegment
    exact hsegment.elim (fun hempty => by rw [hempty]; rfl) (hidle segment)
  · rw [habsolute]
    rfl
  · obtain ⟨more, hmore⟩ := List.head?_eq_some_iff.1 (beq_iff_eq.1 habsolute)
    rw [hmore]
    exact ⟨more, rfl⟩

/-- Otherwise the segments that are left precede it. -/
theorem precedes_intercalate (hleft : ¬(first = "" ∧ front = [])) :
    Precedes (String.intercalate "/" (first :: front)) path := by
  have hparent : segments (String.intercalate "/" (first :: front)) = first :: front :=
    Text.split_intercalate (by simp) fun segment hsegment =>
      not_mem_of_mem_segments (hpath ▸ List.mem_append_left _ hsegment)
  refine ⟨⟨first :: front, [], gap, last, tail, by simp, by rw [hparent, List.append_nil], hpath,
    by simpa using hidle, hlast⟩, ?_, ?_⟩
  · rw [Bool.eq_iff_iff, isAbsolute_iff hparent, isAbsolute_iff hpath]
    simp_all
  · have htext := intercalate_segments path
    rw [← htext, hpath, String.toList_intercalate, String.toList_intercalate, List.map_append]
    exact Text.intercalate_prefix '/' _ _

end Precedes

/-- **The path above another one**: there is none above the root and the empty path; above a single
segment it is the empty path. -/
theorem parent?_cases (path : String) :
    parent? path = none ∧ (path = "" ∨ steps path = [.root])
      ∨ parent? path = some "" ∧ isAbsolute path = false ∧ (∃ step, steps path = [step])
      ∨ ∃ parent, parent? path = some parent ∧ Precedes parent path := by
  obtain ⟨first, rest, hsegments⟩ := List.exists_cons_of_ne_nil (segments_ne_nil path)
  obtain ⟨kept, tail, rfl, htrim, htail, hkept⟩ := exists_trimSegments first rest
  unfold parent?
  rw [hsegments, htrim]
  rcases List.eq_nil_or_concat' kept with rfl | ⟨mid, last, rfl⟩
  · rw [List.nil_append] at hsegments
    by_cases hfirst : first = ""
    · exact .inl ⟨by simp [hfirst], eq_empty_or_steps_eq_root (hfirst ▸ hsegments) htail⟩
    · exact .inr (.inl ⟨by simp [hfirst], exists_steps_eq_singleton hfirst hsegments htail⟩)
  · obtain ⟨front, gap, rfl, hfront, hgap, -⟩ := exists_trimSegments first mid
    have hlast := hkept last List.getLast?_concat
    have hpath : segments path = (first :: front) ++ (gap ++ last :: tail) := by
      rw [hsegments]
      simp
    have hidle : ∀ segment ∈ gap ++ tail, isIdle segment = true := fun segment hsegment =>
      (List.mem_append.1 hsegment).elim (hgap segment) (htail segment)
    obtain ⟨second, more, hcons⟩ :=
      List.exists_cons_of_ne_nil (l := front ++ gap ++ [last]) (by simp)
    rw [hcons]
    dsimp only
    rw [← hcons, List.dropLast_concat, hfront]
    refine .inr (.inr ?_)
    by_cases hleft : first = "" ∧ front = []
    · obtain ⟨hfirst, hnil⟩ := hleft
      exact ⟨"/", by rw [hfirst, hnil]; rfl, precedes_root hpath hidle hlast hfirst hnil⟩
    · refine ⟨_, ?_, precedes_intercalate hpath hidle hlast hleft⟩
      split
      · next hsplit => simp_all
      · rfl

/-- **The steps of the path above another one**: all but the last. -/
theorem steps_of_parent? {path parent : String} (h : parent? path = some parent) :
    ∃ step, step ≠ .root ∧ steps path = steps parent ++ [step] := by
  rcases parent?_cases path with ⟨hnone, -⟩ | ⟨hempty, habsolute, step, hstep⟩ | ⟨_, hsome, hparent⟩
  · rw [hnone] at h
    cases h
  · rw [hempty] at h
    cases h
    refine ⟨step, ?_, hstep⟩
    rintro rfl
    have hroot := head?_steps_eq_root_iff.1 (show (steps path).head? = some .root by rw [hstep]; rfl)
    rw [habsolute] at hroot
    cases hroot
  · rw [hsome] at h
    cases h
    obtain ⟨front, slash, gap, last, tail, hfront, hsegments, hpath, hidle, hlast⟩ := hparent.front
    have hgap : gap.filterMap laterStep? = [] :=
      filterMap_laterStep?_of_isIdle fun segment hsegment => hidle segment (by simp [hsegment])
    have htail : tail.filterMap laterStep? = [] :=
      filterMap_laterStep?_of_isIdle fun segment hsegment => hidle segment (by simp [hsegment])
    have hsteps := steps_eq_append hfront hpath hsegments
      (fun segment hsegment => hidle segment (by simp [hsegment])) hparent.isAbsolute.symm
    cases hstep : laterStep? last with
    | none => simp [laterStep?_eq_none_iff.1 hstep] at hlast
    | some step =>
      refine ⟨step, ?_, ?_⟩
      · rintro rfl
        refine not_isLater_root (isLater_of_mem path [last] ?_ ?_)
        · simp [hpath]
        · simp [hstep]
      · rw [hsteps, List.filterMap_append, List.filterMap_cons, hstep, hgap, htail]
        rfl

theorem steps_of_parent?_eq_none {path : String} (h : parent? path = none) :
    steps path = [] ∨ steps path = [.root] := by
  rcases parent?_cases path with ⟨-, rfl | hroot⟩ | ⟨hempty, -, -⟩ | ⟨_, hsome, -⟩
  · exact .inl rfl
  · exact .inr hroot
  · rw [hempty] at h
    cases h
  · rw [hsome] at h
    cases h

end Path

end Phrasebook

import Phrasebook.Proofs.MarkerTextSearch
import Phrasebook.Proofs.Session

/-!
# Rewriting a rewritten text

A rewritten text is searched again. The marker texts that stayed are found again and stay again:
they have no key, or belong to another name. A new marker text may arise where a reference was put.
It starts inside the literal of a reference, if a key holds the start of a marker text, or it starts
before a reference and reads on over it, if the replaced call stood inside a literal that a marker
text left open. Where neither happens, rewriting again changes nothing.

Results:
* `MarkerRules.textOf_rewritten`: the parts of a rewritten text.
* `MarkerRules.scans_rewritten`: no new marker text arises among them.
* `MarkerRules.rewrite_rewrite_of_settles`: rewriting again changes nothing.
-/

namespace Phrasebook

open Text

namespace Marker.Text

deriving instance DecidableEq for Found

/-! ## Parts of a text -/

theorem textOf_append (front back : List Piece) :
    textOf (front ++ back) = textOf front ++ textOf back := List.flatMap_append

theorem textOf_map_plain (text : List Char) : textOf (text.map .plain) = text := by
  induction text with
  | nil => rfl
  | cons c rest ih => rw [List.map_cons, textOf_plain, ih]

theorem getLast?_append_or (front back : List Char) (before? : Option Char) :
    back.getLast?.or (front.getLast?.or before?) = (front ++ back).getLast?.or before? := by
  rw [List.getLast?_append, Option.or_assoc]

/-- The marker texts among the parts of a text are those of its front and those of its back. -/
theorem foundIn_append (front back : List Piece) (offset : Nat) (before? : Option Char) :
    foundIn offset before? (front ++ back)
      = foundIn offset before? front ++ foundIn (offset + byteLength (textOf front))
          ((textOf front).getLast?.or before?) back := by
  induction front generalizing offset before? with
  | nil => rfl
  | cons piece front ih =>
    cases piece with
    | plain c =>
      rw [List.cons_append, foundIn, ih, foundIn, textOf_plain, byteLength_cons, Nat.add_assoc,
        getLast?_or_some c _ before?]
    | marked arguments text =>
      rw [List.cons_append, foundIn, ih, foundIn, textOf_marked, byteLength_append, Nat.add_assoc,
        getLast?_append_or, List.cons_append]

/-- The marker texts among the parts lie between the ends of the text. -/
theorem bounds_of_mem_foundIn {pieces : List Piece} {offset : Nat} {before? : Option Char}
    {found : Found} (h : found ∈ foundIn offset before? pieces) :
    offset ≤ found.start ∧ found.stop ≤ offset + byteLength (textOf pieces) := by
  induction pieces generalizing offset before? with
  | nil => cases h
  | cons piece rest ih =>
    cases piece with
    | plain c =>
      have := ih h
      rw [textOf_plain, byteLength_cons]
      omega
    | marked arguments text =>
      rw [textOf_marked, byteLength_append]
      rcases List.mem_cons.1 h with rfl | hmore
      · dsimp only
        omega
      · have := ih hmore
        omega

/-- No marker text reaches over a character that is a part of its own. -/
theorem not_covered_plain {front back : List Piece} {c : Char} {found : Found}
    (h : found ∈ foundIn 0 none (front ++ .plain c :: back))
    (hstart : found.start ≤ byteLength (textOf front)) :
    found.stop ≤ byteLength (textOf front) := by
  rw [foundIn_append] at h
  rcases List.mem_append.1 h with hfront | hback
  · have := bounds_of_mem_foundIn hfront
    omega
  · have hafter := bounds_of_mem_foundIn (show found ∈ foundIn _ _ back from hback)
    have := Char.utf8Size_pos c
    omega

theorem foundIn_map_plain (text : List Char) (offset : Nat) (before? : Option Char) :
    foundIn offset before? (text.map .plain) = [] := by
  induction text generalizing offset before? with
  | nil => rfl
  | cons c rest ih => exact ih _ _

/-! ## Heads -/

/-- The text may go on, over a reference of the marker, to one marker text: it ends inside a literal
of a marker text. -/
def Unfinished (marker text : List Char) : Prop :=
  ∃ arguments more, IsMarkerText marker arguments (text ++ (marker ++ '.' :: more))

/-- An unfinished text starts with the marker, or with the start of it. -/
theorem Unfinished.head?_eq {marker text : List Char} (h : Unfinished marker text)
    (hmarker : marker ≠ []) (htext : text ≠ []) : text.head? = marker.head? := by
  obtain ⟨arguments, more, hmore⟩ := h
  generalize hwhole : text ++ (marker ++ '.' :: more) = whole at hmore
  obtain ⟨⟨-, -, -⟩, -⟩ := hmore
  have := congrArg List.head? hwhole
  rwa [List.head?_append_of_ne_nil _ htext, List.append_assoc,
    List.head?_append_of_ne_nil _ hmarker] at this

/-- No blank closes a call. -/
theorem Blank.parenthesis_notMem {gap : List Char} (h : Blank gap) : ')' ∉ gap := by
  intro hmem
  cases h _ hmem

/-- The start of a marker text closes no call. -/
theorem IsHead.parenthesis_notMem {marker head : List Char} (h : IsHead marker head)
    (hmarker : ')' ∉ marker) : ')' ∉ head := by
  cases h with
  | intro hgap hgap' hgap'' =>
    simp [hmarker, hgap.parenthesis_notMem, hgap'.parenthesis_notMem, hgap''.parenthesis_notMem]

/-- A marker text begins with its head. -/
theorem exists_head_of_readHere? {marker text : List Char} (h : readHere? marker text ≠ none) :
    ∃ head after, IsHead marker head ∧ text = head ++ after := by
  obtain ⟨result, hread⟩ := Option.ne_none_iff_exists'.1 h
  obtain ⟨head, after, hhead, htext, -⟩ := readHere?_eq_some.1 hread
  exact ⟨head, after, hhead, htext⟩

/-- **No marker text starts inside a text that closes a call**, unless it holds the start of one. -/
theorem readHere?_eq_none_of_headless {marker text left rest : List Char}
    (hmarker : ')' ∉ marker) (hheadless : ∀ head, IsHead marker head → ¬head <:+: text)
    (hleft : left ++ [')'] <:+ text) : readHere? marker (left ++ [')'] ++ rest) = none := by
  by_contra hread
  obtain ⟨head, after, hhead, htext⟩ := exists_head_of_readHere? hread
  rcases List.append_eq_append_iff.1 htext with ⟨more, rfl, -⟩ | ⟨more, heq, -⟩
  · exact hhead.parenthesis_notMem hmarker (by simp)
  · refine hheadless head hhead (List.IsInfix.trans ?_ hleft.isInfix)
    exact ⟨[], more, by rw [List.nil_append, heq]⟩

/-- The characters of a text at which no marker text starts are parts of their own. -/
theorem Scans.map_plain_append {marker text : List Char} {pieces : List Piece}
    (h : Scans marker pieces)
    (hnone : ∀ left, left ≠ [] → left <:+ text → readHere? marker (left ++ textOf pieces) = none) :
    Scans marker (text.map .plain ++ pieces) := by
  induction text with
  | nil => exact h
  | cons c rest ih =>
    rw [List.map_cons, List.cons_append]
    refine .plain ?_ (ih fun left hne hleft =>
      hnone left hne (hleft.trans (List.suffix_cons c rest)))
    have hfirst := hnone (c :: rest) (List.cons_ne_nil c rest) List.suffix_rfl
    rwa [textOf_append, textOf_map_plain]

/-- **A marker text that starts before a reference is read over it only if it is unfinished**
there; otherwise it is read the same without the reference. -/
theorem readHere?_append_reference {marker front tail text rest : List Char}
    (hmarker : ')' ∉ marker) (hfront : ¬Unfinished marker front)
    (hnone : readHere? marker (front ++ text) = none) :
    readHere? marker (front ++ (marker ++ '.' :: tail) ++ rest) = none := by
  by_contra hread
  obtain ⟨⟨arguments, after⟩, hread⟩ := Option.ne_none_iff_exists'.1 hread
  obtain ⟨piece, hpiece, heq⟩ := readHere?_eq_some_iff.1 hread
  rw [List.append_assoc] at heq
  rcases List.append_eq_append_iff.1 heq with ⟨covered, rfl, hcovered⟩ | ⟨more, rfl, -⟩
  · -- The marker text ends with its parenthesis, so not inside the marker of the reference.
    have hend : ¬covered <+: marker := by
      intro hcovered
      obtain ⟨before, hbefore⟩ := hpiece.exists_eq_concat
      rcases List.eq_nil_or_concat' covered with rfl | ⟨init, last, rfl⟩
      · have hsame : readHere? marker (front ++ text) = some (arguments, text) :=
          readHere?_eq_some_iff.2 ⟨_, hpiece, by rw [List.append_nil]⟩
        rw [hnone] at hsame
        cases hsame
      · rw [← List.append_assoc] at hbefore
        obtain ⟨-, hlast⟩ := List.append_inj' hbefore rfl
        obtain rfl : last = ')' := List.singleton_injective hlast
        exact hmarker (hcovered.subset (by simp))
    rw [List.append_assoc, List.cons_append] at hcovered
    rcases List.append_eq_append_iff.1 hcovered with ⟨beyond, rfl, hbeyond⟩ | ⟨left, rfl, -⟩
    · cases beyond with
      | nil => exact hend (by simp)
      | cons c beyond =>
        obtain ⟨rfl, -⟩ := List.cons.inj hbeyond
        exact hfront ⟨arguments, beyond, hpiece⟩
    · exact hend (List.prefix_append covered left)
  · have hsame := readHere?_eq_some_iff.2 ⟨piece, hpiece, List.append_assoc piece more text⟩
    rw [hnone] at hsame
    cases hsame

end Marker.Text

namespace MarkerRules

open Marker.Text

variable {rules : MarkerRules} {index : PhraseIndex} {unit : SourceUnit} {rewriting : Rewriting}

/-! ## What marker texts become -/

/-- The call of a marker text with these arguments, at no place. -/
def callOf (rules : MarkerRules) (arguments : List Argument) : Call where
  calleePath := [rules.marker, "s"]
  arguments
  span := ⟨0, 0⟩
  location := ⟨"", 0, 0⟩
  sourceLine := ""

/-- The reference that a marker text becomes, if it asks for a phrase with a key. -/
def referenceFor? (rules : MarkerRules) (index : PhraseIndex) (joined : Bool)
    (arguments : List Argument) : Option (List Char) :=
  if joined then none
  else ((rules.callOf arguments).marker? rules.marker).bind fun call =>
    (index.lookup? call.namespaceName call.phrase).map (rules.reference call)

/-- What a marker text becomes, where it stands. -/
def replacementAt? (rules : MarkerRules) (index : PhraseIndex) (found : Found) :
    Option (Span × List Char) :=
  (rules.referenceFor? index found.joined found.arguments).map fun text =>
    (⟨found.start, found.stop⟩, text)

/-- The namespace of the phrase that a marker text asks for. -/
def namespaceFor? (rules : MarkerRules) (joined : Bool) (arguments : List Argument) :
    Option String :=
  if joined then none
  else ((rules.callOf arguments).marker? rules.marker).map MarkerCall.namespaceName

/-- The marker calls of a text, looked at one by one, are its marker texts, looked at in the same
way. -/
theorem filterMap_calls {β : Type} {ofCall : MarkerCall → Option β} {ofFound : Found → Option β}
    (hjoined : ∀ found : Found, found.joined = true → ofFound found = none)
    (hsame : ∀ (found : Found) (call : Call), found.joined = false →
      call.calleePath = [rules.marker, "s"] → call.arguments = found.arguments →
      call.span = ⟨found.start, found.stop⟩ →
        (call.marker? rules.marker).bind ofCall = ofFound found)
    (unit : SourceUnit) :
    ((Marker.Text.calls rules.marker unit).filterMap (Call.marker? rules.marker)).filterMap ofCall
      = (Marker.Text.find rules.marker unit.code.toList).filterMap ofFound := by
  unfold Marker.Text.calls
  dsimp only
  rw [List.filterMap_filterMap, List.filterMap_map, List.filterMap_filter]
  refine List.filterMap_congr fun found _ => ?_
  cases h : found.joined with
  | true => exact (hjoined found h).symm
  | false => exact hsame found _ h rfl rfl rfl

/-- The replacements of a text are those of its marker texts. -/
theorem filterMap_replacement?_calls (unit : SourceUnit) :
    ((Marker.Text.calls rules.marker unit).filterMap (Call.marker? rules.marker)).filterMap
        (rules.replacement? index)
      = (Marker.Text.find rules.marker unit.code.toList).filterMap
        (rules.replacementAt? index) := by
  refine filterMap_calls (fun found hjoined => ?_)
    (fun found call hjoined hpath harguments hspan => ?_) unit
  · rw [replacementAt?, hjoined]
    rfl
  · rw [replacementAt?, hjoined, referenceFor?, ← harguments, ← hspan]
    unfold callOf Call.marker?
    rw [if_pos hpath, if_pos rfl]
    dsimp only
    split <;> simp [replacement?, reference, MarkerCall.namespaceName, Function.comp_def]

/-- The namespaces of a text are known if those of its marker texts are. -/
theorem findKnown_of_text (hsource : rules.source = .text) (unit : SourceUnit) :
    rules.findKnown unit
        = .ok ((Marker.Text.calls rules.marker unit).filterMap (Call.marker? rules.marker))
      ↔ ∀ found ∈ Marker.Text.find rules.marker unit.code.toList, ∀ ns,
        rules.namespaceFor? found.joined found.arguments = some ns → ns ∈ rules.namespaces := by
  have hnames : ((Marker.Text.calls rules.marker unit).filterMap
      (Call.marker? rules.marker)).filterMap (fun call => some call.namespaceName)
        = (Marker.Text.find rules.marker unit.code.toList).filterMap fun found =>
          rules.namespaceFor? found.joined found.arguments := by
    refine filterMap_calls (fun found hjoined => ?_)
      (fun found call hjoined hpath harguments hspan => ?_) unit
    · rw [hjoined]
      rfl
    · rw [hjoined, namespaceFor?, ← harguments]
      unfold callOf Call.marker?
      rw [if_pos hpath, if_pos rfl]
      dsimp only
      split <;> rfl
  rw [findKnown_eq_ok_iff, find_of_text hsource, eq_self, true_and]
  constructor
  · intro h found hfound ns hns
    have hmem : ns ∈ (Marker.Text.find rules.marker unit.code.toList).filterMap fun found =>
        rules.namespaceFor? found.joined found.arguments :=
      List.mem_filterMap.2 ⟨found, hfound, hns⟩
    rw [← hnames] at hmem
    obtain ⟨call, hcall, heq⟩ := List.mem_filterMap.1 hmem
    cases heq
    exact h call hcall
  · intro h call hcall
    have hmem : call.namespaceName ∈ (((Marker.Text.calls rules.marker unit).filterMap
        (Call.marker? rules.marker)).filterMap fun call => some call.namespaceName) :=
      List.mem_filterMap.2 ⟨call, hcall, rfl⟩
    rw [hnames] at hmem
    obtain ⟨found, hfound, hns⟩ := List.mem_filterMap.1 hmem
    exact h found hfound _ hns

/-! ## The rewritten text -/

/-- The parts of the rewritten text: the characters of a reference in place of a marker text. -/
def rewritten (rules : MarkerRules) (index : PhraseIndex) :
    Option Char → List Piece → List Piece
  | _, [] => []
  | _, .plain c :: rest => .plain c :: rewritten rules index (some c) rest
  | before?, .marked arguments text :: rest =>
    ((rules.referenceFor? index (before?.any joinsName) arguments).elim
        [.marked arguments text] (·.map .plain))
      ++ rewritten rules index (text.getLast?.or before?) rest

/-- The text of a reference, from the marker on to the parenthesis. -/
theorem exists_of_referenceFor? {joined : Bool} {arguments : List Argument} {text : List Char}
    (h : rules.referenceFor? index joined arguments = some text) :
    ∃ tail, text = rules.marker.toList ++ '.' :: (tail ++ [')']) := by
  unfold referenceFor? at h
  split at h
  · cases h
  · obtain ⟨call, -, hkey⟩ := Option.bind_eq_some_iff.1 h
    obtain ⟨key, -, rfl⟩ := Option.map_eq_some_iff.1 hkey
    exact ⟨'t' :: '(' :: Literal.quoteChars (Key.reference call.namespaceName key).toList
      call.quote, by simp [reference]⟩

/-- **The parts of a rewritten text**: replacing the marker texts from some place on gives them. -/
theorem textOf_rewritten (rules : MarkerRules) (index : PhraseIndex) (front gap : List Char)
    (before? : Option Char) (pieces : List Piece) :
    (Splice.fromCursor (front ++ gap ++ textOf pieces) (byteLength front)
        ((foundIn (byteLength (front ++ gap)) before? pieces).filterMap
          (rules.replacementAt? index))).1
      = gap ++ textOf (rules.rewritten index before? pieces) := by
  induction pieces generalizing front gap before? with
  | nil =>
    rw [foundIn, List.filterMap_nil, Splice.fromCursor, textOf_nil, List.append_nil,
      Splice.dropBytes?_append, rewritten, textOf_nil, List.append_nil]
    rfl
  | cons piece rest ih =>
    cases piece with
    | plain c =>
      have hrest := ih front (gap ++ [c]) (some c)
      rw [← List.append_assoc, byteLength_append (front ++ gap), byteLength_cons,
        byteLength_nil, Nat.add_zero, List.append_assoc (front ++ gap), List.append_assoc gap]
        at hrest
      exact hrest
    | marked arguments text =>
      rw [foundIn, rewritten, textOf_append]
      cases hreference : rules.referenceFor? index (before?.any joinsName) arguments with
      | none =>
        have hnone : rules.replacementAt? index ⟨byteLength (front ++ gap),
            byteLength (front ++ gap) + byteLength text, before?.any joinsName, arguments⟩
              = none := by rw [replacementAt?, hreference, Option.map_none]
        have hrest := ih front (gap ++ text) (text.getLast?.or before?)
        rw [← List.append_assoc, byteLength_append (front ++ gap),
          List.append_assoc (front ++ gap), List.append_assoc gap] at hrest
        rw [List.filterMap_cons_none hnone]
        simpa using hrest
      | some reference =>
        have hsome : rules.replacementAt? index ⟨byteLength (front ++ gap),
            byteLength (front ++ gap) + byteLength text, before?.any joinsName, arguments⟩
              = some (⟨byteLength (front ++ gap), byteLength (front ++ gap) + byteLength text⟩,
                reference) := by rw [replacementAt?, hreference, Option.map_some]
        have hslice := Splice.slice?_append front gap (text ++ textOf rest)
        have hrest := ih (front ++ gap ++ text) [] (text.getLast?.or before?)
        rw [List.filterMap_cons_some hsome, Splice.fromCursor]
        dsimp only
        rw [textOf_marked, hslice]
        dsimp only
        rw [List.append_nil, List.append_assoc (front ++ gap), byteLength_append (front ++ gap)]
          at hrest
        rw [hrest]
        simp [textOf_map_plain]

/-- A text stays as it is up to its first reference. -/
theorem rewritten_eq (rules : MarkerRules) (index : PhraseIndex) (before? : Option Char)
    (pieces : List Piece) :
    rules.rewritten index before? pieces = pieces
      ∨ ∃ front arguments text back reference, pieces = front ++ .marked arguments text :: back
        ∧ rules.referenceFor? index (((textOf front).getLast?.or before?).any joinsName) arguments
          = some reference
        ∧ ∃ more, rules.rewritten index before? pieces
          = front ++ (reference.map .plain ++ more) := by
  induction pieces generalizing before? with
  | nil => exact .inl rfl
  | cons piece rest ih =>
    cases piece with
    | plain c =>
      rcases ih (some c) with
        hsame | ⟨front, arguments, text, back, reference, rfl, href, more, heq⟩
      · exact .inl (by rw [rewritten, hsame])
      · refine .inr ⟨.plain c :: front, arguments, text, back, reference, rfl, ?_, more, ?_⟩
        · rwa [textOf_plain, ← getLast?_or_some]
        · rw [rewritten, heq]
          rfl
    | marked arguments text =>
      rw [rewritten]
      cases hreference : rules.referenceFor? index (before?.any joinsName) arguments with
      | some reference =>
        exact .inr ⟨[], arguments, text, rest, reference, rfl, hreference, _, rfl⟩
      | none =>
        rcases ih (text.getLast?.or before?) with
          hsame | ⟨front, others, other, back, reference, rfl, href, more, heq⟩
        · exact .inl (by rw [hsame]; rfl)
        · refine .inr ⟨.marked arguments text :: front, others, other, back, reference, rfl, ?_,
            more, ?_⟩
          · rwa [textOf_marked, ← getLast?_append_or]
          · rw [heq]
            rfl

/-! ## Settled texts -/

/-- No reference among the parts starts a marker text, inside of it or before it. -/
structure SettlesIn (rules : MarkerRules) (index : PhraseIndex) (before? : Option Char)
    (pieces : List Piece) : Prop where
  headless : ∀ {front back : List Piece} {arguments : List Argument} {text reference : List Char},
    pieces = front ++ .marked arguments text :: back →
    rules.referenceFor? index (((textOf front).getLast?.or before?).any joinsName) arguments
        = some reference →
      ∀ head, IsHead rules.marker.toList head → ¬head <:+: reference
  closed : ∀ {front mid back : List Piece} {c : Char} {arguments : List Argument}
      {text reference : List Char},
    pieces = front ++ .plain c :: (mid ++ .marked arguments text :: back) →
    rules.referenceFor? index
        (((textOf (front ++ .plain c :: mid)).getLast?.or before?).any joinsName) arguments
          = some reference →
      ¬Unfinished rules.marker.toList (c :: textOf mid)

theorem SettlesIn.tail {before? : Option Char} {piece : Piece} {rest : List Piece}
    (h : rules.SettlesIn index before? (piece :: rest)) :
    rules.SettlesIn index (piece.chars.getLast?.or before?) rest := by
  constructor
  · rintro front back arguments text reference rfl href
    refine h.headless (List.cons_append ..).symm ?_
    rwa [getLast?_append_or] at href
  · rintro front mid back c arguments text reference rfl href
    rw [getLast?_append_or] at href
    exact h.closed (List.cons_append ..).symm href

/-- **No marker text arises among the parts of a rewritten text.** -/
theorem scans_rewritten {before? : Option Char} {pieces : List Piece}
    (hmarker : ')' ∉ rules.marker.toList) (h : Scans rules.marker.toList pieces)
    (hsettles : rules.SettlesIn index before? pieces) :
    Scans rules.marker.toList (rules.rewritten index before? pieces) := by
  induction h generalizing before? with
  | nil => exact .nil
  | @plain c rest hnone _ ih =>
    refine .plain ?_ (ih hsettles.tail)
    rcases rewritten_eq rules index (some c) rest with
      hsame | ⟨front, arguments, text, back, reference, rfl, href, more, heq⟩
    · rw [hsame, hnone]
    · -- The text between the character and the first reference is the one from before.
      obtain ⟨tail, rfl⟩ := exists_of_referenceFor? href
      have hopen : ¬Unfinished rules.marker.toList (c :: textOf front) :=
        hsettles.closed (List.nil_append _).symm
          (by rwa [List.nil_append, textOf_plain, ← getLast?_or_some])
      rw [textOf_append] at hnone
      rw [heq, textOf_append, textOf_append, textOf_map_plain, ← List.append_assoc]
      exact readHere?_append_reference hmarker hopen hnone
  | @marked arguments text rest htext _ ih =>
    have hrest := ih hsettles.tail
    rw [rewritten]
    cases hreference : rules.referenceFor? index (before?.any joinsName) arguments with
    | none => exact .marked htext hrest
    | some reference =>
      refine hrest.map_plain_append fun left hne hleft => ?_
      obtain ⟨tail, htail⟩ := exists_of_referenceFor? hreference
      obtain ⟨init, last, rfl⟩ := (List.eq_nil_or_concat' left).resolve_left hne
      have hlast := hleft
      rw [htail, ← List.cons_append, ← List.append_assoc] at hlast
      obtain ⟨start, hstart⟩ := hlast
      rw [← List.append_assoc] at hstart
      obtain rfl : last = ')' := List.singleton_injective (List.append_inj' hstart rfl).2
      exact readHere?_eq_none_of_headless hmarker
        (hsettles.headless (List.nil_append _).symm hreference) hleft

/-- The marker texts that are left over have no reference. -/
theorem exists_of_mem_foundIn_rewritten {before? : Option Char} {pieces : List Piece}
    (h : Scans rules.marker.toList pieces) {offset : Nat} (offset' : Nat) {found : Found}
    (hmem : found ∈ foundIn offset before? (rules.rewritten index before? pieces)) :
    rules.referenceFor? index found.joined found.arguments = none
      ∧ ∃ origin ∈ foundIn offset' before? pieces,
        origin.joined = found.joined ∧ origin.arguments = found.arguments := by
  induction h generalizing before? offset offset' with
  | nil => cases hmem
  | plain _ _ ih => exact ih _ hmem
  | @marked arguments text rest htext _ ih =>
    rw [rewritten] at hmem
    cases hreference : rules.referenceFor? index (before?.any joinsName) arguments with
    | none =>
      rw [hreference] at hmem
      rcases List.mem_cons.1 hmem with rfl | hmore
      · exact ⟨hreference, _, List.mem_cons_self, rfl, rfl⟩
      · obtain ⟨hnone, origin, horigin, hsame⟩ := ih (offset' + byteLength text) hmore
        exact ⟨hnone, origin, List.mem_cons_of_mem _ horigin, hsame⟩
    | some reference =>
      -- A reference ends with the same character as the marker text.
      obtain ⟨tail, rfl⟩ := exists_of_referenceFor? hreference
      obtain ⟨init, rfl⟩ := htext.exists_eq_concat
      rw [hreference, foundIn_append] at hmem
      simp only [Option.elim_some, foundIn_map_plain, List.nil_append, textOf_map_plain] at hmem
      have hlast : ((rules.marker.toList ++ '.' :: (tail ++ [')'])).getLast?.or before?)
          = (init ++ [')']).getLast?.or before? := by
        rw [← List.cons_append, ← List.append_assoc, List.getLast?_concat, List.getLast?_concat]
      rw [hlast] at hmem
      obtain ⟨hnone, origin, horigin, hsame⟩ := ih (offset' + byteLength (init ++ [')'])) hmem
      exact ⟨hnone, origin, List.mem_cons_of_mem _ horigin, hsame⟩

/-- No reference of the unit starts a marker text: none holds the start of one, and any text before
one that may go on over it to a marker text starts inside a marker text that was found. -/
structure Settles (rules : MarkerRules) (index : PhraseIndex) (unit : SourceUnit) : Prop where
  headless : ∀ found ∈ Marker.Text.find rules.marker unit.code.toList, ∀ reference,
    rules.referenceFor? index found.joined found.arguments = some reference →
      ∀ head, IsHead rules.marker.toList head → ¬head <:+: reference
  closed : ∀ found ∈ Marker.Text.find rules.marker unit.code.toList,
    (rules.referenceFor? index found.joined found.arguments).isSome →
      ∀ before piece after, unit.code.toList = before ++ piece ++ after →
        byteLength (before ++ piece) = found.start → piece ≠ [] →
        Unfinished rules.marker.toList piece →
          ∃ other ∈ Marker.Text.find rules.marker unit.code.toList,
            other.start ≤ byteLength before ∧ byteLength before < other.stop

/-- The marker texts of a text in these parts. -/
theorem find_of_scans {pieces : List Piece} {text : List Char}
    (hscans : Scans rules.marker.toList pieces) (htext : textOf pieces = text) :
    Marker.Text.find rules.marker text = foundIn 0 none pieces := by
  rw [← htext]
  exact findFrom_textOf hscans 0 none

/-- The parts of a settled text. -/
theorem Settles.settlesIn (h : rules.Settles index unit) {pieces : List Piece}
    (hscans : Scans rules.marker.toList pieces) (htext : textOf pieces = unit.code.toList) :
    rules.SettlesIn index none pieces := by
  have hfind := find_of_scans hscans htext
  have hfound : ∀ {front back : List Piece} {arguments : List Argument} {text : List Char},
      pieces = front ++ .marked arguments text :: back →
        ⟨byteLength (textOf front), byteLength (textOf front) + byteLength text,
            ((textOf front).getLast?.or none).any joinsName, arguments⟩
          ∈ Marker.Text.find rules.marker unit.code.toList := by
    rintro front back arguments text rfl
    rw [hfind, foundIn_append, Nat.zero_add]
    exact List.mem_append_right _ List.mem_cons_self
  constructor
  · exact fun hpieces href => h.headless _ (hfound hpieces) _ href
  · intro front mid back c arguments text reference hpieces href hopen
    have hmem := hfound (hpieces.trans (List.append_assoc front (.plain c :: mid) _).symm)
    obtain ⟨other, hother, hstart, hstop⟩ := h.closed _ hmem
      (by rw [href]; rfl) (textOf front) (c :: textOf mid) (text ++ textOf back)
      (by rw [← htext, hpieces]; simp [textOf_append]) (by rw [textOf_append]; rfl)
      (List.cons_ne_nil _ _) hopen
    rw [hfind, hpieces] at hother
    exact absurd (not_covered_plain hother hstart) (Nat.not_le.2 hstop)

/-! ## Rewriting again -/

/-- The rewritten code of a text in these parts. -/
theorem toList_code_of_scans (index : PhraseIndex) {pieces : List Piece}
    (hscans : Scans rules.marker.toList pieces) (htext : textOf pieces = unit.code.toList) :
    (rules.rewritingOf index unit ((Marker.Text.calls rules.marker unit).filterMap
      (Call.marker? rules.marker))).code.toList = textOf (rules.rewritten index none pieces) := by
  have hsplice := textOf_rewritten rules index [] [] none pieces
  rw [List.nil_append, List.nil_append, byteLength_nil, htext, ← find_of_scans hscans htext,
    ← filterMap_replacement?_calls] at hsplice
  exact String.toList_ofList.trans hsplice

/-- Calls of which none is replaced leave the code as it is. -/
theorem rewritingOf_of_filterMap_eq_nil {calls : List MarkerCall}
    (h : calls.filterMap (rules.replacement? index) = []) :
    (rules.rewritingOf index unit calls).code = unit.code
      ∧ (rules.rewritingOf index unit calls).replaced = 0 := by
  unfold rewritingOf
  rw [h, fromCursor_nil]
  exact ⟨String.ofList_toList, rfl⟩

/-- **Rewriting a rewritten unit changes nothing**, if its references start no marker text. -/
theorem rewrite_rewrite_of_settles {first : Rewriting} (hsource : rules.source = .text)
    (hmarker : Settings.isMarker rules.marker = true)
    (hsettles : rules.isVendored unit.path = false → rules.Settles index unit)
    (h : rules.rewrite index unit = .ok first) :
    ∃ again, rules.rewrite index ⟨unit.path, first.code⟩ = .ok again
      ∧ again.code = first.code ∧ again.replaced = 0 := by
  rcases rewrite_eq_ok_iff.1 h with ⟨hvendored, rfl⟩ | ⟨hvendored, calls, hcalls, rfl⟩
  · exact ⟨_, rewrite_of_isVendored hvendored index, rfl, rfl⟩
  obtain rfl :
      (Marker.Text.calls rules.marker unit).filterMap (Call.marker? rules.marker) = calls :=
    Except.ok.inj ((find_of_text hsource unit).symm.trans (findKnown_eq_ok_iff.1 hcalls).1)
  obtain ⟨pieces, hscans, htext⟩ := exists_scans rules.marker.toList unit.code.toList
  have hagain : Scans rules.marker.toList (rules.rewritten index none pieces) :=
    scans_rewritten (Settings.notMem_of_isMarker hmarker (by decide) (by decide)) hscans
      ((hsettles hvendored).settlesIn hscans htext)
  have hcode := toList_code_of_scans index hscans htext
  generalize rules.rewritingOf index unit _ = first at hcode
  -- What is found again was found before, with the same namespace, and had no key.
  have hfound : ∀ found ∈ Marker.Text.find rules.marker first.code.toList,
      rules.referenceFor? index found.joined found.arguments = none
        ∧ ∀ ns, rules.namespaceFor? found.joined found.arguments = some ns
          → ns ∈ rules.namespaces := by
    intro found hmem
    rw [find_of_scans hagain hcode.symm] at hmem
    obtain ⟨hnone, origin, horigin, hjoined, harguments⟩ :=
      exists_of_mem_foundIn_rewritten hscans 0 hmem
    rw [← find_of_scans hscans htext] at horigin
    exact ⟨hnone, hjoined ▸ harguments ▸ (findKnown_of_text hsource unit).1 hcalls origin horigin⟩
  have hnothing : (Marker.Text.find rules.marker first.code.toList).filterMap
      (rules.replacementAt? index) = [] :=
    List.filterMap_eq_nil_iff.2 fun found hmem => by
      rw [replacementAt?, (hfound found hmem).1, Option.map_none]
  refine ⟨_, rewrite_eq_ok_iff.2 (.inr ⟨hvendored, _, (findKnown_of_text hsource _).2
    fun found hmem => (hfound found hmem).2, rfl⟩), ?_⟩
  exact rewritingOf_of_filterMap_eq_nil ((filterMap_replacement?_calls _).trans hnothing)

/-- A call inside another call becomes a reference to its key. -/
theorem rewrite_rewrite_small_of_settles :
    let rules := Project.small.rules
    let index := Project.small.indexOf (Project.smallCatalog "hello" "你好")
    rules.source = .text ∧ Settings.isMarker rules.marker = true
      ∧ rules.Settles index ⟨"src/app.ts", "f(i18n.s('你好'))"⟩
      ∧ rules.rewrite index ⟨"src/app.ts", "f(i18n.s('你好'))"⟩ = .ok ⟨"f(i18n.t('hello'))", 1, []⟩
      ∧ ∃ again, rules.rewrite index ⟨"src/app.ts", "f(i18n.t('hello'))"⟩ = .ok again
        ∧ again.code = "f(i18n.t('hello'))" ∧ again.replaced = 0 := by
  intro rules index
  have hfind : Marker.Text.find rules.marker "f(i18n.s('你好'))".toList
      = [⟨2, 18, false, [.text "你好" .single]⟩] := by decide +kernel
  have hreference : rules.referenceFor? index false [.text "你好" .single]
      = some "i18n.t('hello')".toList := by decide +kernel
  have hsettles : rules.Settles index ⟨"src/app.ts", "f(i18n.s('你好'))"⟩ := by
    constructor
    · rw [hfind]
      intro found hfound reference href head hhead hwithin
      obtain rfl := List.mem_singleton.1 hfound
      rw [hreference] at href
      cases href
      have hletter : 's' ∈ head := by
        obtain ⟨-, -, -⟩ := hhead
        simp
      exact absurd (hwithin.subset hletter) (by decide)
    · rw [hfind]
      intro found hfound _ before piece after hcode hstart hpiece hopen
      obtain rfl := List.mem_singleton.1 hfound
      -- The text before the call does not hold the letter with which a marker starts.
      have hfront : Splice.takeBytes? 2 "f(i18n.s('你好'))".toList = some (before ++ piece) := by
        rw [hcode, show 2 = byteLength (before ++ piece) from hstart.symm]
        exact Splice.takeBytes?_append _ _
      have hletter : 'i' ∈ piece := List.mem_of_mem_head? (by
        rw [hopen.head?_eq (by decide) hpiece]
        decide)
      obtain heq : ['f', '('] = before ++ piece := by
        refine Option.some.inj (Eq.trans ?_ hfront)
        decide +kernel
      have : 'i' ∈ ['f', '('] := heq ▸ List.mem_append_right _ hletter
      exact absurd this (by decide)
  have hrewrite : rules.rewrite index ⟨"src/app.ts", "f(i18n.s('你好'))"⟩
      = .ok ⟨"f(i18n.t('hello'))", 1, []⟩ := by decide +kernel
  exact ⟨rfl, by decide, hsettles, hrewrite,
    rewrite_rewrite_of_settles rfl (by decide) (fun _ => hsettles) hrewrite⟩

/-- The quoted key of a phrase holds a marker text, whose phrase has a key too. -/
theorem not_rewrite_rewrite_of_text :
    ¬∀ (settings : Settings) (index : PhraseIndex) (unit : SourceUnit) (first : Rewriting),
      settings.validate = .ok settings → settings.source = .text →
      settings.markerRules.rewrite index unit = .ok first →
        ∃ again, settings.markerRules.rewrite index ⟨unit.path, first.code⟩ = .ok again
          ∧ again.code = first.code ∧ again.replaced = 0 := by
  intro hall
  let index := Project.small.indexOf
    ((Project.smallCatalog "i18n.s(\"hi\")" "你好").insert "default" "say" "hi")
  obtain ⟨again, hagain, -, hreplaced⟩ := hall Project.small.settings index Project.smallUnit
    ⟨"i18n.t('i18n.s(\"hi\")')", 1, []⟩ (by decide +kernel) rfl (by decide +kernel)
  have hsecond : Project.small.settings.markerRules.rewrite index
      ⟨"src/app.ts", "i18n.t('i18n.s(\"hi\")')"⟩ = .ok ⟨"i18n.t('i18n.t(\"say\")')", 1, []⟩ := by
    decide +kernel
  obtain rfl := Except.ok.inj (hsecond.symm.trans hagain)
  cases hreplaced

-- A key that holds no start of a marker text is not enough: the text before the call is unfinished.
example :
    let index := Project.small.indexOf
      ((Project.smallCatalog "k" "it's").insert "default" "m" "a i18n.t(\"k\") b")
    Project.small.rules.rewrite index ⟨"src/app.ts", "i18n.s('a i18n.s(\"it's\") b')"⟩
        = .ok ⟨"i18n.s('a i18n.t(\"k\") b')", 1, []⟩
      ∧ Project.small.rules.rewrite index ⟨"src/app.ts", "i18n.s('a i18n.t(\"k\") b')"⟩
        = .ok ⟨"i18n.t('m')", 1, []⟩ := by
  decide +kernel

end MarkerRules

end Phrasebook

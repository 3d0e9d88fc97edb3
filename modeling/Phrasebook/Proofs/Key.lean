import Phrasebook.Key

/-!
# Texts that keys stand for

A key stands for the text that it is unescaped to. Not every text is that of a key: one that
contains an escaped separator is not, since unescaping takes them all away. For the texts that are,
unescaping is inverse to escaping.

Results:
* `Key.unescape_escape_unescape`: the text of a key is the text of its escaped form.
* `Key.unescape_escape_eq_iff`: escaping loses nothing exactly of the texts without an escaped
  separator, and these are the texts of keys.
* `Key.escape_unescape_le`: of all keys with one text, the escaped text comes first.
* `Key.escape_unescape_eq_iff`: unescaping loses nothing exactly of the keys without a separator.
* `Key.escape_unescape_exact`: when each of the two undoes the other.
-/

namespace Phrasebook.Key

theorem escapeChars_cons (c : Char) (text : List Char) :
    escapeChars (c :: text)
      = (if c = separator then escapedSeparator else [c]) ++ escapeChars text :=
  List.flatMap_cons

theorem unescapeChars_escapedSeparator (text : List Char) :
    unescapeChars (escapedSeparator ++ text) = separator :: unescapeChars text := rfl

/-- A character that no escaped separator starts with stays as it is. -/
theorem unescapeChars_cons {c : Char} {text : List Char}
    (h : ∀ rest, c :: text ≠ escapedSeparator ++ rest) :
    unescapeChars (c :: text) = c :: unescapeChars text := by
  rw [unescapeChars.eq_3]
  rintro rest rfl rfl
  exact h rest rfl

/-- The first character of an escaped text of a key is that of the key itself, unless an escaped
separator may start there. -/
theorem eq_cons_of_escapeChars_unescapeChars {key tail : List Char} {c : Char}
    (h : escapeChars (unescapeChars key) = c :: tail) (hc : c ≠ '&') :
    ∃ rest, key = c :: rest ∧ escapeChars (unescapeChars rest) = tail := by
  cases key using unescapeChars.fun_cases with
  | case1 rest =>
    rw [unescapeChars.eq_1, escapeChars_cons, if_pos rfl] at h
    exact absurd (List.cons.inj h).1.symm hc
  | case2 => cases h
  | case3 first rest hplain =>
    rw [unescapeChars.eq_3 _ _ hplain, escapeChars_cons] at h
    split at h
    · exact absurd (List.cons.inj h).1.symm hc
    · obtain ⟨rfl, htail⟩ := List.cons.inj h
      exact ⟨rest, rfl, htail⟩

/-- Escaping makes an escaped separator only of a separator or of a text that held one. -/
theorem eq_append_of_escapeChars_unescapeChars {key tail : List Char}
    (h : '&' :: escapeChars (unescapeChars key) = escapedSeparator ++ tail) :
    ∃ rest, '&' :: key = escapedSeparator ++ rest := by
  have hhash : escapeChars (unescapeChars key) = '#' :: '5' :: '8' :: ';' :: tail :=
    (List.cons.inj h).2
  obtain ⟨_, rfl, hfive⟩ := eq_cons_of_escapeChars_unescapeChars hhash (by decide)
  obtain ⟨_, rfl, height⟩ := eq_cons_of_escapeChars_unescapeChars hfive (by decide)
  obtain ⟨_, rfl, hend⟩ := eq_cons_of_escapeChars_unescapeChars height (by decide)
  obtain ⟨rest, rfl, -⟩ := eq_cons_of_escapeChars_unescapeChars hend (by decide)
  exact ⟨rest, rfl⟩

theorem unescapeChars_escapeChars_unescapeChars (key : List Char) :
    unescapeChars (escapeChars (unescapeChars key)) = unescapeChars key := by
  induction key using unescapeChars.induct with
  | case1 rest ih =>
    rw [unescapeChars.eq_1, escapeChars_cons, if_pos rfl, unescapeChars_escapedSeparator, ih]
  | case2 => rfl
  | case3 c rest hplain ih =>
    rw [unescapeChars.eq_3 _ _ hplain, escapeChars_cons]
    split
    · next hseparator =>
      rw [unescapeChars_escapedSeparator, ih, hseparator]
    · rw [List.singleton_append, unescapeChars_cons, ih]
      -- Otherwise an escaped separator starts in the key already.
      intro tail htail
      obtain rfl : c = '&' := (List.cons.inj htail).1
      obtain ⟨rest', hrest⟩ := eq_append_of_escapeChars_unescapeChars htail
      exact hplain rest' rfl (List.cons.inj hrest).2

/-- **The text of a key is the text of its escaped form.** -/
theorem unescape_escape_unescape (key : String) :
    unescape (escape (unescape key)) = unescape key := by
  unfold escape unescape
  simp only [String.toList_ofList, unescapeChars_escapeChars_unescapeChars]

/-! ## Texts without an escaped separator -/

theorem eq_cons_of_escapeChars {text tail : List Char} {c : Char}
    (h : escapeChars text = c :: tail) (hc : c ≠ '&') :
    ∃ rest, text = c :: rest ∧ escapeChars rest = tail := by
  cases text with
  | nil => cases h
  | cons first rest =>
    rw [escapeChars_cons] at h
    split at h
    · exact absurd (List.cons.inj h).1.symm hc
    · obtain ⟨rfl, htail⟩ := List.cons.inj h
      exact ⟨rest, rfl, htail⟩

/-- An escaped text starts with an escaped separator, other than that of a separator, only where
the text does. -/
theorem escapedSeparator_prefix_of_escapeChars {text tail : List Char}
    (h : '&' :: escapeChars text = escapedSeparator ++ tail) :
    escapedSeparator <+: '&' :: text := by
  have hhash : escapeChars text = '#' :: '5' :: '8' :: ';' :: tail := (List.cons.inj h).2
  obtain ⟨_, rfl, hfive⟩ := eq_cons_of_escapeChars hhash (by decide)
  obtain ⟨_, rfl, height⟩ := eq_cons_of_escapeChars hfive (by decide)
  obtain ⟨_, rfl, hend⟩ := eq_cons_of_escapeChars height (by decide)
  obtain ⟨rest, rfl, -⟩ := eq_cons_of_escapeChars hend (by decide)
  exact ⟨rest, rfl⟩

/-- Escaping loses nothing exactly of characters without an escaped separator. -/
theorem unescapeChars_escapeChars_eq_iff (text : List Char) :
    unescapeChars (escapeChars text) = text ↔ ¬escapedSeparator <:+: text := by
  induction text with
  | nil => decide
  | cons c rest ih =>
    rw [escapeChars_cons, List.infix_cons_iff, not_or]
    by_cases hseparator : c = separator
    · rw [if_pos hseparator, unescapeChars_escapedSeparator, hseparator, List.cons.injEq, ih]
      have hstart : ¬escapedSeparator <+: separator :: rest := by
        rintro ⟨tail, htail⟩
        exact absurd (List.cons.inj htail).1 (by decide)
      simp [hstart]
    · rw [if_neg hseparator, List.singleton_append]
      by_cases hstart : ∃ tail, c :: escapeChars rest = escapedSeparator ++ tail
      · -- The text starts with an escaped separator, which unescaping takes away.
        obtain ⟨tail, htail⟩ := hstart
        obtain rfl : c = '&' := (List.cons.inj htail).1
        have hstarts : escapedSeparator <+: '&' :: rest :=
          escapedSeparator_prefix_of_escapeChars htail
        rw [htail, unescapeChars_escapedSeparator]
        simp only [hstarts, not_true, false_and, iff_false]
        exact fun h => absurd (List.cons.inj h).1 (by decide)
      · have hplain : ∀ tail, c :: escapeChars rest ≠ escapedSeparator ++ tail :=
          fun tail htail => hstart ⟨tail, htail⟩
        have hstarts : ¬escapedSeparator <+: c :: rest := by
          rintro ⟨tail, htail⟩
          refine hplain (escapeChars tail) ?_
          obtain ⟨rfl, hrest⟩ := List.cons.inj htail
          rw [← hrest]
          rfl
        rw [unescapeChars_cons hplain, List.cons.injEq, ih]
        simp [hstarts]

/-- **Escaping loses nothing exactly of texts without an escaped separator.** -/
theorem unescape_escape_eq_iff (text : String) :
    unescape (escape text) = text ↔ ¬escapedSeparator <:+: text.toList := by
  rw [← unescapeChars_escapeChars_eq_iff]
  unfold unescape escape
  rw [String.toList_ofList, ← String.toList_inj, String.toList_ofList]

/-- No key stands for a text with an escaped separator. -/
theorem not_infix_unescape (key : String) : ¬escapedSeparator <:+: (unescape key).toList :=
  (unescape_escape_eq_iff _).1 (unescape_escape_unescape key)

/-! ## The order of keys -/

theorem not_lex_cons {c : Char} {first second : List Char} (h : ¬List.Lex Char.lt first second) :
    ¬List.Lex Char.lt (c :: first) (c :: second) := by
  intro hlex
  cases hlex with
  | rel hlt => exact Char.lt_irrefl c hlt
  | cons hrest => exact h hrest

/-- No key comes before the escaped form of its text. -/
theorem not_lex_escapeChars_unescapeChars (key : List Char) :
    ¬List.Lex Char.lt key (escapeChars (unescapeChars key)) := by
  induction key using unescapeChars.induct with
  | case1 rest ih =>
    rw [unescapeChars.eq_1, escapeChars_cons, if_pos rfl]
    exact not_lex_cons (not_lex_cons (not_lex_cons (not_lex_cons (not_lex_cons ih))))
  | case2 => exact nofun
  | case3 c rest hplain ih =>
    rw [unescapeChars.eq_3 _ _ hplain, escapeChars_cons]
    split
    · next hseparator =>
      rw [hseparator]
      intro hlex
      cases hlex with
      | rel hlt => exact absurd (show separator < '&' from hlt) (by decide)
    · exact not_lex_cons ih

/-- **Of all keys with one text, the escaped text comes first.** -/
theorem escape_unescape_le (key : String) : escape (unescape key) ≤ key := by
  show ¬List.Lex Char.lt key.toList (escape (unescape key)).toList
  unfold escape unescape
  rw [String.toList_ofList, String.toList_ofList]
  exact not_lex_escapeChars_unescapeChars key.toList

/-! ## Separators -/

theorem separator_notMem_escapeChars (text : List Char) : separator ∉ escapeChars text := by
  unfold escapeChars
  rw [List.mem_flatMap]
  rintro ⟨c, -, hmem⟩
  split at hmem
  · exact absurd hmem (by decide)
  · next hne => exact hne (List.mem_singleton.1 hmem).symm

/-- An escaped text has no separator. -/
theorem separator_notMem_escape (text : String) : separator ∉ (escape text).toList := by
  unfold escape
  rw [String.toList_ofList]
  exact separator_notMem_escapeChars text.toList

/-! ## Keys without a separator -/

/-- The characters of a key without a separator come back from their text. -/
theorem escapeChars_unescapeChars {key : List Char} (h : separator ∉ key) :
    escapeChars (unescapeChars key) = key := by
  induction key using unescapeChars.induct with
  | case1 rest ih =>
    have hrest : separator ∉ rest := fun hmem => h (List.mem_append_right escapedSeparator hmem)
    rw [unescapeChars.eq_1, escapeChars_cons, if_pos rfl, ih hrest]
    rfl
  | case2 => rfl
  | case3 c rest hplain ih =>
    obtain ⟨hc, hrest⟩ := List.ne_and_not_mem_of_not_mem_cons h
    rw [unescapeChars.eq_3 _ _ hplain, escapeChars_cons, if_neg (Ne.symm hc), ih hrest]
    rfl

/-- **Unescaping loses nothing exactly of keys without a separator.** -/
theorem escape_unescape_eq_iff (key : String) :
    escape (unescape key) = key ↔ separator ∉ key.toList := by
  constructor
  · intro h
    rw [← h]
    exact separator_notMem_escape (unescape key)
  · intro h
    unfold escape unescape
    rw [String.toList_ofList, escapeChars_unescapeChars h, String.ofList_toList]

/-- **Escaping is undone exactly off the escaped separator, and unescaping exactly off the
separator.** No escaped text has a separator, and texts without an escaped separator have different
keys. -/
theorem escape_unescape_exact :
    (∀ text, separator ∉ (escape text).toList)
      ∧ (∀ text, unescape (escape text) = text ↔ ¬escapedSeparator <:+: text.toList)
      ∧ (∀ first second, ¬escapedSeparator <:+: first.toList →
        ¬escapedSeparator <:+: second.toList → escape first = escape second → first = second)
      ∧ ∀ key, escape (unescape key) = key ↔ separator ∉ key.toList := by
  refine ⟨separator_notMem_escape, unescape_escape_eq_iff, ?_, escape_unescape_eq_iff⟩
  intro first second hfirst hsecond hsame
  calc
    first = unescape (escape first) := ((unescape_escape_eq_iff first).2 hfirst).symm
    _ = unescape (escape second) := by rw [hsame]
    _ = second := (unescape_escape_eq_iff second).2 hsecond

/-- A time and its key stand for each other, and another text has another key. -/
theorem escape_unescape_time :
    unescape (escape "time: now") = "time: now"
      ∧ escape (unescape "time&#58; now") = "time&#58; now"
      ∧ escape "time: now" ≠ escape "time; now" := by
  have htime : ¬escapedSeparator <:+: "time: now".toList := by decide +kernel
  have hother : ¬escapedSeparator <:+: "time; now".toList := by decide +kernel
  have hkey : separator ∉ "time&#58; now".toList := by decide +kernel
  obtain ⟨-, hescape, hinjective, hunescape⟩ := escape_unescape_exact
  refine ⟨(hescape _).2 htime, (hunescape _).2 hkey, fun hsame => ?_⟩
  exact absurd (hinjective _ _ htime hother hsame) (by decide)

end Phrasebook.Key

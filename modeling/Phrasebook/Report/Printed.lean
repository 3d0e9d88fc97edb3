/-!
# What is printed

What is printed is a text, and printing may break off for good. It does where a line would have to
be padded by more columns than the width of a format can count. Such a line is not begun.

Results:
* `Printed.text_join`: what stands in front of a part is printed as long as nothing breaks off.
* `Printed.brokeOff_join`: printing breaks off as soon as one part does.
-/

namespace Phrasebook

/-- What was printed. -/
structure Printed where
  text : String
  /-- Nothing is printed any more. -/
  brokeOff : Bool
  deriving DecidableEq, Repr

namespace Printed

/-- A text that is printed. -/
def ofText (text : String) : Printed := ⟨text, false⟩

/-- Printing breaks off before anything is printed. -/
def stopped : Printed := ⟨"", true⟩

/-- Goes on with printing, unless it broke off. -/
def append (first second : Printed) : Printed :=
  if first.brokeOff then first else ⟨first.text ++ second.text, second.brokeOff⟩

instance : Append Printed := ⟨append⟩

/-- Prints one after the other, until one breaks off. -/
def join : List Printed → Printed
  | [] => ofText ""
  | first :: rest => first ++ join rest

/-- The most columns that a line can be padded by. -/
def maxPadding : Nat := 65535

/-! ## Results -/

variable {first second : Printed} {parts : List Printed}

@[simp] theorem text_ofText (text : String) : (ofText text).text = text := rfl

@[simp] theorem brokeOff_ofText (text : String) : (ofText text).brokeOff = false := rfl

theorem text_append :
    (first ++ second).text = first.text ++ (if first.brokeOff then "" else second.text) := by
  change (append first second).text = _
  unfold append
  split <;> simp

theorem brokeOff_append :
    (first ++ second).brokeOff = (first.brokeOff || second.brokeOff) := by
  change (append first second).brokeOff = _
  unfold append
  split
  · next h => rw [h, Bool.true_or]
  · next h => rw [Bool.eq_false_iff.2 h, Bool.false_or]

/-- Printing breaks off as soon as one part does. -/
theorem brokeOff_join : (join parts).brokeOff = parts.any brokeOff := by
  induction parts with
  | nil => rfl
  | cons first rest ih => rw [join, brokeOff_append, List.any_cons, ih]

/-- What stands in front of a part is printed as long as nothing breaks off, and nothing is printed
after a part that does. -/
theorem text_join {front back : List Printed} (part : Printed)
    (hfront : ∀ other ∈ front, other.brokeOff = false) :
    (join (front ++ part :: back)).text
      = (join front).text ++ part.text ++ (if part.brokeOff then "" else (join back).text) := by
  induction front with
  | nil => simp [join, text_append]
  | cons first rest ih =>
    have hfirst := hfront first List.mem_cons_self
    have hrest := ih fun other hmem => hfront other (List.mem_cons_of_mem _ hmem)
    rw [List.cons_append, join, text_append, join, text_append, hfirst, if_neg Bool.false_ne_true,
      if_neg Bool.false_ne_true, hrest, String.append_assoc, String.append_assoc,
      String.append_assoc]

end Printed

end Phrasebook

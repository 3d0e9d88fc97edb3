/-!
# Coloured text

A text is coloured by control sequences around it. Without colours it is left as it is.

Models the colouring of what the commands print.
-/

namespace Phrasebook

/-- The colours of a terminal. -/
inductive Color where
  | red
  | green
  | yellow
  | blue
  | cyan
  deriving DecidableEq, Repr

/-- How strong a text is. -/
inductive Weight where
  | bold
  | dimmed
  deriving DecidableEq, Repr

/-- How a text looks. -/
structure Style where
  weight? : Option Weight
  color? : Option Color
  deriving DecidableEq, Repr

/-- The number of a colour in a control sequence. -/
def Color.code : Color → String
  | .red => "31"
  | .green => "32"
  | .yellow => "33"
  | .blue => "34"
  | .cyan => "36"

/-- The number of a weight in a control sequence. -/
def Weight.code : Weight → String
  | .bold => "1"
  | .dimmed => "2"

namespace Style

/-- A colour. -/
def plain (color : Color) : Style := ⟨none, some color⟩

/-- A strong colour. -/
def strong (color : Color) : Style := ⟨some .bold, some color⟩

/-- The control sequence of a style. -/
def opening (style : Style) : String :=
  "\x1b["
    ++ String.intercalate ";" ((style.weight?.map Weight.code).toList
      ++ (style.color?.map Color.code).toList)
    ++ "m"

/-- The control sequence that ends a style. -/
def closing : String := "\x1b[0m"

/-- A text in a style, if there are colours. -/
def paint (style : Style) (colored : Bool) (text : String) : String :=
  if colored then style.opening ++ text ++ closing else text

end Style

end Phrasebook

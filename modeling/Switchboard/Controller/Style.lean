/-!
Colours and weights of terminal text. A style is switched on by a sequence of codes before the text and
off after it; where the text itself switches styles off, the style is switched on again.
-/

namespace Switchboard

inductive Colour
  | red
  | green
  | yellow
  | blue
  | magenta
  | cyan
  deriving DecidableEq, Repr

inductive Weight
  | bold
  | dimmed
  deriving DecidableEq, Repr

structure Style where
  weight : Option Weight := none
  colour : Option Colour := none
  deriving DecidableEq, Repr, Inhabited

def Colour.code : Colour → String
  | red => "31"
  | green => "32"
  | yellow => "33"
  | blue => "34"
  | magenta => "35"
  | cyan => "36"

def Weight.code : Weight → String
  | bold => "1"
  | dimmed => "2"

namespace Style

/-- The sequence that switches every style off. -/
def off : String := "\x1b[0m"

def on (style : Style) : String :=
  let codes := (style.weight.map Weight.code).toList ++ (style.colour.map Colour.code).toList
  "\x1b[" ++ String.intercalate ";" codes ++ "m"

/-- Writes a text in a style, unless colours are off or the style is plain. -/
def paint (colours : Bool) (style : Style) (text : String) : String :=
  if colours && style != {} then
    style.on ++ String.intercalate (off ++ style.on) (text.splitOn off) ++ off
  else text

def coloured (colour : Colour) : Style := { colour := some colour }

def strong (colour : Colour) : Style := { weight := some .bold, colour := some colour }

def faint : Style := { weight := some .dimmed }

end Style

end Switchboard

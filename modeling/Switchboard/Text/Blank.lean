/-!
Blank characters and trimming. A character is blank when it has the White_Space property, so the
no-break space and the ideographic space are blank while the zero-width space is not.
-/

namespace Switchboard.Text

def isBlank (c : Char) : Bool :=
  let n := c.toNat
  (0x9 ≤ n && n ≤ 0xd) || n == 0x20 || n == 0x85 || n == 0xa0 || n == 0x1680 ||
    (0x2000 ≤ n && n ≤ 0x200a) || n == 0x2028 || n == 0x2029 || n == 0x202f || n == 0x205f ||
    n == 0x3000

def trimChars (text : List Char) : List Char :=
  ((text.dropWhile isBlank).reverse.dropWhile isBlank).reverse

def trim (text : String) : String :=
  String.ofList (trimChars text.toList)

/-- The words of a text: its longest runs without blanks. -/
def words (text : String) : List String :=
  let step (c : Char) (acc : List Char × List (List Char)) : List Char × List (List Char) :=
    if isBlank c then
      if acc.1.isEmpty then acc else ([], acc.1 :: acc.2)
    else (c :: acc.1, acc.2)
  let (unfinished, closed) := text.toList.foldr step ([], [])
  (if unfinished.isEmpty then closed else unfinished :: closed).map String.ofList

/-- Lowers the ASCII capitals and leaves every other character alone. -/
def lowerAscii (text : String) : String :=
  String.ofList (text.toList.map Char.toLower)

/-- Tells whether two texts agree once ASCII capitals are lowered. -/
def eqIgnoreCase (a b : String) : Bool :=
  lowerAscii a == lowerAscii b

end Switchboard.Text

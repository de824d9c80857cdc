/-!
# Blank characters

The class of blank characters is the Unicode property White_Space. Trimming, the test for blank
text and the split into words all use this one class. Formats of data have a smaller one, the plain
blanks of ASCII.
-/

namespace TaskEngine.Text

/-- The characters of the property White_Space. -/
def isBlankChar (c : Char) : Bool :=
  let n := c.toNat
  (0x09 ≤ n && n ≤ 0x0D) || n == 0x20 || n == 0x85 || n == 0xA0 || n == 0x1680 ||
    (0x2000 ≤ n && n ≤ 0x200A) || n == 0x2028 || n == 0x2029 || n == 0x202F || n == 0x205F ||
    n == 0x3000

/-- The blanks that may stand between the parts of JSON texts and of schedules. -/
def isPlainBlank (c : Char) : Bool := c == ' ' || c == '\t' || c == '\n' || c == '\r'

/-- Leave out leading plain blanks. -/
def skipBlanks (cs : List Char) : List Char := cs.dropWhile isPlainBlank

/-- Leave out blanks at the front. -/
def trimFront (cs : List Char) : List Char := cs.dropWhile isBlankChar

/-- Leave out blanks at the end. -/
def trimBack (cs : List Char) : List Char := (trimFront cs.reverse).reverse

/-- Leave out blanks at both ends. -/
def trimChars (cs : List Char) : List Char := trimBack (trimFront cs)

/-- Leave out blanks at both ends. -/
def trim (text : String) : String := String.ofList (trimChars text.toList)

/-- Leave out blanks at the end. -/
def trimEnd (text : String) : String := String.ofList (trimBack text.toList)

/-- Whether a text holds nothing but blanks. -/
def isBlank (text : String) : Bool := text.toList.all isBlankChar

/-- The maximal runs of characters that are no separators. -/
def splitRuns (isSeparator : Char → Bool) : List Char → List (List Char)
  | [] => []
  | c :: rest =>
    if isSeparator c then splitRuns isSeparator rest
    else
      match rest, splitRuns isSeparator rest with
      | d :: _, run :: runs => if isSeparator d then [c] :: run :: runs else (c :: run) :: runs
      | _, runs => [c] :: runs

/-- The words of a text: its maximal runs without blanks. -/
def words (text : String) : List String :=
  (splitRuns isBlankChar text.toList).map String.ofList

end TaskEngine.Text

/-!
# Cutting text at separators

Texts are cut at the first, at the last or at every occurrence of a separator. The cuts work on
lists of characters; the versions on strings wrap them.
-/

namespace TaskEngine.Text

/-- What follows a leading occurrence of `mark`. -/
def stripPrefix? : (mark cs : List Char) → Option (List Char)
  | [], cs => some cs
  | _ :: _, [] => none
  | m :: mark, c :: cs => if m = c then stripPrefix? mark cs else none

/-- The parts before and after the first occurrence of `mark`. -/
def cutFirst? (mark : List Char) : List Char → Option (List Char × List Char)
  | [] => if mark.isEmpty then some ([], []) else none
  | c :: cs =>
    match stripPrefix? mark (c :: cs) with
    | some rest => some ([], rest)
    | none => (cutFirst? mark cs).map fun (front, back) => (c :: front, back)

/-- The parts between the occurrences of one character, always at least one. -/
def splitAll (separator : Char) : List Char → List (List Char)
  | [] => [[]]
  | c :: cs =>
    if c = separator then [] :: splitAll separator cs
    else
      match splitAll separator cs with
      | part :: parts => (c :: part) :: parts
      | [] => [[c]]

/-- The parts before and after the first occurrence of `mark`. -/
def splitOnce? (mark text : String) : Option (String × String) :=
  (cutFirst? mark.toList text.toList).map fun (front, back) =>
    (String.ofList front, String.ofList back)

/-- Replace the first occurrence of `mark`, if there is one. -/
def replaceFirst (mark replacement text : String) : String :=
  match splitOnce? mark text with
  | some (front, back) => front ++ replacement ++ back
  | none => text

/-- The part after the last occurrence of a character; the whole text without one. -/
def afterLast (mark : Char) (cs : List Char) : List Char :=
  (cs.reverse.takeWhile (· ≠ mark)).reverse

/-- Lower-case the ASCII letters and keep all else. -/
def asciiLower (text : String) : String := String.ofList (text.toList.map Char.toLower)

/-- Whether two texts agree up to the case of ASCII letters. -/
def sameIgnoringCase (a b : String) : Bool := asciiLower a == asciiLower b

/-- Texts with a separator between them. -/
def joinWith (separator : String) : List String → String
  | [] => ""
  | [part] => part
  | part :: next :: rest => part ++ separator ++ joinWith separator (next :: rest)

end TaskEngine.Text

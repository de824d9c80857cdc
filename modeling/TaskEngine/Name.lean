import TaskEngine.Text.Split

/-!
# Resource names

A name is one or more labels with dots between them and at most 253 bytes long. A label is a run of
lower-case letters, digits and hyphens that starts and ends with a letter or digit. Names appear
inside selectors and object paths, so none of the characters that mean something there is allowed.
-/

namespace TaskEngine

namespace Name

/-- A lower-case letter or a digit. -/
def isAlnum (c : Char) : Bool := ('a' ≤ c && c ≤ 'z') || ('0' ≤ c && c ≤ '9')

/-- The byte of a lower-case letter or of a digit. -/
def isAlnumByte (b : UInt8) : Bool := (0x61 ≤ b && b ≤ 0x7A) || (0x30 ≤ b && b ≤ 0x39)

/-- Whether bytes are those of a label. -/
def isLabelBytes (bytes : List UInt8) : Bool :=
  bytes.head?.any isAlnumByte && bytes.getLast?.any isAlnumByte &&
    bytes.all fun b => isAlnumByte b || b == 0x2D

/-- Whether a run of characters is a label. Only its bytes are looked at. -/
def isLabel (cs : List Char) : Bool := isLabelBytes (String.ofList cs).toUTF8.data.toList

/-- The length limit of a name in bytes. -/
def maxBytes : Nat := 253

/-- Whether a text is a name. -/
def isLegal (text : String) : Bool :=
  text.utf8ByteSize ≤ maxBytes && (Text.splitAll '.' text.toList).all isLabel

end Name

/-- A text that is a legal name. -/
structure ResourceName where
  /-- The name itself. -/
  text : String
  /-- It is made of labels and not too long. -/
  legal : Name.isLegal text = true
  deriving DecidableEq

/-- The name of a text, if it is legal. -/
def ResourceName.ofText? (text : String) : Option ResourceName :=
  if h : Name.isLegal text = true then some ⟨text, h⟩ else none

end TaskEngine

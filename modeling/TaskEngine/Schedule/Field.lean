import TaskEngine.Text.Blank

/-!
# Fields of a schedule

A field is a list of items with commas between them. An item is a term with an optional step after
a slash; a term is a star, a number, a name, or a range of two numbers or of two names. Blanks are
skipped around numbers and names. Reading is greedy and does not look at the field's meaning;
whether the items fit the field is decided afterwards.
-/

namespace TaskEngine.Schedule

open Text (skipBlanks)

/-- What an item selects before its step. -/
inductive Term where
  /-- Everything. -/
  | every
  | number (n : Nat)
  | range (first last : Nat)
  | name (text : String)
  | nameRange (first last : String)
  deriving DecidableEq, Repr

/-- A term with its step. -/
structure Item where
  term : Term
  step : Option Nat
  deriving DecidableEq, Repr

/-- What one field of a schedule counts. -/
structure Field where
  /-- The least number. -/
  low : Nat
  /-- The greatest number. -/
  high : Nat
  /-- Names of numbers, in lower case. -/
  names : List (String × Nat)
  /-- Whether a question mark stands for a star. -/
  allowsQuestion : Bool

namespace Field

def second : Field := ⟨0, 59, [], false⟩

def minute : Field := ⟨0, 59, [], false⟩

def hour : Field := ⟨0, 23, [], false⟩

def dayOfMonth : Field := ⟨1, 31, [], true⟩

def month : Field :=
  ⟨1, 12, [("jan", 1), ("january", 1), ("feb", 2), ("february", 2), ("mar", 3), ("march", 3),
    ("apr", 4), ("april", 4), ("may", 5), ("jun", 6), ("june", 6), ("jul", 7), ("july", 7),
    ("aug", 8), ("august", 8), ("sep", 9), ("september", 9), ("oct", 10), ("october", 10),
    ("nov", 11), ("november", 11), ("dec", 12), ("december", 12)], false⟩

/-- Days count from Sunday as one. -/
def dayOfWeek : Field :=
  ⟨1, 7, [("sun", 1), ("sunday", 1), ("mon", 2), ("monday", 2), ("tue", 3), ("tues", 3),
    ("tuesday", 3), ("wed", 4), ("wednesday", 4), ("thu", 5), ("thurs", 5), ("thursday", 5),
    ("fri", 6), ("friday", 6), ("sat", 7), ("saturday", 7)], true⟩

def year : Field := ⟨1970, 2100, [], false⟩

/-- Whether a number lies within the field. -/
def holds (field : Field) (n : Nat) : Bool := field.low ≤ n && n ≤ field.high

/-- The number of a name, in any case. -/
def named? (field : Field) (name : String) : Option Nat :=
  (field.names.find? fun entry => entry.1.toList == name.toList.map Char.toLower).map (·.2)

end Field

/-- Whether a term selects something of a field. -/
def Term.fits (field : Field) : Term → Bool
  | .every => true
  | .number n => field.holds n
  | .range first last => field.holds first && field.holds last && first ≤ last
  | .name text => (field.named? text).isSome
  | .nameRange first last =>
    match field.named? first, field.named? last with
    | some a, some b => a ≤ b
    | _, _ => false

/-- Whether an item fits a field: its term does, and its step is not zero. -/
def Item.fits (field : Field) (item : Item) : Bool :=
  item.term.fits field && item.step ≠ some 0

/-! ## Reading -/

/-- The largest number that is read. -/
def maxNumber : Nat := 0xFFFFFFFF

/-- A number with the blanks around it. -/
def readNumber? (cs : List Char) : Option (Nat × List Char) :=
  let cs := skipBlanks cs
  let digits := cs.takeWhile Char.isDigit
  if digits.isEmpty then none
  else
    let n := Nat.ofDigitChars 10 digits 0
    if n ≤ maxNumber then some (n, skipBlanks (cs.dropWhile Char.isDigit)) else none

/-- A name with the blanks around it. -/
def readName? (cs : List Char) : Option (String × List Char) :=
  let cs := skipBlanks cs
  let letters := cs.takeWhile Char.isAlpha
  if letters.isEmpty then none
  else some (String.ofList letters, skipBlanks (cs.dropWhile Char.isAlpha))

/-- One given character. -/
def readMark? (mark : Char) : List Char → Option (List Char)
  | [] => none
  | c :: rest => if c = mark then some rest else none

/-- A star, a range of numbers, a number, or a range of names; a question mark where allowed. -/
def readTerm? (allowsQuestion : Bool) (cs : List Char) : Option (Term × List Char) :=
  (if allowsQuestion then (readMark? '?' cs).map fun rest => (Term.every, rest) else none) <|>
  ((readMark? '*' cs).map fun rest => (Term.every, rest)) <|>
  (do
    let (first, rest) ← readNumber? cs
    let rest ← readMark? '-' rest
    let (last, rest) ← readNumber? rest
    some (.range first last, rest)) <|>
  ((readNumber? cs).map fun (n, rest) => (Term.number n, rest)) <|>
  (do
    let (first, rest) ← readName? cs
    let rest ← readMark? '-' rest
    let (last, rest) ← readName? rest
    some (.nameRange first last, rest))

/-- A term with a step, a term, or a name. -/
def readItem? (allowsQuestion : Bool) (cs : List Char) : Option (Item × List Char) :=
  (do
    let (term, rest) ← readTerm? allowsQuestion cs
    let rest ← readMark? '/' rest
    let (step, rest) ← readNumber? rest
    some (⟨term, some step⟩, rest)) <|>
  ((readTerm? allowsQuestion cs).map fun (term, rest) => (⟨term, none⟩, rest)) <|>
  ((readName? cs).map fun (text, rest) => (⟨.name text, none⟩, rest))

/-- More items, each after a comma. A comma without an item after it is left where it is. -/
def readMoreItems (allowsQuestion : Bool) : Nat → List Char → List Item × List Char
  | 0, cs => ([], cs)
  | fuel + 1, cs =>
    match readMark? ',' cs with
    | none => ([], cs)
    | some rest =>
      match readItem? allowsQuestion rest with
      | none => ([], cs)
      | some (item, rest) =>
        let (items, rest) := readMoreItems allowsQuestion fuel rest
        (item :: items, rest)

/-- The items of a field with the blanks around them. -/
def readItems? (allowsQuestion : Bool) (cs : List Char) : Option (List Item × List Char) :=
  match readItem? allowsQuestion (skipBlanks cs) with
  | none => none
  | some (item, rest) =>
    let (items, rest) := readMoreItems allowsQuestion rest.length rest
    some (item :: items, skipBlanks rest)

/-- Whether a whole text is a valid field. -/
def Field.accepts (field : Field) (cs : List Char) : Bool :=
  match readItems? field.allowsQuestion cs with
  | some (items, []) => items.all (·.fits field)
  | _ => false

end TaskEngine.Schedule

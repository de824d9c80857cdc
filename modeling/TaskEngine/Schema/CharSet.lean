import TaskEngine.Text.Category

/-!
# Sets of characters

The sets that a pattern builds from single characters, ranges, classes and general categories. The
classes for digits, word characters and blanks come in two sizes: the ASCII ones, where the blanks
are those of the language that the patterns come from, and the ones of all of Unicode.
-/

namespace TaskEngine.Schema

/-- A set of characters by code point. -/
inductive CharSet where
  | none
  | range (first last : Nat)
  | union (a b : CharSet)
  | inter (a b : CharSet)
  | complement (a : CharSet)
  deriving DecidableEq, Repr

namespace CharSet

/-- Whether a code point belongs to a set. -/
def contains (n : Nat) : CharSet → Bool
  | .none => false
  | .range first last => first ≤ n && n ≤ last
  | .union a b => a.contains n || b.contains n
  | .inter a b => a.contains n && b.contains n
  | .complement a => !a.contains n

/-- One code point. -/
def single (n : Nat) : CharSet := .range n n

/-- One character. -/
def char (c : Char) : CharSet := single c.toNat

/-- The union of ranges. -/
def ofRanges (ranges : List (Nat × Nat)) : CharSet :=
  ranges.foldr (fun r acc => .union (.range r.1 r.2) acc) .none

/-- Whether a set has a character in either case of an ASCII letter. -/
def containsAnyCase (set : CharSet) (c : Char) : Bool :=
  set.contains c.toNat || set.contains c.toLower.toNat || set.contains c.toUpper.toNat

/-! ## ASCII classes -/

/-- The decimal digits. -/
def digits : CharSet := .range '0'.toNat '9'.toNat

/-- The lower-case ASCII letters. -/
def lower : CharSet := .range 'a'.toNat 'z'.toNat

/-- The upper-case ASCII letters. -/
def upper : CharSet := .range 'A'.toNat 'Z'.toNat

/-- Letters, digits and the underscore. -/
def word : CharSet := .union (.union lower upper) (.union digits (char '_'))

/-- White space and line ends. -/
def space : CharSet :=
  ofRanges [(0x09, 0x0D), (0x20, 0x20), (0xA0, 0xA0), (0x1680, 0x1680), (0x2000, 0x200A),
    (0x2028, 0x2029), (0x202F, 0x202F), (0x205F, 0x205F), (0x3000, 0x3000), (0xFEFF, 0xFEFF)]

/-! ## Unicode classes -/

/-- The categories whose names start with some letters. -/
def category (short : String) : CharSet := ofRanges (Text.Category.ranges short)

/-- The code points that are neither assigned nor surrogates. -/
def unassigned : CharSet := .complement (.union (category "") (.range 0xD800 0xDFFF))

/-- The decimal digits of all scripts. -/
def unicodeDigits : CharSet := category "nd"

/-- Letters, marks, digits, connectors, joiners and letters in circles or squares. -/
def unicodeWord : CharSet :=
  ["l", "m", "nd", "nl", "pc"].foldr (fun short acc => .union (category short) acc)
    (ofRanges [(0x200C, 0x200D), (0x24B6, 0x24E9), (0x1F130, 0x1F149), (0x1F150, 0x1F169),
      (0x1F170, 0x1F189)])

/-- White space of all scripts. -/
def unicodeSpace : CharSet :=
  ofRanges [(0x09, 0x0D), (0x20, 0x20), (0x85, 0x85), (0xA0, 0xA0), (0x1680, 0x1680),
    (0x2000, 0x200A), (0x2028, 0x2029), (0x202F, 0x202F), (0x205F, 0x205F), (0x3000, 0x3000)]

/-! ## Properties -/

/-- A name of a property without what does not count in it: case, blanks, hyphens, underscores and a
leading `is`. -/
def looseName (name : List Char) : List Char :=
  let bare := (name.filter fun c => c ≠ ' ' && c ≠ '-' && c ≠ '_').map Char.toLower
  (Text.stripPrefix? ['i', 's'] bare).getD bare

/-- The set of a general category or of a group of them, by its letters or by its long name. -/
def categoryNamed? (name : List Char) : Option CharSet :=
  let name := String.ofList (looseName name)
  match ((Text.Category.longNames.lookup name).getD name) with
  | "any" => some (.complement .none)
  | "ascii" => some (.range 0 0x7F)
  | "assigned" => some (.complement unassigned)
  | "cn" => some unassigned
  | "c" => some (.union (category "c") unassigned)
  | "lc" => some (.union (category "lu") (.union (category "ll") (category "lt")))
  | "" => .none
  | short =>
    match Text.Category.ranges short with
    | [] => .none
    | ranges => some (ofRanges ranges)

/-- The set of a property: the name of a category, or an equation for one. -/
def property? (text : List Char) : Option CharSet :=
  let key := text.takeWhile fun c => c ≠ '=' && c ≠ ':' && c ≠ '!'
  match text.drop key.length with
  | [] => categoryNamed? text
  | '!' :: '=' :: value => if isKey key then (categoryNamed? value).map .complement else .none
  | '=' :: value | ':' :: value => if isKey key then categoryNamed? value else .none
  | _ => .none
where
  /-- Whether the left side of an equation stands for the general category. -/
  isKey (key : List Char) : Bool :=
    [['g', 'c'], "generalcategory".toList].contains (looseName key)

end CharSet

end TaskEngine.Schema

import TaskEngine.Schema.Pattern
import TaskEngine.Text.Split
import TaskEngine.Time

/-!
# Text formats

The formats that a schema may demand of a string. Each is a test on the characters of the text;
a format without a test here demands nothing.
-/

namespace TaskEngine.Schema.Format

/-- A hexadecimal digit. -/
def isHex (c : Char) : Bool := (Text.hexValue? c).isSome

/-- The number of two digits. -/
def pair? (a b : Char) : Option Nat :=
  if a.isDigit && b.isDigit then some (Nat.ofDigitChars 10 [a, b] 0) else none

/-! ## Dates and times -/

/-- A calendar date: four digits, two and two, with hyphens between them. -/
def isDate : List Char → Bool
  | [y1, y2, y3, y4, '-', m1, m2, '-', d1, d2] =>
    match pair? y1 y2, pair? y3 y4, pair? m1 m2, pair? d1 d2 with
    | some century, some year, some month, some day =>
      1 ≤ month && month ≤ 12 && 1 ≤ day &&
        day ≤ CalendarDate.daysInMonth (century * 100 + year : Nat) month
    | _, _, _, _ => false
  | _ => false

/-- The offset of a time in minutes, or nothing when it is malformed. -/
def offsetMinutes? : List Char → Option Int
  | ['Z'] | ['z'] => some 0
  | [sign, h1, h2, ':', m1, m2] => do
    let hours ← pair? h1 h2
    let minutes ← pair? m1 m2
    if 23 < hours ∨ 59 < minutes then none
    let total : Int := (hours * 60 + minutes : Nat)
    if sign = '+' then some total else if sign = '-' then some (-total) else none
  | _ => none

/-- Leave out a fraction: a point with at least one digit. -/
def dropFraction? : List Char → Option (List Char)
  | '.' :: rest =>
    if rest.head?.any Char.isDigit then some (rest.dropWhile Char.isDigit) else none
  | cs => some cs

/-- A time with an offset. A leap second has to be the last one of a day in universal time. -/
def isTime : List Char → Bool
  | h1 :: h2 :: ':' :: m1 :: m2 :: ':' :: s1 :: s2 :: rest =>
    match pair? h1 h2, pair? m1 m2, pair? s1 s2, (dropFraction? rest).bind offsetMinutes? with
    | some hour, some minute, some second, some offset =>
      hour ≤ 23 && minute ≤ 59 && second ≤ 60 &&
        (second ≠ 60 || Int.fmod ((hour * 60 + minute : Nat) - offset) 1440 == 1439)
    | _, _, _, _ => false
  | _ => false

/-- A date and a time with the letter T between them. -/
def isDateTime (cs : List Char) : Bool :=
  let date := cs.takeWhile fun c => c ≠ 'T' && c ≠ 't'
  match cs.drop date.length with
  | _ :: time => isDate date && isTime time
  | [] => false

/-- Counted units in the given order, each at most once. -/
def unitsInOrder : (fuel : Nat) → (units : List Char) → List Char → Option (Nat × List Char)
  | 0, _, _ => none
  | fuel + 1, units, cs =>
    let digits := cs.takeWhile Char.isDigit
    if digits.isEmpty then some (0, cs)
    else
      match cs.drop digits.length with
      | unit :: rest =>
        match units.dropWhile (· ≠ unit) with
        | _ :: later => (unitsInOrder fuel later rest).map fun (n, rest) => (n + 1, rest)
        | [] => none
      | [] => none

/-- A duration: weeks alone, or years, months and days followed by a time part. -/
def isDuration : List Char → Bool
  | 'P' :: rest =>
    let fuel := rest.length + 1
    let weeks := rest.dropWhile Char.isDigit
    if rest.head?.any Char.isDigit && weeks == ['W'] then true
    else
      match unitsInOrder fuel ['Y', 'M', 'D'] rest with
      | some (n, []) => 0 < n
      | some (_, 'T' :: time) =>
        match unitsInOrder fuel ['H', 'M', 'S'] time with
        | some (n, []) => 0 < n
        | _ => false
      | _ => false
  | _ => false

/-! ## Hosts and addresses -/

/-- A label of a host name. -/
def isHostLabel (label : List Char) : Bool :=
  label.length ≤ 63 && label.all (fun c => c.isAlphanum || c == '-') &&
    label.head?.any Char.isAlphanum && label.getLast?.any Char.isAlphanum

/-- A host name: labels with dots between them. -/
def isHostname (cs : List Char) : Bool :=
  cs.length ≤ 253 && (Text.splitAll '.' cs).all isHostLabel

/-- A label of an international host name. -/
def isInternationalLabel (label : List Char) : Bool :=
  !label.isEmpty && label.length ≤ 63 &&
    label.all (fun c => c.isAlphanum || c == '-' || 0xB7 ≤ c.toNat) &&
    label.head? ≠ some '-' && label.getLast? ≠ some '-'

/-- An international host name. -/
def isInternationalHostname (cs : List Char) : Bool :=
  cs.length ≤ 253 && (Text.splitAll '.' cs).all isInternationalLabel

/-- A byte in decimal without leading zeros. -/
def isDecimalByte (cs : List Char) : Bool :=
  !cs.isEmpty && cs.length ≤ 3 && cs.all Char.isDigit && Nat.ofDigitChars 10 cs 0 ≤ 255 &&
    (cs.length == 1 || cs.head? ≠ some '0')

/-- Four bytes with dots between them. -/
def isIpv4 (cs : List Char) : Bool :=
  let parts := Text.splitAll '.' cs
  parts.length == 4 && parts.all isDecimalByte

/-- How many sixteen-bit groups a list of parts stands for; the last part may be four bytes. -/
def groupCount? : List (List Char) → Option Nat
  | [] => some 0
  | [last] =>
    if isIpv4 last then some 2
    else if !last.isEmpty && last.length ≤ 4 && last.all isHex then some 1 else none
  | part :: rest =>
    if !part.isEmpty && part.length ≤ 4 && part.all isHex then (groupCount? rest).map (· + 1)
    else none

/-- The groups of one side of a double colon. -/
def sideCount? (cs : List Char) : Option Nat :=
  if cs.isEmpty then some 0 else groupCount? (Text.splitAll ':' cs)

/-- Eight groups, of which one run may be left out. -/
def isIpv6 (cs : List Char) : Bool :=
  match Text.cutFirst? [':', ':'] cs with
  | none => sideCount? cs == some 8
  | some (front, back) =>
    !front.contains '.' &&
      match sideCount? front, sideCount? back with
      | some a, some b => a + b ≤ 7
      | _, _ => false

/-- A character of an unquoted local part. -/
def isLocalChar (c : Char) : Bool :=
  c.isAlphanum || "!#$%&'*+-/=?^_\x60\x7b|\x7d~".toList.contains c || 0x80 ≤ c.toNat

/-- The inside of a quoted local part. -/
def isQuotedLocal : List Char → Bool
  | [] => true
  | '\\' :: c :: rest => (0x20 ≤ c.toNat && c.toNat ≤ 0x7E || c == '\t') && isQuotedLocal rest
  | c :: rest =>
    c ≠ '"' && c ≠ '\\' && (0x20 ≤ c.toNat && c.toNat ≠ 0x7F || c == '\t') && isQuotedLocal rest

/-- The part of an address before the at-sign. -/
def isLocalPart (cs : List Char) : Bool :=
  !cs.isEmpty && (String.ofList cs).utf8ByteSize ≤ 64 &&
    match cs with
    | '"' :: rest =>
      if rest.getLast? = some '"' then 1 < rest.length && isQuotedLocal rest.dropLast
      else (Text.splitAll '.' cs).all fun part => !part.isEmpty && part.all isLocalChar
    | cs => (Text.splitAll '.' cs).all fun part => !part.isEmpty && part.all isLocalChar

/-- What may stand after the at-sign: a host, or an address in brackets. -/
def isMailHost (isHost : List Char → Bool) (cs : List Char) : Bool :=
  match cs with
  | '[' :: rest =>
    if rest.getLast? = some ']' then
      let inner := rest.dropLast
      match Text.stripPrefix? "IPv6:".toList inner with
      | some address => isIpv6 address
      | none => isIpv4 inner
    else isHost cs
  | cs => isHost cs

/-- A bare address: a local part, an at-sign and a host. -/
def isBareAddress (isHost : List Char → Bool) (cs : List Char) : Bool :=
  cs.contains '@' &&
    let host := Text.afterLast '@' cs
    let localPart := cs.take (cs.length - host.length - 1)
    isLocalPart localPart && !host.isEmpty && (String.ofList host).utf8ByteSize ≤ 254 &&
      isMailHost isHost host

/-- The parts around the last occurrence of a blank and an opening bracket. -/
def cutDisplayName? (cs : List Char) : Option (List Char × List Char) :=
  (Text.cutFirst? ['<', ' '] cs.reverse).map fun (back, front) => (front.reverse, back.reverse)

/-- An address, bare or in angle brackets after the name of its owner. -/
def isMailAddress (isHost : List Char → Bool) (cs : List Char) : Bool :=
  match cutDisplayName? cs with
  | none => isBareAddress isHost cs
  | some (name, bracketed) =>
    let bracketed := Text.trimChars bracketed
    !(Text.trimChars name).isEmpty && bracketed.getLast? = some '>' &&
      isBareAddress isHost bracketed.dropLast

/-! ## Resource identifiers -/

/-- A character that stands for itself everywhere. -/
def isUnreserved (international : Bool) (c : Char) : Bool :=
  c.isAlphanum || c == '-' || c == '.' || c == '_' || c == '~' || (international && 0xA0 ≤ c.toNat)

/-- A delimiter inside a component. -/
def isSubDelimiter (c : Char) : Bool := "!$&'()*+,;=".toList.contains c

/-- Whether a text holds only allowed characters and percent escapes. -/
def isEncoded (allowed : Char → Bool) : List Char → Bool
  | [] => true
  | '%' :: a :: b :: rest => isHex a && isHex b && isEncoded allowed rest
  | c :: rest => allowed c && isEncoded allowed rest

/-- A character of a path segment. -/
def isPathChar (international : Bool) (c : Char) : Bool :=
  isUnreserved international c || isSubDelimiter c || c == ':' || c == '@'

/-- A scheme: a letter, then letters, digits and three signs. -/
def isScheme : List Char → Bool
  | c :: rest =>
    c.isAlpha && rest.all fun c => c.isAlphanum || c == '+' || c == '-' || c == '.'
  | [] => false

/-- A host: an address in brackets or a registered name. -/
def isHost (international : Bool) (cs : List Char) : Bool :=
  match cs with
  | '[' :: rest =>
    rest.getLast? = some ']' &&
      match rest.dropLast with
      | 'v' :: more | 'V' :: more =>
        let version := more.takeWhile isHex
        match more.drop version.length with
        | '.' :: address =>
          !version.isEmpty && !address.isEmpty &&
            address.all fun c => isUnreserved false c || isSubDelimiter c || c == ':'
        | _ => false
      | address => isIpv6 address
  | cs => isEncoded (fun c => isUnreserved international c || isSubDelimiter c) cs

/-- An authority: a host, with a user in front and a number behind a colon at its end. -/
def isAuthority (international : Bool) (cs : List Char) : Bool :=
  let numbered := if cs.contains '@' then Text.afterLast '@' cs else cs
  let user := cs.take (cs.length - numbered.length - (if cs.contains '@' then 1 else 0))
  let number := numbered.reverse.takeWhile Char.isDigit
  let host :=
    match numbered.reverse.drop number.length with
    | ':' :: front => front.reverse
    | _ => numbered
  isEncoded (fun c => isUnreserved international c || isSubDelimiter c || c == ':') user &&
    isHost international host

/-- A path with an optional authority in front, which two slashes introduce. -/
def isHierarchy (international : Bool) (cs : List Char) : Bool :=
  match cs with
  | '/' :: '/' :: rest =>
    let authority := rest.takeWhile (· ≠ '/')
    isAuthority international authority &&
      isEncoded (fun c => isPathChar international c || c == '/') (rest.drop authority.length)
  | cs => isEncoded (fun c => isPathChar international c || c == '/') cs

/-- A query or a fragment. -/
def isQuery (international : Bool) (cs : List Char) : Bool :=
  isEncoded (fun c => isPathChar international c || c == '/' || c == '?' ||
    (international && 0xE000 ≤ c.toNat)) cs

/-- A reference: a hierarchy with optional query and fragment. With a scheme it is absolute; without
one its first segment holds no colon. -/
def isReference (international needsScheme : Bool) (cs : List Char) : Bool :=
  let front := cs.takeWhile (· ≠ '#')
  let fragment := (cs.drop front.length).drop 1
  let hierarchy := front.takeWhile (· ≠ '?')
  let query := (front.drop hierarchy.length).drop 1
  let scheme := hierarchy.takeWhile fun c => c ≠ ':' && c ≠ '/'
  let hasColon := (hierarchy.drop scheme.length).head? = some ':'
  isQuery international fragment && isQuery international query &&
    if hasColon then
      isScheme scheme && isHierarchy international (hierarchy.drop (scheme.length + 1))
    else !needsScheme && isHierarchy international hierarchy

/-- The names of a template expression, each with an optional modifier. -/
def isTemplateName (cs : List Char) : Bool :=
  let name := cs.takeWhile fun c => c ≠ ':' && c ≠ '*'
  let modifier := cs.drop name.length
  !name.isEmpty && isEncoded (fun c => c.isAlphanum || c == '_') name &&
    match modifier with
    | [] => true
    | ['*'] => true
    | ':' :: digits =>
      !digits.isEmpty && digits.length ≤ 4 && digits.all Char.isDigit && digits.head? ≠ some '0'
    | _ => false

/-- A template expression between braces. -/
def isTemplateExpression (cs : List Char) : Bool :=
  let names := match cs with
    | c :: rest => if "+#./;?&=,!@|".toList.contains c then rest else cs
    | [] => []
  (Text.splitAll ',' names).all isTemplateName

/-- A template: literal characters and expressions in braces. -/
def isTemplate : (fuel : Nat) → List Char → Bool
  | 0, _ => false
  | _, [] => true
  | fuel + 1, '\x7b' :: rest =>
    let inner := rest.takeWhile (· ≠ '\x7d')
    match rest.drop inner.length with
    | _ :: rest => isTemplateExpression inner && isTemplate fuel rest
    | [] => false
  | fuel + 1, '%' :: a :: b :: rest => isHex a && isHex b && isTemplate fuel rest
  | fuel + 1, c :: rest =>
    0x20 < c.toNat && !"\"'<>%\\^\x60\x7b|\x7d".toList.contains c && isTemplate fuel rest

/-! ## Pointers and identifiers -/

/-- The inside of a pointer: a tilde stands only before a zero or a one. -/
def isPointerBody : List Char → Bool
  | [] => true
  | '~' :: c :: rest => (c == '0' || c == '1') && isPointerBody rest
  | ['~'] => false
  | _ :: rest => isPointerBody rest

/-- A pointer: empty, or led by a slash. -/
def isPointer : List Char → Bool
  | [] => true
  | '/' :: rest => isPointerBody rest
  | _ => false

/-- A relative pointer: a number without leading zeros, then a pointer or a number sign. -/
def isRelativePointer (cs : List Char) : Bool :=
  let digits := cs.takeWhile Char.isDigit
  !digits.isEmpty && (digits.length == 1 || digits.head? ≠ some '0') &&
    match cs.drop digits.length with
    | ['#'] => true
    | rest => isPointer rest

/-- Thirty-two hexadecimal digits in groups of 8, 4, 4, 4 and 12. -/
def isUuid (cs : List Char) : Bool :=
  let groups := Text.splitAll '-' cs
  groups.map List.length == [8, 4, 4, 4, 12] && groups.all (·.all isHex)

/-- The test of a format, if it has one. -/
def test? (name : String) : Option (List Char → Bool) :=
  match name with
  | "date" => some isDate
  | "time" => some isTime
  | "date-time" => some isDateTime
  | "duration" => some isDuration
  | "hostname" => some isHostname
  | "idn-hostname" => some isInternationalHostname
  | "email" => some (isMailAddress isHostname)
  | "idn-email" => some (isMailAddress isInternationalHostname)
  | "ipv4" => some isIpv4
  | "ipv6" => some isIpv6
  | "uri" => some (isReference false true)
  | "uri-reference" => some (isReference false false)
  | "iri" => some (isReference true true)
  | "iri-reference" => some (isReference true false)
  | "uri-template" => some fun cs => isTemplate (cs.length + 1) cs
  | "json-pointer" => some isPointer
  | "relative-json-pointer" => some isRelativePointer
  | "uuid" => some isUuid
  | "regex" => some fun cs => (Pattern.read? (String.ofList cs)).isSome
  | _ => none

/-- Whether a text has a format; an unknown format demands nothing. -/
def holds (name text : String) : Bool :=
  match test? name with
  | some test => test text.toList
  | none => true

end TaskEngine.Schema.Format

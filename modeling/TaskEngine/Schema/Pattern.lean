import TaskEngine.Schema.CharSet

/-!
# Patterns over text

A pattern is matched by listing the marks that a match from a given mark may end at, the preferred
ones first; a mark is a position with the groups that are captured so far. Repetition explores every
mark once and goes on only from marks further right. A pattern matches a text when it matches from
any position; the order only counts where a part of a pattern settles for its preferred match.
-/

namespace TaskEngine.Schema

/-- A pattern. -/
inductive Pattern where
  /-- The empty text. -/
  | nothing
  /-- One character of a set; the flag ignores the case of letters. -/
  | one (set : CharSet) (ignoreCase : Bool)
  | seq (a b : Pattern)
  | alt (a b : Pattern)
  /-- From `low` to `high` repetitions, or without an upper limit; many are preferred, or few. -/
  | rep (a : Pattern) (low : Nat) (high : Option Nat) (greedy : Bool)
  /-- The preferred match alone. -/
  | atomic (a : Pattern)
  /-- A match that is captured under a number; it may have a name too. -/
  | group (number : Nat) (named : Bool) (a : Pattern)
  /-- What was captured under a number, once more. -/
  | again (number : Nat)
  /-- The start of the text, or of a line. -/
  | start (ofLine : Bool)
  /-- The end of the text, or of a line. -/
  | stop (ofLine : Bool)
  /-- A boundary between word characters and others, or its absence. -/
  | boundary (present : Bool)
  /-- What follows matches, or does not. -/
  | ahead (a : Pattern) (present : Bool)
  /-- What precedes matches, or does not. -/
  | behind (a : Pattern) (present : Bool)
  deriving DecidableEq, Repr

namespace Pattern

/-! ## Matching -/

/-- A position in a text, and where the captured groups start and stop. -/
structure Mark where
  position : Nat
  groups : List (Nat × Nat × Nat)
  deriving DecidableEq, Repr

namespace Mark

/-- Go on by some characters. -/
def advance (m : Mark) (count : Nat) : Mark := { m with position := m.position + count }

/-- Capture what lies between a position and the mark. -/
def capture (m : Mark) (number opened : Nat) : Mark :=
  { m with groups := (number, opened, m.position) :: m.groups.filter (·.1 ≠ number) }

end Mark

/-- Whether a word character stands at a position. -/
def wordAt (text : Array Char) (i : Nat) : Bool :=
  match text[i]? with
  | some c => CharSet.unicodeWord.contains c.toNat
  | none => false

/-- Whether a word character stands before a position. -/
def wordBefore (text : Array Char) : Nat → Bool
  | 0 => false
  | i + 1 => wordAt text i

/-- Repeat a step a number of times. -/
def iterate (step : Mark → List Mark) : Nat → List Mark → List Mark
  | 0, marks => marks
  | n + 1, marks => iterate step n (marks.flatMap step).eraseDups

/-- The marks that up to a number of steps reach from a mark, and what has been met afterwards. A
step has to lead further right. Where the number of steps is a limit, a mark counts as met together
with the steps that were left. -/
def explore (step : Mark → List Mark) (limited greedy : Bool) :
    (steps : Nat) → Mark → (met : List (Nat × Mark)) → List Mark × List (Nat × Mark)
  | 0, m, met => ([m], met)
  | steps + 1, m, met =>
    let key := (if limited then steps else 0, m)
    if met.contains key then ([], met)
    else
      let further := (step m).filter fun next => m.position < next.position
      let (reached, met) := further.foldl (fun (reached, met) next =>
        let (more, met) := explore step limited greedy steps next met
        (reached ++ more, met)) ([], key :: met)
      (if greedy then reached ++ [m] else m :: reached, met)

/-- The number of characters of every match, if it is always the same. -/
def width? : Pattern → Option Nat
  | .one _ _ => some 1
  | .seq a b => do some ((← a.width?) + (← b.width?))
  | .alt a b => do
    let width ← a.width?
    if b.width? = some width then some width else none
  | .rep a low high _ => if high = some low then a.width?.map (· * low) else none
  | .atomic a | .group _ _ a => a.width?
  | .again _ => none
  | .nothing | .start _ | .stop _ | .boundary _ | .ahead _ _ | .behind _ _ => some 0

/-- The marks at which a match from a mark may end, the preferred ones first. -/
def ends (text : Array Char) : Pattern → Mark → List Mark
  | .nothing, m => [m]
  | .one set ignoreCase, m =>
    match text[m.position]? with
    | some c =>
      if set.contains c.toNat || (ignoreCase && set.containsAnyCase c) then [m.advance 1] else []
    | none => []
  | .seq a b, m => ((ends text a m).flatMap (ends text b)).eraseDups
  | .alt a b, m => (ends text a m ++ ends text b m).eraseDups
  | .rep a low high greedy, m =>
    let started := iterate (ends text a) low [m]
    let limit := high.map (· - low)
    let steps := min (limit.getD (text.size + 1)) (text.size + 1)
    (started.flatMap fun m =>
      (explore (ends text a) limit.isSome greedy steps m []).1).eraseDups
  | .atomic a, m => (ends text a m).head?.toList
  | .group number _ a, m => (ends text a m).map (·.capture number m.position)
  | .again number, m =>
    match m.groups.lookup number with
    | some (opened, closed) =>
      let captured := text.extract opened closed
      if text.extract m.position (m.position + captured.size) = captured then
        [m.advance captured.size]
      else []
    | none => []
  | .start ofLine, m =>
    let i := m.position
    if i = 0 || (ofLine && (text[i - 1]? == some '\n')) then [m] else []
  | .stop ofLine, m =>
    let i := m.position
    if i = text.size || (ofLine && (text[i]? == some '\n')) then [m] else []
  | .boundary present, m =>
    if (wordBefore text m.position != wordAt text m.position) == present then [m] else []
  | .ahead a present, m => looked present m (ends text a m)
  | .behind a present, m =>
    match a.width? with
    | some width =>
      looked present m
        (if width ≤ m.position then ends text a { m with position := m.position - width } else [])
    | none => []
where
  /-- Stay at a mark if what was looked for is there, or is not; what it captures is kept. -/
  looked (present : Bool) (m : Mark) (found : List Mark) : List Mark :=
    match found with
    | [] => if present then [] else [m]
    | best :: _ => if present then [{ m with groups := best.groups }] else []

/-- Whether a pattern matches somewhere in a text. -/
def matches? (p : Pattern) (text : String) : Bool :=
  let cs := text.toList.toArray
  (List.range (cs.size + 1)).any fun i => !(ends cs p ⟨i, []⟩).isEmpty

/-! ## Reading patterns -/

/-- Switches that change what the parts of a pattern mean. -/
structure Flags where
  ignoreCase : Bool
  dotAll : Bool
  multiLine : Bool
  /-- Whether the classes are those of all of Unicode; no part of a pattern changes that. -/
  unicode : Bool

/-- The switches that are on at the start: none. -/
def Flags.initial (unicode : Bool) : Flags := ⟨false, false, false, unicode⟩

/-- A set of one character under the switches. -/
def literal (flags : Flags) (set : CharSet) : Pattern := .one set flags.ignoreCase

/-- A code point in hexadecimal: a fixed number of digits, or any number in braces. -/
def readHex? (width : Nat) : List Char → Option (Nat × List Char)
  | '\x7b' :: rest =>
    let digits := rest.takeWhile (· ≠ '\x7d')
    match rest.drop digits.length with
    | _ :: rest => if digits.isEmpty then none else (Text.hexNumber? digits).map fun n => (n, rest)
    | [] => none
  | cs =>
    let digits := cs.take width
    if digits.length = width then (Text.hexNumber? digits).map fun n => (n, cs.drop width) else none

/-- The punctuation that a backslash may stand before. -/
def isPunctuation (c : Char) : Bool :=
  c.toNat < 0x80 && 0x20 < c.toNat && c.toNat ≠ 0x7F && !c.isAlphanum && c ≠ '<' && c ≠ '>'

/-- The set of a letter for a class, in either size. -/
def classOf? (unicode : Bool) : Char → Option CharSet
  | 'd' => some (if unicode then .unicodeDigits else .digits)
  | 'w' => some (if unicode then .unicodeWord else .word)
  | 's' => some (if unicode then .unicodeSpace else .space)
  | _ => none

/-- The set of a property after its letter: one letter, or a text in braces that may be negated. -/
def readProperty? : List Char → Option (CharSet × List Char)
  | '\x7b' :: '^' :: rest => (braced rest).map fun (set, rest) => (.complement set, rest)
  | '\x7b' :: rest => braced rest
  | c :: rest => (CharSet.categoryNamed? [c]).map fun set => (set, rest)
  | [] => none
where
  /-- A property up to the closing brace. -/
  braced (cs : List Char) : Option (CharSet × List Char) :=
    let name := cs.takeWhile (· ≠ '\x7d')
    match cs.drop name.length with
    | _ :: rest => (CharSet.property? name).map fun set => (set, rest)
    | [] => none

/-- The set of an escape that stands for characters, after its backslash. -/
def readEscapedSet? (unicode : Bool) : List Char → Option (CharSet × List Char)
  | 'n' :: rest => some (.single 0x0A, rest)
  | 't' :: rest => some (.single 0x09, rest)
  | 'r' :: rest => some (.single 0x0D, rest)
  | 'f' :: rest => some (.single 0x0C, rest)
  | 'v' :: rest => some (.single 0x0B, rest)
  | 'a' :: rest => some (.single 0x07, rest)
  | 'p' :: rest => readProperty? rest
  | 'P' :: rest => (readProperty? rest).map fun (set, rest) => (.complement set, rest)
  | 'x' :: rest => (readHex? 2 rest).map fun (n, rest) => (.single n, rest)
  | 'u' :: rest => (readHex? 4 rest).map fun (n, rest) => (.single n, rest)
  | 'U' :: rest => (readHex? 8 rest).map fun (n, rest) => (.single n, rest)
  | 'c' :: c :: rest =>
    if c.isAlpha then some (.single (c.toNat % 32), rest) else none
  | c :: rest =>
    match classOf? unicode c, classOf? unicode c.toLower with
    | some set, _ => some (set, rest)
    | none, some set => some (.complement set, rest)
    | none, none => if isPunctuation c then some (.char c, rest) else none
  | [] => none

/-- The named classes inside brackets. -/
def namedSet? : String → Option CharSet
  | "alpha" => some (.union .lower .upper)
  | "digit" => some .digits
  | "alnum" => some (.union (.union .lower .upper) .digits)
  | "lower" => some .lower
  | "upper" => some .upper
  | "word" => some .word
  | "space" => some (.ofRanges [(0x09, 0x0D), (0x20, 0x20)])
  | "blank" => some (.ofRanges [(0x09, 0x09), (0x20, 0x20)])
  | "punct" => some (.ofRanges [(0x21, 0x2F), (0x3A, 0x40), (0x5B, 0x60), (0x7B, 0x7E)])
  | "xdigit" => some (.ofRanges [(0x30, 0x39), (0x41, 0x46), (0x61, 0x66)])
  | "cntrl" => some (.ofRanges [(0, 0x1F), (0x7F, 0x7F)])
  | "graph" => some (.range 0x21 0x7E)
  | "print" => some (.range 0x20 0x7E)
  | "ascii" => some (.range 0 0x7F)
  | _ => none

/-- The single code point of a set, if it is one. -/
def onlyMember? : CharSet → Option Nat
  | .range a b => if a = b then some a else none
  | _ => none

/-- One member of a bracket expression: an escape or a character. -/
def readMember? (unicode : Bool) : List Char → Option (CharSet × List Char)
  | '\\' :: rest => readEscapedSet? unicode rest
  | c :: rest => some (.char c, rest)
  | [] => none

/-- A named class after the bracket and the colon that open it; a caret negates it. -/
def readNamed? (cs : List Char) : Option (CharSet × List Char) :=
  let (negated, cs) := match cs with
    | '^' :: rest => (true, rest)
    | cs => (false, cs)
  let name := cs.takeWhile Char.isAlpha
  match cs.drop name.length with
  | ':' :: ']' :: rest =>
    (namedSet? (String.ofList name)).map fun set => (if negated then .complement set else set, rest)
  | _ => none

/-- An operation on what a bracket expression lists before and after its sign. -/
def operation? : Char → Option (CharSet → CharSet → CharSet)
  | '&' => some .inter
  | '-' => some fun a b => .inter a (.complement b)
  | '~' => some fun a b => .inter (.union a b) (.complement (.inter a b))
  | _ => none

/-- The operation whose doubled sign a text starts with. -/
def readOperation? : List Char → Option ((CharSet → CharSet → CharSet) × List Char)
  | a :: b :: rest => if a = b then (operation? a).map fun operation => (operation, rest) else none
  | _ => none

mutual

/-- A bracket expression after its opening bracket. Hyphens stand for themselves at the start, and
so does a closing bracket. -/
def readSet? (unicode : Bool) : (fuel : Nat) → List Char → Option (CharSet × List Char)
  | 0, _ => none
  | fuel + 1, cs => do
    let (negated, cs) := match cs with
      | '^' :: rest => (true, rest)
      | cs => (false, cs)
    let hyphens := cs.takeWhile (· = '-')
    let (first, rest) := match hyphens, cs.drop hyphens.length with
      | [], ']' :: rest => (CharSet.char ']', rest)
      | [], rest => (.none, rest)
      | _ :: _, rest => (.char '-', rest)
    let (set, rest) ← readMembers unicode fuel id first rest
    some (if negated then .complement set else set, rest)

/-- The rest of a bracket expression up to its closing bracket, after some members. What stands
before the last operation takes in the set after it. -/
def readMembers (unicode : Bool) :
    (fuel : Nat) → (before : CharSet → CharSet) → (set : CharSet) → List Char →
      Option (CharSet × List Char)
  | 0, _, _, _ => none
  | fuel + 1, before, set, cs =>
    match readOperation? cs with
    | some (operation, rest) => readMembers unicode fuel (operation (before set)) .none rest
    | none =>
      match cs with
      | [] => none
      | ']' :: rest => some (before set, rest)
      | '[' :: rest => do
        let named := match rest with
          | ':' :: rest => readNamed? rest
          | _ => none
        let (inner, rest) ← named <|> readSet? unicode fuel rest
        readMembers unicode fuel before (.union set inner) rest
      | cs => do
        let (member, rest) ← readMember? unicode cs
        match rest with
        | '-' :: ']' :: _ | '-' :: '-' :: _ =>
          readMembers unicode fuel before (.union set member) rest
        | '-' :: rest =>
          let (last, rest) ← readMember? unicode rest
          let low ← onlyMember? member
          let high ← onlyMember? last
          if high < low then none
          readMembers unicode fuel before (.union set (.range low high)) rest
        | rest => readMembers unicode fuel before (.union set member) rest

end

/-- The largest count of a repetition; a larger one makes a pattern too long to be worked with. -/
def maxCount : Nat := 100000

/-- A count of a repetition. -/
def readCount? (cs : List Char) : Option (Nat × List Char) :=
  let digits := cs.takeWhile Char.isDigit
  if digits.isEmpty then none
  else
    let n := Nat.ofDigitChars 10 digits 0
    if n ≤ maxCount then some (n, cs.drop digits.length) else none

/-- The bounds of a counted repetition after its opening brace. -/
def readBounds? (cs : List Char) : Option ((Nat × Option Nat) × List Char) := do
  let (low, rest) ← readCount? cs
  match rest with
  | '\x7d' :: rest => some ((low, some low), rest)
  | ',' :: '\x7d' :: rest => some ((low, none), rest)
  | ',' :: rest =>
    let (high, rest) ← readCount? rest
    match rest with
    | '\x7d' :: rest => if high < low then none else some ((low, some high), rest)
    | _ => none
  | _ => none

/-- A repetition with the sign after it: few repetitions are preferred, or the preferred number of
them is final. -/
def repeated (atom : Pattern) (low : Nat) (high : Option Nat) : List Char → Pattern × List Char
  | '?' :: rest => (.rep atom low high false, rest)
  | '+' :: rest => (.atomic (.rep atom low high true), rest)
  | cs => (.rep atom low high true, cs)

/-- The repetition sign after an atom, if there is one. -/
def readRepetition? (atom : Pattern) : List Char → Option (Pattern × List Char)
  | '*' :: rest => some (repeated atom 0 none rest)
  | '+' :: rest => some (repeated atom 1 none rest)
  | '?' :: rest => some (repeated atom 0 (some 1) rest)
  | '\x7b' :: rest => do
    let ((low, high), rest) ← readBounds? rest
    some (repeated atom low high rest)
  | cs => some (atom, cs)

/-- Turn switches on, and off after a hyphen, up to the end of their list. -/
def readFlags? (on : Bool) (flags : Flags) : List Char → Option (Flags × List Char)
  | 'i' :: rest => readFlags? on { flags with ignoreCase := on } rest
  | 's' :: rest => readFlags? on { flags with dotAll := on } rest
  | 'm' :: rest => readFlags? on { flags with multiLine := on } rest
  | 'u' :: rest => readFlags? on flags rest
  | '-' :: rest => if on then readFlags? false flags rest else none
  | cs => some (flags, cs)

/-- What a group is, read after its opening parenthesis and question mark. -/
inductive GroupKind where
  | plain (flags : Flags)
  | captured (named : Bool)
  | atomic
  | look (backward present : Bool)
  /-- Switches for the rest of the enclosing group. -/
  | switches (flags : Flags)

/-- The kind of a group after its opening parenthesis. -/
def readGroupKind? (flags : Flags) : List Char → Option (GroupKind × List Char)
  | '?' :: ':' :: rest => some (.plain flags, rest)
  | '?' :: '>' :: rest => some (.atomic, rest)
  | '?' :: '=' :: rest => some (.look false true, rest)
  | '?' :: '!' :: rest => some (.look false false, rest)
  | '?' :: '<' :: '=' :: rest => some (.look true true, rest)
  | '?' :: '<' :: '!' :: rest => some (.look true false, rest)
  | '?' :: 'P' :: '<' :: rest => named rest
  | '?' :: '<' :: rest => named rest
  | '?' :: rest =>
    match readFlags? true flags rest with
    | some (flags, ':' :: rest) => some (.plain flags, rest)
    | some (flags, ')' :: rest) => some (.switches flags, rest)
    | _ => none
  | cs => some (.captured false, cs)
where
  /-- The name of a group, which plays no part in matching. -/
  named (cs : List Char) : Option (GroupKind × List Char) :=
    let name := cs.takeWhile (· ≠ '>')
    match cs.drop name.length with
    | _ :: rest =>
      let isWord := name.all fun c => c.isAlphanum || c == '_'
      if name.isEmpty || name.head?.any Char.isDigit || !isWord then none
      else some (.captured true, rest)
    | [] => none

/-- Look for a pattern before a position. Each of its alternatives has to have a fixed width. -/
def precededBy? (present : Bool) : Pattern → Option Pattern
  | .alt a b => do
    let a ← precededBy? present a
    let b ← precededBy? present b
    some (if present then .alt a b else .seq a b)
  | a => if a.width?.isSome then some (.behind a present) else none

/-- The pattern of a group around its inside; groups are numbered later. -/
def GroupKind.around? (kind : GroupKind) (inner : Pattern) : Option Pattern :=
  match kind with
  | .plain _ | .switches _ => some inner
  | .captured named => some (.group 0 named inner)
  | .atomic => some (.atomic inner)
  | .look false present => some (.ahead inner present)
  | .look true present => precededBy? present inner

/-- The switches inside a group. -/
def GroupKind.flags (outer : Flags) : GroupKind → Flags
  | .plain flags | .switches flags => flags
  | _ => outer

mutual

/-- Alternatives up to the end or to a closing parenthesis, which is left. -/
def readAlternatives : (fuel : Nat) → Flags → List Char → Option (Pattern × List Char)
  | 0, _, _ => none
  | fuel + 1, flags, cs => do
    let (first, rest) ← readSequence fuel flags cs
    match rest with
    | '|' :: rest =>
      let (others, rest) ← readAlternatives fuel flags rest
      some (.alt first others, rest)
    | rest => some (first, rest)

/-- Repeated atoms up to the end, a bar or a closing parenthesis, which is left. -/
def readSequence : (fuel : Nat) → Flags → List Char → Option (Pattern × List Char)
  | 0, _, _ => none
  | fuel + 1, flags, cs =>
    match cs with
    | [] => some (.nothing, [])
    | '|' :: _ => some (.nothing, cs)
    | ')' :: _ => some (.nothing, cs)
    | '(' :: rest =>
      match readGroupKind? flags rest with
      | none => none
      | some (.switches flags, rest) => readSequence fuel flags rest
      | some (kind, rest) => do
        let (inner, rest) ← readAlternatives fuel (kind.flags flags) rest
        match rest with
        | ')' :: rest => continueSequence fuel flags (← kind.around? inner) rest
        | _ => none
    | '[' :: rest => do
      let (set, rest) ← readSet? flags.unicode (2 * rest.length + 2) rest
      continueSequence fuel flags (literal flags set) rest
    | '.' :: rest =>
      let set := if flags.dotAll then CharSet.complement .none else .complement (.single 0x0A)
      continueSequence fuel flags (.one set false) rest
    | '^' :: rest => continueSequence fuel flags (.start flags.multiLine) rest
    | '$' :: rest => continueSequence fuel flags (.stop flags.multiLine) rest
    | '\\' :: 'b' :: rest => continueSequence fuel flags (.boundary true) rest
    | '\\' :: 'B' :: rest => continueSequence fuel flags (.boundary false) rest
    | '\\' :: 'A' :: rest => continueSequence fuel flags (.start false) rest
    | '\\' :: 'z' :: rest => continueSequence fuel flags (.stop false) rest
    | '\\' :: rest =>
      match readCount? rest with
      | some (number, rest) => continueSequence fuel flags (.again number) rest
      | none => do
        let (set, rest) ← readEscapedSet? flags.unicode rest
        continueSequence fuel flags (literal flags set) rest
    | '*' :: _ => none
    | '+' :: _ => none
    | '?' :: _ => none
    | '\x7b' :: _ => none
    | c :: rest => continueSequence fuel flags (literal flags (.char c)) rest

/-- An atom with its repetition sign, and what follows it. -/
def continueSequence : (fuel : Nat) → Flags → Pattern → List Char → Option (Pattern × List Char)
  | 0, _, _, _ => none
  | fuel + 1, flags, atom, cs => do
    let (item, rest) ← readRepetition? atom cs
    let (others, rest) ← readSequence fuel flags rest
    some (if others = .nothing then item else .seq item others, rest)

end

/-! ## Groups -/

/-- All parts of a pattern, itself included. -/
def parts : Pattern → List Pattern
  | .seq a b => .seq a b :: (a.parts ++ b.parts)
  | .alt a b => .alt a b :: (a.parts ++ b.parts)
  | .rep a low high greedy => .rep a low high greedy :: a.parts
  | .atomic a => .atomic a :: a.parts
  | .group number named a => .group number named a :: a.parts
  | .ahead a present => .ahead a present :: a.parts
  | .behind a present => .behind a present :: a.parts
  | p => [p]

/-- Whether a pattern refers to a captured group. -/
def refersBack (p : Pattern) : Bool :=
  p.parts.any fun
    | .again _ => true
    | _ => false

/-- Whether a pattern looks at more than the characters that it takes. -/
def looksAround (p : Pattern) : Bool :=
  p.parts.any fun
    | .again _ | .ahead _ _ | .behind _ _ => true
    | _ => false

/-- Whether a group of a pattern has a name. -/
def hasNamed (p : Pattern) : Bool :=
  p.parts.any fun
    | .group _ named _ => named
    | _ => false

/-- Number the groups from the left, or leave them out, and return the next number. A group that is
referred to has to be open by then. -/
def numbered? (keep : Bool) : Pattern → (next : Nat) → Option (Pattern × Nat)
  | .seq a b, next => do
    let (a, next) ← numbered? keep a next
    let (b, next) ← numbered? keep b next
    some (.seq a b, next)
  | .alt a b, next => do
    let (a, next) ← numbered? keep a next
    let (b, next) ← numbered? keep b next
    some (.alt a b, next)
  | .rep a low high greedy, next =>
    (numbered? keep a next).map fun (a, next) => (.rep a low high greedy, next)
  | .atomic a, next => (numbered? keep a next).map fun (a, next) => (.atomic a, next)
  | .group _ named a, number =>
    (numbered? keep a (number + 1)).map fun (a, next) =>
      (if keep then .group number named a else a, next)
  | .ahead a present, next => (numbered? keep a next).map fun (a, next) => (.ahead a present, next)
  | .behind a present, next =>
    (numbered? keep a next).map fun (a, next) => (.behind a present, next)
  | .again number, next => if number < next then some (.again number, next) else none
  | p, next => some (p, next)

/-- The pattern of a text with classes of one size. -/
def readWith? (unicode : Bool) (text : String) : Option Pattern :=
  let cs := text.toList
  match readAlternatives (3 * cs.length + 3) (.initial unicode) cs with
  | some (p, []) => some p
  | _ => none

/-- The pattern of a text, if it is one. Classes are the ASCII ones unless a part looks around or
refers to a group; groups that have names are not referred to by number. -/
def read? (text : String) : Option Pattern := do
  let p ← readWith? false text
  let p ← if p.looksAround then readWith? true text else some p
  if p.refersBack && p.hasNamed then none
  let (p, _) ← numbered? p.refersBack p 1
  some p

end Pattern

end TaskEngine.Schema

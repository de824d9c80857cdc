import TaskEngine.Schema.Format

/-!
# Resource identifiers

An identifier names a resource by a scheme, an authority, a path and a query. A reference may leave
out what it shares with the identifier of the place where it stands. Identifiers are compared in a
normal form: scheme and host in lower case, no needless escapes, and no dots as path segments.
-/

namespace TaskEngine.Schema

/-- An identifier, or a reference that leaves out its front. -/
structure Identifier where
  scheme : Option (List Char)
  authority : Option (List Char)
  path : List Char
  query : Option (List Char)
  deriving DecidableEq, Repr

namespace Identifier

/-- The identifier of what has no identifier of its own. -/
def unnamed : Identifier := ⟨some "json-schema".toList, some [], ['/'], none⟩

/-! ## Reading -/

/-- The parts before and after the first occurrence of a character; without one there is no back. -/
def cutAt (mark : Char) (cs : List Char) : List Char × Option (List Char) :=
  match Text.cutFirst? [mark] cs with
  | some (front, back) => (front, some back)
  | none => (cs, none)

/-- The parts of a reference without a fragment. -/
def ofChars (cs : List Char) : Identifier :=
  let (front, query) := cutAt '?' cs
  let word := front.takeWhile fun c => c ≠ ':' && c ≠ '/'
  let (scheme, rest) :=
    match front.drop word.length with
    | ':' :: rest => (some word, rest)
    | _ => (none, front)
  match rest with
  | '/' :: '/' :: rest =>
    let authority := rest.takeWhile (· ≠ '/')
    ⟨scheme, some authority, rest.drop authority.length, query⟩
  | path => ⟨scheme, none, path, query⟩

/-- The reference of a text and its fragment, which is empty if there is none. -/
def read? (text : String) : Option (Identifier × List Char) :=
  if Format.isReference false false text.toList then
    let (front, fragment) := cutAt '#' text.toList
    some (ofChars front, fragment.getD [])
  else none

/-! ## Normal form -/

/-- Percent escapes with capital digits, and none for a character that needs no escape. -/
def normalEscapes : List Char → List Char
  | '%' :: a :: b :: rest =>
    let escaped := Char.ofNat ((Text.hexNumber? [a, b]).getD 0)
    if Format.isUnreserved false escaped then escaped :: normalEscapes rest
    else '%' :: a.toUpper :: b.toUpper :: normalEscapes rest
  | c :: rest => c :: normalEscapes rest
  | [] => []

/-- An authority with its host in lower case. -/
def normalAuthority (authority : List Char) : List Char :=
  let host := Text.afterLast '@' authority
  normalEscapes (authority.take (authority.length - host.length) ++ host.map Char.toLower)

/-- Follow the segments of a path; a dot stays where it is and two dots lead back. The segments up
to here are passed in reverse. -/
def withoutDots (before : List (List Char)) : List (List Char) → List (List Char)
  | [] => before.reverse
  | [['.']] => ([] :: before).reverse
  | [['.', '.']] => ([] :: before.tail).reverse
  | ['.'] :: rest => withoutDots before rest
  | ['.', '.'] :: rest => withoutDots before.tail rest
  | segment :: rest => withoutDots (segment :: before) rest

/-- A path without dots as segments, if it starts at the top. -/
def normalPath (path : List Char) : List Char :=
  match normalEscapes path with
  | '/' :: rest => '/' :: (['/'].intercalate (withoutDots [] (Text.splitAll '/' rest)))
  | path => path

/-- The normal form of an identifier. -/
def normal (i : Identifier) : Identifier :=
  ⟨i.scheme.map (·.map Char.toLower), i.authority.map normalAuthority, normalPath i.path,
    i.query.map normalEscapes⟩

/-! ## Resolution -/

/-- A relative path in the place of the last segment of a path. -/
def merge (base : Identifier) (path : List Char) : List Char :=
  if base.authority.isSome && base.path.isEmpty then '/' :: path
  else base.path.take (base.path.length - (Text.afterLast '/' base.path).length) ++ path

/-- The identifier that a reference stands for. Nothing can be relative to a base whose path does
not start at the top. -/
def resolve? (base reference : Identifier) : Option Identifier :=
  if reference.scheme.isSome then some reference.normal
  else if reference.authority.isSome then
    some (normal { reference with scheme := base.scheme })
  else
    match reference.path with
    | [] => some (normal { base with query := reference.query <|> base.query })
    | '/' :: _ =>
      some (normal { base with path := reference.path, query := reference.query })
    | path =>
      if base.authority.isNone && base.path.head? ≠ some '/' then none
      else some (normal { base with path := merge base path, query := reference.query })

end Identifier

end TaskEngine.Schema

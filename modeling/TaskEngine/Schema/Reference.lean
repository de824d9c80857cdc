import TaskEngine.Schema.Metaschema

/-!
# References between schemas

A reference names a resource and, after a number sign, a place in it: nothing for the whole, a
pointer, or an anchor. The resource is the one that the reference stands in, another one inside the
same root, or a metaschema; there is no access to anything else. A dynamic anchor is looked for in
all resources that the way here has passed, and the first one on the way wins.
-/

namespace TaskEngine.Schema

/-- What references are resolved against. -/
structure Setting extends Scope where
  /-- The resources from which references led here, the latest first. -/
  callers : List Identifier
  /-- All schemas that references can name. -/
  library : List Located

/-- A schema and the setting that it is read in. -/
structure Target where
  setting : Setting
  schema : Json

namespace Setting

/-- The setting of a whole schema. -/
def ofRoot (d : Dialect) (schema : Json) : Setting :=
  let outer := (Scope.ofRoot? d schema).getD ⟨d, .unnamed⟩
  { (outer.enter? schema).getD outer with
    callers := []
    library := (locate? d schema).getD [] ++ Metaschema.library }

/-- A schema inside the one that is read. -/
def inside (s : Setting) (schema : Json) : Target :=
  ⟨{ s with toScope := (s.enter? schema).getD s.toScope }, schema⟩

/-- Go on to a resource. The one that is left is recorded when another one is entered. -/
def moveTo (s : Setting) (d : Dialect) (base : Identifier) : Setting :=
  { s with
    dialect := d
    base
    callers := if s.callers.isEmpty || base ≠ s.base then s.base :: s.callers else s.callers }

/-- The resource under an identifier. -/
def resource? (s : Setting) (base : Identifier) : Option Located :=
  s.library.find? fun located => located.base = base

/-- The schema that bears an anchor in a resource, with whether the anchor is a dynamic one. -/
def anchored? (s : Setting) (base : Identifier) (name : List Char) : Option (Located × Bool) :=
  s.library.findSome? fun located =>
    if located.base = base then
      ((anchorsOf located.dialect located.schema).lookup name).map fun dynamic => (located, dynamic)
    else none

end Setting

namespace Reference

/-! ## Pointers -/

/-- The bytes of a text with its percent escapes resolved. -/
def decodeBytes : List UInt8 → List UInt8
  | [] => []
  | 0x25 :: a :: b :: rest =>
    match Text.hexValue? (Char.ofNat a.toNat), Text.hexValue? (Char.ofNat b.toNat) with
    | some high, some low => UInt8.ofNat (high * 16 + low) :: decodeBytes rest
    | _, _ => 0x25 :: decodeBytes (a :: b :: rest)
  | b :: rest => b :: decodeBytes rest

/-- A text with its percent escapes resolved. -/
def decodeEscapes? (text : String) : Option String :=
  String.fromUTF8? ⟨(decodeBytes text.toUTF8.toList).toArray⟩

/-- A step of a pointer with its tildes resolved. -/
def unescapeStep : List Char → List Char
  | '~' :: '1' :: rest => '/' :: unescapeStep rest
  | '~' :: '0' :: rest => '~' :: unescapeStep rest
  | c :: rest => c :: unescapeStep rest
  | [] => []

/-- The index that a step names: digits, which a plus sign may lead. -/
def index? (step : List Char) : Option Nat :=
  let digits := match step with
    | '+' :: digits => digits
    | digits => digits
  if digits.isEmpty || !digits.all Char.isDigit then none else some (Nat.ofDigitChars 10 digits 0)

/-- Follow steps from something into what is under it. A schema on the way is entered. -/
def follow? : List (List Char) → Position → Target → Option Target
  | [], _, target => some target
  | step :: steps, position, ⟨s, value⟩ => do
    let (key, next) ←
      match value with
      | .obj fields =>
        let key := String.ofList (unescapeStep step)
        (Dict.lookup key fields).map fun next => (key, next)
      | .arr items => ((index? step).bind fun i => items[i]?).map fun next => ("", next)
      | _ => none
    let position := position.inside s.dialect key next
    let scope ← if position = .schema then s.enter? next else some s.toScope
    follow? steps position ⟨{ s with toScope := scope }, next⟩

/-- Follow a pointer from a resource. -/
def pointer? (target : Target) (pointer : List Char) : Option Target := do
  let decoded ← decodeEscapes? (String.ofList pointer)
  follow? ((Text.splitAll '/' decoded.toList).drop 1) .schema target

/-! ## Anchors -/

/-- The schema that bears a dynamic anchor in the first resource on the way that has one. -/
def outermost? (s : Setting) (name : List Char) : Option Located :=
  (s.callers.filterMap fun base => do
    let (located, dynamic) ← s.anchored? base name
    if dynamic then some located else none).getLast?

/-- The schema that bears an anchor in a resource which has been moved to. -/
def anchor? (s : Setting) (name : List Char) : Option Target := do
  let (found, dynamic) ← s.anchored? s.base name
  if dynamic then
    let found := (outermost? s name).getD found
    let scope ← Scope.enter? ⟨found.dialect, s.base⟩ found.schema
    some ⟨{ s with toScope := scope }, found.schema⟩
  else some ⟨{ s with dialect := found.dialect }, found.schema⟩

/-! ## Resolution -/

/-- The resource and the fragment that a reference names. -/
def name? (s : Setting) (reference : String) : Option (Identifier × List Char) := do
  let (relative, fragment) ← Identifier.read? reference
  let base ← s.base.resolve? relative
  some (base, fragment)

/-- The schema that a reference names. -/
def resolve? (s : Setting) (reference : String) : Option Target := do
  let (base, fragment) ← name? s reference
  let resource ← s.resource? base
  let here := s.moveTo resource.dialect base
  match fragment with
  | [] => some ⟨here, resource.schema⟩
  | '/' :: _ => pointer? ⟨here, resource.schema⟩ fragment
  | anchor => anchor? here anchor

/-- Whether a resource lets recursive references go on to the resources before it. -/
def isRecursive (schema : Json) : Bool := schema.field? "$recursiveAnchor" == some (.bool true)

/-- The last one of a row of recursive resources on the way back. -/
def furthest (s : Setting) (best : Target) : List Identifier → Target
  | [] => best
  | base :: rest =>
    match s.resource? base with
    | some resource =>
      if isRecursive resource.schema then
        furthest s ⟨s.moveTo resource.dialect base, resource.schema⟩ rest
      else best
    | none => best

/-- The schema that a recursive reference leads to. -/
def resolveRecursive? (s : Setting) : Option Target := do
  let here ← resolve? s "#"
  if isRecursive here.schema then some (furthest s here s.callers) else some here

end Reference

/-- Whether a keyword is one for references. -/
def isReferenceKeyword (d : Dialect) (keyword : String) : Bool :=
  match keyword with
  | "$ref" => true
  | "$recursiveRef" => d = .draft2019
  | "$dynamicRef" => d = .draft2020
  | _ => false

/-- The schema that a keyword for references leads to. -/
def Setting.target? (s : Setting) (keyword : String) (argument : Json) : Option Target := do
  let reference ← argument.text?
  if !isReferenceKeyword s.dialect keyword then none
  else if keyword = "$recursiveRef" then Reference.resolveRecursive? s
  else Reference.resolve? s reference

end TaskEngine.Schema

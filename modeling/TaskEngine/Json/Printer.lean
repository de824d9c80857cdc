import TaskEngine.Json.Basic
import TaskEngine.Text.Hexadecimal

/-!
# Writing JSON text

The compact form has no blanks at all; the indented form puts every item and field on a line of
its own, two blanks deeper than its container. Strings escape the quote, the backslash and the
control characters and keep everything else as it is. Fields come in the order in which the object
holds them.
-/

namespace TaskEngine.Json

open Text (hexDigit)

/-- A character inside a JSON string. -/
def escapeChar (c : Char) : List Char :=
  match c with
  | '"' => ['\\', '"']
  | '\\' => ['\\', '\\']
  | '\x08' => ['\\', 'b']
  | '\x0c' => ['\\', 'f']
  | '\n' => ['\\', 'n']
  | '\r' => ['\\', 'r']
  | '\t' => ['\\', 't']
  | c =>
    if c.toNat < 0x20 then ['\\', 'u', '0', '0', hexDigit (c.toNat / 16), hexDigit (c.toNat % 16)]
    else [c]

/-- A quoted string. -/
def quoteChars (text : String) : List Char := '"' :: text.toList.flatMap escapeChar ++ ['"']

mutual

/-- The compact text of a value. -/
def compactChars : Json → List Char
  | .null => ['n', 'u', 'l', 'l']
  | .bool true => ['t', 'r', 'u', 'e']
  | .bool false => ['f', 'a', 'l', 's', 'e']
  | .num n => n.render.toList
  | .str s => quoteChars s
  | .arr items => '[' :: compactItems items ++ [']']
  | .obj fields => '\x7b' :: compactFields fields ++ ['\x7d']

/-- Items with commas between them. -/
def compactItems : List Json → List Char
  | [] => []
  | [x] => compactChars x
  | x :: y :: rest => compactChars x ++ ',' :: compactItems (y :: rest)

/-- Fields with commas between them. -/
def compactFields : List (String × Json) → List Char
  | [] => []
  | [(k, x)] => quoteChars k ++ ':' :: compactChars x
  | (k, x) :: y :: rest => quoteChars k ++ ':' :: compactChars x ++ ',' :: compactFields (y :: rest)

end

/-- The compact text of a value. -/
def compact (value : Json) : String := String.ofList value.compactChars

/-- A new line at a depth. -/
def newLine (depth : Nat) : List Char := '\n' :: List.replicate (2 * depth) ' '

mutual

/-- The indented text of a value whose first line stands at this depth. -/
def prettyChars (depth : Nat) : Json → List Char
  | .arr [] => ['[', ']']
  | .arr (x :: rest) =>
    '[' :: prettyItems (depth + 1) (x :: rest) ++ newLine depth ++ [']']
  | .obj [] => ['\x7b', '\x7d']
  | .obj (x :: rest) =>
    '\x7b' :: prettyFields (depth + 1) (x :: rest) ++ newLine depth ++ ['\x7d']
  | .null => ['n', 'u', 'l', 'l']
  | .bool true => ['t', 'r', 'u', 'e']
  | .bool false => ['f', 'a', 'l', 's', 'e']
  | .num n => n.render.toList
  | .str s => quoteChars s

/-- Items on lines of their own. -/
def prettyItems (depth : Nat) : List Json → List Char
  | [] => []
  | [x] => newLine depth ++ prettyChars depth x
  | x :: y :: rest => newLine depth ++ prettyChars depth x ++ ',' :: prettyItems depth (y :: rest)

/-- Fields on lines of their own. -/
def prettyFields (depth : Nat) : List (String × Json) → List Char
  | [] => []
  | [(k, x)] => newLine depth ++ quoteChars k ++ ':' :: ' ' :: prettyChars depth x
  | (k, x) :: y :: rest =>
    newLine depth ++ quoteChars k ++ ':' :: ' ' :: prettyChars depth x ++ ',' ::
      prettyFields depth (y :: rest)

end

/-- The indented text of a value. -/
def pretty (value : Json) : String := String.ofList (value.prettyChars 0)

end TaskEngine.Json

import MailStore.Text.Utf8
import MailStore.Number.Binary64

/-!
# JSON values and their text

A JSON value keeps numbers as the text they were written in, so integers of any size pass
through unchanged and a reader decides how to take them. Objects keep their members in
order; a member looked up by name is the last one with that name.

Writing is compact and escapes, inside strings, the quote, the backslash and every control
character (`\b \f \n \r \t` by letter, the rest as `\u00XX`), the HTML-sensitive `<`, `>` and
`&`, and the separators `U+2028` and `U+2029`; a byte of a text that is not UTF-8 is written
as the escape of `U+FFFD`. The indented layout puts each member and element on its own line.
-/

namespace MailStore

/-- A JSON value. -/
inductive Json where
  | null
  | bool (b : Bool)
  /-- A number, as written. -/
  | number (text : String)
  /-- A string, as text that may hold bytes that are not UTF-8. -/
  | string (t : Text)
  | array (items : List Json)
  | object (members : List (String × Json))
deriving Inhabited, Repr

namespace Json

/-! ### Building -/

/-- An integer. -/
def int (n : Int) : Json := .number (toString n)

/-- A natural number. -/
def nat (n : Nat) : Json := .number (toString n)

/-- A string. -/
def str (s : String) : Json := .string (Text.ofString s)

/-- An optional value, `null` when absent. -/
def opt {α : Type} (f : α → Json) : Option α → Json
  | some a => f a
  | none => .null

/-- An object whose members are sorted by name, as maps are written. -/
def sortedObject (members : List (String × Json)) : Json :=
  .object (members.mergeSort fun a b => decide (a.1.toUTF8.toList ≤ b.1.toUTF8.toList))

mutual
/-- A value with the members of every object sorted by name, as generic maps are written. -/
def sortKeys : Json → Json
  | .array xs => .array (sortKeysItems xs)
  | .object ms => sortedObject (sortKeysMembers ms)
  | j => j

/-- Elements with their objects' members sorted. -/
def sortKeysItems : List Json → List Json
  | [] => []
  | x :: rest => sortKeys x :: sortKeysItems rest

/-- Members with their objects' members sorted. -/
def sortKeysMembers : List (String × Json) → List (String × Json)
  | [] => []
  | (k, v) :: rest => (k, sortKeys v) :: sortKeysMembers rest
end

/-! ### Reading -/

/-- The member of an object with that name; the last one when there are several. -/
def get? (j : Json) (name : String) : Option Json :=
  match j with
  | .object ms => (ms.reverse.find? (·.1 == name)).map (·.2)
  | _ => none

/-- The members of an object. -/
def members? : Json → Option (List (String × Json))
  | .object ms => some ms
  | _ => none

/-- The elements of an array. -/
def items? : Json → Option (List Json)
  | .array xs => some xs
  | _ => none

/-- The string, if the value is one. -/
def str? : Json → Option String
  | .string t => some t.toString
  | _ => none

/-- The text of a string, if the value is one. -/
def text? : Json → Option Text
  | .string t => some t
  | _ => none

/-- The boolean, if the value is one. -/
def bool? : Json → Option Bool
  | .bool b => some b
  | _ => none

/-- The number's text, if the value is a number. -/
def num? : Json → Option String
  | .number t => some t
  | _ => none

/-- Whether the value is `null`. -/
def isNull : Json → Bool
  | .null => true
  | _ => false

/-! ### Writing -/

/-- The lowercase hexadecimal digit of a nibble. -/
def hexNibble (n : Nat) : Char := Bytes.hexDigit (n % 16)

/-- The escaped form of one character inside a string. -/
def escapeChar (c : Char) : List Char :=
  let n := c.toNat
  if c = '"' then ['\\', '"']
  else if c = '\\' then ['\\', '\\']
  else if n = 8 then ['\\', 'b']
  else if n = 12 then ['\\', 'f']
  else if n = 10 then ['\\', 'n']
  else if n = 13 then ['\\', 'r']
  else if n = 9 then ['\\', 't']
  else if n < 0x20 ∨ c = '<' ∨ c = '>' ∨ c = '&' then
    ['\\', 'u', '0', '0', hexNibble (n / 16), hexNibble n]
  else if n = 0x2028 then ['\\', 'u', '2', '0', '2', '8']
  else if n = 0x2029 then ['\\', 'u', '2', '0', '2', '9']
  else [c]

/-- The escaped characters of a byte string; a byte that starts no well-formed UTF-8
sequence is written as the escape of `U+FFFD`. -/
def escapeBytes : Bytes → List Char
  | [] => []
  | x :: rest =>
    match Text.decodeHead (x :: rest) with
    | some (c, w) => escapeChar c ++ escapeBytes (rest.drop w.val)
    | none => ['\\', 'u', 'f', 'f', 'f', 'd'] ++ escapeBytes rest
termination_by b => b.length
decreasing_by all_goals simp only [List.length_drop, List.length_cons]; omega

/-- A text in quotes, escaped. -/
def quoteText (t : Text) : String :=
  String.ofList ('"' :: escapeBytes t.bytes ++ ['"'])

/-- A string in quotes, escaped. -/
def quote (s : String) : String :=
  String.ofList ('"' :: s.toList.flatMap escapeChar ++ ['"'])

mutual
/-- The compact text of a value. -/
def render : Json → String
  | .null => "null"
  | .bool true => "true"
  | .bool false => "false"
  | .number t => t
  | .string t => quoteText t
  | .array xs => "[" ++ renderItems xs ++ "]"
  | .object ms => "\x7b" ++ renderMembers ms ++ "\x7d"

/-- Elements separated by commas. -/
def renderItems : List Json → String
  | [] => ""
  | [x] => render x
  | x :: rest => render x ++ "," ++ renderItems rest

/-- Members separated by commas. -/
def renderMembers : List (String × Json) → String
  | [] => ""
  | [(k, v)] => quote k ++ ":" ++ render v
  | (k, v) :: rest => quote k ++ ":" ++ render v ++ "," ++ renderMembers rest
end

mutual
/-- The indented text of a value, nested lines indented by two more spaces than `pad`. -/
def renderIndented (pad : String) : Json → String
  | .array [] => "[]"
  | .object [] => "\x7b\x7d"
  | .array xs => "[\n" ++ indentItems (pad ++ "  ") xs ++ "\n" ++ pad ++ "]"
  | .object ms => "\x7b\n" ++ indentMembers (pad ++ "  ") ms ++ "\n" ++ pad ++ "\x7d"
  | j => render j

/-- Elements, one per line. -/
def indentItems (pad : String) : List Json → String
  | [] => ""
  | [x] => pad ++ renderIndented pad x
  | x :: rest => pad ++ renderIndented pad x ++ ",\n" ++ indentItems pad rest

/-- Members, one per line. -/
def indentMembers (pad : String) : List (String × Json) → String
  | [] => ""
  | [(k, v)] => pad ++ quote k ++ ": " ++ renderIndented pad v
  | (k, v) :: rest => pad ++ quote k ++ ": " ++ renderIndented pad v ++ ",\n" ++ indentMembers pad rest
end

end Json

end MailStore

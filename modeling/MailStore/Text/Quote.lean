import MailStore.Text.Utf8
import MailStore.Text.Printable

/-!
# Quoted text

Messages quote user text in double quotes with backslash escapes: a quote and a backslash
get a backslash, printable characters stand as themselves, the seven control characters
with a letter escape (`\a \b \f \n \r \t \v`) use it, other characters below `U+0080` and
each byte that is not UTF-8 are written `\xHH`, and other characters `\uHHHH` or
`\UHHHHHHHH`, in lowercase hexadecimal.
-/

namespace MailStore

namespace Quote

/-- `width` lowercase hexadecimal digits of `n`. -/
def hex (width n : Nat) : List Char :=
  (List.range width).reverse.map fun i => Bytes.hexDigit (n / Nat.pow 16 i % 16)

/-- The quoted form of one character, without the surrounding quotes. -/
def escapeChar (c : Char) : List Char :=
  let n := c.toNat
  if c = '"' then ['\\', '"']
  else if c = '\\' then ['\\', '\\']
  else if Printable.isPrintable c then [c]
  else if n = 7 then ['\\', 'a']
  else if n = 8 then ['\\', 'b']
  else if n = 12 then ['\\', 'f']
  else if n = 10 then ['\\', 'n']
  else if n = 13 then ['\\', 'r']
  else if n = 9 then ['\\', 't']
  else if n = 11 then ['\\', 'v']
  else if n < 0x20 ∨ n = 0x7F then '\\' :: 'x' :: hex 2 n
  else if n < 0x10000 then '\\' :: 'u' :: hex 4 n
  else '\\' :: 'U' :: hex 8 n

/-- The quoted form of a byte string read as UTF-8; a byte that starts no well-formed
sequence is written `\xHH`. -/
def escapeBytes : Bytes → List Char
  | [] => []
  | x :: rest =>
    match Text.decodeHead (x :: rest) with
    | some (c, w) => escapeChar c ++ escapeBytes (rest.drop w.val)
    | none => '\\' :: 'x' :: hex 2 x.toNat ++ escapeBytes rest
termination_by b => b.length
decreasing_by all_goals simp only [List.length_drop, List.length_cons]; omega

/-- A text in double quotes with its characters escaped. -/
def text (t : Text) : String := String.ofList ('"' :: escapeBytes t.bytes ++ ['"'])

/-- A string in double quotes with its characters escaped. -/
def string (s : String) : String := text (Text.ofString s)

end Quote

end MailStore

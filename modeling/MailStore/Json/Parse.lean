import MailStore.Json.Basic
import MailStore.Text.Quote
import MailStore.Text.Utf16
import MailStore.Text.Case

/-!
# Reading JSON from a stream

A stream holds JSON values one after another, separated by any whitespace. `Json.next`
reads the next value and returns it with the rest of the stream. It stops at the first
character that cannot continue the value, and says which one and where in the grammar it
stood (`invalid character 'b' looking for beginning of object key string`, `invalid
character ' ' in numeric literal`, `invalid escape sequence` and the sequence); a
character is named as a quoted rune. A stream that ends inside a value is cut off, which is
told apart from a stream that holds only whitespace.

Inside strings, `\uXXXX` escapes that form a surrogate pair give one character and any
other surrogate gives `U+FFFD`.

Arrays and objects nest at most `maxDepth` deep: the bracket or brace that would open one
more stops the read there (`invalid character '[' exceeded max depth`), whatever follows it.
-/

namespace MailStore

namespace Json

/-- Why reading a value stopped. -/
inductive Stop where
  /-- The stream ended inside a value. -/
  | cutOff
  /-- A character that cannot stand where it stands, with the message. -/
  | malformed (message : String)
deriving DecidableEq, Repr

/-- What the stream held next. -/
inductive Next where
  /-- A value and the rest of the stream after it. -/
  | value (j : Json) (rest : List Char)
  /-- Nothing but whitespace. -/
  | finished
  /-- A value that could not be read. -/
  | stopped (why : Stop)
deriving Repr

/-- JSON whitespace: space, tab, line feed, carriage return. -/
def isSpace (c : Char) : Bool := c = ' ' ∨ c = '\t' ∨ c = '\n' ∨ c = '\r'

/-- A character named in a message: quoted in single quotes, with the backslash escapes of
quoted text for characters that are not printable. -/
def charName (c : Char) : String :=
  if c = '\'' then "'\\''"
  else if c = '"' then "'\"'"
  else "'" ++ String.ofList (Quote.escapeChar c) ++ "'"

/-- The stop at an escape sequence that is not one: the sequence is shown in backquotes,
or quoted when it holds a backquote, a space or a character that is not printable. -/
def badEscape (seq : List Char) : Stop :=
  let plain := seq.all fun c => c ≠ '`' ∧ c ≠ ' ' ∧ c ≠ '�' ∧ ¬ Case.isSpace c ∧ Printable.isPrintable c
  let shown := if plain then "`" ++ String.ofList seq ++ "`" else Quote.string (String.ofList seq)
  .malformed ("invalid escape sequence " ++ shown ++ " in string")

/-- The stop at a character that cannot stand where it does. -/
def invalid (c : Char) (context : String) : Stop :=
  .malformed ("invalid character " ++ charName c ++ " " ++ context)

/-- The value of a hexadecimal digit. -/
def hexDigitValue? (c : Char) : Option Nat :=
  if '0' ≤ c ∧ c ≤ '9' then some (c.toNat - 48)
  else if 'a' ≤ c ∧ c ≤ 'f' then some (c.toNat - 87)
  else if 'A' ≤ c ∧ c ≤ 'F' then some (c.toNat - 55)
  else none

/-- Reads the four hexadecimal digits of a `\u` escape, given what follows the `u`: fewer
than four digits before the stream ends is a cut-off stream, anything else that is not four
digits is a bad escape sequence. -/
def readHex4 (cs : List Char) : Except Stop (Nat × List Char) :=
  let four := cs.take 4
  if four.length < 4 ∧ four.all fun ch => (hexDigitValue? ch).isSome then .error .cutOff
  else if four.length = 4 ∧ four.all fun ch => (hexDigitValue? ch).isSome then
    .ok (four.foldl (fun n ch => 16 * n + (hexDigitValue? ch).getD 0) 0, cs.drop 4)
  else .error (badEscape ('\\' :: 'u' :: four))

/-- Reads the body of a string after its opening quote, up to the closing quote. -/
def readString : Nat → List Char → List Char → Except Stop (String × List Char)
  | 0, _, _ => .error .cutOff
  | _ + 1, _, [] => .error .cutOff
  | fuel + 1, acc, c :: rest =>
    if c = '"' then .ok (String.ofList acc.reverse, rest)
    else if c = '\\' then
      match rest with
      | [] => .error .cutOff
      | e :: more =>
        if e = 'u' then do
          let (u, after) ← readHex4 more
          if 0xD800 ≤ u ∧ u ≤ 0xDBFF then
            match after with
            | '\\' :: 'u' :: more2 =>
              match readHex4 more2 with
              | .ok (v, after2) =>
                if 0xDC00 ≤ v ∧ v ≤ 0xDFFF then
                  readString fuel
                    (Char.ofNat (0x10000 + (u - 0xD800) * 0x400 + (v - 0xDC00)) :: acc) after2
                else readString fuel ('�' :: acc) after
              | .error _ => readString fuel ('�' :: acc) after
            | _ => readString fuel ('�' :: acc) after
          else if 0xDC00 ≤ u ∧ u ≤ 0xDFFF then readString fuel ('�' :: acc) after
          else readString fuel (Char.ofNat u :: acc) after
        else
          let simple : Option Char :=
            if e = 'b' then some (Char.ofNat 8) else if e = 'f' then some (Char.ofNat 12)
            else if e = 'n' then some '\n' else if e = 'r' then some '\r'
            else if e = 't' then some '\t' else if e = '\\' then some '\\'
            else if e = '/' then some '/' else if e = '"' then some '"' else none
          match simple with
          | some ch => readString fuel (ch :: acc) more
          | none => .error (badEscape ['\\', e])
    else if c.toNat < 0x20 then .error (invalid c "in string")
    else readString fuel (c :: acc) rest

/-- Reads digits, returning them and what follows. -/
def digits (cs : List Char) : List Char × List Char :=
  (cs.takeWhile Char.isDigit, cs.dropWhile Char.isDigit)

/-- Reads the exponent of a number after `e` or `E`. -/
def readExponent (cs : List Char) : Except Stop (List Char × List Char) :=
  match cs with
  | [] => .error .cutOff
  | s :: rest =>
    if s = '+' ∨ s = '-' then
      match rest with
      | [] => .error .cutOff
      | d :: _ =>
        if d.isDigit then
          let (ds, after) := digits rest
          .ok (s :: ds, after)
        else .error (invalid d "in numeric literal")
    else if s.isDigit then .ok (digits cs)
    else .error (invalid s "in numeric literal")

/-- Reads the fraction and exponent that may follow the integer part of a number. -/
def readNumberTail (cs : List Char) : Except Stop (List Char × List Char) := do
  let (frac, cs) ← match cs with
    | '.' :: rest =>
      match rest with
      | [] => .error .cutOff
      | d :: _ =>
        if d.isDigit then
          let (ds, after) := digits rest
          .ok ('.' :: ds, after)
        else .error (invalid d "in numeric literal")
    | _ => .ok ([], cs)
  match cs with
  | e :: rest =>
    if e = 'e' ∨ e = 'E' then do
      let (ex, after) ← readExponent rest
      pure (frac ++ e :: ex, after)
    else pure (frac, cs)
  | [] => pure (frac, cs)

/-- Reads a number whose first character (a minus sign or a digit) is next. -/
def readNumber (cs : List Char) : Except Stop (Json × List Char) := do
  let (sign, cs) := match cs with
    | '-' :: rest => (['-'], rest)
    | _ => ([], cs)
  let (intPart, cs) ← match cs with
    | [] => .error .cutOff
    | '0' :: rest => .ok (['0'], rest)
    | d :: _ =>
      if d.isDigit then .ok (digits cs) else .error (invalid d "in numeric literal")
  let (tail, cs) ← readNumberTail cs
  pure (.number (String.ofList (sign ++ intPart ++ tail)), cs)

/-- Reads the rest of a literal word after its first letter. -/
def readWord (word : String) (value : Json) : List Char → List Char → Except Stop (Json × List Char)
  | [], cs => .ok (value, cs)
  | w :: ws, [] => let _ := w; let _ := ws; .error .cutOff
  | w :: ws, c :: rest =>
    if c = w then readWord word value ws rest
    else .error (invalid c ("in literal " ++ word))

/-- Drops leading whitespace. -/
def skipSpace (cs : List Char) : List Char := cs.dropWhile isSpace

/-- The deepest that arrays and objects may nest. -/
def maxDepth : Nat := 10000

/-- The stop at the bracket or brace that would open an array or object deeper than
`maxDepth`. -/
def tooDeep (c : Char) : Stop := invalid c "exceeded max depth"

mutual
/-- Reads a value, after leading whitespace, inside `depth` arrays and objects. -/
def readValue : Nat → Nat → List Char → Except Stop (Json × List Char)
  | 0, _, _ => .error .cutOff
  | fuel + 1, depth, cs =>
    match skipSpace cs with
    | [] => .error .cutOff
    | c :: rest =>
      if c = '{' then readObject fuel (depth + 1) rest
      else if c = '[' then readArray fuel (depth + 1) rest
      else if c = '"' then (readString rest.length [] rest).map fun (s, r) => (.str s, r)
      else if c = '-' ∨ c.isDigit then readNumber (c :: rest)
      else if c = 't' then readWord "true" (.bool true) ['r', 'u', 'e'] rest
      else if c = 'f' then readWord "false" (.bool false) ['a', 'l', 's', 'e'] rest
      else if c = 'n' then readWord "null" .null ['u', 'l', 'l'] rest
      else .error (invalid c "looking for beginning of value")
termination_by structural fuel _ _ => fuel

/-- Reads the members of an object, the `depth`-th one open, after its opening brace. -/
def readObject : Nat → Nat → List Char → Except Stop (Json × List Char)
  | 0, _, _ => .error .cutOff
  | fuel + 1, depth, cs =>
    if maxDepth < depth then .error (tooDeep '{')
    else match skipSpace cs with
    | [] => .error .cutOff
    | '}' :: rest => .ok (.object [], rest)
    | c :: rest =>
      if c = '"' then readMembers fuel depth [] (c :: rest)
      else .error (invalid c "looking for beginning of object key string")
termination_by structural fuel _ _ => fuel

/-- Reads members from a key's opening quote on, collecting them in reverse. -/
def readMembers :
    Nat → Nat → List (String × Json) → List Char → Except Stop (Json × List Char)
  | 0, _, _, _ => .error .cutOff
  | fuel + 1, depth, acc, cs =>
    match cs with
    | '"' :: rest => do
      let (key, after) ← readString rest.length [] rest
      match skipSpace after with
      | [] => .error .cutOff
      | ':' :: afterColon => do
        let (v, afterValue) ← readValue fuel depth afterColon
        let acc := (key, v) :: acc
        match skipSpace afterValue with
        | [] => .error .cutOff
        | ',' :: more =>
          match skipSpace more with
          | [] => .error .cutOff
          | c :: more2 =>
            if c = '"' then readMembers fuel depth acc (c :: more2)
            else .error (invalid c "looking for beginning of object key string")
        | '}' :: more => .ok (.object acc.reverse, more)
        | c :: _ => .error (invalid c "after object key:value pair")
      | c :: _ => .error (invalid c "after object key")
    | [] => .error .cutOff
    | c :: _ => .error (invalid c "looking for beginning of object key string")
termination_by structural fuel _ _ _ => fuel

/-- Reads the elements of an array, the `depth`-th one open, after its opening bracket. -/
def readArray : Nat → Nat → List Char → Except Stop (Json × List Char)
  | 0, _, _ => .error .cutOff
  | fuel + 1, depth, cs =>
    if maxDepth < depth then .error (tooDeep '[')
    else match skipSpace cs with
    | [] => .error .cutOff
    | ']' :: rest => .ok (.array [], rest)
    | other => readElements fuel depth [] other
termination_by structural fuel _ _ => fuel

/-- Reads elements, collecting them in reverse. -/
def readElements : Nat → Nat → List Json → List Char → Except Stop (Json × List Char)
  | 0, _, _, _ => .error .cutOff
  | fuel + 1, depth, acc, cs => do
    let (v, after) ← readValue fuel depth cs
    let acc := v :: acc
    match skipSpace after with
    | [] => .error .cutOff
    | ',' :: more => readElements fuel depth acc more
    | ']' :: more => .ok (.array acc.reverse, more)
    | c :: _ => .error (invalid c "after array element")
termination_by structural fuel _ _ _ => fuel
end

/-- Reads the next value of a stream. A character takes at most three calls of the readers
(an opening bracket: the value, the array, its first element), so three for each character
and one for the last value are enough fuel. -/
def next (cs : List Char) : Next :=
  match skipSpace cs with
  | [] => .finished
  | rest =>
    match readValue (3 * rest.length + 1) 0 rest with
    | .ok (j, after) => .value j after
    | .error s => .stopped s

/-- Reads a text that holds exactly one value. -/
def parse (s : String) : Except String Json :=
  match next s.toList with
  | .value j rest =>
    match skipSpace rest with
    | [] => .ok j
    | c :: _ => .error ("invalid character " ++ charName c ++ " after top-level value")
  | .finished => .error "unexpected end of JSON input"
  | .stopped .cutOff => .error "unexpected end of JSON input"
  | .stopped (.malformed m) => .error m

end Json

end MailStore

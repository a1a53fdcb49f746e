import MailStore.Json.Basic
import MailStore.Number.IntLiteral
import MailStore.Table.Read
import MailStore.Prop.Column
import MailStore.Guid

/-!
# Tool arguments

A tool receives its arguments as a JSON object as a client sends it, every number read as
a double. Each argument has its reader:

* entry ids are non-empty hexadecimal strings (`invalid entry id "…": encoding/hex: …`);
* counts (`skip`, `take`) are non-negative integers, given as whole doubles below `2^63`
  or as decimal strings;
* tags and property ids are whole doubles, or integer literals with a base prefix that must
  fit their width;
* sort orders and columns are objects; a column names a numeric property id, or a property
  set with a name or a 32-bit local id.

A member of the wrong JSON type counts as absent where the reader has a default.
-/

namespace MailStore

namespace Args

/-- The exact integer a double holds, if it is whole. -/
def wholeValue? (f : Float) : Option Int :=
  if Binary64.isSpecial f then none
  else
    let (neg, m, e) := Binary64.decompose f
    let magnitude : Option Nat :=
      if e ≥ 0 then some (m * Nat.pow 2 e.toNat)
      else if m % Nat.pow 2 e.natAbs = 0 then some (m / Nat.pow 2 e.natAbs)
      else none
    magnitude.map fun n => if neg then -(n : Int) else n

/-- The double a JSON number denotes. -/
def number? : Json → Option Float
  | .number t => Binary64.parseJsonNumber? t
  | _ => none

/-- A string argument that is present and not empty. -/
def string? (args : Json) (name : String) : Option Text :=
  match args.get? name with
  | some (.string t) => if t.isEmpty then none else some t
  | _ => none

/-- A boolean argument; false unless it is `true`. -/
def flag (args : Json) (name : String) : Bool :=
  match args.get? name with
  | some (.bool b) => b
  | _ => false

/-- A count: absent is zero, otherwise a whole non-negative double below `2^63` or a
decimal string. -/
def count (args : Json) (name : String) : Except Failure Int :=
  let bad : Except Failure Int := .error (Failure.other (name ++ " must be a non-negative integer"))
  match args.get? name with
  | none | some .null => .ok 0
  | some (.number t) =>
    match (Binary64.parseJsonNumber? t).bind wholeValue? with
    | some n => if 0 ≤ n ∧ n < Int.pow 2 63 then .ok n else bad
    | none => bad
  | some (.string t) =>
    match IntLiteral.parseDecimal? t.toString with
    | some n => if n < 0 then bad else .ok n
    | none => bad
  | some _ => bad

/-- Bytes from hexadecimal text. -/
def entryId (s : Text) : Except Failure Bytes :=
  match Bytes.ofHexBytes s.bytes with
  | .ok b => .ok b
  | .error e => .error (Failure.other ("invalid entry id " ++ Quote.text s ++ ": " ++ e.message))

/-- A required entry id. -/
def id (args : Json) (name : String) : Except Failure Bytes :=
  match string? args name with
  | some s => entryId s
  | none => .error (Failure.other (name ++ " is required"))

/-- An optional entry id: absent or empty is the empty id. -/
def optionalId (args : Json) (name : String) : Except Failure Bytes :=
  match string? args name with
  | some s => entryId s
  | none => .ok []

/-- The explicit ids, or none when `ids` is not a list. -/
def ids (args : Json) : Except Failure (Option (List Bytes)) :=
  match args.get? "ids" with
  | some (.array xs) => some <$> xs.mapM fun x => match x with
    | .string s => entryId s
    | _ => .error (Failure.other "ids must be hex strings")
  | _ => .ok none

/-- An unsigned number: a whole double from zero to below `2^64`, or an integer literal of
at most `bits` bits. -/
def unsigned (v : Option Json) (name : String) (bits : Nat) : Except Failure Nat :=
  match v with
  | some (.number t) =>
    match Binary64.parseJsonNumber? t with
    | some f =>
      match wholeValue? f with
      | some n => if 0 ≤ n ∧ n < Int.pow 2 64 then .ok n.toNat
        else .error (Failure.other ("invalid " ++ name ++ ": " ++ Binary64.formatGeneral f))
      | none => .error (Failure.other ("invalid " ++ name ++ ": " ++ Binary64.formatGeneral f))
    | none => .error (Failure.other ("invalid " ++ name ++ ": " ++ t))
  | some (.string s) =>
    match IntLiteral.parseUnsigned s.toString bits with
    | .ok n => .ok n
    | .error p => .error (Failure.other ("invalid " ++ name ++ " " ++ Quote.text s ++ ": " ++
        IntLiteral.message "ParseUint" s.toString p))
  | _ => .error (Failure.other (name ++ " must be a number or string"))

/-- The directives: `skip`, `take`, and sort orders from `order_by`. -/
def directives (args : Json) : Except Failure Directives := do
  let skip ← count args "skip"
  let take ← count args "take"
  let entries := match args.get? "order_by" with
    | some (.array xs) => xs
    | _ => []
  let orders ← entries.mapM fun e => match e with
    | .object _ => do
      let t ← unsigned (e.get? "tag") "tag" 32
      pure (⟨⟨t.toUInt32⟩, flag e "descending"⟩ : SortOrder)
    | _ => .error (Failure.other "order_by entries must be objects")
  pure ⟨orders, skip, take⟩

/-- A column: a type, then a numeric id, or a property set with a name or a local id. -/
def column (c : Json) : Except Failure Column := do
  let typeName := match c.get? "type" with
    | some (.string t) => t.toString
    | _ => ""
  let type ← ColumnType.parse typeName
  if let some idArg := c.get? "id" then
    let n ← unsigned (some idArg) "id" 16
    return ⟨.numeric n.toUInt32, type⟩
  let set ← match string? c "propset" with
    | some s => pure s
    | none => throw (Failure.other "either id or propset is required")
  let propSet ← match Guid.parse set.toString with
    | .ok g => pure g
    | .error e => throw (Failure.other ("invalid propset " ++ Quote.text set ++ ": " ++ e.message))
  if let some name := string? c "name" then
    return ⟨.named (NamedId.ofName propSet name.toString), type⟩
  match (number? ((c.get? "lid").getD .null)).bind wholeValue? with
  | some lid =>
    if -(Int.pow 2 31) ≤ lid ∧ lid < Int.pow 2 31 then
      return ⟨.named (NamedId.ofLid propSet (Int.toInt32 lid)), type⟩
    else throw (Failure.other "named column needs a name or an integer lid")
  | none => throw (Failure.other "named column needs a name or an integer lid")

/-- The columns to fetch, or none when `columns` is not a list. -/
def columns (args : Json) : Except Failure (Option (List Column)) :=
  match args.get? "columns" with
  | some (.array xs) => some <$> (xs.zipIdx.mapM fun (x, i) => match x with
    | .object _ => (column x).mapError fun f => f.wrap ("column " ++ toString i)
    | _ => .error (Failure.other ("column " ++ toString i ++ " must be an object")))
  | _ => .ok none

theorem count_absent (args : Json) (name : String) (h : args.get? name = none) :
    count args name = .ok 0 := by
  simp [count, h]

end Args

end MailStore

import MailStore.Text.Fold
import MailStore.Failure

/-!
# Special folders

A store marks some of its folders as special: the top of its folder tree (the IPM
subtree), the inbox, deleted items, outbox, sent items, and the calendar, contacts, tasks,
archive and drafts folders. They are numbered 0 to 9 in that order and named in capitals;
a name is read up to case.
-/

namespace MailStore

/-- The special folders, in their numeric order. -/
inductive SpecialFolder where
  | ipmSubtree | inbox | deleted | outbox | sent | calendar | contacts | tasks | archive | drafts
deriving DecidableEq, Repr, Inhabited

namespace SpecialFolder

/-- Every special folder, in numeric order. -/
def all : List SpecialFolder :=
  [.ipmSubtree, .inbox, .deleted, .outbox, .sent, .calendar, .contacts, .tasks, .archive, .drafts]

/-- The number of a special folder. -/
def index : SpecialFolder → Nat
  | .ipmSubtree => 0 | .inbox => 1 | .deleted => 2 | .outbox => 3 | .sent => 4
  | .calendar => 5 | .contacts => 6 | .tasks => 7 | .archive => 8 | .drafts => 9

/-- The name of a special folder. -/
def name : SpecialFolder → String
  | .ipmSubtree => "IPM_SUBTREE" | .inbox => "INBOX" | .deleted => "DELETED"
  | .outbox => "OUTBOX" | .sent => "SENT" | .calendar => "CALENDAR"
  | .contacts => "CONTACTS" | .tasks => "TASKS" | .archive => "ARCHIVE" | .drafts => "DRAFTS"

/-- The special folder with a number. -/
def ofIndex? (n : Int) : Option SpecialFolder :=
  all.find? fun k => (k.index : Int) = n

/-- The name of a number: the folder's name, or `SpecialFolder(n)` outside 0 to 9. -/
def nameOfIndex (n : Int) : String :=
  match ofIndex? n with
  | some k => k.name
  | none => "SpecialFolder(" ++ toString n ++ ")"

/-- The special folder whose name equals a text up to case. -/
def parse (s : String) : Except Failure SpecialFolder :=
  match all.find? fun k => Fold.equal s k.name with
  | some k => .ok k
  | none => .error (Failure.other ("unknown special folder: " ++ s))

theorem index_lt_ten (k : SpecialFolder) : k.index < 10 := by
  cases k <;> decide

end SpecialFolder

end MailStore

import MailStore.Prop.Tag

/-!
# Reading tables

A table lists the children of an object, one row per child. A read names the columns to
project, the default sort orders of the caller, and directives that may replace the order
and cut a window out of the rows (rows to skip, rows to take; zero takes all).

Two directive values are the same only when every field is: the same window and the same
sort orders in the same order.
-/

namespace MailStore

/-- A sort on one column. -/
structure SortOrder where
  /-- The column. -/
  tag : Tag
  /-- Whether larger values come first. -/
  descending : Bool
deriving DecidableEq, Repr, Inhabited

/-- How a table is to be read: sort orders replacing the default, and a window. -/
structure Directives where
  /-- Sort orders replacing the caller's; none keeps them. -/
  orderBy : List SortOrder
  /-- Rows to skip. -/
  skip : Int
  /-- Rows to take; zero takes all. -/
  take : Int
deriving DecidableEq, Repr, Inhabited

namespace Directives

/-- No directives: the default order and every row. -/
def none : Directives := ⟨[], 0, 0⟩

/-- Whether two directive values agree in every field. -/
def same (a b : Directives) : Bool := decide (a = b)

theorem same_refl (d : Directives) : d.same d = true := by simp [same]

/-- The window of rows that directives cut: the rows after those skipped (a negative skip
skips none), and of them only the first `take` when `take` is positive. -/
def window {α : Type} (d : Directives) (rows : List α) : List α :=
  let rest := rows.drop d.skip.toNat
  if d.take > 0 then rest.take d.take.toNat else rest

theorem window_none {α : Type} (rows : List α) : Directives.none.window rows = rows := by
  simp [window, Directives.none]

end Directives

/-- One read of a table. -/
structure ReadRequest where
  /-- The columns of each row. -/
  columns : List Tag
  /-- The caller's default sort orders. -/
  sorts : List SortOrder
  /-- The directives of the read. -/
  directives : Directives
deriving Repr, Inhabited

end MailStore

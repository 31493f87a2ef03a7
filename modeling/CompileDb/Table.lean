import CompileDb.Text

/-!
# Tables

A table to be shown: a title, columns with a style and a side to align to, and rows of cells. Cells
are markup and are shown as they are. How a console lays a table out is left out.
-/

namespace CompileDb

/-- The side that the cells of a column are aligned to. -/
inductive Justify where
  | left
  | right
  deriving DecidableEq

/-- The head of a column. -/
structure Column where
  header : Text
  style : Text := ""
  justify : Justify := .left
  deriving DecidableEq

/-- A table. -/
structure Table where
  title : Text
  columns : List Column
  rows : List (List Text)
  deriving DecidableEq

end CompileDb

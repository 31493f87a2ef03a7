/-!
# Limits of readers

The readers of data files work with a bounded number of nested calls and with whole numbers of
bounded length. A file that asks for more is given up, well written as it may be.
-/

namespace CompileDb

/-- What a reader of data files does not take on. -/
inductive Excess where
  /-- Values inside of values, too many deep. -/
  | depth
  /-- A whole number with too many digits. -/
  | digits
  deriving DecidableEq

/-- How much a reader of data files takes on. -/
structure Limits where
  /-- How many calls may be nested: a thousand, less those of whoever wants the file read. -/
  calls : Nat := 980
  /-- How many decimal digits a whole number may have. -/
  digits : Nat := 4300
  deriving DecidableEq

end CompileDb

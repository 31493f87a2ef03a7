import CompileDb.Binary64
import CompileDb.Moment
import CompileDb.Text

/-!
# Data values

`Value` is what a data file says, whichever notation it is written in: JSON for databases, TOML
for settings. Tables keep their fields in the order in which they were written; where a name
occurs twice, the later field counts (`Value.field?`).
-/

namespace CompileDb

/-- A number of a data file. -/
inductive Numeral where
  /-- A whole number, as large as it may be. -/
  | integer (n : Int)
  /-- A number with a point or an exponent, or one that is no decimal fraction. -/
  | real (x : Binary64)
  deriving DecidableEq

def Numeral.isZero : Numeral → Bool
  | integer n => n == 0
  | real x => x.isZero

/-- A value of a data file. -/
inductive Value where
  | null
  | bool (b : Bool)
  | number (n : Numeral)
  | text (t : Text)
  /-- A date or a time. -/
  | moment (m : Moment)
  | list (items : List Value)
  | table (fields : List (Text × Value))

namespace Value

/-- The fields of a table. -/
abbrev Fields := List (Text × Value)

/-- The value of the last field of a name. -/
def field? (name : Text) : Fields → Option Value
  | [] => none
  | (n, v) :: rest => (field? name rest).or (if n = name then some v else none)

/-- The fields with a name set to a value: in place of what it was, or at the end. -/
def setField (name : Text) (v : Value) : Fields → Fields
  | [] => [(name, v)]
  | (n, old) :: rest => if n = name then (n, v) :: rest else (n, old) :: setField name v rest

/-- The fields with the values that further fields give them. -/
def updateFields (fields further : Fields) : Fields :=
  further.foldl (fun fields f => setField f.1 f.2 fields) fields

def text? : Value → Option Text
  | text t => some t
  | _ => none

/-- The texts of a list that holds nothing else. -/
def texts? (items : List Value) : Option (List Text) := items.mapM text?

/-- Whether a value counts as yes: all do but null, false, zero and what is empty. -/
def isTruthy : Value → Bool
  | null => false
  | bool b => b
  | number n => !n.isZero
  | text t => t != ""
  | moment _ => true
  | list items => !items.isEmpty
  | table fields => !fields.isEmpty

end Value

end CompileDb

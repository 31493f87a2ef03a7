import CompileDb.Binary64.Shortest
import CompileDb.Text.Quoted
import CompileDb.Value

/-!
# Values in words

`Value.describe` tells a value to the user: a text or a moment as it is, all else as `Value.inspect`
tells it. Inside of lists and tables texts are quoted and moments are told by the calls that make
them, so that one can see where they begin and end.
-/

namespace CompileDb

def Numeral.describe : Numeral → Text
  | integer n => toString n
  | real x => x.text

namespace Value

mutual

/-- The text of a value inside of another one. -/
def inspect : Value → Text
  | null => "None"
  | bool b => if b then "True" else "False"
  | number n => n.describe
  | text t => Text.quoted t
  | moment m => m.inspect
  | list items => "[" ++ List.intercalate ", " (inspectItems items) ++ "]"
  | table fields => "\x7b" ++ List.intercalate ", " (inspectFields fields) ++ "\x7d"

def inspectItems : List Value → List Text
  | [] => []
  | item :: rest => inspect item :: inspectItems rest

def inspectFields : List (Text × Value) → List Text
  | [] => []
  | (name, v) :: rest => (Text.quoted name ++ ": " ++ inspect v) :: inspectFields rest

end

def describe : Value → Text
  | text t => t
  | moment m => m.text
  | v => inspect v

end Value

end CompileDb

import CompileDb.Failure
import CompileDb.Text.Literal

/-!
# Options on a command line

A command line is a list of arguments; those that begin with a hyphen are options, unless the
hyphen is all there is. A long option carries its value behind an equals sign or as the next
argument; short options may stand together behind one hyphen, and the first of them that takes a
value takes what is left of the argument, or else the next argument. The argument `--` ends the
options. The first mistake, from left to right, decides.
-/

namespace CompileDb.CommandLine

/-- An option that a command knows. -/
structure OptionSpec (κ : Type) where
  /-- What the option means. -/
  key : κ
  /-- Its names, hyphens included. -/
  names : List Text
  /-- Whether it takes a value. -/
  takesValue : Bool := false

/-- An option that was given, with its value. -/
structure Given (κ : Type) where
  key : κ
  value : Option Text

/-- What a command line says. -/
structure Parsed (κ : Type) where
  /-- The options, in order. -/
  given : List (Given κ) := []
  /-- The other arguments, in order. -/
  positional : List Text := []

variable {κ : Type}

def find? (options : List (OptionSpec κ)) (name : Text) : Option (OptionSpec κ) :=
  options.find? fun o => o.names.contains name

/-- Options of one argument, and the option that still waits for its value. -/
abbrev Cluster (κ : Type) := List (Given κ) × Option κ

/-- Reads the letters behind a single hyphen. -/
def readLetters (options : List (OptionSpec κ)) : Text → Except Misuse (Cluster κ)
  | [] => .ok ([], none)
  | letter :: rest =>
    match find? options ['-', letter] with
    | none => .error .unknownOption
    | some o =>
      if o.takesValue then
        if rest.isEmpty then .ok ([], some o.key)
        else .ok ([⟨o.key, some rest⟩], none)
      else (readLetters options rest).map fun (given, waiting) => (⟨o.key, none⟩ :: given, waiting)

/-- The letter between the name and the value of a long option. -/
def equalsSign : Letter := '='

/-- The name of a long option, and the value behind its equals sign. -/
def nameAndValue (argument : Text) : Text × Option Text :=
  match argument.dropWhile (· != equalsSign) with
  | [] => (argument, none)
  | _ :: value => (argument.takeWhile (· != equalsSign), some value)

/-- Reads an argument that begins with a hyphen. -/
def readOption (options : List (OptionSpec κ)) (argument : Text) : Except Misuse (Cluster κ) :=
  let (name, value) := nameAndValue argument
  let long := (find? options name).filter fun _ => (Text.after? "--" name).isSome
  match long, value with
  | some o, some value =>
    if o.takesValue then .ok ([⟨o.key, some value⟩], none) else .error .optionValue
  | some o, none => if o.takesValue then .ok ([], some o.key) else .ok ([⟨o.key, none⟩], none)
  | none, _ =>
    if (Text.after? "--" argument).isSome then .error .unknownOption
    else readLetters options (argument.drop 1)

def isOption (argument : Text) : Bool :=
  match argument with
  | .char '-' :: _ :: _ => true
  | _ => false

/-- A command line with options in front. -/
def Parsed.withGiven (given : List (Given κ)) (p : Parsed κ) : Parsed κ :=
  { p with given := given ++ p.given }

/-- A command line with another argument in front. -/
def Parsed.withPositional (argument : Text) (p : Parsed κ) : Parsed κ :=
  { p with positional := argument :: p.positional }

/-- Reads a command line. Unless options may be mixed with other arguments, the first of those ends
the options. -/
def parse (options : List (OptionSpec κ)) (mixed : Bool) : List Text → Except Misuse (Parsed κ)
  | [] => .ok {}
  | argument :: rest =>
    if argument = "--" then .ok { positional := rest }
    else if isOption argument then
      match readOption options argument, rest with
      | .error misuse, _ => .error misuse
      | .ok (given, none), rest => (parse options mixed rest).map (·.withGiven given)
      | .ok (_, some _), [] => .error .optionValue
      | .ok (given, some key), value :: rest =>
        (parse options mixed rest).map (·.withGiven (given ++ [⟨key, some value⟩]))
    else if mixed then (parse options mixed rest).map (·.withPositional argument)
    else .ok { positional := argument :: rest }

def Parsed.has [DecidableEq κ] (p : Parsed κ) (key : κ) : Bool := p.given.any fun g => g.key = key

def Parsed.values [DecidableEq κ] (p : Parsed κ) (key : κ) : List Text :=
  p.given.filterMap fun g => if g.key = key then g.value else none

end CompileDb.CommandLine

import CompileDb.Path

/-!
# Where the settings are

The settings are kept in a directory of their own: the one that the environment names, or else
`.cxt` in the home directory. A first part `~` of its path stands for the home directory, and `~`
followed by a name for the home directory of the account of that name. `fileIn` of that directory is the
constant `CONFIG_FILE`.
-/

namespace CompileDb.Settings

/-- A text without the slashes at its end. -/
def trimSlashes (text : Text) : Text := (text.reverse.dropWhile (· == slash)).reverse

/-- The path of a home directory, which is the root when nothing is left of its text. A text that
itself begins with `~` tells nothing. -/
def homePath? (home : Text) : Option Path :=
  match trimSlashes home with
  | [] => some (.ofText "/")
  | .char '~' :: _ => none
  | text => some (.ofText text)

/-- The home directory that a first part of a path stands for. -/
def expansion? (home : Text) (accounts : List (Text × Text)) (name : Text) : Option Path :=
  if name = "" then homePath? home else (accounts.lookup name).bind homePath?

/-- A path with its first part expanded, `none` when there is no such home directory. -/
def expand? (home : Text) (accounts : List (Text × Text)) (p : Path) : Option Path :=
  match p.anchor, p.parts.head? with
  | .relative, some (.char '~' :: name) =>
    (expansion? home accounts name).map fun base =>
      base / ⟨.relative, p.parts.tail, fun part h => p.isPart_of_mem part (List.mem_of_mem_tail h)⟩
  | _, _ => some p

/-- The directory of the settings, where `chosen` is the one that the environment names. -/
def directory? (home : Text) (accounts : List (Text × Text)) (chosen : Option Text) :
    Option Path :=
  (expand? home accounts (.ofText "~")).bind fun base =>
    expand? home accounts (.ofText (chosen.getD (base / .ofText ".cxt").text))

/-- The settings file in a directory. -/
def fileIn (directory : Path) : Path := directory / .ofText "config.toml"

end CompileDb.Settings

import CompileDb.Notice
import CompileDb.Text.Literal
import CompileDb.Words

/-!
# Switches of a compile command

A compile command is scanned word by word for the switches that matter to whoever wants to parse
the same source: definitions, include directories, warnings and the language standard. A `Rule`
(`_TokenRule`) judges one word. The bare word `-isystem` takes the next word as its value, whatever that looks
like; every other switch carries its value attached.

`scanWith` is the loop of `extract_tokens` under a table of rules, `scan` that loop under all of them. The
result lists every switch in the order of the words, and those that had to be dropped as well, so that the
five categories and the notices are all projections of one list.
-/

namespace CompileDb

/-- A switch found in a compile command. -/
inductive Switch where
  /-- The definition of a name. -/
  | definition (name value : Text)
  /-- A directory to search for headers. -/
  | includeDir (path : Path)
  /-- A directory to search for headers of the system. -/
  | systemDir (path : Path)
  /-- A warning by name. -/
  | warning (name : Text)
  /-- The language standard. -/
  | standard (name : Text)
  /-- A bare `-isystem` whose value is empty. -/
  | emptySystemDir
  /-- A definition without name or value. -/
  | incompleteDefinition (token : Text)
  deriving DecidableEq

/-- What a rule makes of a word. -/
inductive Verdict where
  /-- The word is a switch. -/
  | reads (switch : Switch)
  /-- The word is a switch whose value is the next word. -/
  | awaitsValue
  deriving DecidableEq

/-- The kinds of word that a scan looks for. -/
inductive Rule where
  | definition
  | includeDir
  | systemDir
  | warning
  | standard
  deriving DecidableEq

namespace Rule

/-- All rules, in the order in which they are tried. -/
def all : List Rule := [definition, includeDir, systemDir, warning, standard]

/-- The value of a switch that is written `marker` followed by a value that is not empty. -/
def attached? (marker token : Text) : Option Text :=
  (Text.after? marker token).filter fun value => !value.isEmpty

/-- Whether the text after `-W` hands options to the linker, the assembler or the preprocessor. -/
def isForwarded : Text → Bool
  | kind :: .char ',' :: _ => kind == 'l' || kind == 'a' || kind == 'p'
  | _ => false

/-- The letter between the name and the value of a definition. -/
def equalsSign : Letter := '='

/-- The name and value of a definition, cut at the first equals sign. -/
def nameAndValue? (text : Text) : Option (Text × Text) :=
  match text.takeWhile (· != equalsSign), text.dropWhile (· != equalsSign) with
  | first :: name, _ :: value => some (first :: name, value)
  | _, _ => none

/-- What a rule makes of a word, `none` when the word is not of its kind. -/
def judge (rule : Rule) (token : Text) : Option Verdict :=
  match rule with
  | definition =>
    ((Text.after? "-D" token).bind nameAndValue?).map fun d => .reads (.definition d.1 d.2)
  | includeDir => (attached? "-I" token).map fun value => .reads (.includeDir (.ofText value))
  | systemDir =>
    if token = "-isystem" then some .awaitsValue
    else (attached? "-isystem" token).map fun value => .reads (.systemDir (.ofText value))
  | warning =>
    ((attached? "-W" token).filter fun value => !isForwarded value).map fun value =>
      .reads (.warning value)
  | standard => (attached? "-std=" token).map fun value => .reads (.standard value)

/-- What the first rule of a table that knows a word makes of it. -/
def firstVerdict (rules : List Rule) (token : Text) : Option Verdict :=
  rules.findSome? fun rule => rule.judge token

end Rule

namespace Switch

/-- The switch that a bare `-isystem` makes of its value. -/
def ofSystemValue (value : Text) : Switch :=
  if value = "" then emptySystemDir else systemDir (.ofText value)

/-- The switches that a word which no rule knows still leaves behind. -/
def ofUnknown (token : Text) : List Switch :=
  if (Text.after? "-D" token).isSome then [incompleteDefinition token] else []

/-- The switches among the words of a command, under a table of rules. -/
def scanWith (rules : List Rule) : List Text → List Switch
  | [] => []
  | token :: rest =>
    match Rule.firstVerdict rules token, rest with
    | some .awaitsValue, [] => []
    | some .awaitsValue, value :: rest => ofSystemValue value :: scanWith rules rest
    | some (.reads switch), rest => switch :: scanWith rules rest
    | none, rest => ofUnknown token ++ scanWith rules rest

/-- The switches among the words of a command. -/
def scan (tokens : List Text) : List Switch := scanWith Rule.all tokens

def ofCommand (command : Text) : List Switch := scan (Words.split command)

/-- The name and value of a definition. -/
def definition? : Switch → Option (Text × Text)
  | definition name value => some (name, value)
  | _ => none

/-- The directory of a switch for headers. -/
def includeDir? : Switch → Option Path
  | includeDir path => some path
  | _ => none

/-- The directory of a switch for headers of the system. -/
def systemDir? : Switch → Option Path
  | systemDir path => some path
  | _ => none

/-- The name of a warning. -/
def warning? : Switch → Option Text
  | warning name => some name
  | _ => none

/-- The name of a language standard. -/
def standard? : Switch → Option Text
  | standard name => some name
  | _ => none

/-- The notice that a dropped switch is worth. -/
def notice? : Switch → Option Notice
  | emptySystemDir => some .emptySystemDir
  | incompleteDefinition token => some (.incompleteDefinition token)
  | _ => none

end Switch

/-- The notices that cutting a command line into words gives rise to. -/
def Words.notices (command : Text) : List Notice :=
  match split? command with
  | some _ => []
  | none => [.unclosedQuotation command]

/-- The notices that reading a command line gives rise to. -/
def Switch.notices (command : Text) : List Notice :=
  Words.notices command ++ (ofCommand command).filterMap notice?

end CompileDb

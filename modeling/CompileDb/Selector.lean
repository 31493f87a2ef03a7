/-!
# Selectors

A selector is a set of categories of compile options, one bit for each of the eight categories
(`CompileOptionFlags`).
-/

namespace CompileDb

/-- A category of compile options. -/
inductive Category where
  | includeDirs
  | systemDirs
  | definitions
  | warnings
  | warningsAsErrors
  | standard
  | source
  | output
  deriving DecidableEq

/-- A set of categories. -/
structure Selector where
  bits : BitVec 8
  deriving DecidableEq

namespace Selector

def only : Category → Selector
  | .includeDirs => ⟨1⟩
  | .systemDirs => ⟨2⟩
  | .definitions => ⟨4⟩
  | .warnings => ⟨8⟩
  | .warningsAsErrors => ⟨16⟩
  | .standard => ⟨32⟩
  | .source => ⟨64⟩
  | .output => ⟨128⟩

def none : Selector := ⟨0⟩

def all : Selector := ⟨255⟩

instance : Union Selector := ⟨fun f g => ⟨f.bits ||| g.bits⟩⟩
instance : Inter Selector := ⟨fun f g => ⟨f.bits &&& g.bits⟩⟩
instance : XorOp Selector := ⟨fun f g => ⟨f.bits ^^^ g.bits⟩⟩
instance : Complement Selector := ⟨fun f => ⟨~~~f.bits⟩⟩

/-- Whether every category of `g` is in `f`. -/
def contains (f g : Selector) : Bool := f.bits &&& g.bits == g.bits

def has (f : Selector) (c : Category) : Bool := f.contains (only c)

/-- What a parser needs in order to find the headers and read the source. -/
def forIndexing : Selector :=
  only .includeDirs ∪ only .systemDirs ∪ only .definitions ∪ only .standard

end Selector

end CompileDb

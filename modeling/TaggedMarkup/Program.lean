import TaggedMarkup.Component
import TaggedMarkup.Piece
import TaggedMarkup.Tree

/-! A program is what a tree compiles to: pieces that do not depend on the values, and calls
that do. A node that is rendered from its properties has programs of their own for the nodes
inside it.
-/

namespace TaggedMarkup

/-- A step of a program that needs the values, the state of the render or both. -/
inductive Call where
  | text (escaped : String)
  /-- The value of a slot as a named attribute. -/
  | value (slot : Nat) (name : String) (custom : Bool)
  /-- The value of a slot as a style object. -/
  | style (slot : Nat)
  /-- An attribute with an interpolated name. -/
  | dynamicName (node entry : Nat)
  /-- A named attribute that a later spread may give another value. -/
  | attribute (node entry : Nat)
  | spread (node entry : Nat)
  | rootMarker
  /-- The value of a slot as a child. -/
  | child (slot : Nat) (leadNewline : Bool)
  | content (node : Nat)
  | component (node : Nat)
  /-- A form element that is rendered from all of its properties. -/
  | host (node : Nat)
  /-- The beginning of a selection, with its attributes. -/
  | selectOpen (node : Nat)
  | selectClose
deriving DecidableEq, Repr

inductive Instruction where
  | write (piece : Piece)
  | call (call : Call)
deriving DecidableEq, Repr

/-- What a list of children compiles to. -/
abbrev Program := List Instruction

namespace Program

/-- The characters between the calls, from the first on. -/
def strings : Program → List String
  | [] => [""]
  | .write piece :: rest =>
      match strings rest with
      | [] => [piece.render]
      | first :: others => (piece.render ++ first) :: others
  | .call _ :: rest => "" :: strings rest

def calls (program : Program) : List Call :=
  program.filterMap fun instruction =>
    match instruction with
    | .call call => some call
    | .write _ => none

def isStatic (program : Program) : Bool :=
  program.calls.isEmpty

end Program

/-- A compiled template: its tree, the components of its component nodes by number, the program
of the whole template and those of nodes inside others. -/
structure Compiled where
  tree : Tree
  components : List (Nat × Component)
  root : Program
  programs : List (Nat × Program)

namespace Compiled

def component? (template : Compiled) (node : Nat) : Option Component :=
  template.components.lookup node

/-- The program of the whole template or of one node in it. -/
def program? (template : Compiled) (entry : Option Nat) : Option Program :=
  match entry with
  | none => some template.root
  | some node => template.programs.lookup node

end Compiled

end TaggedMarkup

import CloudProvision.Number.Integer64
import CloudProvision.Text.Quoted

/-!
# Paths to attributes

Where an attribute stands inside a resource, such as `backends[0].targets`.
-/

namespace CloudProvision

/-- One step of a path. -/
inductive PathStep where
  /-- An attribute of an object. -/
  | attr (name : String)
  /-- An entry of a map. -/
  | key (key : String)
  /-- An element of a list. -/
  | index (position : Int)
  deriving DecidableEq

/-- The steps from a resource to one of its attributes. Without steps it is the resource. -/
structure AttributePath where
  steps : List PathStep
  deriving DecidableEq

/-- The text of a step. -/
def PathStep.render : PathStep → String
  | attr name => name
  | key k => "[" ++ Text.quoted k ++ "]"
  | index n => "[" ++ toString n ++ "]"

namespace AttributePath

/-- The path to the resource itself. -/
def root : AttributePath := ⟨[]⟩

/-- The path to an attribute of the resource. -/
def of (name : String) : AttributePath := ⟨[.attr name]⟩

/-- The path to attribute `name` of what the path leads to. -/
def attr (p : AttributePath) (name : String) : AttributePath :=
  ⟨p.steps ++ [.attr name]⟩

/-- The path to the entry at `key` of what the path leads to. -/
def key (p : AttributePath) (key : String) : AttributePath :=
  ⟨p.steps ++ [.key key]⟩

/-- The greatest position that a path can hold. -/
def maxIndex : Int := Integer64.greatest

/-- The path to an element of what the path leads to. -/
def index (p : AttributePath) (position : Int) : AttributePath :=
  ⟨p.steps ++ [.index (min position maxIndex)]⟩

/-- Whether the path leads to the resource itself. -/
def isRoot (p : AttributePath) : Bool :=
  p.steps.isEmpty

/-- The steps after the first one: a point stands before each attribute. -/
def renderRest : List PathStep → String
  | [] => ""
  | .attr name :: rest => "." ++ name ++ renderRest rest
  | step :: rest => step.render ++ renderRest rest

/-- The text of a path. -/
def render (p : AttributePath) : String :=
  match p.steps with
  | [] => ""
  | first :: rest => first.render ++ renderRest rest

end AttributePath

end CloudProvision

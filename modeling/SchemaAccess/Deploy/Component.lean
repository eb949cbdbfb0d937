import SchemaAccess.Failure

namespace SchemaAccess.Deploy

/-- The names in use, over components of all kinds. -/
structure Registry where
  names : List String
deriving Repr, DecidableEq

namespace Registry

def empty : Registry := ⟨[]⟩

def register (r : Registry) (name : String) : Except Failure Registry :=
  if name ∈ r.names then throw (.value (.repeatedComponent name)) else return ⟨name :: r.names⟩

end Registry

/-- A component with what it holds, nothing at first. -/
structure Component where
  name : String
  /-- What making its resources yields, by how often that was done before. -/
  make : Nat → Value
  held : Value
  made : Nat

namespace Component

def new (name : String) (make : Nat → Value) : Component := ⟨name, make, .null, 0⟩

/-- The resources of a component. They are made unless something is held already. -/
def resources (c : Component) : Value × Component :=
  if c.held.isPresent then (c.held, c)
  else (c.make c.made, { c with held := c.make c.made, made := c.made + 1 })

theorem resources_of_held {c : Component} (h : c.held.isPresent = true) : c.resources = (c.held, c) := by
  simp [resources, h]

theorem resources_of_not_held {c : Component} (h : c.held.isPresent = false) :
    c.resources = (c.make c.made, { c with held := c.make c.made, made := c.made + 1 }) := by
  simp [resources, h]

theorem name_resources (c : Component) : c.resources.2.name = c.name := by
  unfold resources
  split <;> rfl

theorem make_resources (c : Component) : c.resources.2.make = c.make := by
  unfold resources
  split <;> rfl

end Component

/-- Components in the order they were made, and the names in use. -/
structure Workshop where
  registry : Registry
  components : List Component

namespace Workshop

def empty : Workshop := ⟨.empty, []⟩

def add (w : Workshop) (name : String) (make : Nat → Value) : Except Failure Workshop := do
  return ⟨← w.registry.register name, w.components ++ [.new name make]⟩

def latest? (w : Workshop) (name : String) : Option Nat :=
  (w.components.zipIdx.reverse.find? fun (c, _) => c.name = name).map Prod.snd

def read (w : Workshop) (i : Nat) : Option (Value × Workshop) :=
  w.components[i]?.map fun c =>
    (c.resources.1, { w with components := w.components.set i c.resources.2 })

/-- Forget all names. The components stay. -/
def clear (w : Workshop) : Workshop := { w with registry := .empty }

end Workshop

end SchemaAccess.Deploy

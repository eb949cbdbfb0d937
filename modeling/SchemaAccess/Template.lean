import SchemaAccess.Failure

namespace SchemaAccess

structure Template where
  parameters : Entries Value
  resources : Entries Value

namespace Template

def empty : Template := ⟨[], []⟩

/-- A name that is taken cannot be used for another resource. -/
def addResource (t : Template) (id : String) (v : Value) : Except Failure Template :=
  match t.resources.find? id with
  | some _ => throw (.value (.resourceExists id))
  | none => return { t with resources := t.resources ++ [(id, v)] }

/-- A parameter that is declared stays as it is. -/
def addParameter (t : Template) (name : String) (v : Value) : Template :=
  match t.parameters.find? name with
  | some _ => t
  | none => { t with parameters := t.parameters ++ [(name, v)] }

def toValue (t : Template) : Value :=
  .object [("Parameters", .object t.parameters), ("Resources", .object t.resources)]

end Template

end SchemaAccess

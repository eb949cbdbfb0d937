import SchemaAccess.GraphQL.Meaning

namespace SchemaAccess.GraphQL

/-- The object type or extension that is the `nth` of its name, or in it the first field of a name. -/
structure NodeAddress where
  typeName : String
  nth : Nat
  fieldName : Option String
deriving Repr, DecidableEq

def updateField (name : String) (f : FieldDef → FieldDef) : List FieldDef → List FieldDef
  | [] => []
  | field :: rest => if field.name = name then f field :: rest else field :: updateField name f rest

def Document.updateObject (name : String) (f : Composite → Composite) : Nat → Document → Document
  | _, [] => []
  | nth, .object extension node :: rest =>
    if node.name = name then
      match nth with
      | 0 => .object extension (f node) :: rest
      | nth + 1 => .object extension node :: updateObject name f nth rest
    else .object extension node :: updateObject name f nth rest
  | nth, other :: rest => other :: updateObject name f nth rest

namespace NodeAddress

def location (a : NodeAddress) : String :=
  match a.fieldName with
  | none => GraphQL.location none a.typeName
  | some field => GraphQL.location (some a.typeName) field

def object? (a : NodeAddress) (d : Document) : Option Composite :=
  (d.objects.filter fun node => node.name = a.typeName)[a.nth]?

def directives (a : NodeAddress) (d : Document) : List Directive :=
  match a.object? d, a.fieldName with
  | none, _ => []
  | some node, none => node.directives
  | some node, some name => ((node.fields.find? (·.name = name)).map (·.directives)).getD []

def withDirectives (a : NodeAddress) (ds : List Directive) (d : Document) : Document :=
  d.updateObject a.typeName (fun node =>
    match a.fieldName with
    | none => { node with directives := ds }
    | some name =>
      { node with fields := updateField name (fun field => { field with directives := ds }) node.fields })
    a.nth

end NodeAddress

end SchemaAccess.GraphQL

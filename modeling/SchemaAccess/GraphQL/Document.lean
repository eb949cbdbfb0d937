namespace SchemaAccess.GraphQL

/-- A value as it is written. Numbers keep their text. -/
inductive Literal where
  | variable (name : String)
  | int (text : String)
  | float (text : String)
  | string (text : String) (block : Bool)
  | boolean (b : Bool)
  | null
  | enum (name : String)
  | list (items : List Literal)
  | object (fields : List (String × Literal))
deriving Repr, Inhabited

structure Argument where
  name : String
  value : Literal
deriving Repr, Inhabited

structure Directive where
  name : String
  arguments : List Argument
deriving Repr, Inhabited

inductive TypeRef where
  | named (name : String)
  | list (item : TypeRef)
  | nonNull (inner : TypeRef)
deriving Repr, Inhabited, DecidableEq

structure Description where
  text : String
  block : Bool
deriving Repr, Inhabited, DecidableEq

/-- An argument of a field or directive, or a field of an input type. -/
structure InputValue where
  description : Option Description
  name : String
  type : TypeRef
  fallback : Option Literal
  directives : List Directive
deriving Repr, Inhabited

structure FieldDef where
  description : Option Description
  name : String
  arguments : List InputValue
  type : TypeRef
  directives : List Directive
deriving Repr, Inhabited

/-- What an object type and an interface are made of. -/
structure Composite where
  description : Option Description
  name : String
  interfaces : List String
  directives : List Directive
  fields : List FieldDef
deriving Repr, Inhabited

inductive OperationKind where
  | query
  | mutation
  | subscription
deriving Repr, Inhabited, DecidableEq

def OperationKind.all : List OperationKind := [.query, .mutation, .subscription]

def OperationKind.word : OperationKind → String
  | .query => "query"
  | .mutation => "mutation"
  | .subscription => "subscription"

def OperationKind.ofWord? (word : String) : Option OperationKind :=
  OperationKind.all.find? (·.word == word)

inductive Selection where
  | field (label : Option String) (name : String) (arguments : List Argument)
      (directives : List Directive) (selections : List Selection)
  | spread (fragment : String) (directives : List Directive)
  | inline (condition : Option String) (directives : List Directive) (selections : List Selection)
deriving Repr, Inhabited

structure VariableDef where
  name : String
  type : TypeRef
  fallback : Option Literal
  directives : List Directive
deriving Repr, Inhabited

structure Operation where
  kind : OperationKind
  name : Option String
  variableDefs : List VariableDef
  directives : List Directive
  selections : List Selection
deriving Repr, Inhabited

structure Fragment where
  name : String
  condition : String
  directives : List Directive
  selections : List Selection
deriving Repr, Inhabited

structure SchemaDef where
  description : Option Description
  directives : List Directive
  roots : List (OperationKind × String)
deriving Repr, Inhabited

structure ScalarDef where
  description : Option Description
  name : String
  directives : List Directive
deriving Repr, Inhabited

structure UnionDef where
  description : Option Description
  name : String
  directives : List Directive
  members : List String
deriving Repr, Inhabited

structure EnumValue where
  description : Option Description
  name : String
  directives : List Directive
deriving Repr, Inhabited

structure EnumDef where
  description : Option Description
  name : String
  directives : List Directive
  values : List EnumValue
deriving Repr, Inhabited

structure InputDef where
  description : Option Description
  name : String
  directives : List Directive
  fields : List InputValue
deriving Repr, Inhabited

structure DirectiveDef where
  description : Option Description
  name : String
  arguments : List InputValue
  repeatable : Bool
  locations : List String
deriving Repr, Inhabited

/-- A definition, or with `extension` the extension of one. Extensions have no description. -/
inductive Definition where
  | operation (node : Operation)
  | fragment (node : Fragment)
  | schema (extension : Bool) (node : SchemaDef)
  | scalar (extension : Bool) (node : ScalarDef)
  | object (extension : Bool) (node : Composite)
  | interface (extension : Bool) (node : Composite)
  | union (extension : Bool) (node : UnionDef)
  | enum (extension : Bool) (node : EnumDef)
  | input (extension : Bool) (node : InputDef)
  | directive (node : DirectiveDef)
deriving Repr, Inhabited

abbrev Document := List Definition

end SchemaAccess.GraphQL

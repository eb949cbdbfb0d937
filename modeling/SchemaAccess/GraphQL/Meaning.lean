import SchemaAccess.GraphQL.Document
import SchemaAccess.Number.Numeral
import SchemaAccess.Value.Basic

namespace SchemaAccess.GraphQL

/-- A whole number with too many digits to be read exactly means no number. -/
def intValue (text : String) : Value :=
  match Numeral.read text.toList with
  | some (n, _) => if n.isExact then .integer n.toInt else .float .undefined
  | none => .float .undefined

def floatValue (text : String) : Value :=
  match Numeral.read text.toList with
  | some (n, _) => .float n.toBinary64
  | none => .float .undefined

mutual

/-- Enum values mean their names. Variables have no value in a definition. -/
def Literal.value : Literal → Value
  | .variable _ => .null
  | .int text => intValue text
  | .float text => floatValue text
  | .string text _ => .string text
  | .boolean b => .boolean b
  | .null => .null
  | .enum name => .string name
  | .list items => .list (literalValues items)
  | .object fields => .object (Entries.ofWrites (fieldValues fields))

def literalValues : List Literal → List Value
  | [] => []
  | v :: rest => v.value :: literalValues rest

def fieldValues : List (String × Literal) → List (String × Value)
  | [] => []
  | (key, v) :: rest => (key, v.value) :: fieldValues rest

end

theorem literalValues_eq_map (items : List Literal) : literalValues items = items.map Literal.value := by
  induction items with
  | nil => rfl
  | cons x items ih => rw [literalValues, ih, List.map_cons]

theorem fieldValues_eq_map (fields : List (String × Literal)) :
    fieldValues fields = fields.map fun f => (f.1, f.2.value) := by
  induction fields with
  | nil => rfl
  | cons f fields ih => rw [fieldValues, ih, List.map_cons]

/-- The arguments of a directive by name; the last one of a name counts. -/
def Directive.settings (d : Directive) : Entries Value :=
  Entries.ofWrites (d.arguments.map fun a => (a.name, a.value.value))

def directivesNamed (name : String) (ds : List Directive) : List Directive :=
  ds.filter (·.name = name)

def carries (name : String) (ds : List Directive) : Bool := ds.any (·.name = name)

theorem carries_iff (name : String) (ds : List Directive) :
    carries name ds = true ↔ ∃ d ∈ ds, d.name = name := by
  simp [carries]

theorem directivesNamed_eq_nil_iff (name : String) (ds : List Directive) :
    directivesNamed name ds = [] ↔ carries name ds = false := by
  simp [directivesNamed, carries]

def Directive.plain (name : String) : Directive := ⟨name, []⟩

/-- The name of a node, with that of its type before it if it is a field. -/
def location (parent : Option String) (name : String) : String :=
  match parent with
  | none => name
  | some type => type ++ "." ++ name

namespace Document

def objects (d : Document) : List Composite :=
  d.filterMap fun
    | .object _ node => some node
    | _ => none

def defaultRoot : OperationKind → String
  | .query => "Query"
  | .mutation => "Mutation"
  | .subscription => "Subscription"

/-- The root types of the first schema definition, of a repeated operation the last one. Without a
schema definition every operation has its usual root type. -/
def roots (d : Document) : List (OperationKind × String) :=
  let definition? := d.findSome? fun
    | .schema false node => some node.roots
    | _ => none
  match definition? with
  | none => OperationKind.all.map fun kind => (kind, defaultRoot kind)
  | some pairs => OperationKind.all.filterMap fun kind => pairs.reverse.find? (·.1 = kind)

def rootNames (d : Document) : List String := d.roots.map Prod.snd

/-- The types that some definition or extension marks with a directive. -/
def typesCarrying (directive : String) (d : Document) : List String :=
  (d.objects.filter fun node => carries directive node.directives).map (·.name)

end Document

end SchemaAccess.GraphQL

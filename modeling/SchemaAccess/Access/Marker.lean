import SchemaAccess.Access.Config
import SchemaAccess.Access.Rule
import SchemaAccess.GraphQL.Meaning

namespace SchemaAccess.Access

open GraphQL (Directive)

/-- The providers that rules use besides the default one, each once, in the order of first use. -/
def markerProviders (c : Config) (rules : List Rule) : List Provider :=
  go rules []
where
  go : List Rule → List Provider → List Provider
    | [], seen => seen.reverse
    | r :: rest, seen =>
      if r.provider = c.defaultProvider ∨ r.provider ∈ seen then go rest seen
      else go rest (r.provider :: seen)

/-- What marking a node leads to: its directives, and the markers added or why there are no more. -/
structure Marking where
  directives : List Directive
  outcome : Except Failure (List String)

/-- Add markers in turn, up to the first one that the node has already. -/
def addMarkers (location : String) (directives : List Directive) (added : List String) :
    List Provider → Marking
  | [] => ⟨directives, .ok added⟩
  | p :: rest =>
    if GraphQL.carries p.marker directives then
      ⟨directives, .error (.rule (.markerPresent p.marker location))⟩
    else addMarkers location (directives ++ [.plain p.marker]) (added ++ [p.marker]) rest

def mark (c : Config) (location : String) (rules : List Rule) (directives : List Directive) : Marking :=
  addMarkers location directives [] (markerProviders c rules)

/-- The directives of a marked node, if it could be marked throughout. -/
def Marking.complete (m : Marking) : Except Failure (List Directive) := m.outcome.map fun _ => m.directives

end SchemaAccess.Access

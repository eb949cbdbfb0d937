import SchemaAccess.Policy.Document
import SchemaAccess.Proofs.RootTypes

namespace SchemaAccess.GraphQL

inductive Site where
  | type (node : Composite)
  | field (typeName : String) (f : FieldDef)

namespace Site

def directives : Site → List Directive
  | .type node => node.directives
  | .field _ f => f.directives

def place : Site → String
  | .type node => node.name
  | .field typeName f => location (some typeName) f.name

def typeName : Site → String
  | .type node => node.name
  | .field typeName _ => typeName

def carries (site : Site) (name : String) : Bool := GraphQL.carries name site.directives

def resource? : Site → Option Policy.Resource
  | .type _ => none
  | .field typeName f => some ⟨typeName, f.name⟩

@[simp] theorem carries_type (node : Composite) (name : String) :
    (Site.type node).carries name = GraphQL.carries name node.directives := rfl

@[simp] theorem carries_field (typeName : String) (f : FieldDef) (name : String) :
    (Site.field typeName f).carries name = GraphQL.carries name f.directives := rfl

@[simp] theorem resource?_type (node : Composite) : (Site.type node).resource? = none := rfl

@[simp] theorem resource?_field (typeName : String) (f : FieldDef) :
    (Site.field typeName f).resource? = some ⟨typeName, f.name⟩ := rfl

end Site

namespace Composite

def sites (node : Composite) : List Site := .type node :: node.fields.map (.field node.name)

def withDirectives (g : Site → List Directive) (node : Composite) : Composite :=
  { node with
    directives := g (.type node)
    fields := node.fields.map fun f => { f with directives := g (.field node.name f) } }

end Composite

def Site.withDirectives (g : Site → List Directive) : Site → Site
  | .type node => .type (node.withDirectives g)
  | .field typeName f => .field typeName { f with directives := g (.field typeName f) }

namespace Definition

/-- Object types and their extensions have sites, and nothing else has. -/
def sites : Definition → List Site
  | .object _ node => node.sites
  | _ => []

def withDirectives (g : Site → List Directive) : Definition → Definition
  | .object extension node => .object extension (node.withDirectives g)
  | other => other

end Definition

namespace Document

def sites (d : Document) : List Site := d.flatMap (·.sites)

/-- Other directives at the sites, and all else as it is. -/
def withDirectives (g : Site → List Directive) (d : Document) : Document :=
  d.map (·.withDirectives g)

/-- The fields at sites of a kind, in the order of the document. -/
def fieldsWith (p : Site → Bool) (d : Document) : List Policy.Resource :=
  (d.sites.filter p).filterMap (·.resource?)

theorem sites_eq_flatMap_objects (d : Document) : d.sites = d.objects.flatMap (·.sites) := by
  induction d with
  | nil => rfl
  | cons x d ih =>
    cases x with
    | object extension node => exact congrArg (node.sites ++ ·) ih
    | _ => exact ih

theorem field_mem_sites_iff (d : Document) (typeName : String) (f : FieldDef) :
    .field typeName f ∈ d.sites ↔ ∃ node ∈ d.objects, node.name = typeName ∧ f ∈ node.fields := by
  simp only [sites_eq_flatMap_objects, Composite.sites, List.mem_flatMap, List.mem_cons, reduceCtorEq,
    List.mem_map, Site.field.injEq, false_or]
  constructor
  · rintro ⟨node, hn, f', hf, rfl, rfl⟩
    exact ⟨node, hn, rfl, hf⟩
  · rintro ⟨node, hn, rfl, hf⟩
    exact ⟨node, hn, f, hf, rfl, rfl⟩

theorem forall_mem_sites_iff (d : Document) (P : Site → Prop) : (∀ site ∈ d.sites, P site) ↔
    ∀ node ∈ d.objects, P (.type node) ∧ ∀ f ∈ node.fields, P (.field node.name f) := by
  rw [sites_eq_flatMap_objects, List.forall_mem_flatMap]
  simp [Composite.sites]

theorem mem_fieldsWith_iff (p : Site → Bool) (d : Document) (r : Policy.Resource) :
    r ∈ d.fieldsWith p ↔ ∃ node ∈ d.objects, node.name = r.typeName ∧
      ∃ f ∈ node.fields, f.name = r.fieldName ∧ p (.field r.typeName f) = true := by
  simp only [fieldsWith, List.mem_filterMap, List.mem_filter]
  constructor
  · rintro ⟨site, ⟨hs, hp⟩, hr⟩
    cases site with
    | type node => exact absurd hr (by simp)
    | field typeName f =>
      obtain rfl := Option.some.inj hr
      obtain ⟨node, hn, hname, hf⟩ := (field_mem_sites_iff d typeName f).1 hs
      exact ⟨node, hn, hname, f, hf, rfl, hp⟩
  · rintro ⟨node, hn, hname, f, hf, hr, hp⟩
    refine ⟨.field r.typeName f, ⟨(field_mem_sites_iff d _ f).2 ⟨node, hn, hname, hf⟩, hp⟩, ?_⟩
    simp [hr]

end Document

theorem Composite.sites_withDirectives (g : Site → List Directive) (node : Composite) :
    (node.withDirectives g).sites = node.sites.map (·.withDirectives g) := by
  simp [Composite.sites, Composite.withDirectives, Site.withDirectives, Function.comp_def]

theorem Document.sites_withDirectives (g : Site → List Directive) (d : Document) :
    (d.withDirectives g).sites = d.sites.map (·.withDirectives g) := by
  have hx : ∀ x : Definition, (x.withDirectives g).sites = x.sites.map (·.withDirectives g) := by
    intro x
    cases x with
    | object extension node => exact node.sites_withDirectives g
    | _ => rfl
  simp only [Document.sites, Document.withDirectives, List.flatMap_map, List.map_flatMap, hx]

theorem Document.withDirectives_congr {g g' : Site → List Directive} (d : Document)
    (h : ∀ site ∈ d.sites, g site = g' site) : d.withDirectives g = d.withDirectives g' := by
  refine List.map_congr_left fun x hx => ?_
  cases x with
  | object extension node =>
    have hsites : ∀ site ∈ node.sites, g site = g' site := by
      intro site hsite
      exact h site (List.mem_flatMap.2 ⟨_, hx, hsite⟩)
    have hfields : ∀ f ∈ node.fields, g (.field node.name f) = g' (.field node.name f) := by
      intro f hf
      exact hsites _ (List.mem_cons_of_mem _ (List.mem_map_of_mem hf))
    simp only [Definition.withDirectives, Composite.withDirectives, hsites (.type node) List.mem_cons_self]
    congr 2
    exact List.map_congr_left fun f hf => by rw [hfields f hf]
  | _ => rfl

theorem Document.withDirectives_directives (d : Document) : d.withDirectives Site.directives = d := by
  have hx : ∀ x : Definition, x.withDirectives Site.directives = x := by
    intro x
    cases x with
    | object extension node => simp [Definition.withDirectives, Composite.withDirectives, Site.directives]
    | _ => rfl
  simp [Document.withDirectives, hx]

theorem Site.directives_withDirectives (g : Site → List Directive) (site : Site) :
    (site.withDirectives g).directives = g site := by
  cases site <;> rfl

theorem Document.rootNames_withDirectives (g : Site → List Directive) (d : Document) :
    (d.withDirectives g).rootNames = d.rootNames := by
  have hx : Document.schemaRoots? ∘ (·.withDirectives g) = Document.schemaRoots? := by
    funext x
    cases x <;> rfl
  refine Document.rootNames_congr ?_
  rw [Document.withDirectives, List.findSome?_map, hx]

/-- What stands on a site behind the directives that it had before. -/
def Site.appended (before after : Site) : List Directive :=
  after.directives.drop before.directives.length

theorem Site.appended_of_directives_eq {before after : Site} {added : List Directive}
    (h : after.directives = before.directives ++ added) : before.appended after = added := by
  rw [Site.appended, h, List.drop_left]

end SchemaAccess.GraphQL

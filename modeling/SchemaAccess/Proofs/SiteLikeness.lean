import SchemaAccess.Proofs.DocumentFaults

namespace SchemaAccess

namespace GraphQL

/-- Sites that bear the same names and carry the same directives of all names that count. -/
inductive Site.Alike (counts : String → Prop) : Site → Site → Prop
  | type {node node' : Composite} (hname : node'.name = node.name)
      (hdirectives : ∀ name, counts name →
        directivesNamed name node'.directives = directivesNamed name node.directives) :
      Alike counts (.type node) (.type node')
  | field {typeName : String} {f f' : FieldDef} (hname : f'.name = f.name)
      (hdirectives : ∀ name, counts name →
        directivesNamed name f'.directives = directivesNamed name f.directives) :
      Alike counts (.field typeName f) (.field typeName f')

structure Document.Alike (counts : String → Prop) (d d' : Document) : Prop where
  rootNames : d'.rootNames = d.rootNames
  sites : List.Forall₂ (Site.Alike counts) d.sites d'.sites

/-- Sites that are alike one by one, apart from types among the second ones that carry nothing. -/
inductive Site.Padded (counts : String → Prop) : List Site → List Site → Prop
  | nil : Padded counts [] []
  | alike {a b : Site} {sites sites' : List Site} (hsite : a.Alike counts b)
      (hrest : Padded counts sites sites') : Padded counts (a :: sites) (b :: sites')
  | bare {node : Composite} {sites sites' : List Site} (hnone : node.directives = [])
      (hrest : Padded counts sites sites') : Padded counts sites (.type node :: sites')

/-- As `Alike`, with types put in that carry nothing. -/
structure Document.Padded (counts : String → Prop) (d d' : Document) : Prop where
  rootNames : d'.rootNames = d.rootNames
  sites : Site.Padded counts d.sites d'.sites

theorem carries_congr {name : String} {ds ds' : List Directive}
    (h : directivesNamed name ds' = directivesNamed name ds) : carries name ds' = carries name ds := by
  rw [Bool.eq_iff_iff, ← not_iff_not, Bool.not_eq_true, Bool.not_eq_true, ← directivesNamed_eq_nil_iff, h,
    directivesNamed_eq_nil_iff]

namespace Site.Alike

@[refl] protected theorem refl (counts : String → Prop) (a : Site) : a.Alike counts a := by
  cases a with
  | type => exact .type rfl fun _ _ => rfl
  | field => exact .field rfl fun _ _ => rfl

variable {counts : String → Prop} {a b : Site} (h : a.Alike counts b)
include h

theorem place_eq : b.place = a.place := by
  cases h with
  | type hname => exact hname
  | field hname => rw [place, place, hname]

theorem resource?_eq : b.resource? = a.resource? := by
  cases h with
  | type => rfl
  | field hname => rw [resource?_field, resource?_field, hname]

theorem directivesNamed_eq {name : String} (hn : counts name) :
    directivesNamed name b.directives = directivesNamed name a.directives := by
  cases h with
  | type _ hdirectives => exact hdirectives name hn
  | field _ hdirectives => exact hdirectives name hn

theorem carries_eq {name : String} (hn : counts name) : b.carries name = a.carries name :=
  carries_congr (h.directivesNamed_eq hn)

end Site.Alike

theorem carries_of_directives_eq_nil {node : Composite} (h : node.directives = []) (name : String) :
    (Site.type node).carries name = false := by
  rw [Site.carries_type, h]
  rfl

namespace Site.Padded

variable {counts : String → Prop} {sites sites' : List Site}

theorem of_forall₂ (h : List.Forall₂ (Site.Alike counts) sites sites') : Padded counts sites sites' := by
  induction h with
  | nil => exact .nil
  | cons hsite _ ih => exact .alike hsite ih

protected theorem refl (counts : String → Prop) (sites : List Site) : Padded counts sites sites := by
  apply of_forall₂
  rw [List.forall₂_same]
  intro site _
  exact .refl counts site

theorem append (h : Padded counts sites sites') {more more' : List Site} (hmore : Padded counts more more') :
    Padded counts (sites ++ more) (sites' ++ more') := by
  induction h with
  | nil => exact hmore
  | alike hsite _ ih => exact .alike hsite ih
  | bare hnone _ ih => exact .bare hnone ih

theorem flatMap_eq (h : Padded counts sites sites') {β : Type} {f : Site → List β}
    (hf : ∀ a b, a.Alike counts b → f b = f a)
    (hbare : ∀ node : Composite, node.directives = [] → f (.type node) = []) :
    sites'.flatMap f = sites.flatMap f := by
  induction h with
  | nil => rfl
  | alike hsite _ ih => rw [List.flatMap_cons, List.flatMap_cons, hf _ _ hsite, ih]
  | bare hnone _ ih => rw [List.flatMap_cons, hbare _ hnone, List.nil_append, ih]

theorem filterMap_eq (h : Padded counts sites sites') {β : Type} {f : Site → Option β}
    (hf : ∀ a b, a.Alike counts b → f b = f a)
    (hbare : ∀ node : Composite, node.directives = [] → f (.type node) = none) :
    sites'.filterMap f = sites.filterMap f := by
  rw [List.filterMap_eq_flatMap_toList, List.filterMap_eq_flatMap_toList]
  apply h.flatMap_eq
  · intro a b hab
    rw [hf a b hab]
  · intro node hnone
    rw [hbare node hnone]
    rfl

end Site.Padded

/-- The name that a site gives to the types that carry a directive. -/
def Site.typeCarrying? (name : String) : Site → Option String
  | .type node => if GraphQL.carries name node.directives then some node.name else none
  | .field _ _ => none

theorem Document.typesCarrying_eq_filterMap (name : String) (d : Document) :
    d.typesCarrying name = d.sites.filterMap (Site.typeCarrying? name) := by
  have hnode : ∀ node : Composite, node.sites.filterMap (Site.typeCarrying? name) =
      if carries name node.directives then [node.name] else [] := by
    intro node
    have hfields : (node.fields.map (Site.field node.name)).filterMap (Site.typeCarrying? name) = [] := by
      simp [Site.typeCarrying?]
    cases hc : carries name node.directives <;>
      simp [Composite.sites, Site.typeCarrying?, hc, hfields]
  rw [sites_eq_flatMap_objects, List.filterMap_flatMap, typesCarrying]
  induction d.objects with
  | nil => rfl
  | cons node nodes ih =>
    cases hc : carries name node.directives <;> simp_all

end GraphQL

open GraphQL (Site Directive Document)

namespace Access

theorem readRules_congr {ds ds' : List Directive} (c : Config) (place : String)
    (h : GraphQL.directivesNamed authDirective ds' = GraphQL.directivesNamed authDirective ds) :
    readRules c place ds' = readRules c place ds := by
  rw [readRules, h, readRules]

end Access

namespace Pass

open Access (Config authDirective)

section Sites

variable {counts : String → Prop} {a b : Site} (h : a.Alike counts b)
include h

theorem functionName?_eq_of_alike (hf : counts functionDirective) :
    functionName? b.directives = functionName? a.directives := by
  rw [functionName?, h.directivesNamed_eq hf, functionName?]

theorem functionFaults_eq_of_alike (hf : counts functionDirective) (bound : List Binding) :
    functionFaults bound b = functionFaults bound a := by
  have hc := h.carries_eq hf
  have hn := functionName?_eq_of_alike h hf
  cases h with
  | type hname => simp_all [functionFaults]
  | field hname => simp_all [functionFaults, Site.directives]

theorem siteBinding?_eq_of_alike (hf : counts functionDirective) : siteBinding? b = siteBinding? a := by
  have hc := h.carries_eq hf
  cases h with
  | type => rfl
  | field hname hdirectives =>
    rw [Site.carries_field, Site.carries_field] at hc
    simp only [siteBinding?, functionBinding, hc, hname, hdirectives _ hf]

theorem rulesAt_eq_of_alike (ha : counts authDirective) (c : Config) : rulesAt c b = rulesAt c a := by
  rw [rulesAt, h.place_eq, Access.readRules_congr c _ (h.directivesNamed_eq ha), rulesAt]

theorem typeFaults_eq_of_alike (models : List String) : typeFaults models b = typeFaults models a := by
  cases h with
  | type hname => rw [typeFaults, typeFaults, hname]
  | field => rfl

theorem fieldFaults_eq_of_alike (roots models : List String) (rules : List Access.Rule) :
    fieldFaults roots models rules b = fieldFaults roots models rules a := by
  cases h <;> rfl

theorem isMarkable_eq_of_alike (roots : List String) : isMarkable roots b = isMarkable roots a := by
  cases h with
  | type hname => rw [isMarkable, isMarkable, hname]
  | field => rfl

theorem accessFaults_eq_of_alike (hall : ∀ name, counts name) (c : Config) (roots models : List String) :
    accessFaults c roots models b = accessFaults c roots models a := by
  have hmarkers : ∀ providers, Access.markerFaults a.place providers b.directives =
      Access.markerFaults a.place providers a.directives := by
    intro providers
    have hcarries : ∀ p : Access.Provider,
        GraphQL.carries p.marker b.directives = GraphQL.carries p.marker a.directives :=
      fun p => GraphQL.carries_congr (h.directivesNamed_eq (hall _))
    simp only [Access.markerFaults, hcarries]
  rw [accessFaults, h.carries_eq (hall _), typeFaults_eq_of_alike h, h.place_eq,
    Access.readRules_congr c _ (h.directivesNamed_eq (hall _)), isMarkable_eq_of_alike h]
  simp only [fieldFaults_eq_of_alike h, hmarkers]
  rfl

end Sites

end Pass

theorem admits_eq_of_alike {counts : String → Prop} {a b : Site} (h : a.Alike counts b)
    (ha : counts Access.authDirective) (c : Access.Config) (role : Access.Role) :
    admits c role b = admits c role a := by
  rw [admits, h.carries_eq ha, Pass.rulesAt_eq_of_alike h ha, admits]

namespace GraphQL.Document

variable {counts : String → Prop} {d d' : Document}

@[refl] protected theorem Alike.refl (counts : String → Prop) (d : Document) : d.Alike counts d where
  rootNames := rfl
  sites := by
    rw [List.forall₂_same]
    intro site _
    exact .refl counts site

theorem Alike.padded (h : d.Alike counts d') : d.Padded counts d' := ⟨h.rootNames, .of_forall₂ h.sites⟩

namespace Padded

variable (h : d.Padded counts d')
include h

theorem typesCarrying_eq {name : String} (hn : counts name) :
    d'.typesCarrying name = d.typesCarrying name := by
  rw [typesCarrying_eq_filterMap, typesCarrying_eq_filterMap]
  apply h.sites.filterMap_eq
  · intro a b hab
    have hc := hab.carries_eq hn
    cases hab with
    | type hname => simp_all [Site.typeCarrying?]
    | field => rfl
  · intro node hnone
    have hc := carries_of_directives_eq_nil hnone name
    simp_all [Site.typeCarrying?]

theorem fieldsWith_eq {p : Site → Bool} (hp : ∀ a b, a.Alike counts b → p b = p a) :
    d'.fieldsWith p = d.fieldsWith p := by
  rw [fieldsWith, fieldsWith, List.filterMap_filter, List.filterMap_filter]
  apply h.sites.filterMap_eq
  · intro a b hab
    rw [hp a b hab, hab.resource?_eq]
  · intro node _
    exact ite_self none

theorem siteBindings_eq (hf : counts Pass.functionDirective) :
    d'.sites.filterMap Pass.siteBinding? = d.sites.filterMap Pass.siteBinding? := by
  apply h.sites.filterMap_eq
  · intro a b hab
    exact Pass.siteBinding?_eq_of_alike hab hf
  · intro node _
    rfl

theorem bindingFaults_eq (hf : counts Pass.functionDirective) :
    Pass.bindingFaults [] d'.sites = Pass.bindingFaults [] d.sites := by
  suffices ∀ {sites sites' : List Site}, Site.Padded counts sites sites' →
      ∀ bound, Pass.bindingFaults bound sites' = Pass.bindingFaults bound sites from this h.sites []
  intro sites sites' hsites
  induction hsites with
  | nil => exact fun _ => rfl
  | alike hab _ ih =>
    intro bound
    rw [Pass.bindingFaults_cons, Pass.bindingFaults_cons, Pass.functionFaults_eq_of_alike hab hf,
      Pass.siteBinding?_eq_of_alike hab hf, ih]
  | bare hnone _ ih =>
    intro bound
    have hfaults : ∀ node : GraphQL.Composite, node.directives = [] →
        Pass.functionFaults bound (.type node) = [] := by
      intro node hnone
      rw [Pass.functionFaults, ← Site.carries_type, carries_of_directives_eq_nil hnone]
      rfl
    have hbound : bound ++ (none : Option Pass.Binding).toList = bound := List.append_nil bound
    rw [Pass.bindingFaults_cons, hfaults _ hnone, List.nil_append, Pass.siteBinding?, hbound, ih]

theorem accessFaults_eq (hall : ∀ name, counts name) (c : Access.Config) (roots models : List String) :
    d'.sites.flatMap (Pass.accessFaults c roots models) =
      d.sites.flatMap (Pass.accessFaults c roots models) := by
  apply h.sites.flatMap_eq
  · intro a b hab
    exact Pass.accessFaults_eq_of_alike hab hall c roots models
  · intro node hnone
    apply Pass.accessFaults_of_not_carries
    rw [carries_of_directives_eq_nil hnone]
    exact Bool.false_ne_true

theorem faults_eq (hall : ∀ name, counts name) (c : Access.Config) : faults d' c = faults d c := by
  rw [faults, faults, h.bindingFaults_eq (hall _), h.rootNames, h.typesCarrying_eq (hall _),
    h.accessFaults_eq hall]

theorem grantedFields_eq (hf : counts Pass.functionDirective) (ha : counts Access.authDirective)
    (c : Access.Config) : grantedFields d' c = grantedFields d c := by
  funext role
  have hbacked : Pass.backed d' = Pass.backed d := h.fieldsWith_eq fun a b hab => hab.carries_eq hf
  rw [grantedFields, grantedFields, h.rootNames, hbacked,
    h.fieldsWith_eq fun a b hab => admits_eq_of_alike hab ha c role]

end Padded

end GraphQL.Document

def Access.NoMarker (name : String) : Prop := ∀ p : Access.Provider, p.marker ≠ name

theorem Access.noMarker_auth : NoMarker authDirective := marker_ne_authDirective

theorem Access.noMarker_function : NoMarker Pass.functionDirective := by
  intro p
  cases p <;> decide

theorem Access.noMarker_model : NoMarker Pass.modelDirective := by
  intro p
  cases p <;> decide

namespace Pass

theorem directivesNamed_siteMarkers {name : String} (h : Access.NoMarker name) (c : Access.Config)
    (roots : List String) (site : Site) : GraphQL.directivesNamed name (siteMarkers c roots site) = [] := by
  unfold siteMarkers
  split
  · exact Access.directivesNamed_markersOf_eq_nil h _
  · rfl

theorem alike_marked (c : Access.Config) (roots : List String) (site : Site) :
    site.Alike Access.NoMarker (marked c roots site) := by
  have hdirectives : ∀ name, Access.NoMarker name →
      GraphQL.directivesNamed name (marked c roots site).directives =
        GraphQL.directivesNamed name site.directives := by
    intro name hname
    rw [directives_marked, GraphQL.directivesNamed_append, directivesNamed_siteMarkers hname,
      List.append_nil]
  cases site with
  | type node => exact .type rfl hdirectives
  | field typeName f => exact .field rfl hdirectives

end Pass

theorem alike_withMarkers (c : Access.Config) (d : Document) :
    d.Alike Access.NoMarker (withMarkers c d) where
  rootNames := d.rootNames_withDirectives _
  sites := by
    rw [sites_withMarkers, List.forall₂_map_right_iff, List.forall₂_same]
    intro site _
    exact Pass.alike_marked c d.rootNames site

end SchemaAccess

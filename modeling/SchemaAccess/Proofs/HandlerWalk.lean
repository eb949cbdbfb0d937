import SchemaAccess.Pass.Pipeline
import SchemaAccess.Proofs.DocumentSites
import SchemaAccess.Proofs.StepOutcome

namespace SchemaAccess.Pass

open GraphQL (Site Directive Composite FieldDef Definition Document)

/-- What a handler does at a type itself, its fields aside. -/
def Handler.visitType (h : Handler) (node : Composite) : Step Composite :=
  if GraphQL.carries h.directive node.directives then h.atObject node else pure node

theorem Handler.visitObject_eq (h : Handler) (node : Composite) :
    h.visitObject node = h.visitType node >>= fun node =>
      node.fields.mapM (h.visitField node.name) >>= fun fields => pure { node with fields := fields } := by
  unfold Handler.visitObject Handler.visitType
  split <;> rfl

/-- How a handler acts at sites, from sessions of a kind on: its faults there, the session it leads
to, and the directives it leaves. -/
structure SiteLaw (h : Handler) (P : Session → Prop) where
  faults : Session → Site → List Failure
  next : Session → Site → Session
  directives : Site → List Directive
  keeps : ∀ s site, P s → P (next s site)
  at_type : ∀ s node, P s → (h.visitType node).outcome s =
    settled (faults s (.type node))
      ({ node with directives := directives (.type node) }, next s (.type node))
  at_field : ∀ s typeName f, P s → (h.visitField typeName f).outcome s =
    settled (faults s (.field typeName f))
      ({ f with directives := directives (.field typeName f) }, next s (.field typeName f))

namespace SiteLaw

variable {h : Handler} {P : Session → Prop} (law : SiteLaw h P)
include law

theorem outcome_visitFields (typeName : String) (fields : List FieldDef) (s : Session) (hs : P s) :
    (fields.mapM (h.visitField typeName)).outcome s =
      settled (along law.faults law.next s (fields.map (.field typeName)))
        (fields.map (fun f => { f with directives := law.directives (.field typeName f) }),
          (fields.map (.field typeName)).foldl law.next s) := by
  rw [along_map, List.foldl_map]
  exact outcome_mapM (h.visitField typeName) _ _ _ (fun s f hs => law.at_field s typeName f hs)
    (fun s f hs => law.keeps s _ hs) fields s hs

theorem outcome_visitObject (node : Composite) (s : Session) (hs : P s) :
    (h.visitObject node).outcome s =
      settled (along law.faults law.next s node.sites)
        (node.withDirectives law.directives, node.sites.foldl law.next s) := by
  have hfields := law.outcome_visitFields node.name node.fields _ (law.keeps s (.type node) hs)
  rw [h.visitObject_eq]
  -- fields are visited from the session that the type itself leads to
  refine Step.outcome_bind_settled (h.visitType node) _ (law.at_type s node hs) ?_
  exact Step.outcome_bind_pure (node.fields.mapM (h.visitField node.name))
    (fun fields => { node with directives := law.directives (.type node), fields := fields }) hfields

theorem outcome_visit (x : Definition) (s : Session) (hs : P s) :
    (h.visit x).outcome s =
      settled (along law.faults law.next s x.sites)
        (x.withDirectives law.directives, x.sites.foldl law.next s) := by
  cases x with
  | object extension node =>
    exact Step.outcome_bind_pure (h.visitObject node) (Definition.object extension)
      (law.outcome_visitObject node s hs)
  | _ => rfl

theorem outcome_visits (d : Document) (s : Session) (hs : P s) :
    (d.mapM h.visit).outcome s =
      settled (along law.faults law.next s d.sites)
        (d.withDirectives law.directives, d.sites.foldl law.next s) := by
  rw [Document.sites, along_flatMap, List.foldl_flatMap]
  exact outcome_mapM h.visit _ _ (·.withDirectives law.directives) (fun s x hs => law.outcome_visit x s hs)
    (fun s x hs => foldl_keeps law.keeps x.sites hs) d s hs

/-- A walk fails with the first of the faults along the sites, or changes the directives at all of
them. -/
theorem outcome_walk (hbefore : h.before = pure ()) (d : Document) (s : Session) (hs : P s) :
    (h.walk d).outcome s =
      settled (along law.faults law.next s d.sites)
        (d.withDirectives law.directives, d.sites.foldl law.next s) := by
  rw [Handler.walk, hbefore]
  exact law.outcome_visits d s hs

end SiteLaw

end SchemaAccess.Pass

import SchemaAccess.Proofs.HandlerWalk
import SchemaAccess.Proofs.RuleFaults
import SchemaAccess.Proofs.WrittenRules

namespace SchemaAccess.Pass

open Access
open GraphQL (Site Directive Composite FieldDef Document)
open Policy (Resource)

def rulesAt (c : Config) (site : Site) : List Rule :=
  (readRules c site.place site.directives).toOption.getD []

/-- All sites can get markers, except root types themselves. -/
def isMarkable (roots : List String) : Site → Bool
  | .type node => node.name ∉ roots
  | .field _ _ => true

def siteMarkers (c : Config) (roots : List String) (site : Site) : List Directive :=
  if site.carries authDirective && isMarkable roots site then markersOf (markerProviders c (rulesAt c site))
  else []

def markedDirectives (c : Config) (roots : List String) (site : Site) : List Directive :=
  site.directives ++ siteMarkers c roots site

def marked (c : Config) (roots : List String) (site : Site) : Site :=
  site.withDirectives (markedDirectives c roots)

theorem directives_marked (c : Config) (roots : List String) (site : Site) :
    (marked c roots site).directives = site.directives ++ siteMarkers c roots site :=
  Site.directives_withDirectives _ site

theorem carries_siteMarkers_iff (c : Config) (roots : List String) (site : Site) (p : Provider) :
    GraphQL.carries p.marker (siteMarkers c roots site) = true ↔
      (site.carries authDirective = true ∧ isMarkable roots site = true) ∧
        p ≠ c.defaultProvider ∧ ∃ r ∈ rulesAt c site, r.provider = p := by
  rw [← mem_markerProviders_iff, ← Bool.and_eq_true_iff, siteMarkers]
  split
  · rename_i h
    rw [carries_markersOf, decide_eq_true_iff]
    exact (and_iff_right h).symm
  · rename_i h
    exact ⟨fun hnone => absurd hnone Bool.false_ne_true, fun hboth => absurd hboth.1 h⟩

/-- What is wrong with a type that carries `@auth`, whatever its rules are. -/
def typeFaults (models : List String) : Site → List Failure
  | .type node => if node.name ∈ models then [] else [.placement .typeWithoutModel]
  | .field _ _ => []

/-- What is wrong with rules because of the field that they are for. -/
def fieldFaults (roots models : List String) (rules : List Rule) : Site → List Failure
  | .type _ => []
  | .field typeName _ => restrictionFaults rules (typeName ∈ roots) (typeName ∈ models)

/-- What is wrong with `@auth` at a site, in the order of the checks. -/
def accessFaults (c : Config) (roots models : List String) (site : Site) : List Failure :=
  if site.carries authDirective then
    typeFaults models site ++
      match readRules c site.place site.directives with
      | .error e => [e]
      | .ok rules =>
        fieldFaults roots models rules site ++ (rules.flatMap (ruleFaults c) ++
          if isMarkable roots site then
            markerFaults site.place (markerProviders c rules) site.directives
          else [])
  else []

/-- The field at a site with its rules, if it is one of a root type and they let in some role. -/
def awaited? (c : Config) (roots : List String) (site : Site) : Option (Resource × List Rule) :=
  if site.carries authDirective &&
      (site.typeName ∈ roots && (rulesAt c site).any fun r => !r.grants.isEmpty) then
    site.resource?.map fun r => (r, rulesAt c site)
  else none

def awaitSite (c : Config) (s : Session) (site : Site) : Session :=
  { s with pending := s.pending ++ (awaited? c s.rootTypes site).toList }

theorem rulesAt_of_readRules {c : Config} {site : Site} {rules : List Rule}
    (h : readRules c site.place site.directives = .ok rules) : rulesAt c site = rules := by
  rw [rulesAt, h]
  rfl

theorem siteMarkers_of_readRules {c : Config} {roots : List String} {site : Site} {rules : List Rule}
    (hc : site.carries authDirective = true) (hm : isMarkable roots site = true)
    (h : readRules c site.place site.directives = .ok rules) :
    siteMarkers c roots site = markersOf (markerProviders c rules) := by
  rw [siteMarkers, hc, hm, rulesAt_of_readRules h]
  rfl

theorem object_eq_settled (e : Enforcement) (s : Session) (node : Composite)
    (hc : (Site.type node).carries authDirective = true) :
    e.object s node = settled (accessFaults e.config s.rootTypes s.modelTypes (.type node))
      { node with directives := markedDirectives e.config s.rootTypes (.type node) } := by
  have htype : checkType (s.isModel node.name) = settled (typeFaults s.modelTypes (.type node)) () := by
    rw [checkType_eq_settled]
    simp [Session.isModel, typeFaults]
  unfold Enforcement.object accessFaults
  rw [if_pos hc, htype]
  refine settled_bind _ _ () _ _ ?_
  change (readRules e.config (Site.type node).place (Site.type node).directives >>= _) = _
  cases hr : readRules e.config (Site.type node).place (Site.type node).directives with
  | error fault => rfl
  | ok rules =>
    change (checkRules e.config rules >>= _) = settled (_ ++ _) _
    rw [checkRules_eq_settled]
    refine settled_bind _ _ () _ _ ?_
    -- root types stay as they are, whatever markers their rules would call for
    by_cases hroot : node.name ∈ s.rootTypes
    · have hm : isMarkable s.rootTypes (.type node) = false := by simp [isMarkable, hroot]
      simp [Session.isRoot, hroot, hm, markedDirectives, siteMarkers, Site.directives, pure, Except.pure]
    · have hm : isMarkable s.rootTypes (.type node) = true := by simp [isMarkable, hroot]
      rw [if_neg (by simpa [Session.isRoot] using hroot), if_pos hm, mark_complete_eq_settled,
        markedDirectives, siteMarkers_of_readRules hc hm hr]
      exact settled_bind_pure _ _ fun ds => { node with directives := ds }

theorem field_eq_settled (e : Enforcement) (s : Session) (typeName : String) (f : FieldDef)
    (hc : (Site.field typeName f).carries authDirective = true) :
    e.field s typeName f = settled (accessFaults e.config s.rootTypes s.modelTypes (.field typeName f))
      (rulesAt e.config (.field typeName f),
        { f with directives := markedDirectives e.config s.rootTypes (.field typeName f) }) := by
  unfold Enforcement.field accessFaults
  rw [if_pos hc]
  change (readRules e.config (Site.field typeName f).place (Site.field typeName f).directives >>= _) = _
  cases hr : readRules e.config (Site.field typeName f).place (Site.field typeName f).directives with
  | error fault => rfl
  | ok rules =>
    change (checkField rules (s.isRoot typeName) (s.isModel typeName) >>= _) = settled (_ ++ _) _
    rw [checkField_eq_settled]
    refine settled_bind _ _ () _ _ ?_
    rw [checkRules_eq_settled]
    refine settled_bind _ _ () _ _ ?_
    rw [mark_complete_eq_settled, markedDirectives, siteMarkers_of_readRules hc rfl hr,
      rulesAt_of_readRules hr]
    exact settled_bind_pure _ _ fun ds => (rules, { f with directives := ds })

theorem accessFaults_of_not_carries (c : Config) (roots models : List String) {site : Site}
    (hc : ¬ site.carries authDirective = true) : accessFaults c roots models site = [] := if_neg hc

theorem accessFaults_eq_nil_iff (c : Config) (roots models : List String) {site : Site}
    (hc : site.carries authDirective = true) : accessFaults c roots models site = [] ↔
      typeFaults models site = [] ∧ ∃ rules, readRules c site.place site.directives = .ok rules ∧
        fieldFaults roots models rules site = [] ∧ (∀ r ∈ rules, r.Fits c) ∧
        (isMarkable roots site = true →
          markerFaults site.place (markerProviders c rules) site.directives = []) := by
  rw [accessFaults, if_pos hc, List.append_eq_nil_iff]
  cases hr : readRules c site.place site.directives with
  | error e => simp
  | ok rules =>
    simp only [List.append_eq_nil_iff, List.flatMap_eq_nil_iff, ruleFaults_eq_nil_iff, ite_eq_right_iff,
      Except.ok.injEq, exists_eq_left']

theorem markedDirectives_of_not_carries (c : Config) (roots : List String) {site : Site}
    (hc : ¬ site.carries authDirective = true) : markedDirectives c roots site = site.directives := by
  simp [markedDirectives, siteMarkers, hc]

theorem awaitSite_eq_self (c : Config) (s : Session) {site : Site}
    (h : awaited? c s.rootTypes site = none) : awaitSite c s site = s := by
  simp [awaitSite, h]

theorem await_eq_awaitSite (c : Config) (s : Session) (typeName : String) (f : FieldDef)
    (hc : (Site.field typeName f).carries authDirective = true) :
    Enforcement.await s typeName f.name (rulesAt c (.field typeName f)) =
      awaitSite c s (.field typeName f) := by
  have hroot : s.isRoot typeName = decide ((Site.field typeName f).typeName ∈ s.rootTypes) := rfl
  rw [Enforcement.await, awaitSite, awaited?, hc, Bool.true_and, hroot]
  cases decide ((Site.field typeName f).typeName ∈ s.rootTypes) &&
      (rulesAt c (.field typeName f)).any fun r => !r.grants.isEmpty with
  | true => rfl
  | false => simp

theorem outcome_atObject_auth (e : Enforcement) (s : Session) (node : Composite) :
    ((Handler.auth e).atObject node).outcome s = (e.object s node).map fun node => (node, s) := by
  change Step.outcome (get >>= fun s => Step.require (e.object s node)) s = _
  rw [Step.outcome_bind, Step.outcome_get]
  exact Step.outcome_require (e.object s node) s

theorem outcome_atField_auth (e : Enforcement) (s : Session) (typeName : String) (f : FieldDef) :
    ((Handler.auth e).atField typeName f).outcome s =
      (e.field s typeName f).map fun r => (r.2, Enforcement.await s typeName f.name r.1) := by
  rw [Handler.atField, Step.outcome_bind, Step.outcome_get]
  change Step.outcome (Step.require (e.field s typeName f) >>= _) s = _
  rw [Step.outcome_bind, Step.outcome_require]
  cases e.field s typeName f <;> rfl

theorem outcome_visitType_auth (e : Enforcement) (s : Session) (node : Composite) :
    ((Handler.auth e).visitType node).outcome s =
      settled (accessFaults e.config s.rootTypes s.modelTypes (.type node))
        ({ node with directives := markedDirectives e.config s.rootTypes (.type node) },
          awaitSite e.config s (.type node)) := by
  rw [awaitSite_eq_self e.config s (by simp [awaited?])]
  by_cases hc : (Site.type node).carries authDirective = true
  · rw [show (Handler.auth e).visitType node = (Handler.auth e).atObject node from if_pos hc,
      outcome_atObject_auth, object_eq_settled e s node hc, settled_map]
  · rw [show (Handler.auth e).visitType node = pure node from if_neg hc,
      accessFaults_of_not_carries _ _ _ hc, markedDirectives_of_not_carries _ _ hc]
    rfl

theorem outcome_visitField_auth (e : Enforcement) (s : Session) (typeName : String) (f : FieldDef) :
    ((Handler.auth e).visitField typeName f).outcome s =
      settled (accessFaults e.config s.rootTypes s.modelTypes (.field typeName f))
        ({ f with directives := markedDirectives e.config s.rootTypes (.field typeName f) },
          awaitSite e.config s (.field typeName f)) := by
  by_cases hc : (Site.field typeName f).carries authDirective = true
  · rw [show (Handler.auth e).visitField typeName f = (Handler.auth e).atField typeName f from if_pos hc,
      outcome_atField_auth, field_eq_settled e s typeName f hc, settled_map,
      await_eq_awaitSite e.config s typeName f hc]
  · rw [show (Handler.auth e).visitField typeName f = pure f from if_neg hc,
      accessFaults_of_not_carries _ _ _ hc, markedDirectives_of_not_carries _ _ hc,
      awaitSite_eq_self e.config s (by simp [awaited?, hc])]
    rfl

/-- Enforcing rules depends on the names of root and model types, which a walk keeps. -/
def authLaw (e : Enforcement) (roots models : List String) :
    SiteLaw (.auth e) fun s => s.rootTypes = roots ∧ s.modelTypes = models where
  faults _ := accessFaults e.config roots models
  next := awaitSite e.config
  directives := markedDirectives e.config roots
  keeps _ _ hs := hs
  at_type s node hs := by
    rw [outcome_visitType_auth, hs.1, hs.2]
  at_field s typeName f hs := by
    rw [outcome_visitField_auth, hs.1, hs.2]

theorem foldl_awaitSite (c : Config) (s : Session) (sites : List Site) :
    sites.foldl (awaitSite c) s =
      { s with pending := s.pending ++ sites.filterMap (awaited? c s.rootTypes) } := by
  induction sites generalizing s with
  | nil => simp
  | cons site sites ih =>
    rw [List.foldl_cons, ih]
    cases h : awaited? c s.rootTypes site <;> simp [awaitSite, h]

theorem outcome_walk_auth (e : Enforcement) (d : Document) (s : Session) :
    (Handler.walk (.auth e) d).outcome s =
      settled (d.sites.flatMap (accessFaults e.config s.rootTypes s.modelTypes))
        (d.withDirectives (markedDirectives e.config s.rootTypes),
          { s with pending := s.pending ++ d.sites.filterMap (awaited? e.config s.rootTypes) }) := by
  let law := authLaw e s.rootTypes s.modelTypes
  have halong : along law.faults law.next s d.sites =
      d.sites.flatMap (accessFaults e.config s.rootTypes s.modelTypes) :=
    along_eq_flatMap law.faults law.next _ (fun _ _ _ => rfl) law.keeps s ⟨rfl, rfl⟩ d.sites
  rw [law.outcome_walk rfl d s ⟨rfl, rfl⟩, halong]
  exact congrArg (fun t => settled _ (_, t)) (foldl_awaitSite e.config s d.sites)

end SchemaAccess.Pass

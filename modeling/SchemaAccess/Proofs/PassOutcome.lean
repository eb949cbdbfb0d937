import SchemaAccess.Proofs.PassEnd
import SchemaAccess.Proofs.SiteLikeness

namespace SchemaAccess.Pass

open Access (NoMarker)
open GraphQL (Site Document)

/-- What is wrong with a directive at a site, by where it is permitted. -/
def placementFaults (directive : String) (onTypes onFields : Bool) : Site → List Failure
  | .type node =>
    if GraphQL.carries directive node.directives && !onTypes then
      [.placement (.unsupportedOnType directive node.name)]
    else []
  | .field typeName f =>
    if GraphQL.carries directive f.directives && !onFields then
      [.placement (.unsupportedOnField directive (GraphQL.location (some typeName) f.name))]
    else []

def visitOf (directive : String) : Site → Visit
  | .type node => .object directive node.name
  | .field typeName f => .field directive (GraphQL.location (some typeName) f.name)

def noteSite (directive : String) (s : Session) (site : Site) : Session :=
  if site.carries directive then s.note (visitOf directive site) else s

/-- What a handler finds wrong with a document. Functions are bound site by site, and all the rest is
looked at one site at a time. -/
def Handler.faults (d : Document) : Handler → List Failure
  | .function => bindingFaults [] d.sites
  | .auth e => d.sites.flatMap (accessFaults e.config d.rootNames (d.typesCarrying modelDirective))
  | .permit directive onTypes onFields => d.sites.flatMap (placementFaults directive onTypes onFields)
  | .observe _ => []

def permitLaw (directive : String) (onTypes onFields : Bool) :
    SiteLaw (.permit directive onTypes onFields) fun _ => True where
  faults _ := placementFaults directive onTypes onFields
  next s _ := s
  directives := Site.directives
  keeps _ _ _ := trivial
  at_type s node _ := by
    unfold Handler.visitType placementFaults
    cases hc : GraphQL.carries directive node.directives with
    | false => simp [Handler.directive, hc, Site.directives]
    | true =>
      simp only [Handler.directive, hc, if_true, Bool.true_and]
      cases onTypes <;> rfl
  at_field s typeName f _ := by
    unfold Handler.visitField placementFaults
    cases hc : GraphQL.carries directive f.directives with
    | false => simp [Handler.directive, hc, Site.directives]
    | true =>
      simp only [Handler.directive, hc, if_true, Bool.true_and]
      cases onFields <;> rfl

def observeLaw (directive : String) : SiteLaw (.observe directive) fun _ => True where
  faults _ _ := []
  next := noteSite directive
  directives := Site.directives
  keeps _ _ _ := trivial
  at_type s node _ := by
    unfold Handler.visitType noteSite
    cases hc : GraphQL.carries directive node.directives with
    | false => simp [Handler.directive, hc, Site.directives]
    | true =>
      simp only [Handler.directive, Site.carries_type, hc, if_true]
      rfl
  at_field s typeName f _ := by
    unfold Handler.visitField noteSite
    cases hc : GraphQL.carries directive f.directives with
    | false => simp [Handler.directive, hc, Site.directives]
    | true =>
      simp only [Handler.directive, Site.carries_field, hc, if_true]
      rfl

theorem outcome_walk_permit (directive : String) (onTypes onFields : Bool) (d : Document) (s : Session) :
    (Handler.walk (.permit directive onTypes onFields) d).outcome s =
      settled (d.sites.flatMap (placementFaults directive onTypes onFields)) (d, s) := by
  let law := permitLaw directive onTypes onFields
  have halong : along law.faults law.next s d.sites =
      d.sites.flatMap (placementFaults directive onTypes onFields) :=
    along_eq_flatMap law.faults law.next _ (fun _ _ _ => rfl) law.keeps s trivial d.sites
  have hnext : d.sites.foldl law.next s = s := by
    apply foldl_keeps (P := (· = s))
    · exact fun _ _ h => h
    · rfl
  rw [law.outcome_walk rfl d s trivial, halong, hnext]
  change settled _ (d.withDirectives Site.directives, s) = _
  rw [d.withDirectives_directives]

theorem exists_noteSite_eq (directive : String) (s : Session) (site : Site) :
    ∃ log, noteSite directive s site = { s with log := log } := by
  unfold noteSite
  split
  · exact ⟨s.log ++ [visitOf directive site], rfl⟩
  · exact ⟨s.log, rfl⟩

theorem outcome_walk_observe (directive : String) (d : Document) (s : Session) :
    ∃ log, (Handler.walk (.observe directive) d).outcome s = .ok (d, { s with log := log }) := by
  let law := observeLaw directive
  let entered : Session := s.note (.before directive)
  have halong : along law.faults law.next entered d.sites = [] := by
    rw [along_eq_flatMap law.faults law.next (fun _ => []) (fun _ _ _ => rfl) law.keeps entered trivial]
    simp
  obtain ⟨log, hlog⟩ : ∃ log, d.sites.foldl law.next entered = { s with log := log } := by
    apply foldl_keeps (P := fun t => ∃ log, t = { s with log := log })
    · intro t site ht
      obtain ⟨log, rfl⟩ := ht
      exact exists_noteSite_eq directive { s with log := log } site
    · exact ⟨_, rfl⟩
  have hvisits := law.outcome_visits d entered trivial
  rw [halong, hlog] at hvisits
  refine ⟨log, ?_⟩
  change Step.outcome (modify (·.note (.before directive)) >>= fun _ => d.mapM _) s = _
  rw [Step.outcome_bind]
  change Step.outcome (d.mapM _) entered = _
  rw [hvisits]
  change Except.ok (d.withDirectives Site.directives, _) = _
  rw [d.withDirectives_directives]

theorem placementFaults_eq_of_alike {counts : String → Prop} {a b : Site} (h : a.Alike counts b)
    {directive : String} (hn : counts directive) (onTypes onFields : Bool) :
    placementFaults directive onTypes onFields b = placementFaults directive onTypes onFields a := by
  have hcarries := h.carries_eq hn
  cases h with
  | type hname => simp_all [placementFaults]
  | field hname => simp_all [placementFaults]

/-- How far a pass over a document has come when some handlers have walked it: the document as they leave
it, and the session. -/
structure Walked (d : Document) (done : List Handler) (now : Document) (s : Session) : Prop where
  rootTypes : s.rootTypes = d.rootNames
  modelTypes : s.modelTypes = d.typesCarrying modelDirective
  bound : .function ∈ done → s.bindings = d.sites.filterMap siteBinding?
  unbound : .function ∉ done → s.bindings = []
  marked : ∀ e, .auth e ∈ done →
    now = withMarkers e.config d ∧ s.pending = d.sites.filterMap (awaited? e.config d.rootNames)
  unmarked : (∀ e, .auth e ∉ done) → now = d ∧ s.pending = []

theorem walked_nil (d : Document) : Walked d [] d (Session.ofDocument d) where
  rootTypes := rfl
  modelTypes := rfl
  bound h := absurd h List.not_mem_nil
  unbound _ := rfl
  marked _ h := absurd h List.not_mem_nil
  unmarked _ := ⟨rfl, rfl⟩

namespace Walked

variable {d now : Document} {done : List Handler} {s : Session} (hw : Walked d done now s)
include hw

theorem alike : d.Alike NoMarker now := by
  by_cases hauth : ∃ e, .auth e ∈ done
  · obtain ⟨e, he⟩ := hauth
    rw [(hw.marked e he).1]
    exact alike_withMarkers e.config d
  · rw [not_exists] at hauth
    rw [(hw.unmarked hauth).1]

theorem snoc_idle {h : Handler} (hfunction : .function ≠ h) (hauth : ∀ e, .auth e ≠ h) (log : List Visit) :
    Walked d (done ++ [h]) now { s with log := log } := by
  have hbound : .function ∈ done ++ [h] ↔ .function ∈ done := by simp [hfunction]
  have hmarked : ∀ e, .auth e ∈ done ++ [h] ↔ .auth e ∈ done := by simp [hauth]
  constructor
  case rootTypes => exact hw.rootTypes
  case modelTypes => exact hw.modelTypes
  case bound => exact fun h => hw.bound (hbound.1 h)
  case unbound => exact fun h => hw.unbound (hbound.not.1 h)
  case marked => exact fun e he => hw.marked e ((hmarked e).1 he)
  case unmarked => exact fun h => hw.unmarked fun e he => h e ((hmarked e).2 he)

theorem snoc_function : Walked d (done ++ [.function]) now
    { s with bindings := d.sites.filterMap siteBinding? } := by
  have hmarked : ∀ e, .auth e ∈ done ++ [.function] ↔ .auth e ∈ done := by simp
  constructor
  case rootTypes => exact hw.rootTypes
  case modelTypes => exact hw.modelTypes
  case bound => exact fun _ => rfl
  case unbound => exact fun h => absurd (List.mem_append_right done List.mem_cons_self) h
  case marked => exact fun e he => hw.marked e ((hmarked e).1 he)
  case unmarked => exact fun h => hw.unmarked fun e he => h e ((hmarked e).2 he)

theorem snoc_auth {e : Enforcement} (hfree : ∀ e', .auth e' ∉ done) :
    Walked d (done ++ [.auth e]) (withMarkers e.config d)
      { s with pending := d.sites.filterMap (awaited? e.config d.rootNames) } := by
  have hbound : .function ∈ done ++ [.auth e] ↔ .function ∈ done := by simp
  constructor
  case rootTypes => exact hw.rootTypes
  case modelTypes => exact hw.modelTypes
  case bound => exact fun h => hw.bound (hbound.1 h)
  case unbound => exact fun h => hw.unbound (hbound.not.1 h)
  case marked =>
    intro e' he'
    rcases List.mem_append.1 he' with hmem | hmem
    · exact absurd hmem (hfree e')
    · obtain rfl : e' = e := by simpa using hmem
      exact ⟨rfl, rfl⟩
  case unmarked => exact fun h => absurd (List.mem_append_right done List.mem_cons_self) (h e)

/-- The walk of one more handler, for a directive of its own. -/
theorem exists_outcome_walk {h : Handler} (hnew : h.directive ∉ done.map (·.directive))
    (hmarker : NoMarker h.directive) :
    ∃ now' s', (h.walk now).outcome s = settled (h.faults d) (now', s') ∧
      Walked d (done ++ [h]) now' s' := by
  -- the markers that the document may have got are not looked at
  have halike := hw.alike.padded
  cases h with
  | function =>
    have hfree : .function ∉ done := fun hmem => hnew (List.mem_map_of_mem hmem)
    refine ⟨_, _, ?_, hw.snoc_function⟩
    rw [outcome_walk_function, hw.unbound hfree, halike.bindingFaults_eq hmarker,
      halike.siteBindings_eq hmarker]
    rfl
  | auth e =>
    have hfree : ∀ e', .auth e' ∉ done := fun e' hmem => hnew (List.mem_map.2 ⟨_, hmem, rfl⟩)
    obtain ⟨rfl, hpending⟩ := hw.unmarked hfree
    refine ⟨_, _, ?_, hw.snoc_auth hfree⟩
    rw [outcome_walk_auth, hw.rootTypes, hw.modelTypes, hpending]
    rfl
  | permit directive onTypes onFields =>
    have hfaults : now.sites.flatMap (placementFaults directive onTypes onFields) =
        d.sites.flatMap (placementFaults directive onTypes onFields) := by
      apply halike.sites.flatMap_eq
      · intro a b hab
        exact placementFaults_eq_of_alike hab hmarker onTypes onFields
      · intro node hnone
        simp [placementFaults, hnone, GraphQL.carries]
    have hidle : Walked d (done ++ [.permit directive onTypes onFields]) now s :=
      hw.snoc_idle (by simp) (by simp) s.log
    refine ⟨now, s, ?_, hidle⟩
    rw [outcome_walk_permit, hfaults]
    rfl
  | observe directive =>
    obtain ⟨log, hlog⟩ := outcome_walk_observe directive now s
    exact ⟨now, { s with log := log }, hlog, hw.snoc_idle (by simp) (by simp) log⟩

theorem exists_outcome_walks {handlers : List Handler}
    (hdistinct : ((done ++ handlers).map (·.directive)).Nodup)
    (hmarkers : ∀ h ∈ handlers, NoMarker h.directive) :
    ∃ now' s', Step.outcome (handlers.foldlM (fun d h => h.walk d) now) s =
        settled (handlers.flatMap (Handler.faults d)) (now', s') ∧
      Walked d (done ++ handlers) now' s' := by
  induction handlers generalizing done now s with
  | nil =>
    rw [List.append_nil]
    exact ⟨now, s, rfl, hw⟩
  | cons h handlers ih =>
    rw [List.forall_mem_cons] at hmarkers
    rw [List.append_cons] at hdistinct ⊢
    have hnew : h.directive ∉ done.map (·.directive) := by
      rw [List.map_append, List.map_append, List.append_assoc, List.nodup_append] at hdistinct
      intro hmem
      exact hdistinct.2.2 _ hmem h.directive (by simp) rfl
    obtain ⟨now₁, s₁, hwalk, hw₁⟩ := hw.exists_outcome_walk hnew hmarkers.1
    obtain ⟨now₂, s₂, hwalks, hw₂⟩ := ih hw₁ hdistinct hmarkers.2
    refine ⟨now₂, s₂, ?_, hw₂⟩
    rw [List.foldlM_cons, List.flatMap_cons]
    exact Step.outcome_bind_settled _ _ hwalk hwalks

end Walked

/-- What a pass gives that binds the functions of a document and enforces its rules. -/
def Enforcement.result (e : Enforcement) (d : Document) : Output where
  document := withMarkers e.config d
  template := templateOf e.apiId (Policy.Ledger.drawn (grantedFields d e.config) e.cap)
  policies := Policy.Ledger.drawn (grantedFields d e.config) e.cap

theorem run_eq_settled {p : Pipeline} {e : Enforcement} (hfunction : .function ∈ p.handlers)
    (hauth : .auth e ∈ p.handlers) (hmarkers : ∀ h ∈ p.handlers, NoMarker h.directive) (d : Document) :
    (p.run d).1 = settled (p.handlers.flatMap (Handler.faults d)) (e.result d) := by
  obtain ⟨now, s, hwalks, hw⟩ := (walked_nil d).exists_outcome_walks p.distinct hmarkers
  rw [run_fst_eq_settled p hauth hwalks]
  cases hfaults : p.handlers.flatMap (Handler.faults d) with
  | cons fault more => rfl
  | nil =>
    obtain ⟨rfl, hpending⟩ := hw.marked e hauth
    -- what is granted only counts if all functions are bound
    have hbound : bindingFaults [] d.sites = [] := List.flatMap_eq_nil_iff.1 hfaults .function hfunction
    have hgranted := granted_eq_grantedFields e.config hbound (hw.bound hfunction) hpending
    rw [ended, Enforcement.result, Session.drawn, hgranted]

end SchemaAccess.Pass

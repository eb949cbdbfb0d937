import SchemaAccess.Proofs.AccessWalk
import SchemaAccess.Proofs.FunctionBinding
import SchemaAccess.Proofs.Settlement

namespace SchemaAccess

open Access (Config Role)
open GraphQL (Document Site)
open Policy (Resource)

/-- All that is wrong with a document. Functions are bound at every site before the first rule is
looked at. -/
def faults (d : Document) (c : Config) : List Failure :=
  Pass.bindingFaults [] d.sites ++
    d.sites.flatMap (Pass.accessFaults c d.rootNames (d.typesCarrying Pass.modelDirective))

/-- Whether the rules of a site let in the callers that have a role. -/
def admits (c : Config) (role : Role) (site : Site) : Bool :=
  site.carries Access.authDirective && (Pass.rulesAt c site).any (role ∈ ·.grants)

/-- The fields that a role may call, as often as rules say so. -/
def grantedFields (d : Document) (c : Config) (role : Role) : List Resource :=
  (d.fieldsWith (admits c role)).filter fun r => r.typeName ∈ d.rootNames ∧ r ∈ Pass.backed d

def withMarkers (c : Config) (d : Document) : Document :=
  d.withDirectives (Pass.markedDirectives c d.rootNames)

theorem sites_withMarkers (c : Config) (d : Document) :
    (withMarkers c d).sites = d.sites.map (Pass.marked c d.rootNames) :=
  Document.sites_withDirectives _ d

theorem any_grants_of_any {rules : List Access.Rule} {role : Role}
    (h : rules.any (role ∈ ·.grants) = true) : (rules.any fun r => !r.grants.isEmpty) = true := by
  obtain ⟨r, hr, hrole⟩ := List.any_eq_true.1 h
  have hne : r.grants ≠ [] := List.ne_nil_of_mem (of_decide_eq_true hrole)
  exact List.any_eq_true.2 ⟨r, hr, by simpa using hne⟩

/-- What waits from a site is granted to a role if the site admits it, belongs to a root type and is
bound. -/
theorem filter_awaited? (c : Config) (roots : List String) (bound : List Resource) (role : Role)
    (site : Site) :
    ((Pass.awaited? c roots site).filter fun w => w.1 ∈ bound && w.2.any (role ∈ ·.grants)).map Prod.fst =
      if admits c role site then site.resource?.filter fun r => r.typeName ∈ roots ∧ r ∈ bound
      else none := by
  cases site with
  | type node => simp [Pass.awaited?]
  | field typeName f =>
    unfold Pass.awaited? admits
    cases (Site.field typeName f).carries Access.authDirective with
    | false => rfl
    | true =>
      cases hrole : (Pass.rulesAt c (.field typeName f)).any (role ∈ ·.grants) with
      | false =>
        split
        · simp only [Site.resource?_field, Option.map_some, Option.filter, hrole, Bool.and_false]
          rfl
        · rfl
      | true =>
        rw [any_grants_of_any hrole]
        by_cases hroot : typeName ∈ roots <;> by_cases hb : ⟨typeName, f.name⟩ ∈ bound <;>
          simp [Site.typeName, Option.filter, hroot, hb, hrole]

theorem granted_filterMap_awaited? (c : Config) (d : Document) (bound : List Resource) (role : Role) :
    Pass.granted (· ∈ bound) (d.sites.filterMap (Pass.awaited? c d.rootNames)) role =
      (d.fieldsWith (admits c role)).filter fun r => r.typeName ∈ d.rootNames ∧ r ∈ bound := by
  rw [Pass.granted, List.filter_filterMap, List.map_filterMap, Document.fieldsWith, List.filterMap_filter,
    List.filter_filterMap]
  refine List.filterMap_congr fun site _ => ?_
  rw [filter_awaited? c d.rootNames bound role site]
  split <;> rfl

theorem granted_eq_grantedFields {d : Document} (c : Config) {s : Pass.Session}
    (hfaults : Pass.bindingFaults [] d.sites = [])
    (hbindings : s.bindings = d.sites.filterMap Pass.siteBinding?)
    (hpending : s.pending = d.sites.filterMap (Pass.awaited? c d.rootNames)) :
    Pass.granted s.isBound s.pending = grantedFields d c := by
  have hnames := ((Pass.bindingFaults_eq_nil_iff [] d.sites (by simp)).1 hfaults).1
  have hbound : s.isBound = fun r => decide (r ∈ Pass.backed d) := by
    funext r
    rw [Bool.eq_iff_iff, decide_eq_true_eq]
    exact Pass.isSome_binding?_iff s d hnames hbindings r
  funext role
  rw [hbound, hpending]
  exact granted_filterMap_awaited? c d (Pass.backed d) role

theorem accessFaults_of_faults_eq_nil {d : Document} {c : Config} (h : faults d c = []) {site : Site}
    (hs : site ∈ d.sites) :
    Pass.accessFaults c d.rootNames (d.typesCarrying Pass.modelDirective) site = [] :=
  List.flatMap_eq_nil_iff.1 (List.append_eq_nil_iff.1 h).2 site hs

theorem exists_readRules_of_faults_eq_nil {d : Document} {c : Config} (h : faults d c = []) {site : Site}
    (hs : site ∈ d.sites) (hc : site.carries Access.authDirective = true) :
    ∃ rules, Access.readRules c site.place site.directives = .ok rules ∧
      (Pass.isMarkable d.rootNames site = true →
        Access.markerFaults site.place (Access.markerProviders c rules) site.directives = []) := by
  have hsite := accessFaults_of_faults_eq_nil h hs
  obtain ⟨-, rules, hr, -, -, hm⟩ := (Pass.accessFaults_eq_nil_iff c _ _ hc).1 hsite
  exact ⟨rules, hr, hm⟩

theorem fits_of_mem_rulesAt {d : Document} {c : Config} (h : faults d c = []) {site : Site}
    (hs : site ∈ d.sites) (hc : site.carries Access.authDirective = true) :
    ∀ r ∈ Pass.rulesAt c site, r.Fits c := by
  have hsite := accessFaults_of_faults_eq_nil h hs
  obtain ⟨-, rules, hr, -, hfits, -⟩ := (Pass.accessFaults_eq_nil_iff c _ _ hc).1 hsite
  rw [Pass.rulesAt_of_readRules hr]
  exact hfits

end SchemaAccess

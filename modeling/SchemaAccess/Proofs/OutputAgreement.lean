import SchemaAccess.Proofs.LeastPrivilege

namespace SchemaAccess

open Access (Config Provider Role Rule)
open GraphQL (Document Site FieldDef)
open Pass (Output)
open Policy (Resource Ledger)

/-- What schema and policies say of one another. -/
structure OutputsAgree (d : Document) (c : Config) (out : Output) : Prop where
  /-- IAM callers need no marker where IAM is the default. -/
  granted_open : ∀ policy ∈ out.policies, ∀ r ∈ policy.resources, HasField out.document r fun f =>
    GraphQL.carries Access.authDirective f.directives = true ∧
      (c.defaultProvider ≠ .iam → GraphQL.carries Provider.iam.marker f.directives = true)
  opened_granted : List.Forall₂ (fun before after => ∀ r, before.resource? = some r →
      d.IsRootName r.typeName →
      GraphQL.carries Provider.iam.marker (before.appended after) = true →
      HasField d r (fun f => GraphQL.carries Pass.functionDirective f.directives = true) →
      ∃ policy ∈ out.policies, policy.role = .auth ∧ r ∈ policy.resources)
    d.sites out.document.sites

theorem Access.Rule.provider_of_mem_grants {r : Rule} {role : Role} (h : role ∈ r.grants) :
    r.provider = .iam := by
  unfold grants at h
  split at h
  · assumption
  · assumption
  · contradiction

/-- Rules for IAM callers let in those who are signed in. Others are not allowed. -/
theorem Access.Rule.Fits.auth_mem_grants {c : Config} {r : Rule} (h : r.Fits c) (hp : r.provider = .iam) :
    .auth ∈ r.grants := by
  have hallowed : Provider.iam ∈ r.strategy.providers := hp ▸ h.1
  unfold grants
  rw [hp]
  cases hs : r.strategy with
  | owner => rw [hs] at hallowed; contradiction
  | groups => rw [hs] at hallowed; contradiction
  | signedIn => exact List.mem_cons_self
  | anyone => exact List.mem_cons_self

theorem mem_grantedTo_iff (out : Output) (role : Role) (r : Resource) :
    r ∈ grantedTo out role ↔ ∃ policy ∈ out.policies, policy.role = role ∧ r ∈ policy.resources := by
  simp [grantedTo, and_assoc]

theorem hasField_iff (d : Document) (r : Resource) (P : FieldDef → Prop) :
    HasField d r P ↔ ∃ f, .field r.typeName f ∈ d.sites ∧ f.name = r.fieldName ∧ P f := by
  simp only [HasField, Document.field_mem_sites_iff]
  constructor
  · rintro ⟨node, hn, hname, f, hf, hfield, hP⟩
    exact ⟨f, ⟨node, hn, hname, hf⟩, hfield, hP⟩
  · rintro ⟨f, ⟨node, hn, hname, hf⟩, hfield, hP⟩
    exact ⟨node, hn, hname, f, hf, hfield, hP⟩

theorem mem_grantedFields_iff (d : Document) (c : Config) (role : Role) (r : Resource) :
    r ∈ grantedFields d c role ↔ HasField d r (fun f => admits c role (.field r.typeName f) = true) ∧
      d.IsRootName r.typeName ∧
      HasField d r (fun f => GraphQL.carries Pass.functionDirective f.directives = true) := by
  rw [grantedFields, List.mem_filter, decide_eq_true_iff, Document.mem_fieldsWith_iff,
    Document.mem_rootNames_iff, Pass.backed, Document.mem_fieldsWith_iff]
  rfl

theorem admits_iff (c : Config) (role : Role) (site : Site) : admits c role site = true ↔
    site.carries Access.authDirective = true ∧ ∃ r ∈ Pass.rulesAt c site, role ∈ r.grants := by
  simp [admits]

theorem carries_iam_of_admits {c : Config} {roots : List String} {role : Role} {typeName : String}
    {f : FieldDef} (h : admits c role (.field typeName f) = true) (hc : c.defaultProvider ≠ .iam) :
    GraphQL.carries Provider.iam.marker (Pass.siteMarkers c roots (.field typeName f)) = true := by
  obtain ⟨hauth, r, hr, hrole⟩ := (admits_iff c role _).1 h
  rw [Pass.carries_siteMarkers_iff]
  exact ⟨⟨hauth, rfl⟩, hc.symm, r, hr, Rule.provider_of_mem_grants hrole⟩

theorem admits_of_carries_iam {d : Document} {c : Config} (h : faults d c = []) {site : Site}
    (hs : site ∈ d.sites)
    (hm : GraphQL.carries Provider.iam.marker (Pass.siteMarkers c d.rootNames site) = true) :
    admits c .auth site = true := by
  obtain ⟨⟨hauth, -⟩, -, r, hr, hp⟩ := (Pass.carries_siteMarkers_iff c _ site .iam).1 hm
  exact (admits_iff c .auth site).2 ⟨hauth, r, hr, (fits_of_mem_rulesAt h hs hauth r hr).auth_mem_grants hp⟩

theorem hasField_withMarkers {d : Document} {c : Config} {role : Role} {r : Resource}
    (h : HasField d r fun f => admits c role (.field r.typeName f) = true) :
    HasField (withMarkers c d) r fun f => GraphQL.carries Access.authDirective f.directives = true ∧
      (c.defaultProvider ≠ .iam → GraphQL.carries Provider.iam.marker f.directives = true) := by
  obtain ⟨f, hf, hname, hadmits⟩ := (hasField_iff d r _).1 h
  have hmarked : Pass.marked c d.rootNames (.field r.typeName f) ∈ (withMarkers c d).sites := by
    rw [sites_withMarkers]
    exact List.mem_map_of_mem hf
  refine (hasField_iff _ r _).2 ⟨_, hmarked, hname, ?_, fun hc => ?_⟩
  · have hauth : GraphQL.carries Access.authDirective f.directives = true :=
      ((admits_iff c role _).1 hadmits).1
    rw [Pass.markedDirectives, GraphQL.carries_append, Site.directives, hauth, Bool.true_or]
  · rw [Pass.markedDirectives, GraphQL.carries_append, carries_iam_of_admits hadmits hc, Bool.or_true]

/-- No role is granted a field that is closed to its callers, and every field of a root type that is
opened to IAM callers and has a function is granted to those who are signed in. -/
theorem compile_outputs_agree {schema : String} {c : Config} {cap : Int} {out : Output}
    (h : compile schema c cap = .ok out) :
    ∃ d, Document.read schema = .ok d ∧ OutputsAgree d c out := by
  obtain ⟨d, hread, hcap, hfaults, rfl⟩ := (compile_eq_ok_iff schema c cap out).1 h
  have hgranted : ∀ role r, r ∈ grantedTo (compiled d c cap) role ↔ r ∈ grantedFields d c role := by
    intro role r
    rw [grantedTo_compiled d c hcap, List.mem_eraseDups]
  refine ⟨d, hread, fun policy hpolicy r hr => ?_, ?_⟩
  · have hmem : r ∈ grantedTo (compiled d c cap) policy.role :=
      (mem_grantedTo_iff _ _ r).2 ⟨policy, hpolicy, rfl, hr⟩
    exact hasField_withMarkers ((mem_grantedFields_iff d c _ r).1 ((hgranted _ r).1 hmem)).1
  · change List.Forall₂ _ d.sites (withMarkers c d).sites
    rw [sites_withMarkers, List.forall₂_map_right_iff, List.forall₂_same]
    intro site hs r hr hroot hopened hbacked
    rw [Site.appended_of_directives_eq (Pass.directives_marked c d.rootNames site)] at hopened
    have hadmits := admits_of_carries_iam hfaults hs hopened
    rw [← mem_grantedTo_iff, hgranted, mem_grantedFields_iff]
    refine ⟨?_, hroot, hbacked⟩
    cases site with
    | type node => contradiction
    | field typeName f =>
      obtain rfl := Option.some.inj hr
      exact (hasField_iff d _ _).2 ⟨f, hs, rfl, hadmits⟩

/-- A field that is opened to IAM callers, in a schema whose default are user pools. -/
def iamFieldSchema : String :=
  "type Query \x7b a: ID @auth(rules: [\x7ballow: public, provider: iam\x7d]) @function(name: \"f\") \x7d"

theorem compile_outputs_agree_iamFieldSchema : ∃ out, compile iamFieldSchema userPoolsAndIam 25 = .ok out ∧
    out.policies.map (·.resources) = [[⟨"Query", "a"⟩], [⟨"Query", "a"⟩]] ∧
    ∃ d, Document.read iamFieldSchema = .ok d ∧ OutputsAgree d userPoolsAndIam out := by
  have hpolicies : (compile iamFieldSchema userPoolsAndIam 25).toOption.map
      (fun out => out.policies.map (·.resources)) = some [[⟨"Query", "a"⟩], [⟨"Query", "a"⟩]] := by
    decide +kernel
  obtain ⟨out, hout, hresources⟩ := Option.map_eq_some_iff.1 hpolicies
  have h := eq_ok_of_toOption_eq_some hout
  exact ⟨out, h, hresources, compile_outputs_agree h⟩

end SchemaAccess

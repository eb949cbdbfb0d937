import SchemaAccess.Proofs.CompiledDocument

namespace SchemaAccess

open GraphQL (Document Directive Site)

namespace Access

/-- The types of all modes, in whatever order they are configured and whatever their settings are. -/
def Config.types (c : Config) : List AuthenticationType := c.modes.map (·.type)

theorem Config.isConfigured_iff (c : Config) (p : Provider) :
    c.isConfigured p = true ↔ p.authenticationType ∈ c.types := by
  have htype : ∀ t : AuthenticationType, t.provider = p ↔ t = p.authenticationType := by
    intro t
    constructor
    · intro h
      rw [← h, Provider.authenticationType_provider]
    · intro h
      rw [h, AuthenticationType.provider_authenticationType]
  simp only [Config.isConfigured, Config.providers, Config.types, decide_eq_true_iff, List.mem_map, htype]

section DefaultProvider

variable {c c' : Config} (h : c'.defaultProvider = c.defaultProvider)
include h

theorem readRule_of_defaultProvider_eq (place : String) : readRule c' place = readRule c place := by
  have hprovider : ∀ fields, readProvider c' place fields = readProvider c place fields := by
    intro fields
    simp only [readProvider, h]
  funext v
  cases v with
  | object fields => simp only [readRule, hprovider]
  | _ => rfl

theorem readRules_of_defaultProvider_eq (place : String) (ds : List Directive) :
    readRules c' place ds = readRules c place ds := by
  simp only [readRules, readRule_of_defaultProvider_eq h]

theorem markerProviders_of_defaultProvider_eq (rules : List Rule) :
    markerProviders c' rules = markerProviders c rules := by
  rw [markerProviders_eq, markerProviders_eq, h]

end DefaultProvider

section Types

variable {c c' : Config} (hsub : c.types ⊆ c'.types)
include hsub

theorem isConfigured_of_types_subset {p : Provider} (hp : c.isConfigured p = true) :
    c'.isConfigured p = true := by
  rw [Config.isConfigured_iff] at hp ⊢
  exact hsub hp

theorem isConfigured_eq_of_types (hsub' : c'.types ⊆ c.types) : c'.isConfigured = c.isConfigured := by
  funext p
  rw [Bool.eq_iff_iff]
  exact ⟨isConfigured_of_types_subset hsub', isConfigured_of_types_subset hsub⟩

theorem Rule.Fits.of_types_subset {r : Rule} (h : r.Fits c) : r.Fits c' :=
  ⟨h.1, isConfigured_of_types_subset hsub h.2.1, h.2.2⟩

end Types

end Access

open Access (Config)

namespace Pass

variable {c c' : Config} (h : c'.defaultProvider = c.defaultProvider)
include h

theorem rulesAt_of_defaultProvider_eq (site : Site) : rulesAt c' site = rulesAt c site := by
  rw [rulesAt, rulesAt, Access.readRules_of_defaultProvider_eq h]

theorem markedDirectives_of_defaultProvider_eq (roots : List String) :
    markedDirectives c' roots = markedDirectives c roots := by
  funext site
  rw [markedDirectives, markedDirectives, siteMarkers, siteMarkers, rulesAt_of_defaultProvider_eq h,
    Access.markerProviders_of_defaultProvider_eq h]

theorem accessFaults_of_types_subset (hsub : c.types ⊆ c'.types) (roots models : List String) {site : Site}
    (hnone : accessFaults c roots models site = []) : accessFaults c' roots models site = [] := by
  by_cases hc : site.carries Access.authDirective = true
  · rw [accessFaults_eq_nil_iff c roots models hc] at hnone
    obtain ⟨htype, rules, hr, hfield, hfits, hmarkers⟩ := hnone
    rw [accessFaults_eq_nil_iff c' roots models hc, Access.readRules_of_defaultProvider_eq h]
    refine ⟨htype, rules, hr, hfield, fun r hrule => (hfits r hrule).of_types_subset hsub, ?_⟩
    rw [Access.markerProviders_of_defaultProvider_eq h]
    exact hmarkers
  · exact accessFaults_of_not_carries c' roots models hc

theorem accessFaults_congr (hconfigured : c'.isConfigured = c.isConfigured) (roots models : List String) :
    accessFaults c' roots models = accessFaults c roots models := by
  have hrule : Access.ruleFaults c' = Access.ruleFaults c := by
    funext r
    rw [Access.ruleFaults, Access.ruleFaults, hconfigured]
  funext site
  rw [accessFaults, accessFaults, Access.readRules_of_defaultProvider_eq h, hrule]
  simp only [Access.markerProviders_of_defaultProvider_eq h]

end Pass

section Compiled

variable {c c' : Config} (h : c'.defaultProvider = c.defaultProvider)
include h

theorem grantedFields_of_defaultProvider_eq (d : Document) : grantedFields d c' = grantedFields d c := by
  have hadmits : ∀ role, admits c' role = admits c role := by
    intro role
    funext site
    rw [admits, admits, Pass.rulesAt_of_defaultProvider_eq h]
  funext role
  rw [grantedFields, grantedFields, hadmits]

theorem compiled_of_defaultProvider_eq (d : Document) (cap : Int) : compiled d c' cap = compiled d c cap := by
  rw [compiled, compiled, Pass.markedDirectives_of_defaultProvider_eq h,
    grantedFields_of_defaultProvider_eq h]

theorem faults_eq_nil_of_types_subset (hsub : c.types ⊆ c'.types) {d : Document} (hnone : faults d c = []) :
    faults d c' = [] := by
  have hsites : ∀ site ∈ d.sites,
      Pass.accessFaults c' d.rootNames (d.typesCarrying Pass.modelDirective) site = [] := by
    intro site hs
    apply Pass.accessFaults_of_types_subset h hsub
    exact accessFaults_of_faults_eq_nil hnone hs
  -- functions are bound whatever the configuration is
  have hbound := (List.append_eq_nil_iff.1 hnone).1
  exact List.append_eq_nil_iff.2 ⟨hbound, List.flatMap_eq_nil_iff.2 hsites⟩

theorem faults_congr (hconfigured : c'.isConfigured = c.isConfigured) (d : Document) :
    faults d c' = faults d c := by
  rw [faults, faults, Pass.accessFaults_congr h hconfigured]

end Compiled

theorem compile_congr {c c' : Config} {cap : Int}
    (h : ∀ d, compileDocument d c' cap = compileDocument d c cap) (schema : String) :
    compile schema c' cap = compile schema c cap := by
  cases hread : Document.read schema with
  | ok d => rw [compile_eq_compileDocument hread, compile_eq_compileDocument hread, h d]
  | error fault =>
    unfold compile Pass.Pipeline.runText
    rw [hread]
    by_cases hcap : 1 ≤ cap
    · rw [ofCap_eq_ok c' hcap, ofCap_eq_ok c hcap]
      rfl
    · rw [Pass.Enforcement.ofCap, dif_pos (by omega), Pass.Enforcement.ofCap, dif_pos (by omega)]

/-- What is compiled under a configuration is compiled to the same under any other that has the same
default type, the same types and perhaps further ones. Without further ones, what fails under the one
fails under the other for the same reason. -/
theorem compile_of_types_subset {c c' : Config} (hmain : c'.main.type = c.main.type)
    (hsub : c.types ⊆ c'.types) (schema : String) (cap : Int) :
    (∀ out, compile schema c cap = .ok out → compile schema c' cap = .ok out) ∧
      (c'.types ⊆ c.types → compile schema c' cap = compile schema c cap) := by
  have hdefault : c'.defaultProvider = c.defaultProvider := congrArg Access.AuthenticationType.provider hmain
  constructor
  · intro out hout
    obtain ⟨d, hread, hcap, hnone, rfl⟩ := (compile_eq_ok_iff schema c cap out).1 hout
    rw [compile_eq_ok_iff]
    exact ⟨d, hread, hcap, faults_eq_nil_of_types_subset hdefault hsub hnone,
      compiled_of_defaultProvider_eq hdefault d cap⟩
  · intro hsub'
    have hconfigured := Access.isConfigured_eq_of_types hsub hsub'
    apply compile_congr
    intro d
    by_cases hcap : 1 ≤ cap
    · rw [compileDocument_eq_settled d c' hcap, compileDocument_eq_settled d c hcap,
        faults_congr hdefault hconfigured, compiled_of_defaultProvider_eq hdefault]
    · rw [compileDocument_of_cap_lt d c' (by omega), compileDocument_of_cap_lt d c (by omega)]

def keysAndIam : Config := ⟨.bare .userPools, [.bare .apiKey, .bare .iam], by decide⟩

/-- The same types in another order, of which one has settings. -/
def iamAndKeys : Config :=
  ⟨⟨.userPools, some [("userPoolId", .string "pool")], none⟩, [.bare .iam, .bare .apiKey], by decide⟩

def callerSchema : String :=
  "type Query \x7b a: ID @auth(rules: \x7ballow: private, provider: iam\x7d) @function(name: \"f\") \x7d"

def strangerSchema : String :=
  "type Query \x7b a: ID @auth(rules: \x7ballow: owner, provider: oidc\x7d) \x7d"

/-- Keys beside IAM change nothing for its callers. Strangers are refused for the same reason in whatever
order keys and IAM come. -/
theorem compile_of_types_subset_keysAndIam :
    (keysAndIam.main.type = userPoolsAndIam.main.type ∧ userPoolsAndIam.types ⊆ keysAndIam.types) ∧
    (∃ out, compile callerSchema userPoolsAndIam 25 = .ok out ∧
      out.policies.map (·.name) = ["AuthRolePolicy01"] ∧ compile callerSchema keysAndIam 25 = .ok out) ∧
    (iamAndKeys.types ⊆ keysAndIam.types ∧ keysAndIam.types ⊆ iamAndKeys.types) ∧
    compile strangerSchema keysAndIam 25 = compile strangerSchema iamAndKeys 25 ∧
    (compile strangerSchema iamAndKeys 25).isOk = false := by
  have hmain : keysAndIam.main.type = userPoolsAndIam.main.type := by decide
  have hadded : userPoolsAndIam.types ⊆ keysAndIam.types := by decide
  have hmain' : keysAndIam.main.type = iamAndKeys.main.type := by decide
  have hsame : iamAndKeys.types ⊆ keysAndIam.types ∧ keysAndIam.types ⊆ iamAndKeys.types := by decide
  have hnames : (compile callerSchema userPoolsAndIam 25).toOption.map
      (fun out => out.policies.map (·.name)) = some ["AuthRolePolicy01"] := by
    decide +kernel
  obtain ⟨out, hsome, hpolicies⟩ := Option.map_eq_some_iff.1 hnames
  have hout := eq_ok_of_toOption_eq_some hsome
  have hmore := (compile_of_types_subset hmain hadded callerSchema 25).1 out hout
  have hrefused : (compile strangerSchema iamAndKeys 25).isOk = false := by decide +kernel
  have hreordered := (compile_of_types_subset hmain' hsame.1 strangerSchema 25).2 hsame.2
  exact ⟨⟨hmain, hadded⟩, ⟨out, hout, hpolicies, hmore⟩, hsame, hreordered, hrefused⟩

end SchemaAccess

import SchemaAccess.Proofs.CompiledDocument

namespace SchemaAccess

open Access (Config Provider)
open GraphQL (Directive Document Site)
open Pass (Output)

/-- The markers that sites received between two documents, each with the place of its site, in the order
of the walk. -/
def received (d d' : Document) : List (String × String) :=
  (List.zipWith (fun before after => (before.appended after).map fun m => (after.place, m.name))
    d.sites d'.sites).flatten

theorem Access.markerFaults_append_markersOf (place : String) (providers : List Provider)
    (ds : List Directive) : markerFaults place providers (ds ++ markersOf providers) =
      (markersOf providers).map fun m => .rule (.markerPresent m.name place) := by
  have hpresent : ∀ p ∈ providers, GraphQL.carries p.marker (ds ++ markersOf providers) = true := by
    intro p hp
    rw [GraphQL.carries_append, carries_markersOf, decide_eq_true hp, Bool.or_true]
  rw [markerFaults, List.filter_eq_self.2 hpresent, markersOf, List.map_map]
  rfl

namespace Pass

open Access (authDirective markersOf markerProviders)

theorem accessFaults_marked {c : Config} {roots models : List String} {site : Site}
    (h : accessFaults c roots models site = []) : accessFaults c roots models (marked c roots site) =
      (siteMarkers c roots site).map fun m => .rule (.markerPresent m.name site.place) := by
  have halike := alike_marked c roots site
  have hcarries := halike.carries_eq Access.noMarker_auth
  by_cases hc : site.carries authDirective = true
  · obtain ⟨htype, rules, hr, hfield, hfits, -⟩ := (accessFaults_eq_nil_iff c roots models hc).1 h
    have hrules : Access.readRules c site.place (marked c roots site).directives = .ok rules := by
      rw [Access.readRules_congr c _ (halike.directivesNamed_eq Access.noMarker_auth), hr]
    have hfaults : rules.flatMap (Access.ruleFaults c) = [] :=
      List.flatMap_eq_nil_iff.2 fun r hrule => (Access.ruleFaults_eq_nil_iff c r).2 (hfits r hrule)
    rw [accessFaults, if_pos (hcarries.trans hc), typeFaults_eq_of_alike halike, htype, halike.place_eq,
      hrules, isMarkable_eq_of_alike halike]
    simp only [fieldFaults_eq_of_alike halike, hfield, hfaults, List.nil_append]
    cases hm : isMarkable roots site with
    | true =>
      rw [if_pos rfl, directives_marked, siteMarkers_of_readRules hc hm hr,
        Access.markerFaults_append_markersOf]
    | false => simp [siteMarkers, hm]
  · rw [accessFaults_of_not_carries c roots models (hcarries ▸ hc), siteMarkers]
    simp [hc]

end Pass

theorem received_withMarkers (c : Config) (d : Document) : received d (withMarkers c d) =
    d.sites.flatMap fun site =>
      (Pass.siteMarkers c d.rootNames site).map fun m => (site.place, m.name) := by
  have hsite : ∀ site : Site, site.appended (Pass.marked c d.rootNames site) =
      Pass.siteMarkers c d.rootNames site :=
    fun site => Site.appended_of_directives_eq (Pass.directives_marked c d.rootNames site)
  have hplace : ∀ site : Site, (Pass.marked c d.rootNames site).place = site.place :=
    fun site => (Pass.alike_marked c d.rootNames site).place_eq
  rw [received, sites_withMarkers, List.zipWith_map_right, List.zipWith_self, List.flatMap_def]
  simp only [hsite, hplace]

theorem faults_withMarkers {c : Config} {d : Document} (h : faults d c = []) :
    faults (withMarkers c d) c =
      (received d (withMarkers c d)).map fun r => .rule (.markerPresent r.2 r.1) := by
  have halike := (alike_withMarkers c d).padded
  have hbound := (List.append_eq_nil_iff.1 h).1
  rw [faults, halike.bindingFaults_eq Access.noMarker_function, hbound, List.nil_append, halike.rootNames,
    halike.typesCarrying_eq Access.noMarker_model, received_withMarkers, List.map_flatMap, sites_withMarkers,
    List.flatMap_map]
  refine List.flatMap_congr fun site hs => ?_
  rw [Pass.accessFaults_marked (accessFaults_of_faults_eq_nil h hs), List.map_map]
  rfl

theorem withMarkers_eq_self {c : Config} {d : Document} (h : received d (withMarkers c d) = []) :
    withMarkers c d = d := by
  rw [received_withMarkers, List.flatMap_eq_nil_iff] at h
  refine (d.withDirectives_congr fun site hs => ?_).trans d.withDirectives_directives
  rw [Pass.markedDirectives, List.map_eq_nil_iff.1 (h site hs), List.append_nil]

/-- If what is printed reads as it was, a compilation of what it gives fails for the first marker that it
has put in, or gives the same again if there is none. -/
theorem compile_own_output {schema : String} {c : Config} {cap : Int} {out : Output}
    (h : compile schema c cap = .ok out) (hround : Document.read out.schema = .ok out.document) :
    ∃ d, Document.read schema = .ok d ∧
      (∀ place marker rest, received d out.document = (place, marker) :: rest →
        compile out.schema c cap = .error (.rule (.markerPresent marker place))) ∧
      (received d out.document = [] → compile out.schema c cap = .ok out) := by
  obtain ⟨d, hread, hcap, hfaults, rfl⟩ := (compile_eq_ok_iff schema c cap out).1 h
  have hagain : compile (compiled d c cap).schema c cap =
      settled (faults (withMarkers c d) c) (compiled (withMarkers c d) c cap) :=
    (compile_eq_compileDocument hround c cap).trans (compileDocument_eq_settled (withMarkers c d) c hcap)
  refine ⟨d, hread, fun place marker rest hreceived => ?_, fun hnone => ?_⟩
  · have hfirst : received d (withMarkers c d) = (place, marker) :: rest := hreceived
    rw [hagain, faults_withMarkers hfaults, hfirst]
    rfl
  · rw [hagain, withMarkers_eq_self hnone, hfaults]
    rfl

/-- Two fields with rules, of which the second one gets a marker. -/
def secondFieldSchema : String :=
  "type Query \x7b a: ID @auth(rules: \x7ballow: owner\x7d) " ++
    "b: ID @auth(rules: \x7ballow: private, provider: iam\x7d) \x7d"

def secondFieldDocument (markers : List Directive) : Document :=
  [.object false ⟨none, "Query", [], [], [
    ⟨none, "a", [], .named "ID", [⟨"auth", [⟨"rules", .object [("allow", .enum "owner")]⟩]⟩]⟩,
    ⟨none, "b", [], .named "ID",
      ⟨"auth", [⟨"rules", .object [("allow", .enum "private"), ("provider", .enum "iam")]⟩]⟩ :: markers⟩]⟩]

set_option maxRecDepth 4000 in
theorem read_secondFieldSchema : Document.read secondFieldSchema = .ok (secondFieldDocument []) := by rfl

set_option maxRecDepth 8000 in
theorem read_written_secondFieldDocument :
    Document.read (secondFieldDocument [.plain "aws_iam"]).written =
      .ok (secondFieldDocument [.plain "aws_iam"]) := by rfl

theorem compile_own_output_secondFieldSchema :
    ∃ out, compile secondFieldSchema userPoolsAndIam 25 = .ok out ∧
      Document.read out.schema = .ok out.document ∧
      compile out.schema userPoolsAndIam 25 = .error (.rule (.markerPresent "aws_iam" "Query.b")) := by
  obtain ⟨out, h⟩ := exists_ok_of_isOk (x := compile secondFieldSchema userPoolsAndIam 25) (by decide +kernel)
  have hdocument : out.document = secondFieldDocument [.plain "aws_iam"] := by
    obtain ⟨d, hread, -, -, rfl⟩ := (compile_eq_ok_iff _ _ _ out).1 h
    rw [read_secondFieldSchema] at hread
    obtain rfl := Except.ok.inj hread
    rfl
  have hround : Document.read out.schema = .ok out.document := by
    rw [Output.schema, hdocument]
    exact read_written_secondFieldDocument
  obtain ⟨d, hread, hagain, -⟩ := compile_own_output h hround
  rw [read_secondFieldSchema] at hread
  obtain rfl := Except.ok.inj hread
  exact ⟨out, h, hround, hagain _ _ [] (by rw [hdocument]; rfl)⟩

end SchemaAccess

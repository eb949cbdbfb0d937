import SchemaAccess.Proofs.SchemaRewrite

namespace SchemaAccess

open Access (Config Provider)
open GraphQL (Directive Document Site)
open Pass (Output)

/-- A site has one marker of every provider that its rules call for, and none of a provider that they
do not use. -/
structure MarkedExactly (c : Config) (site : Site) : Prop where
  called : ∀ p ∈ calledFor c site.directives, (GraphQL.directivesNamed p.marker site.directives).length = 1
  unused : ∀ p ∉ Access.writtenProviders c site.directives, site.carries p.marker = false

/-- What becomes of the markers of a site. Those that its rules call for come once and were not there
before. All others stay as somebody has put them there. -/
structure Marks (c : Config) (before after : Site) : Prop where
  providers : Access.writtenProviders c after.directives = Access.writtenProviders c before.directives
  called : ∀ p ∈ calledFor c before.directives, before.carries p.marker = false ∧
    GraphQL.directivesNamed p.marker after.directives = [.plain p.marker]
  others : ∀ p ∉ calledFor c before.directives,
    GraphQL.directivesNamed p.marker after.directives = GraphQL.directivesNamed p.marker before.directives

theorem mem_calledFor_iff (c : Config) (ds : List Directive) (p : Provider) :
    p ∈ calledFor c ds ↔ p ∈ Access.writtenProviders c ds ∧ p ≠ c.defaultProvider := by
  simp [calledFor]

theorem nodup_calledFor (c : Config) (ds : List Directive) : (calledFor c ds).Nodup := nodup_eraseDups _

theorem writtenProviders_append_markersOf (c : Config) (ds : List Directive) (providers : List Provider) :
    Access.writtenProviders c (ds ++ Access.markersOf providers) = Access.writtenProviders c ds := by
  unfold Access.writtenProviders Access.writtenRules
  rw [GraphQL.directivesNamed_append,
    Access.directivesNamed_markersOf_eq_nil Access.marker_ne_authDirective, List.append_nil]

theorem carries_marker_eq_false {d : Document} {c : Config} (h : faults d c = []) {site : Site}
    (hs : site ∈ d.sites) (hm : IsMarked d site) {p : Provider} (hp : p ∈ calledFor c site.directives) :
    site.carries p.marker = false := by
  obtain ⟨hc, hmarkable⟩ := (isMarked_iff d site).1 hm
  obtain ⟨rules, hr, hfree⟩ := exists_readRules_of_faults_eq_nil h hs hc
  have hnone := List.filter_eq_nil_iff.1 (List.map_eq_nil_iff.1 (hfree hmarkable)) p
  rw [markerProviders_eq_calledFor hr] at hnone
  exact Bool.eq_false_iff.2 (hnone hp)

theorem marks_of_append_markersOf (c : Config) {before after : Site}
    (ha : after.directives = before.directives ++ Access.markersOf (calledFor c before.directives))
    (hnew : ∀ p ∈ calledFor c before.directives, before.carries p.marker = false) :
    Marks c before after where
  providers := by rw [ha, writtenProviders_append_markersOf]
  called p hp := by
    refine ⟨hnew p hp, ?_⟩
    rw [ha, GraphQL.directivesNamed_append, (GraphQL.directivesNamed_eq_nil_iff _ _).2 (hnew p hp),
      Access.directivesNamed_markersOf (nodup_calledFor c _) hp, List.nil_append]
  others p hp := by
    have hnone : GraphQL.carries p.marker (Access.markersOf (calledFor c before.directives)) = false := by
      rw [Access.carries_markersOf, decide_eq_false hp]
    rw [ha, GraphQL.directivesNamed_append, (GraphQL.directivesNamed_eq_nil_iff _ _).2 hnone,
      List.append_nil]

theorem Marks.markedExactly_iff {c : Config} {before after : Site} (h : Marks c before after) :
    MarkedExactly c after ↔
      ∀ p ∉ Access.writtenProviders c before.directives, before.carries p.marker = false := by
  have hunused : ∀ p ∉ Access.writtenProviders c before.directives,
      (after.carries p.marker = false ↔ before.carries p.marker = false) := by
    intro p hp
    -- what rules do not use, they do not call for
    have hother : p ∉ calledFor c before.directives := fun hc => hp ((mem_calledFor_iff c _ p).1 hc).1
    rw [Site.carries, Site.carries, ← GraphQL.directivesNamed_eq_nil_iff, h.others p hother,
      GraphQL.directivesNamed_eq_nil_iff]
  constructor
  · intro hexact p hp
    exact (hunused p hp).1 (hexact.unused p (h.providers ▸ hp))
  · intro hnone
    refine ⟨fun p hp => ?_, fun p hp => ?_⟩
    · rw [calledFor, h.providers] at hp
      rw [(h.called p hp).2]
      rfl
    · rw [h.providers] at hp
      exact (hunused p hp).2 (hnone p hp)

/-- Of the nodes that get markers, those are marked exactly on which nobody had put the marker of a
provider that their rules do not use. -/
theorem compile_marks {schema : String} {c : Config} {cap : Int} {out : Output}
    (h : compile schema c cap = .ok out) : ∃ d, Document.read schema = .ok d ∧
      List.Forall₂ (fun before after => IsMarked d before → Marks c before after ∧
        (MarkedExactly c after ↔
          ∀ p ∉ Access.writtenProviders c before.directives, before.carries p.marker = false))
        d.sites out.document.sites := by
  obtain ⟨d, hread, -, hfaults, rfl⟩ := (compile_eq_ok_iff schema c cap out).1 h
  refine ⟨d, hread, ?_⟩
  rw [compiled_document_eq d c cap hfaults, rewritten, Document.sites_withDirectives,
    List.forall₂_map_right_iff, List.forall₂_same]
  intro site hs hm
  have hafter := Site.directives_withDirectives (fun site => site.directives ++
    if IsMarked d site then (calledFor c site.directives).map fun p => .plain p.marker else []) site
  rw [if_pos hm] at hafter
  have hmarks := marks_of_append_markersOf c hafter fun p hp => carries_marker_eq_false hfaults hs hm hp
  exact ⟨hmarks, hmarks.markedExactly_iff⟩

def strayMarkerSchema : String := "type Post @model @auth(rules: [{allow: owner}]) @aws_iam { id: ID }"

/-- A marker that no rule calls for slips through. -/
theorem compile_marks_strayMarkerSchema : ∃ out, compile strayMarkerSchema userPoolsAndIam 25 = .ok out ∧
    ∃ d, Document.read strayMarkerSchema = .ok d ∧
      List.Forall₂ (fun before after => IsMarked d before → Marks userPoolsAndIam before after ∧
        (MarkedExactly userPoolsAndIam after ↔
          ∀ p ∉ Access.writtenProviders userPoolsAndIam before.directives,
            before.carries p.marker = false))
        d.sites out.document.sites := by
  obtain ⟨out, h⟩ := exists_ok_of_isOk (x := compile strayMarkerSchema userPoolsAndIam 25)
    (by decide +kernel)
  exact ⟨out, h, compile_marks h⟩

end SchemaAccess

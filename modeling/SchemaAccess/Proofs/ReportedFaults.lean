import SchemaAccess.Proofs.Acceptance
import SchemaAccess.Proofs.MarkerCalls
import SchemaAccess.Proofs.PassEnd

namespace SchemaAccess

open Access (Config Rule Provider markersOf)
open GraphQL (Composite Directive Document FieldDef Site)

namespace Access

/-- Why a rule is refused: its strategy speaks first, then the configuration, then its groups. -/
inductive Refuses (c : Config) (r : Rule) : Failure → Prop
  | forbidden (hstrategy : r.provider ∉ r.strategy.providers) :
      Refuses c r (.placement (.providerForbidden r.strategy r.provider))
  | unconfigured (hstrategy : r.provider ∈ r.strategy.providers)
      (hconfig : c.isConfigured r.provider = false) : Refuses c r (.rule (.providerNotConfigured r.provider))
  | groupsMissing (hstrategy : r.provider ∈ r.strategy.providers) (hconfig : c.isConfigured r.provider = true)
      (hgroups : r.strategy = .groups) (hnone : r.namesGroups = false) : Refuses c r (.rule .groupsMissing)

theorem checkType_eq_error_iff (isModel : Bool) (f : Failure) :
    checkType isModel = .error f ↔ isModel = false ∧ f = .placement .typeWithoutModel := by
  rw [checkType_eq_settled, settled_eq_error_iff]
  cases isModel <;> simp [eq_comm]

theorem checkType_eq_ok_iff (isModel : Bool) (u : Unit) : checkType isModel = .ok u ↔ isModel = true := by
  rw [checkType_eq_settled, settled_eq_ok_iff]
  cases isModel <;> simp

theorem checkField_eq_error_iff (rules : List Rule) (parentIsRoot parentIsModel : Bool) (f : Failure) :
    checkField rules parentIsRoot parentIsModel = .error f ↔ (∃ r ∈ rules, r.operations ≠ none) ∧
      (parentIsRoot = true ∧ f = .placement .operationsOnRootField ∨
        parentIsRoot = false ∧ parentIsModel = false ∧ f = .placement .operationsOnPlainField) := by
  rw [checkField_eq_settled, settled_eq_error_iff, ← any_restricted_iff]
  unfold restrictionFaults
  cases rules.any (·.restricted) <;> cases parentIsRoot <;> cases parentIsModel <;> simp [eq_comm]

theorem checkField_eq_ok_iff (rules : List Rule) (parentIsRoot parentIsModel : Bool) (u : Unit) :
    checkField rules parentIsRoot parentIsModel = .ok u ↔
      ((∃ r ∈ rules, r.operations ≠ none) → parentIsRoot = false ∧ parentIsModel = true) := by
  rw [checkField_eq_settled, settled_eq_ok_iff, restrictionFaults_eq_nil_iff]
  exact and_iff_left rfl

theorem checkRule_eq_error_iff (c : Config) (r : Rule) (f : Failure) :
    checkRule c r = .error f ↔ Refuses c r f := by
  constructor
  · intro h
    unfold checkRule at h
    split at h
    · rename_i hstrategy
      obtain rfl := Except.error.inj h
      exact .forbidden hstrategy
    · rename_i hstrategy
      rw [not_not] at hstrategy
      split at h
      · rename_i hconfig
        obtain rfl := Except.error.inj h
        exact .unconfigured hstrategy (by simpa using hconfig)
      · rename_i hconfig
        split at h
        · rename_i hgroups
          obtain rfl := Except.error.inj h
          exact .groupsMissing hstrategy (by simpa using hconfig) hgroups.1 (by simpa using hgroups.2)
        · contradiction
  · intro h
    cases h with
    | forbidden hstrategy => exact if_pos hstrategy
    | unconfigured hstrategy hconfig =>
      rw [checkRule, if_neg (not_not.2 hstrategy), if_pos (by simp [hconfig])]
      rfl
    | groupsMissing hstrategy hconfig hgroups hnone =>
      rw [checkRule, if_neg (not_not.2 hstrategy), if_neg (by simp [hconfig]),
        if_pos ⟨hgroups, by simp [hnone]⟩]
      rfl

theorem checkRules_eq_error_iff (c : Config) (rules : List Rule) (f : Failure) :
    checkRules c rules = .error f ↔ ∃ before r after, rules = before ++ r :: after ∧
      (∀ x ∈ before, x.Fits c) ∧ Refuses c r f := by
  rw [checkRules_eq_settled, settled_eq_error_iff, head?_flatMap_eq_some_iff]
  simp only [ruleFaults_eq_nil_iff, ← checkRule_eq_error_iff, checkRule_eq_settled, settled_eq_error_iff]

theorem checkRules_eq_ok_iff (c : Config) (rules : List Rule) (u : Unit) :
    checkRules c rules = .ok u ↔ ∀ r ∈ rules, r.Fits c := by
  rw [checkRules_eq_settled, settled_eq_ok_iff, List.flatMap_eq_nil_iff]
  simp only [ruleFaults_eq_nil_iff, and_true]

theorem mark_eq_error_iff (c : Config) (place : String) (rules : List Rule) (ds left : List Directive)
    (f : Failure) : mark c place rules ds = ⟨left, .error f⟩ ↔ ∃ before p after,
      FirstUses c rules (before ++ p :: after) ∧
      (∀ q ∈ before, GraphQL.carries q.marker ds = false) ∧ GraphQL.carries p.marker ds = true ∧
      f = .rule (.markerPresent p.marker place) ∧ left = ds ++ markersOf before := by
  constructor
  · intro h
    obtain ⟨providers, hfirst, hadds⟩ := (answers_mark c place rules ds).adds
    rw [h] at hadds
    cases hadds with
    | upTo hnew hpresent => exact ⟨_, _, _, hfirst, hnew, hpresent, rfl, rfl⟩
  · rintro ⟨before, p, after, hfirst, hnew, hpresent, rfl, rfl⟩
    have hadds := adds_mark c place rules ds
    rw [(firstUses_markerProviders c rules).unique hfirst] at hadds
    exact hadds.unique (.upTo hnew hpresent)

end Access

/-- The site with other directives of its own. Those of the fields of a type stay. -/
def GraphQL.Site.given (site : Site) (ds : List Directive) : Site :=
  match site with
  | .type node => .type { node with directives := ds }
  | .field typeName f => .field typeName { f with directives := ds }

namespace Pass

/-- Work on the directives of one node. Work that fails leaves them as they are by then. -/
abbrev NodeWork := EStateM Failure (List Directive)

namespace NodeWork

variable {α : Type}

def check (look : List Directive → Except Failure α) : NodeWork α := fun ds =>
  match look ds with
  | .ok a => .ok a ds
  | .error f => .error f ds

/-- A marking keeps the markers that it has added, also if it fails. -/
def ofMarking : Access.Marking → EStateM.Result Failure (List Directive) Unit
  | ⟨left, .ok _⟩ => .ok () left
  | ⟨left, .error f⟩ => .error f left

def mark (c : Config) (place : String) (rules : List Rule) : NodeWork Unit := fun ds =>
  ofMarking (Access.mark c place rules ds)

/-- The directives that work ends with, if it does not fail. -/
def result (x : NodeWork Unit) (ds : List Directive) : Except Failure (List Directive) :=
  match x.run ds with
  | .ok _ left => .ok left
  | .error f _ => .error f

theorem run_check_bind_eq_error_iff (look : List Directive → Except Failure α) (k : α → NodeWork Unit)
    (ds left : List Directive) (f : Failure) : (check look >>= k).run ds = .error f left ↔
      look ds = .error f ∧ left = ds ∨ ∃ a, look ds = .ok a ∧ (k a).run ds = .error f left := by
  change EStateM.bind (check look) k ds = _ ↔ _
  unfold EStateM.bind check
  cases look ds with
  | ok a => simp [EStateM.run]
  | error f' => simp [eq_comm]

theorem result_check_bind (look : List Directive → Except Failure α) (k : α → NodeWork Unit)
    (ds : List Directive) : (check look >>= k).result ds = look ds >>= fun a => (k a).result ds := by
  change (match EStateM.bind (check look) k ds with
    | .ok _ left => Except.ok left
    | .error f _ => .error f) = _
  unfold EStateM.bind check
  cases look ds <;> rfl

theorem run_mark_eq_error_iff (c : Config) (place : String) (rules : List Rule) (ds left : List Directive)
    (f : Failure) : (mark c place rules).run ds = .error f left ↔
      Access.mark c place rules ds = ⟨left, .error f⟩ := by
  change ofMarking (Access.mark c place rules ds) = _ ↔ _
  rcases Access.mark c place rules ds with ⟨left', _ | _⟩ <;> simp [ofMarking, and_comm]

theorem result_mark (c : Config) (place : String) (rules : List Rule) (ds : List Directive) :
    (mark c place rules).result ds = (Access.mark c place rules ds).complete := by
  change (match ofMarking (Access.mark c place rules ds) with
    | .ok _ left => Except.ok left
    | .error f _ => .error f) = _
  rcases Access.mark c place rules ds with ⟨left', _ | _⟩ <;> rfl

end NodeWork

/-- Enforcing rules on the directives of a site, step by step. -/
def Enforcement.work (e : Enforcement) (s : Session) : Site → NodeWork Unit
  | .type node => do
    NodeWork.check fun _ => Access.checkType (s.isModel node.name)
    let rules ← NodeWork.check (Access.readRules e.config node.name)
    NodeWork.check fun _ => Access.checkRules e.config rules
    if s.isRoot node.name then pure () else NodeWork.mark e.config node.name rules
  | .field typeName f => do
    let place := GraphQL.location (some typeName) f.name
    let rules ← NodeWork.check (Access.readRules e.config place)
    NodeWork.check fun _ => Access.checkField rules (s.isRoot typeName) (s.isModel typeName)
    NodeWork.check fun _ => Access.checkRules e.config rules
    NodeWork.mark e.config place rules

def Enforcement.atSite (e : Enforcement) : Site → Step Site
  | .type node => return .type (← (Handler.auth e).atObject node)
  | .field typeName f => return .field typeName (← (Handler.auth e).atField typeName f)

section Handled

variable (e : Enforcement) (s : Session)

theorem object_eq_result (node : Composite) : e.object s node =
    (fun ds => { node with directives := ds }) <$> (e.work s (.type node)).result node.directives := by
  unfold Enforcement.object Enforcement.work
  simp only [NodeWork.result_check_bind, map_bind]
  -- check by check, both go on alike
  apply bind_congr
  intro _
  apply bind_congr
  intro rules
  apply bind_congr
  intro _
  cases s.isRoot node.name with
  | true => rfl
  | false =>
    rw [if_neg Bool.false_ne_true, if_neg Bool.false_ne_true, NodeWork.result_mark]
    exact bind_pure_comp _ _

theorem field_eq_result (typeName : String) (f : FieldDef) : (·.2) <$> e.field s typeName f =
    (fun ds => { f with directives := ds }) <$> (e.work s (.field typeName f)).result f.directives := by
  unfold Enforcement.field Enforcement.work
  simp only [NodeWork.result_check_bind, map_bind]
  apply bind_congr
  intro rules
  apply bind_congr
  intro _
  apply bind_congr
  intro _
  rw [NodeWork.result_mark]
  exact bind_pure_comp _ _

theorem outcome_atSite (site : Site) : (·.1) <$> (e.atSite site).outcome s =
    site.given <$> (e.work s site).result site.directives := by
  cases site with
  | type node =>
    have hgiven : Site.given (.type node) <$> (e.work s (.type node)).result node.directives =
        Site.type <$> e.object s node := by
      rw [object_eq_result, Functor.map_map]
      rfl
    rw [Enforcement.atSite, Step.outcome_bind, outcome_atObject_auth]
    refine Eq.trans ?_ hgiven.symm
    cases e.object s node <;> rfl
  | field typeName f =>
    have hgiven : Site.given (.field typeName f) <$> (e.work s (.field typeName f)).result f.directives =
        Site.field typeName <$> (·.2) <$> e.field s typeName f := by
      rw [field_eq_result, Functor.map_map]
      rfl
    rw [Enforcement.atSite, Step.outcome_bind, outcome_atField_auth]
    refine Eq.trans ?_ hgiven.symm
    cases e.field s typeName f <;> rfl

end Handled

/-- A session of a pass over a document knows which of its types are roots, and which are models. -/
structure Session.Knows (s : Session) (d : Document) : Prop where
  rootTypes : s.rootTypes = d.rootNames
  modelTypes : s.modelTypes = d.typesCarrying modelDirective

theorem knows_ofDocument (d : Document) : (Session.ofDocument d).Knows d := ⟨rfl, rfl⟩

section Knows

variable {s : Session} {d : Document} (h : s.Knows d) (typeName : String)
include h

theorem Session.Knows.isRoot_iff : s.isRoot typeName = true ↔ d.IsRootName typeName := by
  rw [isRoot, decide_eq_true_iff, h.rootTypes, Document.mem_rootNames_iff]

theorem Session.Knows.isModel_iff : s.isModel typeName = true ↔ IsModel d typeName := by
  rw [isModel, decide_eq_true_iff, h.modelTypes, mem_typesCarrying_modelDirective_iff]

theorem Session.Knows.isRoot_eq_false_iff : s.isRoot typeName = false ↔ ¬ d.IsRootName typeName := by
  rw [← h.isRoot_iff, Bool.not_eq_true]

theorem Session.Knows.isModel_eq_false_iff : s.isModel typeName = false ↔ ¬ IsModel d typeName := by
  rw [← h.isModel_iff, Bool.not_eq_true]

end Knows

end Pass

/-- A type has to be a model before its rules are read. Those of a field are read in any case. -/
def IsReadAt (d : Document) : Site → Prop
  | .type node => IsModel d node.name
  | .field _ _ => True

/-- Rules may stand on models, and on fields. There they may have operations only if the field is one of a
model that is not a root type. -/
def MayStandAt (d : Document) (rules : List Rule) : Site → Prop
  | .type node => IsModel d node.name
  | .field typeName _ => (∃ r ∈ rules, r.operations ≠ none) → ¬ d.IsRootName typeName ∧ IsModel d typeName

/-- Root types get no markers themselves. -/
def GetsMarkers (d : Document) : Site → Prop
  | .type node => ¬ d.IsRootName node.name
  | .field _ _ => True

/-- What is reported at a site, and the directives that are left there. -/
inductive Reported (d : Document) (c : Config) : Site → Failure → List Directive → Prop
  /-- Whatever its rules are. -/
  | plainType {node : Composite} (hmodel : ¬ IsModel d node.name) :
      Reported d c (.type node) (.placement .typeWithoutModel) node.directives
  | unread {site : Site} {f : Failure} (hat : IsReadAt d site)
      (hread : Access.readRules c site.place site.directives = .error f) : Reported d c site f site.directives
  /-- Whatever else is wrong with its rules. -/
  | rootField {typeName : String} {field : FieldDef} {rules : List Rule}
      (hread : Access.readRules c (Site.field typeName field).place field.directives = .ok rules)
      (hoperations : ∃ r ∈ rules, r.operations ≠ none) (hroot : d.IsRootName typeName) :
      Reported d c (.field typeName field) (.placement .operationsOnRootField) field.directives
  | plainField {typeName : String} {field : FieldDef} {rules : List Rule}
      (hread : Access.readRules c (Site.field typeName field).place field.directives = .ok rules)
      (hoperations : ∃ r ∈ rules, r.operations ≠ none) (hroot : ¬ d.IsRootName typeName)
      (hmodel : ¬ IsModel d typeName) :
      Reported d c (.field typeName field) (.placement .operationsOnPlainField) field.directives
  /-- The first rule that is refused counts. -/
  | rule {site : Site} {before after : List Rule} {r : Rule} {f : Failure}
      (hread : Access.readRules c site.place site.directives = .ok (before ++ r :: after))
      (hplace : MayStandAt d (before ++ r :: after) site) (hbefore : ∀ x ∈ before, x.Fits c)
      (hrule : Access.Refuses c r f) : Reported d c site f site.directives
  /-- The markers of providers that come before stay. -/
  | marker {site : Site} {rules : List Rule} {before after : List Provider} {p : Provider}
      (hread : Access.readRules c site.place site.directives = .ok rules) (hplace : MayStandAt d rules site)
      (hfits : ∀ r ∈ rules, r.Fits c) (hmarkers : GetsMarkers d site)
      (hfirst : Access.FirstUses c rules (before ++ p :: after))
      (hnew : ∀ q ∈ before, site.carries q.marker = false) (hpresent : site.carries p.marker = true) :
      Reported d c site (.rule (.markerPresent p.marker site.place)) (site.directives ++ markersOf before)

section Reports

variable {d : Document} {s : Pass.Session} (h : s.Knows d) (e : Pass.Enforcement)
include h

theorem run_work_type_eq_error_iff (node : Composite) (f : Failure) (left : List Directive) :
    (e.work s (.type node)).run node.directives = .error f left ↔
      Reported d e.config (.type node) f left := by
  have hmarks : ∀ rules : List Rule,
      (if s.isRoot node.name then pure () else Pass.NodeWork.mark e.config node.name rules :
        Pass.NodeWork Unit).run node.directives = .error f left ↔
      ¬ d.IsRootName node.name ∧ Access.mark e.config node.name rules node.directives = ⟨left, .error f⟩ := by
    intro rules
    rw [← h.isRoot_iff, ← Pass.NodeWork.run_mark_eq_error_iff]
    split
    · rename_i hroot
      apply iff_of_false
      · intro hfails
        contradiction
      · intro hmark
        exact hmark.1 hroot
    · rename_i hroot
      exact (and_iff_right hroot).symm
  simp only [Pass.Enforcement.work, Pass.NodeWork.run_check_bind_eq_error_iff, hmarks, exists_const,
    Access.checkType_eq_error_iff, Access.checkType_eq_ok_iff, Access.checkRules_eq_error_iff,
    Access.checkRules_eq_ok_iff, Access.mark_eq_error_iff, h.isModel_iff, h.isModel_eq_false_iff]
  -- each check that fails is one alternative, in which those before it go through
  constructor
  · rintro (⟨⟨hmodel, rfl⟩, rfl⟩ | ⟨hmodel, ⟨hread, rfl⟩ |
      ⟨rules, hread, ⟨⟨before, r, after, rfl, hbefore, hrule⟩, rfl⟩ |
        ⟨hfits, hroot, before, p, after, hfirst, hnew, hpresent, rfl, rfl⟩⟩⟩)
    · exact .plainType hmodel
    · exact .unread hmodel hread
    · exact .rule hread hmodel hbefore hrule
    · exact .marker hread hmodel hfits hroot hfirst hnew hpresent
  · intro hreported
    cases hreported with
    | plainType hmodel => exact .inl ⟨⟨hmodel, rfl⟩, rfl⟩
    | unread hat hread => exact .inr ⟨hat, .inl ⟨hread, rfl⟩⟩
    | rule hread hplace hbefore hrule =>
      exact .inr ⟨hplace, .inr ⟨_, hread, .inl ⟨⟨_, _, _, rfl, hbefore, hrule⟩, rfl⟩⟩⟩
    | marker hread hplace hfits hmarkers hfirst hnew hpresent =>
      exact .inr ⟨hplace, .inr ⟨_, hread, .inr
        ⟨hfits, hmarkers, _, _, _, hfirst, hnew, hpresent, rfl, rfl⟩⟩⟩

theorem run_work_field_eq_error_iff (typeName : String) (field : FieldDef) (f : Failure)
    (left : List Directive) : (e.work s (.field typeName field)).run field.directives = .error f left ↔
      Reported d e.config (.field typeName field) f left := by
  simp only [Pass.Enforcement.work, Pass.NodeWork.run_check_bind_eq_error_iff, exists_const,
    Pass.NodeWork.run_mark_eq_error_iff, Access.checkField_eq_error_iff, Access.checkField_eq_ok_iff,
    Access.checkRules_eq_error_iff, Access.checkRules_eq_ok_iff, Access.mark_eq_error_iff, h.isRoot_iff,
    h.isModel_iff, h.isRoot_eq_false_iff, h.isModel_eq_false_iff]
  constructor
  · rintro (⟨hread, rfl⟩ | ⟨rules, hread,
      ⟨⟨hoperations, ⟨hroot, rfl⟩ | ⟨hroot, hmodel, rfl⟩⟩, rfl⟩ |
      ⟨hplace, ⟨⟨before, r, after, rfl, hbefore, hrule⟩, rfl⟩ |
        ⟨hfits, before, p, after, hfirst, hnew, hpresent, rfl, rfl⟩⟩⟩)
    · exact .unread trivial hread
    · exact .rootField hread hoperations hroot
    · exact .plainField hread hoperations hroot hmodel
    · exact .rule hread hplace hbefore hrule
    · exact .marker hread hplace hfits trivial hfirst hnew hpresent
  · intro hreported
    cases hreported with
    | unread hat hread => exact .inl ⟨hread, rfl⟩
    | rootField hread hoperations hroot =>
      exact .inr ⟨_, hread, .inl ⟨⟨hoperations, .inl ⟨hroot, rfl⟩⟩, rfl⟩⟩
    | plainField hread hoperations hroot hmodel =>
      exact .inr ⟨_, hread, .inl ⟨⟨hoperations, .inr ⟨hroot, hmodel, rfl⟩⟩, rfl⟩⟩
    | rule hread hplace hbefore hrule =>
      exact .inr ⟨_, hread, .inr ⟨hplace, .inl ⟨⟨_, _, _, rfl, hbefore, hrule⟩, rfl⟩⟩⟩
    | marker hread hplace hfits hmarkers hfirst hnew hpresent =>
      exact .inr ⟨_, hread, .inr ⟨hplace, .inr
        ⟨hfits, _, _, _, hfirst, hnew, hpresent, rfl, rfl⟩⟩⟩

theorem run_work_eq_error_iff (site : Site) (f : Failure) (left : List Directive) :
    (e.work s site).run site.directives = .error f left ↔ Reported d e.config site f left := by
  cases site with
  | type node => exact run_work_type_eq_error_iff h e node f left
  | field typeName field => exact run_work_field_eq_error_iff h e typeName field f left

end Reports

theorem Reported.left_eq {d : Document} {c : Config} {site : Site} {f : Failure} {left : List Directive}
    (h : Reported d c site f left) (hf : ∀ marker, f ≠ .rule (.markerPresent marker site.place)) :
    left = site.directives := by
  cases h with
  | marker => exact absurd rfl (hf _)
  | _ => rfl

/-- How the handler of access rules fails at a site. -/
structure Reports (d : Document) (e : Pass.Enforcement) (s : Pass.Session) (site : Site) : Prop where
  /-- What the handler does, it does by work on directives. -/
  handler : (·.1) <$> (e.atSite site).outcome s = site.given <$> (e.work s site).result site.directives
  reported : ∀ f left, (e.work s site).run site.directives = .error f left ↔ Reported d e.config site f left
  untouched : ∀ f left, (e.work s site).run site.directives = .error f left →
    (∀ marker, f ≠ .rule (.markerPresent marker site.place)) → left = site.directives

/-- In a session that knows its document, at any type or field and for any rules there, the fault that is
reported is told by the document. So is whether directives have changed by then. -/
theorem reports_atSite {d : Document} {s : Pass.Session} (h : s.Knows d) (e : Pass.Enforcement) (site : Site) :
    Reports d e s site where
  handler := Pass.outcome_atSite e s site
  reported := run_work_eq_error_iff h e site
  untouched f left hfails hf := ((run_work_eq_error_iff h e site f left).1 hfails).left_eq hf

/-- A field with a rule for owners that keys are to vouch for, and for reading alone. The marker of keys is
there already. -/
def crowdedField : FieldDef where
  description := none
  name := "a"
  arguments := []
  type := .named "ID"
  directives := [⟨"auth", [⟨"rules", .list [.object [("allow", .enum "owner"), ("provider", .enum "apiKey"),
    ("operations", .list [.enum "read"])]]⟩]⟩, .plain "aws_api_key"]

def crowdedDocument : Document := [.object false ⟨none, "Query", [], [.plain "model"], [crowdedField]⟩]

def iamPass : Pass.Enforcement := ⟨iamOnly, 10, "Api", by decide⟩

/-- Of all that is wrong with the field, its operations are reported, and nothing happens to it. -/
theorem reports_atSite_crowdedField :
    (Pass.Session.ofDocument crowdedDocument).Knows crowdedDocument ∧
    Reports crowdedDocument iamPass (.ofDocument crowdedDocument) (.field "Query" crowdedField) ∧
    Reported crowdedDocument iamPass.config (.field "Query" crowdedField)
      (.placement .operationsOnRootField) crowdedField.directives := by
  have hknows := Pass.knows_ofDocument crowdedDocument
  have hreports := reports_atSite hknows iamPass (.field "Query" crowdedField)
  have hfails : (iamPass.work (.ofDocument crowdedDocument) (.field "Query" crowdedField)).run
      crowdedField.directives = .error (.placement .operationsOnRootField) crowdedField.directives := by
    rfl
  exact ⟨hknows, hreports, (hreports.reported _ _).1 hfails⟩

end SchemaAccess

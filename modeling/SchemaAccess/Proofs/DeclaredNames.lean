import SchemaAccess.Proofs.FullDeployment
import SchemaAccess.Proofs.NameCollisions
import SchemaAccess.Proofs.RuleOrder

namespace SchemaAccess

open Access (Role)
open GraphQL (Document)
open Pass (Pipeline Output)

namespace Deploy

/-- A dash before the last seven characters, as in all names that have been cut. -/
def EndsAsCut (s : String) : Prop := ∃ start digits, digits.length = 7 ∧ s.toList = start ++ '-' :: digits

theorem not_endsAsCut_append (s : String) {t : String} (hlength : 7 < t.length) (hdash : '-' ∉ t.toList) :
    ¬ EndsAsCut (s ++ t) := by
  rintro ⟨start, digits, hdigits, h⟩
  have hends : '-' :: digits <:+ (s ++ t).toList := ⟨start, h.symm⟩
  have hother : t.toList <:+ (s ++ t).toList := ⟨s.toList, String.toList_append.symm⟩
  have hshorter : ('-' :: digits).length ≤ t.toList.length := by
    rw [List.length_cons, hdigits, String.length_toList]
    exact hlength
  have hsuffix := List.suffix_of_suffix_length_le hends hother hshorter
  exact hdash (hsuffix.mem List.mem_cons_self)

namespace NameFrame

theorem endsAsCut_of_eq {s t : String} {n : Nat}
    (h : s.toList.take n ++ '-' :: (Sha256.hex s).toList.take 7 = t.toList) : EndsAsCut t := by
  have hdigits : ((Sha256.hex s).toList.take 7).length = 7 := by
    rw [List.length_take, Sha256.length_hex]
    rfl
  exact ⟨_, _, hdigits, h.symm⟩

theorem not_meets {room : Int} {s t : String} (hhash : shortHash s ≠ shortHash t) (hs : ¬ EndsAsCut s)
    (ht : ¬ EndsAsCut t) : ¬ Meets room s t := by
  intro h
  cases h with
  | bothCut _ _ _ h => exact hhash (congrArg String.ofList h)
  | firstCut _ _ h => exact ht (endsAsCut_of_eq h)
  | secondCut _ _ h => exact hs (endsAsCut_of_eq h)

section Named

variable {α β : Type} {f : NameFrame} {nameOf : α → String} {idOf : β → String} {items : List α}
  {named : List β}
  (h : List.Forall₂ (fun a b => f.name (nameOf a) = .ok (idOf b)) items named)
include h

theorem map_eq_map_of_named : named.map idOf = items.map fun a => f.around (f.fitted (nameOf a)) := by
  induction h with
  | nil => rfl
  | cons hab _ ih =>
    obtain ⟨-, heq⟩ := (f.name_eq_ok_iff _ _).1 hab
    rw [List.map_cons, List.map_cons, ih, heq]

theorem nodup_of_named (hends : ∀ a ∈ items, ¬ EndsAsCut (nameOf a))
    (hhash : (items.map fun a => shortHash (nameOf a)).Nodup) : (named.map idOf).Nodup := by
  rw [map_eq_map_of_named h]
  rw [List.Nodup, List.pairwise_map] at hhash ⊢
  apply hhash.imp_of_mem
  intro a b ha hb hne hsame
  -- what goes around both names is the same, so that they would have to meet within it
  have hnames : nameOf a ≠ nameOf b := fun heq => hne (congrArg shortHash heq)
  have hfitted : f.fitted (nameOf a) = f.fitted (nameOf b) := f.around_injective hsame
  exact not_meets hne (hends a ha) (hends b hb) ((f.fitted_eq_iff_meets hnames).1 hfitted)

theorem length_le_of_named : ∀ b ∈ named, ((idOf b).length : Int) ≤ f.limit - f.reserved :=
  forall_mem_of_forall₂ h (P := fun _ => True) (fun _ _ hab _ => f.keepsBounds_room.length_le _ _ hab)
    fun _ _ => trivial

end Named

end NameFrame

/-- The name of a policy before it is cut. -/
def wholePolicyName (component : String) (d : Policy.Document) : String := component ++ "-" ++ d.name

/-- The name of an attachment before it is cut. -/
def wholeAttachmentName (component : String) (d : Policy.Document) : String :=
  component ++ "-" ++ d.name ++ "-attachment"

theorem not_endsAsCut_wholePolicyName (component : String) {d : Policy.Document} {role : Role} {index : Nat}
    (h : d.name = Policy.numberedName role index) : ¬ EndsAsCut (wholePolicyName component d) := by
  have hlength : 7 < d.name.length := by
    have hstem : 7 < role.policyStem.length := by cases role <;> decide
    rw [h, Policy.numberedName, String.length_append]
    omega
  apply not_endsAsCut_append _ hlength
  rw [h]
  exact Policy.dash_notMem_numberedName role index

theorem not_endsAsCut_wholeAttachmentName (component : String) (d : Policy.Document) :
    ¬ EndsAsCut (wholeAttachmentName component d) := by
  have hending : "-attachment" = "-" ++ "attachment" := rfl
  rw [wholeAttachmentName, hending, ← String.append_assoc]
  exact not_endsAsCut_append _ (by decide) (by decide)

/-- What a deployment declares for the documents of an API, and under which names. -/
structure NamesApart (n : Naming) (a : Api) (plan : Plan) : Prop where
  /-- A policy and an attachment for each document, in order. -/
  declared : ∃ declared, List.Forall₂ (DeclaredFor n a.request) a.output.policies declared ∧
    plan.policies = declared.map Prod.fst ∧ plan.attachments = declared.map Prod.snd
  policies : (a.output.policies.map fun d => shortHash (wholePolicyName a.request.name d)).Nodup →
    (plan.policies.map (·.id)).Nodup
  attachments : (a.output.policies.map fun d => shortHash (wholeAttachmentName a.request.name d)).Nodup →
    (plan.attachments.map (·.id)).Nodup
  policy_length : ∀ p ∈ plan.policies, p.id.length + 8 ≤ 128
  attachment_length : ∀ x ∈ plan.attachments, x.id.length + 8 ≤ 128

theorem exists_run_of_compile {schema : String} {c : Access.Config} {cap : Int} {out : Output}
    (h : compile schema c cap = .ok out) : ∃ (p : Pipeline) (d : Document), (p.run d).1 = .ok out := by
  rw [compile, Access.bind_eq_ok_iff] at h
  obtain ⟨e, -, h⟩ := h
  unfold Pipeline.runText at h
  split at h
  · exact ⟨_, _, h⟩
  · contradiction

theorem exists_name_eq_numberedName {p : Pipeline} {d : Document} {out : Output} (h : (p.run d).1 = .ok out)
    {doc : Policy.Document} (hdoc : doc ∈ out.policies) :
    ∃ role index, doc.name = Policy.numberedName role index := by
  obtain ⟨given, cap, hdrawn⟩ := Pass.exists_policies_eq_drawn h
  rw [hdrawn, Policy.Ledger.drawn] at hdoc
  rcases List.mem_append.1 hdoc with hmem | hmem
  · exact ⟨.auth, Policy.name_of_mem_documentsOf hmem⟩
  · exact ⟨.unauth, Policy.name_of_mem_documentsOf hmem⟩

/-- Whatever a pass has granted and whatever a component is called, hashes that differ are enough to keep the names
of its policies apart, and those of its attachments. -/
theorem namesApart_of_run {p : Pipeline} {d : Document} {a : Api} (hout : (p.run d).1 = .ok a.output) {n : Naming}
    {daysLeft : Int} {plan : Plan} (hplan : Plan.ofApi (some n) daysLeft a = .ok plan) : NamesApart n a plan := by
  obtain ⟨declared, hall, hpolicies, hattachments⟩ := (declaresAll_of_ofApi hplan).policies
  have hpolicy : List.Forall₂ (fun doc x => (frame n "-p" policyNameLimit).name
      (wholePolicyName a.request.name doc) = .ok x.1.id) a.output.policies declared :=
    hall.imp fun _ _ hx => hx.policy_name
  have hattachment : List.Forall₂ (fun doc x => (frame n "" policyNameLimit).name
      (wholeAttachmentName a.request.name doc) = .ok x.2.id) a.output.policies declared :=
    hall.imp fun _ _ hx => hx.attachment_name
  constructor
  case declared => exact ⟨declared, hall, hpolicies, hattachments⟩
  case policies =>
    intro hhash
    rw [hpolicies, List.map_map]
    apply NameFrame.nodup_of_named hpolicy _ hhash
    intro doc hdoc
    obtain ⟨role, index, hname⟩ := exists_name_eq_numberedName hout hdoc
    exact not_endsAsCut_wholePolicyName _ hname
  case attachments =>
    intro hhash
    rw [hattachments, List.map_map]
    exact NameFrame.nodup_of_named hattachment (fun doc _ => not_endsAsCut_wholeAttachmentName _ doc) hhash
  case policy_length =>
    rw [hpolicies, List.forall_mem_map]
    intro x hx
    have hlength : (x.1.id.length : Int) ≤ 128 - 8 := NameFrame.length_le_of_named hpolicy x hx
    omega
  case attachment_length =>
    rw [hattachments, List.forall_mem_map]
    intro x hx
    have hlength : (x.2.id.length : Int) ≤ 128 - 8 := NameFrame.length_le_of_named hattachment x hx
    omega

/-- A name that is just short enough for the shorter policy names, and too long for the others. -/
def longNamedRequest : Request := { postsRequest with name := String.ofList (List.replicate 91 'p') }

theorem namesApart_of_run_longNamedRequest :
    ∃ a plan, Api.ofRequest (.ofFiles []) longNamedRequest = .ok a ∧
      (∃ (p : Pipeline) (d : Document), (p.run d).1 = .ok a.output) ∧
      Plan.ofApi (some blogNaming) 2900000 a = .ok plan ∧
      (frame blogNaming "-p" policyNameLimit).room = 108 ∧
      (a.output.policies.map fun d => (wholePolicyName a.request.name d).length) = [108, 110] ∧
      (a.output.policies.map fun d => shortHash (wholePolicyName a.request.name d)).Nodup ∧
      (a.output.policies.map fun d => shortHash (wholeAttachmentName a.request.name d)).Nodup ∧
      (plan.policies.map (·.id)).Nodup ∧ (plan.attachments.map (·.id)).Nodup ∧ NamesApart blogNaming a plan := by
  have haccepted : (Api.ofRequest (.ofFiles []) longNamedRequest).toOption.map
      (fun a => a.output.policies.map (·.name)) = some ["AuthRolePolicy01", "UnauthRolePolicy01"] := by
    decide +kernel
  have hnamed : ((frame blogNaming "" apiNameLimit).name (longNamedRequest.name ++ "-api")).isOk = true := by
    decide +kernel
  obtain ⟨a, hsome, hnames⟩ := Option.map_eq_some_iff.1 haccepted
  have ha := eq_ok_of_toOption_eq_some hsome
  obtain ⟨hrequest, haccepted⟩ := accepted_of_ofRequest ha
  obtain ⟨text, -, hcompiled⟩ := haccepted.compiled
  obtain ⟨p, d, hout⟩ := exists_run_of_compile hcompiled
  obtain ⟨id, hid⟩ := exists_ok_of_isOk hnamed
  obtain ⟨plan, hplan⟩ : ∃ plan, Plan.ofApi (some blogNaming) 2900000 a = .ok plan :=
    exists_ofApi (hrequest.symm ▸ haccepted) (hrequest ▸ hid) (hrequest ▸ by decide)
  have hapart := namesApart_of_run hout hplan
  -- all that is asked of the documents can be told from their names
  have hmap {β : Type} (f : String → String → β) : (a.output.policies.map fun d => f a.request.name d.name) =
      ["AuthRolePolicy01", "UnauthRolePolicy01"].map (f longNamedRequest.name) := by
    rw [← hnames, List.map_map, hrequest]
    rfl
  have hlongName : longNamedRequest.name.length = 91 := String.length_ofList.trans List.length_replicate
  have hlengths : (a.output.policies.map fun d => (wholePolicyName a.request.name d).length) = [108, 110] :=
    (hmap fun component name => (component ++ "-" ++ name).length).trans (by
      simp only [List.map_cons, List.map_nil, String.length_append, hlongName]
      decide)
  have hpolicies : (a.output.policies.map fun d => shortHash (wholePolicyName a.request.name d)).Nodup :=
    (hmap fun component name => shortHash (component ++ "-" ++ name)) ▸ by decide +kernel
  have hattachments : (a.output.policies.map fun d => shortHash (wholeAttachmentName a.request.name d)).Nodup :=
    (hmap fun component name => shortHash (component ++ "-" ++ name ++ "-attachment")) ▸ by decide +kernel
  exact ⟨a, plan, ha, ⟨p, d, hout⟩, hplan, by decide +kernel, hlengths, hpolicies, hattachments,
    hapart.policies hpolicies, hapart.attachments hattachments, hapart⟩

end Deploy

end SchemaAccess

import Mathlib.Data.List.Induction
import SchemaAccess.Proofs.Acceptance
import SchemaAccess.Proofs.FirstUse

namespace SchemaAccess

section Offer

variable {α κ : Type} [DecidableEq κ] {key : α → κ} {kept : List α} {a first : α}

/-- A table with one more offer, which goes to the end unless its key is there already. -/
def offer (key : α → κ) (kept : List α) (a : α) : List α :=
  match kept.find? (key · = key a) with
  | some _ => kept
  | none => kept ++ [a]

theorem offer_of_some (h : kept.find? (key · = key a) = some first) : offer key kept a = kept := by
  rw [offer, h]

theorem offer_of_none (h : kept.find? (key · = key a) = none) : offer key kept a = kept ++ [a] := by
  rw [offer, h]

theorem offer_of_find?_eq_some {α : Type} {entries : Entries α} {name : String} {b : α}
    (h : entries.find? name = some b) (a : α) : offer Prod.fst entries (name, a) = entries := by
  rw [Entries.find?_eq_map, Option.map_eq_some_iff] at h
  obtain ⟨entry, h, -⟩ := h
  exact offer_of_some h

theorem offer_of_find?_eq_none {α : Type} {entries : Entries α} {name : String}
    (h : entries.find? name = none) (a : α) : offer Prod.fst entries (name, a) = entries ++ [(name, a)] := by
  rw [Entries.find?_eq_map, Option.map_eq_none_iff] at h
  exact offer_of_none h

end Offer

/-- Of each key the first offer is kept, in the order of the first offers. -/
structure KeepFirst {α κ : Type} [DecidableEq κ] (key : α → κ) (offers kept : List α) : Prop where
  keys : kept.map key = (offers.map key).eraseDups
  find? : ∀ k, kept.find? (key · = k) = offers.find? (key · = k)

namespace KeepFirst

variable {α κ : Type} [DecidableEq κ] {key : α → κ} {offers kept : List α}

theorem nil (key : α → κ) : KeepFirst key [] [] := ⟨rfl, fun _ => rfl⟩

theorem find?_eq_none_iff (h : KeepFirst key offers kept) (k : κ) :
    kept.find? (key · = k) = none ↔ k ∉ offers.map key := by
  rw [h.find?]
  simp

theorem offer (h : KeepFirst key offers kept) (a : α) :
    KeepFirst key (offers ++ [a]) (SchemaAccess.offer key kept a) := by
  cases hold : kept.find? (key · = key a) with
  | none =>
    have hkey := (h.find?_eq_none_iff (key a)).1 hold
    rw [offer_of_none hold]
    constructor
    · rw [List.map_append, List.map_append, List.map_singleton, eraseDups_concat, if_neg hkey, h.keys]
    · intro k
      rw [List.find?_append, List.find?_append, h.find?]
  | some first =>
    have hkey : key a ∈ offers.map key := by
      by_contra hnew
      rw [(h.find?_eq_none_iff (key a)).2 hnew] at hold
      contradiction
    rw [offer_of_some hold]
    constructor
    · rw [List.map_append, List.map_singleton, eraseDups_concat_of_mem hkey, h.keys]
    · intro k
      rw [List.find?_append, ← h.find?]
      -- what is looked up under the key is there already
      by_cases hk : key a = k
      · subst hk
        rw [hold]
        rfl
      · rw [List.find?_singleton, if_neg (by simpa using hk), Option.or_none]

end KeepFirst

namespace Pass

section Update

variable {f : Session → Except Failure Session} {s : Session}

theorem Step.update_of_ok {t : Session} (h : f s = .ok t) : Step.update f s = .ok () t := by
  change EStateM.bind (Step.require (f s)) _ s = _
  rw [h]
  rfl

theorem Step.update_of_error {e : Failure} (h : f s = .error e) : Step.update f s = .error e s := by
  change EStateM.bind (Step.require (f s)) _ s = _
  rw [h]
  rfl

end Update

namespace Session

open GraphQL (Document)

/-- A call that offers something to a session. -/
inductive Call where
  | bind (b : Binding)
  | addResource (id : String) (v : Value)
  | addParameter (name : String) (v : Value)

namespace Call

def perform : Call → Step Unit
  | bind b => Step.update (·.bind b)
  | addResource id v => Step.update (·.addResource id v)
  | addParameter name v => modify (·.addParameter name v)

/-- A call that is made step by step: look first, then refuse or write. -/
def stepwise : Call → Step Unit
  | bind b => do
    match (← get).binding? b.typeName b.fieldName with
    | some first => throw (.placement (.alreadyBound b.typeName b.fieldName first.functionName))
    | none => modify fun s => { s with bindings := s.bindings ++ [b] }
  | addResource id v => do
    match (← get).template.resources.find? id with
    | some _ => throw (.value (.resourceExists id))
    | none => modify fun s => { s with template.resources := s.template.resources ++ [(id, v)] }
  | addParameter name v => do
    match (← get).template.parameters.find? name with
    | some _ => pure ()
    | none => modify fun s => { s with template.parameters := s.template.parameters ++ [(name, v)] }

/-- Why a session refuses a call, if it does. -/
def refusal? (call : Call) (s : Session) : Option Failure :=
  match call.perform.run s with
  | .ok _ _ => none
  | .error e _ => some e

/-- What a call leaves behind, whether it is refused or not. -/
def next (call : Call) (s : Session) : Session :=
  match call.perform.run s with
  | .ok _ t => t
  | .error _ t => t

def binding? : Call → Option Binding
  | bind b => some b
  | _ => none

def resource? : Call → Option (String × Value)
  | addResource id v => some (id, v)
  | _ => none

def parameter? : Call → Option (String × Value)
  | addParameter name v => some (name, v)
  | _ => none

end Call

def after (d : Document) (calls : List Call) : Session :=
  calls.foldl (fun s call => call.next s) (ofDocument d)

theorem after_concat (d : Document) (calls : List Call) (call : Call) :
    after d (calls ++ [call]) = call.next (after d calls) := List.foldl_concat _ _ _ _

section Performed

variable (s : Session)

theorem binding?_eq_find? (b : Binding) :
    s.binding? b.typeName b.fieldName = s.bindings.find? (·.resource = b.resource) := by
  simp [binding?, Binding.resource]

theorem perform_bind (b : Binding) : (Call.bind b).perform s =
    match s.binding? b.typeName b.fieldName with
    | some first => .error (.placement (.alreadyBound b.typeName b.fieldName first.functionName)) s
    | none => .ok () { s with bindings := s.bindings ++ [b] } := by
  cases h : s.binding? b.typeName b.fieldName with
  | some first =>
    apply Step.update_of_error
    rw [bind, h]
    rfl
  | none =>
    apply Step.update_of_ok
    rw [bind, h]
    rfl

theorem perform_addResource (id : String) (v : Value) : (Call.addResource id v).perform s =
    match s.template.resources.find? id with
    | some _ => .error (.value (.resourceExists id)) s
    | none => .ok () { s with template.resources := s.template.resources ++ [(id, v)] } := by
  cases h : s.template.resources.find? id with
  | some first =>
    apply Step.update_of_error
    rw [addResource, Template.addResource, h]
    rfl
  | none =>
    apply Step.update_of_ok
    rw [addResource, Template.addResource, h]
    rfl

theorem perform_addParameter (name : String) (v : Value) : (Call.addParameter name v).perform s =
    match s.template.parameters.find? name with
    | some _ => .ok () s
    | none => .ok () { s with template.parameters := s.template.parameters ++ [(name, v)] } := by
  change EStateM.Result.ok () (s.addParameter name v) = _
  rw [addParameter, Template.addParameter]
  cases s.template.parameters.find? name <;> rfl

theorem stepwise_eq_perform (call : Call) : call.stepwise s = call.perform s := by
  cases call with
  | bind b =>
    rw [perform_bind]
    change (match s.binding? b.typeName b.fieldName with | some first => _ | none => _ : Step Unit) s = _
    cases s.binding? b.typeName b.fieldName <;> rfl
  | addResource id v =>
    rw [perform_addResource]
    change (match s.template.resources.find? id with | some first => _ | none => _ : Step Unit) s = _
    cases s.template.resources.find? id <;> rfl
  | addParameter name v =>
    rw [perform_addParameter]
    change (match s.template.parameters.find? name with | some first => _ | none => _ : Step Unit) s = _
    cases s.template.parameters.find? name <;> rfl

theorem refusal?_bind (b : Binding) : (Call.bind b).refusal? s =
    (s.binding? b.typeName b.fieldName).map fun first =>
      .placement (.alreadyBound b.typeName b.fieldName first.functionName) := by
  rw [Call.refusal?, EStateM.run, perform_bind]
  cases s.binding? b.typeName b.fieldName <;> rfl

theorem refusal?_addResource (id : String) (v : Value) : (Call.addResource id v).refusal? s =
    (s.template.resources.find? id).map fun _ => .value (.resourceExists id) := by
  rw [Call.refusal?, EStateM.run, perform_addResource]
  cases s.template.resources.find? id <;> rfl

theorem refusal?_addParameter (name : String) (v : Value) : (Call.addParameter name v).refusal? s = none := by
  rw [Call.refusal?, EStateM.run, perform_addParameter]
  cases s.template.parameters.find? name <;> rfl

theorem next_bind (b : Binding) :
    (Call.bind b).next s = { s with bindings := offer Binding.resource s.bindings b } := by
  rw [Call.next, EStateM.run, perform_bind]
  cases h : s.binding? b.typeName b.fieldName with
  | some first => rw [offer_of_some (s.binding?_eq_find? b ▸ h)]
  | none => rw [offer_of_none (s.binding?_eq_find? b ▸ h)]

theorem next_addResource (id : String) (v : Value) : (Call.addResource id v).next s =
    { s with template.resources := offer Prod.fst s.template.resources (id, v) } := by
  rw [Call.next, EStateM.run, perform_addResource]
  cases h : s.template.resources.find? id with
  | some first => rw [offer_of_find?_eq_some h]
  | none => rw [offer_of_find?_eq_none h]

theorem next_addParameter (name : String) (v : Value) : (Call.addParameter name v).next s =
    { s with template.parameters := offer Prod.fst s.template.parameters (name, v) } := by
  rw [Call.next, EStateM.run, perform_addParameter]
  cases h : s.template.parameters.find? name with
  | some first => rw [offer_of_find?_eq_some h]
  | none => rw [offer_of_find?_eq_none h]

theorem next_of_refused {call : Call} {e : Failure} (h : call.refusal? s = some e) : call.next s = s := by
  cases call with
  | bind b =>
    rw [refusal?_bind, Option.map_eq_some_iff] at h
    obtain ⟨first, h, -⟩ := h
    rw [next_bind, offer_of_some (s.binding?_eq_find? b ▸ h)]
  | addResource id v =>
    rw [refusal?_addResource, Option.map_eq_some_iff] at h
    obtain ⟨first, h, -⟩ := h
    rw [next_addResource, offer_of_find?_eq_some h]
  | addParameter name v =>
    rw [refusal?_addParameter] at h
    contradiction

end Performed

/-- Where a session over a document stands after calls. -/
structure Stands (d : Document) (calls : List Call) (s : Session) : Prop where
  rootTypes : s.rootTypes = d.rootNames
  modelTypes : s.modelTypes = d.typesCarrying modelDirective
  bindings : KeepFirst Binding.resource (calls.filterMap Call.binding?) s.bindings
  resources : KeepFirst Prod.fst (calls.filterMap Call.resource?) s.template.resources
  parameters : KeepFirst Prod.fst (calls.filterMap Call.parameter?) s.template.parameters

section Offers

variable {β : Type} {f : Call → Option β} {call : Call}

theorem filterMap_concat_of_some {b : β} (h : f call = some b) (calls : List Call) :
    (calls ++ [call]).filterMap f = calls.filterMap f ++ [b] := by
  rw [List.filterMap_append, List.filterMap_cons_some h, List.filterMap_nil]

theorem filterMap_concat_of_none (h : f call = none) (calls : List Call) :
    (calls ++ [call]).filterMap f = calls.filterMap f := by
  rw [List.filterMap_append, List.filterMap_cons_none h, List.filterMap_nil, List.append_nil]

end Offers

/-- What one call does: its own table is offered something, and the others stay. -/
theorem Stands.next {d : Document} {calls : List Call} {s : Session} (h : Stands d calls s) (call : Call) :
    Stands d (calls ++ [call]) (call.next s) := by
  have hkept {β : Type} {f : Call → Option β} (hf : f call = none) := filterMap_concat_of_none hf calls
  have hoffered {β : Type} {f : Call → Option β} {b : β} (hf : f call = some b) :=
    filterMap_concat_of_some hf calls
  cases call with
  | bind b =>
    rw [next_bind]
    constructor
    case rootTypes => exact h.rootTypes
    case modelTypes => exact h.modelTypes
    case bindings => exact hoffered (f := Call.binding?) rfl ▸ h.bindings.offer b
    case resources => exact hkept (f := Call.resource?) rfl ▸ h.resources
    case parameters => exact hkept (f := Call.parameter?) rfl ▸ h.parameters
  | addResource id v =>
    rw [next_addResource]
    constructor
    case rootTypes => exact h.rootTypes
    case modelTypes => exact h.modelTypes
    case bindings => exact hkept (f := Call.binding?) rfl ▸ h.bindings
    case resources => exact hoffered (f := Call.resource?) rfl ▸ h.resources.offer (id, v)
    case parameters => exact hkept (f := Call.parameter?) rfl ▸ h.parameters
  | addParameter name v =>
    rw [next_addParameter]
    constructor
    case rootTypes => exact h.rootTypes
    case modelTypes => exact h.modelTypes
    case bindings => exact hkept (f := Call.binding?) rfl ▸ h.bindings
    case resources => exact hkept (f := Call.resource?) rfl ▸ h.resources
    case parameters => exact hoffered (f := Call.parameter?) rfl ▸ h.parameters.offer (name, v)

theorem stands_after (d : Document) (calls : List Call) : Stands d calls (after d calls) := by
  induction calls using List.reverseRecOn with
  | nil => exact ⟨rfl, rfl, .nil Binding.resource, .nil Prod.fst, .nil Prod.fst⟩
  | append_singleton calls call ih =>
    rw [after_concat]
    exact ih.next call

/-- What comes of calls to a session over a document, told from the calls and the document alone. -/
structure KeepsFirst (d : Document) (calls : List Call) : Prop where
  binding : ∀ typeName fieldName, (after d calls).binding? typeName fieldName =
    (calls.filterMap Call.binding?).find? fun b => b.typeName = typeName ∧ b.fieldName = fieldName
  resource_keys : (after d calls).template.resources.keys =
    (Entries.keys (calls.filterMap Call.resource?)).eraseDups
  resource : ∀ id, (after d calls).template.resources.find? id =
    Entries.find? (calls.filterMap Call.resource?) id
  parameter_keys : (after d calls).template.parameters.keys =
    (Entries.keys (calls.filterMap Call.parameter?)).eraseDups
  parameter : ∀ name, (after d calls).template.parameters.find? name =
    Entries.find? (calls.filterMap Call.parameter?) name
  bind_refused_iff : ∀ b, (∃ e, (Call.bind b).refusal? (after d calls) = some e) ↔
    ∃ b' ∈ calls.filterMap Call.binding?, b'.typeName = b.typeName ∧ b'.fieldName = b.fieldName
  bind_refusal : ∀ b e, (Call.bind b).refusal? (after d calls) = some e →
    ∃ first, (after d calls).binding? b.typeName b.fieldName = some first ∧
      e = .placement (.alreadyBound b.typeName b.fieldName first.functionName)
  addResource_refused_iff : ∀ id v e, (Call.addResource id v).refusal? (after d calls) = some e ↔
    id ∈ Entries.keys (calls.filterMap Call.resource?) ∧ e = .value (.resourceExists id)
  addParameter_not_refused : ∀ name v, (Call.addParameter name v).refusal? (after d calls) = none
  refused : ∀ call e, call.refusal? (after d calls) = some e → after d (calls ++ [call]) = after d calls
  /-- No call changes more than the table that it is for. -/
  bind_frame : ∀ b, ∃ bindings, after d (calls ++ [.bind b]) = { after d calls with bindings := bindings }
  addResource_frame : ∀ id v, ∃ resources, after d (calls ++ [.addResource id v]) =
    { after d calls with template.resources := resources }
  addParameter_frame : ∀ name v, ∃ parameters, after d (calls ++ [.addParameter name v]) =
    { after d calls with template.parameters := parameters }
  isRoot_iff : ∀ typeName, (after d calls).isRoot typeName = true ↔ d.IsRootName typeName
  /-- Of the kinds of types only object types are models. -/
  isModel_iff : ∀ typeName, (after d calls).isModel typeName = true ↔
    ∃ node ∈ d.objects, node.name = typeName ∧ ∃ directive ∈ node.directives, directive.name = "model"
  stepwise : ∀ call : Call, call.stepwise (after d calls) = call.perform (after d calls)

/-- Whatever is offered in whatever order, what is there stays, and a call that is refused might as well not have
been made. -/
theorem keepsFirst (d : Document) (calls : List Call) : KeepsFirst d calls := by
  have h := stands_after d calls
  have hbinding : ∀ typeName fieldName, (after d calls).binding? typeName fieldName =
      (calls.filterMap Call.binding?).find? fun b => b.typeName = typeName ∧ b.fieldName = fieldName := by
    intro typeName fieldName
    have hfind := h.bindings.find? ⟨typeName, fieldName⟩
    simpa [binding?, Binding.resource] using hfind
  have hfind {offers kept : Entries Value} (hkept : KeepFirst Prod.fst offers kept) (key : String) :
      kept.find? key = offers.find? key := by
    rw [Entries.find?_eq_map, Entries.find?_eq_map, hkept.find?]
  constructor
  case binding => exact hbinding
  case resource_keys => exact h.resources.keys
  case resource => exact hfind h.resources
  case parameter_keys => exact h.parameters.keys
  case parameter => exact hfind h.parameters
  case bind_refused_iff =>
    intro b
    rw [refusal?_bind, hbinding, ← Option.isSome_iff_exists, Option.isSome_map, List.find?_isSome]
    simp
  case bind_refusal =>
    intro b e he
    rw [refusal?_bind, Option.map_eq_some_iff] at he
    obtain ⟨first, hfirst, rfl⟩ := he
    exact ⟨first, hfirst, rfl⟩
  case addResource_refused_iff =>
    intro id v e
    have hmem : id ∈ Entries.keys (calls.filterMap Call.resource?) ↔
        ∃ first, Entries.find? (calls.filterMap Call.resource?) id = some first := by
      rw [← Option.ne_none_iff_exists', Ne, Entries.find?_eq_none_iff, not_not]
    rw [refusal?_addResource, hfind h.resources, Option.map_eq_some_iff, exists_and_right, ← hmem]
    exact and_congr_right fun _ => eq_comm
  case addParameter_not_refused => exact refusal?_addParameter _
  case refused =>
    intro call e he
    rw [after_concat, next_of_refused _ he]
  case bind_frame =>
    intro b
    rw [after_concat]
    exact ⟨_, next_bind _ b⟩
  case addResource_frame =>
    intro id v
    rw [after_concat]
    exact ⟨_, next_addResource _ id v⟩
  case addParameter_frame =>
    intro name v
    rw [after_concat]
    exact ⟨_, next_addParameter _ name v⟩
  case isRoot_iff =>
    intro typeName
    rw [isRoot, h.rootTypes, decide_eq_true_iff, Document.mem_rootNames_iff]
  case isModel_iff =>
    intro typeName
    rw [isModel, h.modelTypes, decide_eq_true_iff, mem_typesCarrying_modelDirective_iff, IsModel]
    simp only [GraphQL.carries_iff]
    rfl
  case stepwise => exact stepwise_eq_perform _

def modelInterfaceSchema : String := "interface Node @model { id: ID }"

def modelInterface : GraphQL.Composite :=
  ⟨none, "Node", [], [⟨"model", []⟩], [⟨none, "id", [], .named "ID", []⟩]⟩

/-- A definition that carries `@model` need not make its type a model: that of an interface does not. -/
theorem modelInterface_not_model :
    Document.read modelInterfaceSchema = .ok [.interface false modelInterface] ∧
      modelInterface.name = "Node" ∧ GraphQL.carries modelDirective modelInterface.directives = true ∧
      (after [.interface false modelInterface] []).isModel "Node" = false := by
  exact ⟨rfl, rfl, rfl, rfl⟩

end Session

end Pass

end SchemaAccess

import SchemaAccess.Proofs.PassOutcome

namespace SchemaAccess.Pass

open GraphQL (Site Composite FieldDef Definition Document)

/-- The hooks of a handler, as steps of any kind. -/
structure Hooks (m : Type → Type) where
  directive : String
  before : m Unit
  atObject : Composite → m Composite
  atField : String → FieldDef → m FieldDef
  after : m Unit

namespace Hooks

variable {m : Type → Type} [Monad m]

def visitField (h : Hooks m) (typeName : String) (f : FieldDef) : m FieldDef :=
  if GraphQL.carries h.directive f.directives then h.atField typeName f else pure f

def visitObject (h : Hooks m) (node : Composite) : m Composite := do
  let node ← if GraphQL.carries h.directive node.directives then h.atObject node else pure node
  return { node with fields := ← node.fields.mapM (h.visitField node.name) }

def visit (h : Hooks m) (x : Definition) : m Definition :=
  match x with
  | .object extension node => return .object extension (← h.visitObject node)
  | other => pure other

def walk (h : Hooks m) (d : Document) : m Document := do
  h.before
  d.mapM h.visit

def pass (handlers : List (Hooks m)) (d : Document) : m Document := do
  let d ← handlers.foldlM (fun d h => h.walk d) d
  handlers.reverse.forM Hooks.after
  return d

end Hooks

def Handler.hooks (h : Handler) : Hooks Step := ⟨h.directive, h.before, h.atObject, h.atField, h.after⟩

theorem Pipeline.steps_eq_pass (p : Pipeline) (d : Document) :
    p.steps d = Hooks.pass (p.handlers.map Handler.hooks) d := by
  have hends : (p.handlers.map Handler.hooks).reverse.forM Hooks.after = p.handlers.reverse.forM Handler.after := by
    rw [← List.map_reverse]
    exact List.forM_map ..
  rw [Hooks.pass, List.foldlM_map, hends]
  rfl

/-! ### Calls noted down -/

def Visit.directive : Visit → String
  | .before directive => directive
  | .object directive _ => directive
  | .field directive _ => directive
  | .after directive => directive

abbrev Traced := EStateM Failure (Session × List Visit)

/-- A call of a hook. It is noted down first, and so also if the hook fails. -/
def Traced.call {α : Type} (v : Visit) (x : Step α) : Traced α := fun (s, calls) =>
  match x.run s with
  | .ok a t => .ok a (t, calls ++ [v])
  | .error e t => .error e (t, calls ++ [v])

def Handler.traced (h : Handler) : Hooks Traced where
  directive := h.directive
  before := .call (.before h.directive) h.before
  atObject node := .call (.object h.directive node.name) (h.atObject node)
  atField typeName f := .call (.field h.directive (GraphQL.location (some typeName) f.name)) (h.atField typeName f)
  after := .call (.after h.directive) h.after

def Pipeline.tracedSteps (p : Pipeline) (d : Document) : Traced Document :=
  Hooks.pass (p.handlers.map Handler.traced) d

/-- The outcome of a pass, and all calls made in it whether it failed or not. -/
def Pipeline.traced (p : Pipeline) (d : Document) : Except Failure Output × List Visit :=
  match (p.tracedSteps d).run (Session.ofDocument d, []) with
  | .ok d (s, calls) => (.ok ⟨d, s.template, s.policies⟩, calls)
  | .error e (_, calls) => (.error e, calls)

/-! ### Steps and their traces -/

section Makes

variable {α β : Type} (heard : Visit → Bool)

/-- How a step and its traced form end alike. Of an agenda of calls all are made, or those up to the one that
fails. Those that are heard are in the log of the session. -/
inductive SameEnd (agenda : List Visit) (s : Session) (calls : List Visit) :
    EStateM.Result Failure Session α → EStateM.Result Failure (Session × List Visit) α → Prop
  | ok {a : α} {t : Session} (hlog : t.log = s.log ++ agenda.filter heard) :
    SameEnd agenda s calls (.ok a t) (.ok a (t, calls ++ agenda))
  | error {e : Failure} {t : Session} {made more : List Visit} {v : Visit} (hagenda : agenda = made ++ v :: more)
    (hlog : t.log = s.log ++ (made ++ [v]).filter heard) :
    SameEnd agenda s calls (.error e t) (.error e (t, calls ++ (made ++ [v])))

/-- From a session on, a traced step does what the plain one does, and makes the calls of an agenda. -/
def Makes (agenda : List Visit) (x : Traced α) (y : Step α) (s : Session) (calls : List Visit) : Prop :=
  SameEnd heard agenda s calls (y.run s) (x.run (s, calls))

variable {heard}

theorem SameEnd.prepend {agenda agenda' : List Visit} {s t : Session} {calls : List Visit}
    {plain : EStateM.Result Failure Session α} {noted : EStateM.Result Failure (Session × List Visit) α}
    (hlog : t.log = s.log ++ agenda.filter heard) (h : SameEnd heard agenda' t (calls ++ agenda) plain noted) :
    SameEnd heard (agenda ++ agenda') s calls plain noted := by
  cases h with
  | ok hlog' =>
    rw [List.append_assoc]
    exact .ok (by rw [hlog', hlog, List.filter_append, List.append_assoc])
  | error hagenda hlog' =>
    rw [List.append_assoc, ← List.append_assoc agenda]
    refine .error (by rw [hagenda, List.append_assoc]) ?_
    rw [hlog', hlog, List.append_assoc agenda, List.filter_append agenda, List.append_assoc]

theorem Traced.run_bind_of_error {x : Traced α} (k : α → Traced β) {s t : Session × List Visit} {e : Failure}
    (h : x.run s = .error e t) : (x >>= k).run s = .error e t := by
  change EStateM.bind x k s = _
  rw [EStateM.bind, show x s = .error e t from h]

namespace Makes

protected theorem pure (a : α) (s : Session) (calls : List Visit) :
    Makes heard [] (pure a : Traced α) (pure a) s calls := by
  have h : SameEnd heard [] s calls (.ok a s) (.ok a (s, calls ++ [])) := .ok (by simp)
  rwa [List.append_nil] at h

protected theorem bind {agenda agenda' : List Visit} {x : Traced α} {y : Step α} {k : α → Traced β}
    {l : α → Step β} {s : Session} {calls : List Visit} (hx : Makes heard agenda x y s calls)
    (hk : ∀ a t, y.outcome s = .ok (a, t) → Makes heard agenda' (k a) (l a) t (calls ++ agenda)) :
    Makes heard (agenda ++ agenda') (x >>= k) (y >>= l) s calls := by
  unfold Makes at hx
  change SameEnd heard (agenda ++ agenda') s calls (EStateM.bind y l s) (EStateM.bind x k (s, calls))
  simp only [Step.outcome, EStateM.run, EStateM.bind] at hx hk ⊢
  generalize y s = plain at hx hk
  generalize x (s, calls) = noted at hx
  cases hx with
  | ok hlog => exact (hk _ _ rfl).prepend hlog
  | error hagenda hlog =>
    subst hagenda
    rw [List.append_assoc]
    exact .error rfl hlog

theorem bind_pure {agenda : List Visit} {x : Traced α} {y : Step α} {s : Session} {calls : List Visit}
    (hx : Makes heard agenda x y s calls) (f : α → β) :
    Makes heard agenda (x >>= fun a => pure (f a)) (y >>= fun a => pure (f a)) s calls := by
  have h : Makes heard (agenda ++ []) (x >>= fun a => pure (f a)) (y >>= fun a => pure (f a)) s calls :=
    hx.bind fun a t _ => .pure (f a) t _
  rwa [List.append_nil] at h

theorem mapM {agenda : α → List Visit} {f : α → Traced β} {g : α → Step β}
    (h : ∀ a s calls, Makes heard (agenda a) (f a) (g a) s calls) (items : List α) (s : Session)
    (calls : List Visit) : Makes heard (items.flatMap agenda) (items.mapM f) (items.mapM g) s calls := by
  induction items generalizing s calls with
  | nil => exact .pure [] s calls
  | cons a items ih =>
    rw [List.mapM_cons, List.mapM_cons, List.flatMap_cons]
    exact (h a s calls).bind fun b t _ => (ih t _).bind_pure (b :: ·)

end Makes

end Makes

/-! ### The log -/

section Log

variable {α β : Type}

/-- The session that a step leaves behind, whether it fails or not. -/
def Step.left (x : Step α) (s : Session) : Session :=
  match x.run s with
  | .ok _ t => t
  | .error _ t => t

/-- A step that leaves the log as it is. -/
def Step.Silent (x : Step α) : Prop := ∀ s, (x.left s).log = s.log

namespace Step.Silent

protected theorem pure (a : α) : Silent (pure a) := fun _ => rfl

protected theorem throw (e : Failure) : Silent (throw e : Step α) := fun _ => rfl

protected theorem get : Silent get := fun _ => rfl

protected theorem modify {f : Session → Session} (hf : ∀ s, (f s).log = s.log) : Silent (modify f) := hf

theorem require (x : Except Failure α) : Silent (Step.require x) := by
  cases x with
  | ok a => exact Silent.pure a
  | error e => exact Silent.throw e

protected theorem bind {x : Step α} {k : α → Step β} (hx : Silent x) (hk : ∀ a, Silent (k a)) :
    Silent (x >>= k) := by
  intro s
  have hs := hx s
  change (Step.left (EStateM.bind x k) s).log = s.log
  simp only [left, EStateM.run, EStateM.bind] at hs ⊢
  cases hr : x s with
  | ok a t =>
    rw [hr] at hs
    exact (hk a t).trans hs
  | error e t =>
    rw [hr] at hs
    exact hs

theorem update {f : Session → Except Failure Session} (hf : ∀ s t, f s = .ok t → t.log = s.log) :
    Silent (Step.update f) := by
  intro s
  have hleft : (Step.update f).left s = match f s with
      | .ok t => t
      | .error _ => s := by
    change Step.left (Step.require (f s) >>= set) s = _
    cases f s <;> rfl
  rw [hleft]
  split
  next t h => exact hf s t h
  next => rfl

end Step.Silent

theorem foldlM_eq_ok_keeps {P : β → Prop} {f : β → α → Except Failure β}
    (hf : ∀ b a c, P b → f b a = .ok c → P c) {items : List α} {b c : β} (hb : P b)
    (h : items.foldlM f b = .ok c) : P c := by
  induction items generalizing b with
  | nil =>
    obtain rfl := Except.ok.inj h
    exact hb
  | cons a items ih =>
    rw [List.foldlM_cons, Access.bind_eq_ok_iff] at h
    obtain ⟨b', hb', hrest⟩ := h
    exact ih (hf b a b' hb hb') hrest

namespace Enforcement

theorem log_grantRules {s t : Session} {r : Policy.Resource} {rules : List Access.Rule}
    (h : grantRules s r rules = .ok t) : t.log = s.log := by
  refine foldlM_eq_ok_keeps (P := fun u => u.log = s.log) ?_ rfl h
  intro u rule u' hu hgrant
  obtain ⟨granted, -, hu'⟩ := (Access.bind_eq_ok_iff _ _ _).1 hgrant
  obtain rfl := Except.ok.inj hu'
  exact hu

theorem log_declare (e : Enforcement) {s t : Session} {d : Policy.Document} (h : e.declare s d = .ok t) :
    t.log = s.log := by
  obtain ⟨template, -, ht⟩ := (Access.bind_eq_ok_iff _ _ _).1 h
  obtain rfl := Except.ok.inj ht
  rfl

theorem log_settle (e : Enforcement) {s t : Session} (h : e.settle s = .ok t) : t.log = s.log := by
  simp only [settle, Access.bind_eq_ok_iff] at h
  obtain ⟨s₁, hpending, ⟨documents, ledger⟩, -, s₂, hdeclare, hlast⟩ := h
  obtain rfl := Except.ok.inj hlast
  have hs₁ : s₁.log = s.log := by
    refine foldlM_eq_ok_keeps (P := fun u => u.log = s.log) ?_ rfl hpending
    rintro u ⟨r, rules⟩ u' hu hgrant
    simp only at hgrant
    split at hgrant
    · exact (log_grantRules hgrant).trans hu
    · obtain rfl := Except.ok.inj hgrant
      exact hu
  refine foldlM_eq_ok_keeps (P := fun u => u.log = s.log) ?_ hs₁ hdeclare
  exact fun u d u' hu hu' => (e.log_declare hu').trans hu

end Enforcement

namespace Handler

def observes : Handler → Bool
  | .observe _ => true
  | _ => false

variable {h : Handler} (hh : h.observes = false)
include hh

theorem silent_before : h.before.Silent := by
  cases h with
  | observe directive => contradiction
  | _ => exact Step.Silent.pure ()

theorem silent_atObject (node : Composite) : (h.atObject node).Silent := by
  cases h with
  | function => exact Step.Silent.throw _
  | auth e => exact Step.Silent.get.bind fun s => Step.Silent.require (e.object s node)
  | permit directive onTypes onFields =>
    cases onTypes with
    | true => exact Step.Silent.pure node
    | false => exact Step.Silent.throw _
  | observe directive => contradiction

theorem silent_atField (typeName : String) (f : FieldDef) : (h.atField typeName f).Silent := by
  cases h with
  | function =>
    refine Step.Silent.bind (Step.Silent.update fun s t ht => ?_) fun _ => Step.Silent.pure f
    obtain ⟨b, -, hbind⟩ := (Access.bind_eq_ok_iff _ _ _).1 ht
    rw [bind_eq_settled, settled_eq_ok_iff] at hbind
    rw [← hbind.2]
  | auth e =>
    refine Step.Silent.get.bind fun s => (Step.Silent.require (e.field s typeName f)).bind fun r => ?_
    refine Step.Silent.bind (Step.Silent.modify fun s => ?_) fun _ => Step.Silent.pure r.2
    unfold Enforcement.await
    split <;> rfl
  | permit directive onTypes onFields =>
    cases onFields with
    | true => exact Step.Silent.pure f
    | false => exact Step.Silent.throw _
  | observe directive => contradiction

theorem silent_after : h.after.Silent := by
  cases h with
  | auth e => exact Step.Silent.update fun s t ht => e.log_settle ht
  | observe directive => contradiction
  | _ => exact Step.Silent.pure ()

end Handler

end Log

/-! ### Calls of one handler -/

def fieldCalls (directive typeName : String) (f : FieldDef) : List Visit :=
  if GraphQL.carries directive f.directives then [.field directive (GraphQL.location (some typeName) f.name)] else []

/-- The calls at an object type or an extension of one: for the type, if it carries the directive, however
often, and then for its fields in order. -/
def objectCalls (directive : String) (node : Composite) : List Visit :=
  (if GraphQL.carries directive node.directives then [.object directive node.name] else []) ++
    node.fields.flatMap (fieldCalls directive node.name)

/-- The calls of a walk, in the order of the document. -/
def walkCalls (directive : String) (d : Document) : List Visit :=
  .before directive :: d.objects.flatMap (objectCalls directive)

/-- The calls at a site: one, if it carries the directive. -/
def siteCalls (directive : String) (site : Site) : List Visit :=
  if site.carries directive then [visitOf directive site] else []

theorem objectCalls_eq_flatMap_sites (directive : String) (node : Composite) :
    objectCalls directive node = node.sites.flatMap (siteCalls directive) := by
  rw [Composite.sites, List.flatMap_cons, List.flatMap_map]
  rfl

theorem walkCalls_eq_flatMap_sites (directive : String) (d : Document) :
    walkCalls directive d = .before directive :: d.sites.flatMap (siteCalls directive) := by
  have hobjects : objectCalls directive = fun node => node.sites.flatMap (siteCalls directive) :=
    funext (objectCalls_eq_flatMap_sites directive)
  rw [d.sites_eq_flatMap_objects, List.flatMap_assoc, walkCalls, hobjects]

theorem Handler.visitType_eq_ok (h : Handler) {node node' : Composite} {s t : Session}
    (hr : (h.visitType node).outcome s = .ok (node', t)) : ∃ ds, node' = { node with directives := ds } := by
  have hlaw {P : Session → Prop} (law : SiteLaw h P) (hs : P s) : ∃ ds, node' = { node with directives := ds } := by
    rw [law.at_type s node hs, settled_eq_ok_iff] at hr
    exact ⟨law.directives (.type node), (Prod.mk.inj hr.2).1.symm⟩
  cases h with
  | function => exact hlaw functionLaw trivial
  | auth e => exact hlaw (authLaw e s.rootTypes s.modelTypes) ⟨rfl, rfl⟩
  | permit directive onTypes onFields => exact hlaw (permitLaw directive onTypes onFields) trivial
  | observe directive => exact hlaw (observeLaw directive) trivial

section Walk

variable {heard : Visit → Bool} {h : Handler} (hheard : ∀ v, v.directive = h.directive → heard v = h.observes)
include hheard

theorem makes_call {α : Type} {v : Visit} {x : Step α} (hv : v.directive = h.directive)
    (hnotes : h.observes = true → ∀ s, (x.left s).log = s.log ++ [v]) (hsilent : h.observes = false → x.Silent)
    (s : Session) (calls : List Visit) : Makes heard [v] (.call v x) x s calls := by
  have hlog : (x.left s).log = s.log ++ [v].filter heard := by
    have hv' := hheard v hv
    cases ho : h.observes with
    | true => simp [hv', ho, hnotes ho s]
    | false => simp [hv', ho, hsilent ho s]
  unfold Makes Traced.call
  simp only [Step.left, EStateM.run] at hlog ⊢
  cases hr : x s with
  | ok a t =>
    rw [hr] at hlog
    exact .ok hlog
  | error e t =>
    rw [hr] at hlog
    have herror : SameEnd heard [v] s calls (.error e t : EStateM.Result Failure Session α)
        (.error e (t, calls ++ ([] ++ [v]))) := .error rfl hlog
    exact herror

theorem makes_before (s : Session) (calls : List Visit) :
    Makes heard [.before h.directive] h.traced.before h.before s calls := by
  refine makes_call hheard rfl (fun ho => ?_) Handler.silent_before s calls
  cases h with
  | observe directive => exact fun _ => rfl
  | _ => contradiction

theorem makes_after (s : Session) (calls : List Visit) :
    Makes heard [.after h.directive] h.traced.after h.after s calls := by
  refine makes_call hheard rfl (fun ho => ?_) Handler.silent_after s calls
  cases h with
  | observe directive => exact fun _ => rfl
  | _ => contradiction

theorem makes_atObject (node : Composite) (s : Session) (calls : List Visit) :
    Makes heard [.object h.directive node.name] (h.traced.atObject node) (h.atObject node) s calls := by
  refine makes_call hheard rfl (fun ho => ?_) (fun ho => Handler.silent_atObject ho node) s calls
  cases h with
  | observe directive => exact fun _ => rfl
  | _ => contradiction

theorem makes_atField (typeName : String) (f : FieldDef) (s : Session) (calls : List Visit) :
    Makes heard [.field h.directive (GraphQL.location (some typeName) f.name)] (h.traced.atField typeName f)
      (h.atField typeName f) s calls := by
  refine makes_call hheard rfl (fun ho => ?_) (fun ho => Handler.silent_atField ho typeName f) s calls
  cases h with
  | observe directive => exact fun _ => rfl
  | _ => contradiction

theorem makes_visitField (typeName : String) (f : FieldDef) (s : Session) (calls : List Visit) :
    Makes heard (fieldCalls h.directive typeName f) (h.traced.visitField typeName f) (h.visitField typeName f) s
      calls := by
  unfold fieldCalls Hooks.visitField Handler.visitField
  change Makes heard _ (if GraphQL.carries h.directive f.directives then _ else _) _ s calls
  split
  · exact makes_atField hheard typeName f s calls
  · exact .pure f s calls

theorem makes_visitObject (node : Composite) (s : Session) (calls : List Visit) :
    Makes heard (objectCalls h.directive node) (h.traced.visitObject node) (h.visitObject node) s calls := by
  have htraced : h.traced.visitObject node =
      ((if GraphQL.carries h.directive node.directives then h.traced.atObject node else pure node) >>= fun node =>
        node.fields.mapM (h.traced.visitField node.name) >>= fun fields => pure { node with fields := fields }) := by
    unfold Hooks.visitObject
    change (if GraphQL.carries h.directive node.directives then _ else _) = _
    split <;> rfl
  have htype : Makes heard (if GraphQL.carries h.directive node.directives then [.object h.directive node.name] else [])
      (if GraphQL.carries h.directive node.directives then h.traced.atObject node else pure node)
      (h.visitType node) s calls := by
    unfold Handler.visitType
    split
    · exact makes_atObject hheard node s calls
    · exact .pure node s calls
  rw [htraced, h.visitObject_eq]
  refine htype.bind fun node' t ht => ?_
  -- fields are visited as they were before the type was
  obtain ⟨ds, rfl⟩ := h.visitType_eq_ok ht
  exact (Makes.mapM (makes_visitField hheard node.name) node.fields t _).bind_pure _

theorem makes_visit (x : Definition) (s : Session) (calls : List Visit) :
    Makes heard (x.sites.flatMap (siteCalls h.directive)) (h.traced.visit x) (h.visit x) s calls := by
  cases x with
  | object extension node =>
    change Makes heard (node.sites.flatMap _) _ _ s calls
    rw [← objectCalls_eq_flatMap_sites]
    exact (makes_visitObject hheard node s calls).bind_pure (Definition.object extension)
  | _ => exact .pure _ s calls

theorem makes_walk (d : Document) (s : Session) (calls : List Visit) :
    Makes heard (walkCalls h.directive d) (h.traced.walk d) (h.walk d) s calls := by
  rw [walkCalls_eq_flatMap_sites, Document.sites, List.flatMap_assoc]
  exact (makes_before hheard s calls).bind fun _ t _ => Makes.mapM (makes_visit hheard) d t _

end Walk

end SchemaAccess.Pass

import SchemaAccess.Proofs.FunctionBinding
import SchemaAccess.Proofs.Settlement

namespace SchemaAccess.Pass

open GraphQL (Composite FieldDef Definition Document)
open Policy (Ledger)

section Keeps

variable {α β : Type} {P : Session → Prop}

/-- A step that goes from sessions of a kind to sessions of that kind. -/
def Step.Keeps (P : Session → Prop) (x : Step α) : Prop :=
  ∀ s a t, P s → x.outcome s = .ok (a, t) → P t

namespace Step.Keeps

protected theorem pure (a : α) : Keeps P (pure a) := by
  intro s b t hs h
  obtain ⟨-, rfl⟩ := Prod.mk.inj (Except.ok.inj h)
  exact hs

protected theorem throw (e : Failure) : Keeps P (throw e : Step α) := by
  intro s a t _ h
  contradiction

protected theorem get : Keeps P (get : Step Session) := by
  intro s a t hs h
  obtain ⟨-, rfl⟩ := Prod.mk.inj (Except.ok.inj h)
  exact hs

protected theorem modify {f : Session → Session} (hf : ∀ s, P s → P (f s)) : Keeps P (modify f) := by
  intro s a t hs h
  obtain ⟨-, rfl⟩ := Prod.mk.inj (Except.ok.inj h)
  exact hf s hs

theorem require (x : Except Failure α) : Keeps P (Step.require x) := by
  cases x with
  | ok a => exact Keeps.pure a
  | error e => exact Keeps.throw e

protected theorem bind {x : Step α} {k : α → Step β} (hx : Keeps P x) (hk : ∀ a, Keeps P (k a)) :
    Keeps P (x >>= k) := by
  intro s b t hs h
  rw [outcome_bind] at h
  cases hr : x.outcome s with
  | error e =>
    rw [hr] at h
    contradiction
  | ok r =>
    rw [hr] at h
    exact hk r.1 r.2 b t (hx s r.1 r.2 hs hr) h

theorem update {f : Session → Except Failure Session} (hf : ∀ s t, P s → f s = .ok t → P t) :
    Keeps P (Step.update f) := by
  intro s a t hs h
  rw [outcome_update] at h
  cases hfs : f s with
  | error e =>
    rw [hfs] at h
    contradiction
  | ok t' =>
    rw [hfs] at h
    obtain ⟨-, rfl⟩ := Prod.mk.inj (Except.ok.inj h)
    exact hf s t' hs hfs

theorem mapM {f : α → Step β} (hf : ∀ a, Keeps P (f a)) (items : List α) : Keeps P (items.mapM f) := by
  induction items with
  | nil => exact Keeps.pure []
  | cons a items ih =>
    rw [List.mapM_cons]
    apply (hf a).bind
    intro b
    apply ih.bind
    intro bs
    exact Keeps.pure (b :: bs)

theorem foldlM {f : β → α → Step β} (hf : ∀ b a, Keeps P (f b a)) (items : List α) (b : β) :
    Keeps P (items.foldlM f b) := by
  induction items generalizing b with
  | nil => exact Keeps.pure b
  | cons a items ih =>
    rw [List.foldlM_cons]
    exact (hf b a).bind ih

end Step.Keeps

end Keeps

/-- A kind of sessions that bound fields, fields that wait and noted visits have no part in. That is all
that handlers change at nodes. -/
structure Session.Apart (P : Session → Prop) : Prop where
  bindings : ∀ s bindings, P s → P { s with bindings := bindings }
  pending : ∀ s pending, P s → P { s with pending := pending }
  log : ∀ s log, P s → P { s with log := log }

section Walks

variable {P : Session → Prop} (hP : Session.Apart P)
include hP

theorem keeps_atObject (h : Handler) (node : Composite) : (h.atObject node).Keeps P := by
  cases h with
  | function => exact Step.Keeps.throw _
  | auth e => exact Step.Keeps.get.bind fun s => Step.Keeps.require (e.object s node)
  | permit directive onTypes onFields =>
    cases onTypes with
    | true => exact Step.Keeps.pure node
    | false => exact Step.Keeps.throw _
  | observe directive =>
    apply Step.Keeps.bind
    · exact Step.Keeps.modify fun s hs => hP.log s _ hs
    · intro _
      exact Step.Keeps.pure node

theorem keeps_atField (h : Handler) (typeName : String) (f : FieldDef) :
    (h.atField typeName f).Keeps P := by
  cases h with
  | function =>
    apply Step.Keeps.bind
    · apply Step.Keeps.update
      intro s t hs ht
      cases hb : functionBinding typeName f with
      | error e =>
        rw [hb] at ht
        contradiction
      | ok b =>
        rw [hb] at ht
        change s.bind b = .ok t at ht
        rw [bind_eq_settled, settled_eq_ok_iff] at ht
        obtain ⟨-, rfl⟩ := ht
        exact hP.bindings s _ hs
    · intro _
      exact Step.Keeps.pure f
  | auth e =>
    have hawait : ∀ r : List Access.Rule × FieldDef,
        Step.Keeps P (modify fun s => Enforcement.await s typeName f.name r.1) := by
      intro r
      apply Step.Keeps.modify
      intro s hs
      unfold Enforcement.await
      split
      · exact hP.pending s _ hs
      · exact hs
    refine Step.Keeps.get.bind fun s => (Step.Keeps.require (e.field s typeName f)).bind fun r => ?_
    exact (hawait r).bind fun _ => Step.Keeps.pure r.2
  | permit directive onTypes onFields =>
    cases onFields with
    | true => exact Step.Keeps.pure f
    | false => exact Step.Keeps.throw _
  | observe directive =>
    apply Step.Keeps.bind
    · exact Step.Keeps.modify fun s hs => hP.log s _ hs
    · intro _
      exact Step.Keeps.pure f

theorem keeps_visitField (h : Handler) (typeName : String) (f : FieldDef) :
    (h.visitField typeName f).Keeps P := by
  unfold Handler.visitField
  split
  · exact keeps_atField hP h typeName f
  · exact Step.Keeps.pure f

theorem keeps_visitType (h : Handler) (node : Composite) : (h.visitType node).Keeps P := by
  unfold Handler.visitType
  split
  · exact keeps_atObject hP h node
  · exact Step.Keeps.pure node

theorem keeps_visit (h : Handler) (x : Definition) : (h.visit x).Keeps P := by
  cases x with
  | object extension node =>
    apply Step.Keeps.bind
    · rw [h.visitObject_eq]
      apply (keeps_visitType hP h node).bind
      intro node
      apply (Step.Keeps.mapM (keeps_visitField hP h node.name) node.fields).bind
      intro fields
      exact Step.Keeps.pure _
    · intro node
      exact Step.Keeps.pure _
  | _ => exact Step.Keeps.pure _

theorem keeps_walk (h : Handler) (d : Document) : (h.walk d).Keeps P := by
  have hbefore : h.before.Keeps P := by
    cases h with
    | observe directive => exact Step.Keeps.modify fun s hs => hP.log s _ hs
    | _ => exact Step.Keeps.pure ()
  apply hbefore.bind
  intro _
  exact Step.Keeps.mapM (keeps_visit hP h) d

theorem keeps_walks (handlers : List Handler) (d : Document) :
    Step.Keeps P (handlers.foldlM (fun d h => h.walk d) d) :=
  Step.Keeps.foldlM (fun d h => keeps_walk hP h d) handlers d

end Walks

/-- Nothing has been drawn or declared in the session. -/
structure Session.Untouched (s : Session) : Prop where
  template : s.template = .empty
  ledger : s.ledger = .empty
  policies : s.policies = []

theorem untouched_ofDocument (d : Document) : (Session.ofDocument d).Untouched := ⟨rfl, rfl, rfl⟩

theorem untouched_apart : Session.Apart Session.Untouched where
  bindings _ _ hs := ⟨hs.template, hs.ledger, hs.policies⟩
  pending _ _ hs := ⟨hs.template, hs.ledger, hs.policies⟩
  log _ _ hs := ⟨hs.template, hs.ledger, hs.policies⟩

theorem outcome_forM_after {handlers : List Handler} (h : ∀ e, .auth e ∉ handlers) (s : Session) :
    ∃ log, Step.outcome (handlers.forM Handler.after) s = .ok ((), { s with log := log }) := by
  induction handlers generalizing s with
  | nil => exact ⟨s.log, rfl⟩
  | cons handler handlers ih =>
    have hrest : ∀ e, .auth e ∉ handlers := by
      intro e he
      exact h e (List.mem_cons_of_mem _ he)
    have hafter : ∃ log, handler.after.outcome s = .ok ((), { s with log := log }) := by
      cases handler with
      | auth e => exact absurd List.mem_cons_self (h e)
      | observe directive => exact ⟨s.log ++ [.after directive], rfl⟩
      | _ => exact ⟨s.log, rfl⟩
    obtain ⟨log, hlog⟩ := hafter
    obtain ⟨log', hlog'⟩ := ih hrest { s with log := log }
    refine ⟨log', ?_⟩
    change Step.outcome (handler.after >>= fun _ => handlers.forM Handler.after) s = _
    rw [Step.outcome_bind, hlog]
    exact hlog'

theorem directive_ne_of_nodup {earlier later : List Handler} {h : Handler}
    (hdistinct : ((earlier ++ h :: later).map (·.directive)).Nodup) :
    (∀ g ∈ earlier, g.directive ≠ h.directive) ∧ ∀ g ∈ later, g.directive ≠ h.directive := by
  rw [List.map_append, List.map_cons, List.nodup_append, List.nodup_cons] at hdistinct
  obtain ⟨-, ⟨hlater, -⟩, hearlier⟩ := hdistinct
  constructor
  · intro g hg
    exact hearlier _ (List.mem_map_of_mem hg) _ List.mem_cons_self
  · intro g hg heq
    exact hlater (heq ▸ List.mem_map_of_mem hg)

theorem Pipeline.auth_unique (p : Pipeline) {before after : List Handler} {e : Enforcement}
    (h : p.handlers.reverse = before ++ .auth e :: after) : ∀ e', .auth e' ∉ before ∧ .auth e' ∉ after := by
  have hdistinct : ((before ++ .auth e :: after).map (·.directive)).Nodup := by
    rw [← h, List.map_reverse, List.nodup_reverse]
    exact p.distinct
  obtain ⟨hbefore, hafter⟩ := directive_ne_of_nodup hdistinct
  exact fun e' => ⟨fun hmem => hbefore _ hmem rfl, fun hmem => hafter _ hmem rfl⟩

/-- The documents that are drawn from a session when it is over. -/
def Session.drawn (s : Session) (e : Enforcement) : List Policy.Document :=
  Ledger.drawn (granted s.isBound s.pending) e.cap

/-- What a pass gives when its walks have led to a document and a session. -/
def ended (e : Enforcement) (d : Document) (s : Session) : Output where
  document := d
  template := templateOf e.apiId (s.drawn e)
  policies := s.drawn e

theorem outcome_ends (p : Pipeline) {e : Enforcement} (he : .auth e ∈ p.handlers) {s : Session}
    (hs : s.Untouched) : ∃ t, p.ends.outcome s = .ok ((), t) ∧
      t.template = templateOf e.apiId (s.drawn e) ∧ t.policies = s.drawn e := by
  obtain ⟨before, after, hsplit⟩ := List.append_of_mem (List.mem_reverse.2 he)
  have hunique := p.auth_unique hsplit
  obtain ⟨log, hbefore⟩ := outcome_forM_after (fun e' => (hunique e').1) s
  -- what has been noted down on the way is not looked at
  obtain ⟨l, hsettle⟩ := settle_eq_ok e { s with log := log } hs.ledger hs.template
  let closing : Session := { s with
    log := log
    ledger := l
    template := templateOf e.apiId (s.drawn e)
    policies := s.policies ++ s.drawn e }
  have hauth : (Handler.auth e).after.outcome { s with log := log } = .ok ((), closing) := by
    rw [Handler.after, Step.outcome_update, hsettle]
    rfl
  obtain ⟨log', hafter⟩ := outcome_forM_after (fun e' => (hunique e').2) closing
  have hrest : Step.outcome ((Handler.auth e :: after).forM Handler.after) { s with log := log } =
      .ok ((), { closing with log := log' }) := by
    change Step.outcome ((Handler.auth e).after >>= fun _ => after.forM Handler.after) _ = _
    rw [Step.outcome_bind, hauth]
    exact hafter
  refine ⟨{ closing with log := log' }, ?_, rfl, ?_⟩
  · rw [Pipeline.ends, hsplit]
    change Step.outcome (forM (before ++ .auth e :: after) Handler.after) s = _
    rw [List.forM_append, Step.outcome_bind]
    change Step.outcome (before.forM Handler.after) s >>= _ = _
    rw [hbefore]
    exact hrest
  · change s.policies ++ s.drawn e = s.drawn e
    rw [hs.policies, List.nil_append]

theorem run_fst_eq (p : Pipeline) (d : Document) : (p.run d).1 =
    ((p.steps d).outcome (Session.ofDocument d)).map fun r => ⟨r.1, r.2.template, r.2.policies⟩ := by
  unfold Pipeline.run Step.outcome
  cases (p.steps d).run (Session.ofDocument d) <;> rfl

theorem run_fst_eq_ok (p : Pipeline) {d d' : Document} {s t : Session}
    (hwalks : (p.walks d).outcome (Session.ofDocument d) = .ok (d', s)) (hends : p.ends.outcome s = .ok ((), t)) :
    (p.run d).1 = .ok ⟨d', t.template, t.policies⟩ := by
  have hsteps : (p.steps d).outcome (Session.ofDocument d) = .ok (d', t) := by
    rw [Pipeline.steps, Step.outcome_bind, hwalks]
    change Step.outcome (p.ends >>= fun _ => pure d') s = _
    rw [Step.outcome_bind, hends]
    rfl
  rw [run_fst_eq, hsteps]
  rfl

theorem run_fst_eq_settled (p : Pipeline) {e : Enforcement} (he : .auth e ∈ p.handlers) {d d' : Document}
    {s : Session} {faults : List Failure}
    (hwalks : (p.walks d).outcome (Session.ofDocument d) = settled faults (d', s)) :
    (p.run d).1 = settled faults (ended e d' s) := by
  cases faults with
  | cons fault more =>
    have hsteps : (p.steps d).outcome (Session.ofDocument d) = .error fault := by
      rw [Pipeline.steps, Step.outcome_bind, hwalks]
      rfl
    rw [run_fst_eq, hsteps]
    rfl
  | nil =>
    have hs := keeps_walks untouched_apart p.handlers d _ d' s (untouched_ofDocument d) hwalks
    obtain ⟨t, hends, htemplate, hpolicies⟩ := outcome_ends p he hs
    rw [run_fst_eq_ok p hwalks hends, htemplate, hpolicies]
    rfl

/-- Whatever handlers a pass has, its policies are drawn from what has been granted, which may be nothing. -/
theorem exists_policies_eq_drawn {p : Pipeline} {d : Document} {out : Output} (h : (p.run d).1 = .ok out) :
    ∃ given cap, out.policies = Ledger.drawn given cap := by
  cases hwalks : (p.walks d).outcome (Session.ofDocument d) with
  | error e =>
    have hsteps : (p.steps d).outcome (Session.ofDocument d) = .error e := by
      rw [Pipeline.steps, Step.outcome_bind, hwalks]
      rfl
    rw [run_fst_eq, hsteps] at h
    contradiction
  | ok r =>
    obtain ⟨d', s⟩ := r
    by_cases hauth : ∃ e, .auth e ∈ p.handlers
    · obtain ⟨e, he⟩ := hauth
      have hnone : (p.walks d).outcome (Session.ofDocument d) = settled [] (d', s) := hwalks
      rw [run_fst_eq_settled p he hnone] at h
      obtain rfl := Except.ok.inj h
      exact ⟨_, _, rfl⟩
    · rw [not_exists] at hauth
      have hs := keeps_walks untouched_apart p.handlers d _ d' s (untouched_ofDocument d) hwalks
      obtain ⟨log, hends⟩ := outcome_forM_after (fun e he => hauth e (List.mem_reverse.1 he)) s
      rw [run_fst_eq_ok p hwalks hends] at h
      obtain rfl := Except.ok.inj h
      exact ⟨fun _ => [], 1, hs.policies⟩

end SchemaAccess.Pass

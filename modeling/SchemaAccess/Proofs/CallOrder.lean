import SchemaAccess.Proofs.HookCalls

namespace SchemaAccess.Pass

open Access (NoMarker)
open GraphQL (Document)

def Handler.leaves (d : Document) (h : Handler) : Document :=
  match h with
  | .auth e => withMarkers e.config d
  | _ => d

def leftBy (d : Document) (handlers : List Handler) : Document := handlers.foldl Handler.leaves d

/-- The calls of walks, each on the document that the ones before it leave. -/
def walksCalls (d : Document) : List Handler → List Visit
  | [] => []
  | h :: rest => walkCalls h.directive d ++ walksCalls (h.leaves d) rest

def endsCalls (handlers : List Handler) : List Visit := handlers.map fun h => .after h.directive

theorem alike_leaves (d : Document) (h : Handler) : d.Alike NoMarker (h.leaves d) := by
  cases h with
  | auth e => exact alike_withMarkers e.config d
  | _ => exact .refl NoMarker d

theorem Handler.walk_eq_ok {h : Handler} {d d' : Document} {s t : Session} (hs : s.rootTypes = d.rootNames)
    (hr : (h.walk d).outcome s = .ok (d', t)) : d' = h.leaves d ∧ t.rootTypes = (h.leaves d).rootNames := by
  have hkept : Session.Apart fun s => s.rootTypes = d.rootNames := ⟨fun _ _ h => h, fun _ _ h => h, fun _ _ h => h⟩
  refine ⟨?_, (keeps_walk hkept h d s d' t hs hr).trans (alike_leaves d h).rootNames.symm⟩
  cases h with
  | function =>
    rw [outcome_walk_function, settled_eq_ok_iff] at hr
    exact (Prod.mk.inj hr.2).1.symm
  | auth e =>
    rw [outcome_walk_auth, settled_eq_ok_iff, hs] at hr
    exact (Prod.mk.inj hr.2).1.symm
  | permit directive onTypes onFields =>
    rw [outcome_walk_permit, settled_eq_ok_iff] at hr
    exact (Prod.mk.inj hr.2).1.symm
  | observe directive =>
    obtain ⟨log, hlog⟩ := outcome_walk_observe directive d s
    rw [hlog] at hr
    exact (Prod.mk.inj (Except.ok.inj hr)).1.symm

section Makes

variable {heard : Visit → Bool}

theorem makes_walks {handlers : List Handler}
    (hheard : ∀ h ∈ handlers, ∀ v, v.directive = h.directive → heard v = h.observes) {d : Document} {s : Session}
    (hs : s.rootTypes = d.rootNames) (calls : List Visit) :
    Makes heard (walksCalls d handlers) (handlers.foldlM (fun d h => h.traced.walk d) d)
      (handlers.foldlM (fun d h => h.walk d) d) s calls := by
  induction handlers generalizing d s calls with
  | nil => exact .pure d s calls
  | cons h handlers ih =>
    rw [List.forall_mem_cons] at hheard
    rw [List.foldlM_cons, List.foldlM_cons]
    refine (makes_walk hheard.1 d s calls).bind fun d' t hr => ?_
    obtain ⟨rfl, ht⟩ := h.walk_eq_ok hs hr
    exact ih hheard.2 ht _

theorem makes_ends {handlers : List Handler}
    (hheard : ∀ h ∈ handlers, ∀ v, v.directive = h.directive → heard v = h.observes) (s : Session)
    (calls : List Visit) :
    Makes heard (endsCalls handlers) (handlers.forM fun h => h.traced.after) (handlers.forM Handler.after) s
      calls := by
  induction handlers generalizing s calls with
  | nil => exact .pure () s calls
  | cons h handlers ih =>
    rw [List.forall_mem_cons] at hheard
    exact (makes_after hheard.1 s calls).bind fun _ t _ => ih hheard.2 t _

end Makes

/-! ### Calls for one directive -/

theorem directive_of_mem_walkCalls {directive : String} {d : Document} {v : Visit} (hv : v ∈ walkCalls directive d) :
    v.directive = directive := by
  rw [walkCalls_eq_flatMap_sites, List.mem_cons, List.mem_flatMap] at hv
  obtain rfl | ⟨site, -, hsite⟩ := hv
  · rfl
  · unfold siteCalls at hsite
    split at hsite
    · rw [List.mem_singleton] at hsite
      subst hsite
      cases site <;> rfl
    · contradiction

theorem after_notMem_walkCalls (directive ended : String) (d : Document) :
    .after ended ∉ walkCalls directive d := by
  rw [walkCalls_eq_flatMap_sites, List.mem_cons, List.mem_flatMap]
  rintro (h | ⟨site, -, hsite⟩)
  · contradiction
  · unfold siteCalls at hsite
    split at hsite
    · rw [List.mem_singleton] at hsite
      cases site <;> contradiction
    · contradiction

theorem walkCalls_leftBy {directive : String} (hn : NoMarker directive) (d : Document) (earlier : List Handler) :
    walkCalls directive (leftBy d earlier) = walkCalls directive d := by
  induction earlier generalizing d with
  | nil => rfl
  | cons h earlier ih =>
    have halike := (alike_leaves d h).padded
    have hsites : (h.leaves d).sites.flatMap (siteCalls directive) = d.sites.flatMap (siteCalls directive) := by
      apply halike.sites.flatMap_eq
      · intro a b hab
        have hvisit : visitOf directive b = visitOf directive a := by
          cases hab with
          | type hname => rw [visitOf, visitOf, hname]
          | field hname => rw [visitOf, visitOf, hname]
        rw [siteCalls, siteCalls, hab.carries_eq hn, hvisit]
      · intro node hnone
        simp [siteCalls, hnone, GraphQL.carries]
    refine (ih (h.leaves d)).trans ?_
    rw [walkCalls_eq_flatMap_sites, walkCalls_eq_flatMap_sites, hsites]

theorem walksCalls_append (d : Document) (earlier later : List Handler) :
    walksCalls d (earlier ++ later) = walksCalls d earlier ++ walksCalls (leftBy d earlier) later := by
  induction earlier generalizing d with
  | nil => rfl
  | cons h earlier ih =>
    change walkCalls h.directive d ++ walksCalls (h.leaves d) (earlier ++ later) = _
    rw [ih, ← List.append_assoc]
    rfl

theorem exists_directive_of_mem_walksCalls {d : Document} {handlers : List Handler} {v : Visit}
    (hv : v ∈ walksCalls d handlers) : ∃ h ∈ handlers, v.directive = h.directive := by
  induction handlers generalizing d with
  | nil => contradiction
  | cons h handlers ih =>
    rw [walksCalls, List.mem_append] at hv
    obtain hv | hv := hv
    · exact ⟨h, List.mem_cons_self, directive_of_mem_walkCalls hv⟩
    · obtain ⟨g, hg, hdirective⟩ := ih hv
      exact ⟨g, List.mem_cons_of_mem h hg, hdirective⟩

theorem after_notMem_walksCalls (directive : String) (d : Document) (handlers : List Handler) :
    .after directive ∉ walksCalls d handlers := by
  induction handlers generalizing d with
  | nil => exact List.not_mem_nil
  | cons h handlers ih =>
    rw [walksCalls, List.mem_append, not_or]
    exact ⟨after_notMem_walkCalls h.directive directive d, ih (h.leaves d)⟩

theorem exists_of_append_eq_append_cons {α : Type} {xs ys before after : List α} {a : α}
    (h : xs ++ ys = before ++ a :: after) :
    (∃ rest, xs = before ++ a :: rest) ∨ ∃ more, before = xs ++ more ∧ ys = more ++ a :: after := by
  obtain ⟨more, hbefore, hys⟩ | ⟨rest, hxs, hafter⟩ := List.append_eq_append_iff.1 h
  · exact .inr ⟨more, hbefore, hys⟩
  · cases rest with
    | nil => exact .inr ⟨[], by simpa using hxs.symm, by simpa using hafter.symm⟩
    | cons b rest =>
      obtain rfl := (List.cons.inj hafter).1
      exact .inl ⟨rest, hxs⟩

theorem walksCalls_eq_append_cons {d : Document} {handlers : List Handler} {made more : List Visit} {v : Visit}
    (h : walksCalls d handlers = made ++ v :: more) : ∃ earlier handler later mine unmade,
      handlers = earlier ++ handler :: later ∧ made = walksCalls d earlier ++ mine ∧
      walkCalls handler.directive (leftBy d earlier) = mine ++ v :: unmade := by
  induction handlers generalizing d made with
  | nil => simp [walksCalls] at h
  | cons handler handlers ih =>
    obtain ⟨unmade, hwalk⟩ | ⟨mine, rfl, hrest⟩ := exists_of_append_eq_append_cons h
    · exact ⟨[], handler, handlers, made, unmade, rfl, rfl, hwalk⟩
    · obtain ⟨earlier, g, later, mine', unmade, rfl, rfl, hwalk⟩ := ih hrest
      exact ⟨handler :: earlier, g, later, mine', unmade, rfl, by rw [walksCalls, List.append_assoc], hwalk⟩

theorem filter_walksCalls (d : Document) {earlier later : List Handler} {h : Handler}
    (hdistinct : ((earlier ++ h :: later).map (·.directive)).Nodup) :
    (walksCalls d (earlier ++ h :: later)).filter (·.directive = h.directive) =
      walkCalls h.directive (leftBy d earlier) := by
  have hother {d' : Document} {others : List Handler} (hothers : ∀ g ∈ others, g.directive ≠ h.directive) :
      (walksCalls d' others).filter (·.directive = h.directive) = [] := by
    rw [List.filter_eq_nil_iff]
    intro v hv
    obtain ⟨g, hg, hdirective⟩ := exists_directive_of_mem_walksCalls hv
    simpa [hdirective] using hothers g hg
  have hown : (walkCalls h.directive (leftBy d earlier)).filter (·.directive = h.directive) =
      walkCalls h.directive (leftBy d earlier) := by
    rw [List.filter_eq_self]
    exact fun v hv => decide_eq_true (directive_of_mem_walkCalls hv)
  obtain ⟨hearlier, hlater⟩ := directive_ne_of_nodup hdistinct
  rw [walksCalls_append, walksCalls, List.filter_append, List.filter_append, hother hearlier, hown, hother hlater,
    List.nil_append, List.append_nil]

theorem filter_endsCalls {earlier later : List Handler} {h : Handler}
    (hdistinct : ((earlier ++ h :: later).map (·.directive)).Nodup) :
    (endsCalls (earlier ++ h :: later).reverse).filter (·.directive = h.directive) = [.after h.directive] := by
  have hother {others : List Handler} (hothers : ∀ g ∈ others, g.directive ≠ h.directive) :
      (endsCalls others.reverse).filter (·.directive = h.directive) = [] := by
    rw [List.filter_eq_nil_iff, endsCalls, List.forall_mem_map]
    intro g hg
    simp [Visit.directive, hothers g (List.mem_reverse.1 hg)]
  obtain ⟨hearlier, hlater⟩ := directive_ne_of_nodup hdistinct
  have hends : endsCalls (earlier ++ h :: later).reverse =
      endsCalls later.reverse ++ .after h.directive :: endsCalls earlier.reverse := by
    simp [endsCalls]
  rw [hends, List.filter_append, List.filter_cons_of_pos (by simp [Visit.directive]), hother hearlier,
    hother hlater, List.nil_append]

namespace Pipeline

def hears (p : Pipeline) (v : Visit) : Bool := p.handlers.any fun h => h.observes && h.directive == v.directive

theorem hears_eq (p : Pipeline) {h : Handler} (hh : h ∈ p.handlers) {v : Visit} (hv : v.directive = h.directive) :
    p.hears v = h.observes := by
  have hunique : ∀ g ∈ p.handlers, g.directive = v.directive → g = h := by
    intro g hg hdirective
    exact List.inj_on_of_nodup_map p.distinct hg hh (hdirective.trans hv)
  rw [hears, Bool.eq_iff_iff, List.any_eq_true]
  constructor
  · rintro ⟨g, hg, hgv⟩
    rw [Bool.and_eq_true, beq_iff_eq] at hgv
    rw [← hunique g hg hgv.2]
    exact hgv.1
  · intro ho
    exact ⟨h, hh, by simp [ho, hv]⟩

def planned (p : Pipeline) (d : Document) : List Visit :=
  walksCalls d p.handlers ++ endsCalls p.handlers.reverse

def tracedWalks (p : Pipeline) (d : Document) : Traced Document :=
  p.handlers.foldlM (fun d h => h.traced.walk d) d

theorem tracedSteps_eq (p : Pipeline) (d : Document) : p.tracedSteps d = p.tracedWalks d >>= fun d =>
    (p.handlers.reverse.forM fun h => h.traced.after) >>= fun _ => pure d := by
  have hends : (p.handlers.map Handler.traced).reverse.forM Hooks.after =
      p.handlers.reverse.forM fun h => h.traced.after := by
    rw [← List.map_reverse]
    exact List.forM_map ..
  rw [tracedSteps, Hooks.pass, List.foldlM_map, hends, tracedWalks]

theorem makes_walks (p : Pipeline) (d : Document) :
    Makes p.hears (walksCalls d p.handlers) (p.tracedWalks d) (p.walks d) (Session.ofDocument d) [] :=
  Pass.makes_walks (fun _ hh _ hv => p.hears_eq hh hv) rfl []

theorem makes_steps (p : Pipeline) (d : Document) :
    Makes p.hears (p.planned d) (p.tracedSteps d) (p.steps d) (Session.ofDocument d) [] := by
  have hheard : ∀ h ∈ p.handlers.reverse, ∀ v, v.directive = h.directive → p.hears v = h.observes :=
    fun h hh v hv => p.hears_eq (List.mem_reverse.1 hh) hv
  rw [tracedSteps_eq]
  exact (p.makes_walks d).bind fun d' t _ => (makes_ends hheard t _).bind_pure fun _ => d'

/-- To note calls down changes nothing, the log holds those that are heard, and a pass that goes through makes
all calls that are planned. -/
theorem traced_run (p : Pipeline) (d : Document) : (p.traced d).1 = (p.run d).1 ∧
    (p.run d).2 = (p.traced d).2.filter p.hears ∧ ∀ o, (p.run d).1 = .ok o → (p.traced d).2 = p.planned d := by
  have h := p.makes_steps d
  unfold Makes at h
  unfold traced run
  generalize (p.steps d).run (Session.ofDocument d) = plain at h ⊢
  generalize (p.tracedSteps d).run (Session.ofDocument d, []) = noted at h ⊢
  cases h with
  | ok hlog => exact ⟨rfl, hlog, fun _ _ => rfl⟩
  | error _ hlog => exact ⟨rfl, hlog, fun _ h => by contradiction⟩

theorem exists_outcome_ends (p : Pipeline) {s : Session} (hs : s.Untouched) :
    ∃ t, p.ends.outcome s = .ok ((), t) := by
  by_cases hauth : ∃ e, .auth e ∈ p.handlers
  · obtain ⟨e, he⟩ := hauth
    obtain ⟨t, ht, -⟩ := outcome_ends p he hs
    exact ⟨t, ht⟩
  · rw [not_exists] at hauth
    obtain ⟨log, hlog⟩ := outcome_forM_after (fun e he => hauth e (List.mem_reverse.1 he)) s
    exact ⟨_, hlog⟩

theorem exists_run_fst_eq_ok (p : Pipeline) {d d' : Document} {s : Session}
    (hwalks : (p.walks d).outcome (Session.ofDocument d) = .ok (d', s)) : ∃ o, (p.run d).1 = .ok o := by
  have hs := keeps_walks untouched_apart p.handlers d _ d' s (untouched_ofDocument d) hwalks
  obtain ⟨t, hends⟩ := p.exists_outcome_ends hs
  exact ⟨_, run_fst_eq_ok p hwalks hends⟩

theorem exists_traced_of_error {p : Pipeline} {d : Document} {e : Failure} (he : (p.run d).1 = .error e) :
    ∃ made v more, walksCalls d p.handlers = made ++ v :: more ∧ (p.traced d).2 = made ++ [v] := by
  have h := p.makes_walks d
  unfold Makes at h
  generalize hplain : (p.walks d).run (Session.ofDocument d) = plain at h
  generalize hnoted : (p.tracedWalks d).run (Session.ofDocument d, []) = noted at h
  cases h with
  | ok =>
    obtain ⟨o, ho⟩ := p.exists_run_fst_eq_ok (by rw [Step.outcome, hplain])
    rw [ho] at he
    contradiction
  | error hagenda =>
    refine ⟨_, _, _, hagenda, ?_⟩
    rw [traced, tracedSteps_eq, Traced.run_bind_of_error _ hnoted]
    rfl

theorem filter_traced {p : Pipeline} {d : Document} {o : Output} (ho : (p.run d).1 = .ok o) {h : Handler}
    (hh : h ∈ p.handlers) (hn : NoMarker h.directive) :
    (p.traced d).2.filter (·.directive = h.directive) = walkCalls h.directive d ++ [.after h.directive] := by
  obtain ⟨earlier, later, hsplit⟩ := List.append_of_mem hh
  have hdistinct := p.distinct
  rw [hsplit] at hdistinct
  rw [(p.traced_run d).2.2 o ho, planned, List.filter_append, hsplit, filter_walksCalls d hdistinct,
    filter_endsCalls hdistinct, walkCalls_leftBy hn]

theorem filter_log {p : Pipeline} {d : Document} {directive : String} (hh : .observe directive ∈ p.handlers) :
    (p.run d).2.filter (·.directive = directive) = (p.traced d).2.filter (·.directive = directive) := by
  rw [(p.traced_run d).2.1, List.filter_filter]
  refine List.filter_congr fun v _ => ?_
  by_cases hv : v.directive = directive
  · have hhears : p.hears v = true := p.hears_eq hh hv
    rw [hhears, Bool.and_true]
  · simp [hv]

/-- Where a pass stops that fails: at a call for one handler, behind the walks of the earlier ones. -/
structure StopsAt (p : Pipeline) (d : Document) (earlier : List Handler) (h : Handler) (later : List Handler)
    (made : List Visit) (failing : Visit) : Prop where
  handlers : p.handlers = earlier ++ h :: later
  /-- The call that fails, in the walk of the handler. -/
  walk : ∃ unmade, walkCalls h.directive (leftBy d earlier) = made ++ failing :: unmade
  calls : (p.traced d).2 = walksCalls d earlier ++ made ++ [failing]
  no_end (directive : String) : .after directive ∉ (p.traced d).2
  none_later : ∀ g ∈ later, ∀ v ∈ (p.traced d).2, v.directive ≠ g.directive

/-- Which calls a pass makes, and in which order. -/
structure CallsInOrder (p : Pipeline) (d : Document) : Prop where
  /-- Calls are noted down by a pass that differs in its hooks alone, and comes out the same. -/
  steps : p.steps d = Hooks.pass (p.handlers.map Handler.hooks) d
  outcome : (p.traced d).1 = (p.run d).1
  log : (p.run d).2 = (p.traced d).2.filter p.hears
  /-- One walk after the other, and then the ends in reverse. -/
  all {o : Output} (ho : (p.run d).1 = .ok o) :
    (p.traced d).2 = walksCalls d p.handlers ++ endsCalls p.handlers.reverse
  /-- What a handler is called for is told by the document as it was, unless the handler is for a marker. -/
  own {o : Output} (ho : (p.run d).1 = .ok o) {h : Handler} (hh : h ∈ p.handlers) (hn : NoMarker h.directive) :
    (p.traced d).2.filter (·.directive = h.directive) = walkCalls h.directive d ++ [.after h.directive]
  observed {o : Output} (ho : (p.run d).1 = .ok o) {directive : String} (hh : .observe directive ∈ p.handlers)
    (hn : NoMarker directive) :
    (p.run d).2.filter (·.directive = directive) = walkCalls directive d ++ [.after directive]
  unmarked {directive : String} (hn : NoMarker directive) (earlier : List Handler) :
    walkCalls directive (leftBy d earlier) = walkCalls directive d
  stops {e : Failure} (he : (p.run d).1 = .error e) :
    ∃ earlier h later made failing, p.StopsAt d earlier h later made failing

theorem exists_stopsAt {p : Pipeline} {d : Document} {e : Failure} (he : (p.run d).1 = .error e) :
    ∃ earlier h later made failing, p.StopsAt d earlier h later made failing := by
  obtain ⟨made, failing, more, hwalks, hcalls⟩ := exists_traced_of_error he
  obtain ⟨earlier, h, later, mine, unmade, hsplit, rfl, hwalk⟩ := walksCalls_eq_append_cons hwalks
  have hmem : ∀ v ∈ (p.traced d).2, v ∈ walksCalls d (earlier ++ [h]) := by
    intro v hv
    rw [hcalls] at hv
    rw [walksCalls_append, walksCalls, walksCalls, hwalk]
    simp only [List.mem_append, List.mem_cons] at hv ⊢
    tauto
  have hdistinct := p.distinct
  rw [hsplit, List.append_cons, List.map_append, List.nodup_append] at hdistinct
  refine ⟨earlier, h, later, mine, failing, hsplit, ⟨unmade, hwalk⟩, hcalls, ?_, ?_⟩
  · exact fun directive hend => after_notMem_walksCalls directive d _ (hmem _ hend)
  · intro g hg v hv hdirective
    obtain ⟨g', hg', hdirective'⟩ := exists_directive_of_mem_walksCalls (hmem v hv)
    exact hdistinct.2.2 _ (List.mem_map_of_mem hg') _ (List.mem_map_of_mem hg) (hdirective'.symm.trans hdirective)

/-- Every pass calls the hooks of its handlers in order, each time once. -/
theorem callsInOrder (p : Pipeline) (d : Document) : p.CallsInOrder d where
  steps := p.steps_eq_pass d
  outcome := (p.traced_run d).1
  log := (p.traced_run d).2.1
  all ho := (p.traced_run d).2.2 _ ho
  own ho _ hh hn := filter_traced ho hh hn
  observed ho _ hh hn := (filter_log hh).trans (filter_traced ho hh hn)
  unmarked hn earlier := walkCalls_leftBy hn d earlier
  stops he := exists_stopsAt he

/-- A type that carries a directive twice is visited once. Where the second handler fails, the first one has made
its walk, and nothing has ended. -/
example :
    let field : GraphQL.FieldDef := ⟨none, "id", [], .named "ID", [.plain "a", .plain "b"]⟩
    let node : GraphQL.Composite := ⟨none, "T", [], [.plain "a", .plain "a"], [field]⟩
    let p : Pipeline := ⟨[.observe "a", .reject "b", .observe "c"], by simp, by decide⟩
    (p.traced [.object false node]).2 =
      [.before "a", .object "a" "T", .field "a" "T.id", .before "b", .field "b" "T.id"] := by
  decide +kernel

end Pipeline

end SchemaAccess.Pass

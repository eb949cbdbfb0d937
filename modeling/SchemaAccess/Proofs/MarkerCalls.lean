import Mathlib.Data.List.Induction
import Mathlib.Data.List.TakeWhile
import SchemaAccess.Proofs.RuleFaults

namespace SchemaAccess.Access

open GraphQL (Directive)

/-- A call for the markers of rules. In its message, the node is known by its place. -/
structure MarkCall where
  place : String
  rules : List Rule

/-- The directives of a node after calls in turn. A call that fails does not take back what it added. -/
def markedBy (c : Config) (initial : List Directive) (calls : List MarkCall) : List Directive :=
  calls.foldl (fun ds call => (mark c call.place call.rules ds).directives) initial

@[simp] theorem markedBy_nil (c : Config) (initial : List Directive) : markedBy c initial [] = initial := rfl

@[simp] theorem markedBy_concat (c : Config) (initial : List Directive) (calls : List MarkCall)
    (call : MarkCall) : markedBy c initial (calls ++ [call]) =
      (mark c call.place call.rules (markedBy c initial calls)).directives := by
  simp [markedBy]

/-- The providers that rules use besides the default one, each once, the one used earlier first. -/
structure FirstUses (c : Config) (rules : List Rule) (providers : List Provider) : Prop where
  nodup : providers.Nodup
  mem_iff : ∀ p, p ∈ providers ↔ p ≠ c.defaultProvider ∧ ∃ r ∈ rules, r.provider = p
  ordered : providers.Pairwise fun p q =>
    (rules.map (·.provider)).idxOf p < (rules.map (·.provider)).idxOf q

theorem firstUses_markerProviders (c : Config) (rules : List Rule) :
    FirstUses c rules (markerProviders c rules) where
  nodup := nodup_markerProviders c rules
  mem_iff := mem_markerProviders_iff c rules
  ordered := by
    rw [markerProviders_eq]
    exact pairwise_idxOf_eraseDups _ _

theorem FirstUses.unique {c : Config} {rules : List Rule} {ps qs : List Provider}
    (h : FirstUses c rules ps) (h' : FirstUses c rules qs) : ps = qs := by
  have hperm : ps.Perm qs := by
    rw [List.perm_ext_iff_of_nodup h.nodup h'.nodup]
    intro p
    rw [h.mem_iff, h'.mem_iff]
  apply hperm.eq_of_pairwise _ h.ordered h'.ordered
  intro p q _ _ hpq hqp
  omega

/-- What one call does to a node with directives `ds`: when it fails, and which markers it adds. -/
structure Answers (c : Config) (place : String) (rules : List Rule) (ds : List Directive) (m : Marking) :
    Prop where
  fails_iff : (∃ e, m.outcome = .error e) ↔
    ∃ r ∈ rules, r.provider ≠ c.defaultProvider ∧ GraphQL.carries r.provider.marker ds = true
  adds : ∃ providers, FirstUses c rules providers ∧ Adds place ds providers m

section Adds

variable {place : String} {ds : List Directive} {providers : List Provider} {m m' : Marking}

theorem Adds.fails_iff (h : Adds place ds providers m) :
    (∃ e, m.outcome = .error e) ↔ ∃ p ∈ providers, GraphQL.carries p.marker ds = true := by
  cases h with
  | all hnew =>
    apply iff_of_false
    · rintro ⟨e, he⟩
      contradiction
    · rintro ⟨p, hp, hpresent⟩
      rw [hnew p hp] at hpresent
      contradiction
  | upTo hnew hpresent =>
    apply iff_of_true
    · exact ⟨_, rfl⟩
    · exact ⟨_, by simp, hpresent⟩

theorem Adds.exists_added (h : Adds place ds providers m) :
    ∃ added after, providers = added ++ after ∧ m.directives = ds ++ markersOf added ∧
      ∀ p ∈ added, GraphQL.carries p.marker ds = false := by
  cases h with
  | all hnew => exact ⟨_, [], by simp, rfl, hnew⟩
  | upTo hnew hpresent => exact ⟨_, _, rfl, rfl, hnew⟩

theorem Adds.unique (h : Adds place ds providers m) (h' : Adds place ds providers m') : m = m' := by
  -- markers are added as long as the node does not have them
  have hstop : ∀ {m : Marking}, Adds place ds providers m →
      m = ⟨ds ++ markersOf (providers.takeWhile fun p => !GraphQL.carries p.marker ds),
        match providers.find? fun p => GraphQL.carries p.marker ds with
        | none => .ok (providers.map (·.marker))
        | some p => .error (.rule (.markerPresent p.marker place))⟩ := by
    intro m h
    cases h with
    | all hnew =>
      have htake : providers.takeWhile (fun p => !GraphQL.carries p.marker ds) = providers := by
        rw [List.takeWhile_eq_self_iff]
        simpa using hnew
      rw [htake, List.find?_eq_none.2 (by simpa using hnew)]
    | upTo hnew hpresent =>
      rw [List.takeWhile_append_of_pos (by simpa using hnew), List.find?_append,
        List.find?_eq_none.2 (by simpa using hnew)]
      simp [hpresent]
  rw [hstop h, hstop h']

end Adds

theorem answers_mark (c : Config) (place : String) (rules : List Rule) (ds : List Directive) :
    Answers c place rules ds (mark c place rules ds) where
  fails_iff := by
    rw [(adds_mark c place rules ds).fails_iff]
    simp only [mem_markerProviders_iff]
    constructor
    · rintro ⟨p, ⟨hp, r, hr, rfl⟩, hpresent⟩
      exact ⟨r, hr, hp, hpresent⟩
    · rintro ⟨r, hr, hp, hpresent⟩
      exact ⟨r.provider, ⟨hp, r, hr, rfl⟩, hpresent⟩
  adds := ⟨markerProviders c rules, firstUses_markerProviders c rules, adds_mark c place rules ds⟩

/-- Directives that came from `initial` by adding the markers `names`, one after another. -/
structure Extended (c : Config) (initial : List Directive) (names : List String) (ds : List Directive) :
    Prop where
  directives : ds = initial ++ names.map .plain
  markers : ∀ name ∈ names, ∃ p : Provider, p.marker = name
  nodup : names.Nodup
  notDefault : c.defaultProvider.marker ∉ names
  new : ∀ before name after, names = before ++ name :: after →
    GraphQL.carries name (initial ++ before.map .plain) = false

theorem extended_refl (c : Config) (initial : List Directive) : Extended c initial [] initial := by
  constructor <;> simp

section Extension

variable {c : Config} {initial ds : List Directive} {names : List String}

theorem Extended.carries_eq (h : Extended c initial names ds) (name : String) :
    GraphQL.carries name ds = (GraphQL.carries name initial || decide (name ∈ names)) := by
  rw [h.directives, GraphQL.carries_append, GraphQL.carries_map_plain]

theorem Extended.carries_initial (h : Extended c initial names ds) {name : String} (hname : name ∈ names) :
    GraphQL.carries name initial = false := by
  obtain ⟨before, after, hsplit⟩ := List.append_of_mem hname
  have hnew := h.new before name after hsplit
  rw [GraphQL.carries_append, Bool.or_eq_false_iff] at hnew
  exact hnew.1

theorem Extended.append (h : Extended c initial names ds) {added : List Provider} (hn : added.Nodup)
    (hother : c.defaultProvider ∉ added) (hadded : ∀ p ∈ added, GraphQL.carries p.marker ds = false) :
    Extended c initial (names ++ added.map (·.marker)) (ds ++ markersOf added) := by
  have habsent : ∀ p ∈ added, GraphQL.carries p.marker initial = false ∧ p.marker ∉ names := by
    intro p hp
    have hp' := hadded p hp
    rw [h.carries_eq, Bool.or_eq_false_iff, decide_eq_false_iff_not] at hp'
    exact hp'
  have hnodup : (names ++ added.map (·.marker)).Nodup := by
    apply h.nodup.append (hn.map fun _ _ => Provider.marker_injective)
    intro name hname hmem
    obtain ⟨p, hp, rfl⟩ := List.mem_map.1 hmem
    exact (habsent p hp).2 hname
  constructor
  case directives =>
    rw [h.directives, markersOf_eq_map_plain, List.map_append, List.append_assoc]
  case markers =>
    intro name hname
    rcases List.mem_append.1 hname with hname | hname
    · exact h.markers name hname
    · obtain ⟨p, -, rfl⟩ := List.mem_map.1 hname
      exact ⟨p, rfl⟩
  case nodup => exact hnodup
  case notDefault =>
    rw [List.mem_append, not_or]
    refine ⟨h.notDefault, ?_⟩
    intro hmem
    obtain ⟨p, hp, hmarker⟩ := List.mem_map.1 hmem
    exact hother (Provider.marker_injective hmarker ▸ hp)
  case new =>
    intro before name after hsplit
    have hinitial : GraphQL.carries name initial = false := by
      have hname : name ∈ names ++ added.map (·.marker) := by simp [hsplit]
      rcases List.mem_append.1 hname with hname | hname
      · exact h.carries_initial hname
      · obtain ⟨p, hp, rfl⟩ := List.mem_map.1 hname
        exact (habsent p hp).1
    -- a name does not come twice, so it is not among those before it
    have hbefore : name ∉ before := by
      rw [hsplit] at hnodup
      exact notMem_of_nodup_append_cons hnodup
    rw [GraphQL.carries_append, GraphQL.carries_map_plain, hinitial, decide_eq_false hbefore]
    rfl

theorem Extended.of_answers (h : Extended c initial names ds) {place : String} {rules : List Rule}
    {m : Marking} (hm : Answers c place rules ds m) :
    ∃ more, Extended c initial (names ++ more) m.directives := by
  obtain ⟨providers, hfirst, hadds⟩ := hm.adds
  obtain ⟨added, after, rfl, hdirectives, hadded⟩ := hadds.exists_added
  refine ⟨added.map (·.marker), ?_⟩
  rw [hdirectives]
  apply h.append
  · exact hfirst.nodup.of_append_left
  · intro hmem
    exact ((hfirst.mem_iff _).1 (List.mem_append_left after hmem)).1 rfl
  · exact hadded

end Extension

theorem exists_extended_markedBy (c : Config) (initial : List Directive) (calls : List MarkCall) :
    ∃ names, Extended c initial names (markedBy c initial calls) := by
  -- the last call is the one that finds what all others have added
  induction calls using List.reverseRecOn with
  | nil =>
    rw [markedBy_nil]
    exact ⟨[], extended_refl c initial⟩
  | append_singleton calls call ih =>
    obtain ⟨names, h⟩ := ih
    rw [markedBy_concat]
    obtain ⟨more, hmore⟩ := h.of_answers (answers_mark c call.place call.rules _)
    exact ⟨names ++ more, hmore⟩

/-- However often markers are asked for, a node has what it had and, behind it, new markers, each once and
none for the default provider. One more call fails just if one of the markers that it asks for is there. It
adds those of its providers in the order of first use, up to that one. -/
theorem markedBy_calls (c : Config) (initial : List Directive) (calls : List MarkCall) :
    (∃ names, Extended c initial names (markedBy c initial calls)) ∧
    ∀ place rules, Answers c place rules (markedBy c initial calls)
      (mark c place rules (markedBy c initial calls)) :=
  ⟨exists_extended_markedBy c initial calls, fun place rules => answers_mark c place rules _⟩

/-- Markers that a failed call has added are in the way of the next one. -/
example : markedBy ⟨.bare .userPools, [], by decide⟩ [.plain "aws_oidc"]
      [⟨"type Post", [.bare .owner .iam, .bare .owner .oidc]⟩, ⟨"type Post", [.bare .owner .iam]⟩] =
    [.plain "aws_oidc", .plain "aws_iam"] := by
  rfl

end SchemaAccess.Access

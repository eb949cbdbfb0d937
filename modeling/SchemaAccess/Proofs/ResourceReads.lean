import Mathlib.Data.List.Induction
import SchemaAccess.Deploy.Component

namespace SchemaAccess.Deploy

theorem forall_getElem?_concat {α : Type} {P : Nat → α → Prop} {items : List α} {a : α}
    (hitems : ∀ k b, items[k]? = some b → P k b) (ha : P items.length a) :
    ∀ k b, (items ++ [a])[k]? = some b → P k b := by
  intro k b hb
  rw [List.getElem?_append] at hb
  split at hb
  · exact hitems k b hb
  · rw [List.getElem?_singleton, Option.ite_none_right_eq_some] at hb
    obtain ⟨hk, hb⟩ := hb
    obtain rfl := Option.some.inj hb
    obtain rfl : k = items.length := by omega
    exact ha

/-- Values that a component has given to its readers, in order. -/
structure Served (c : Component) (values : List Value) : Prop where
  made_eq_zero_iff : c.made = 0 ↔ values = []
  made_le : c.made ≤ values.length
  /-- Resources are only made once more if there was nothing to be held. -/
  absent : ∀ k, k + 1 < c.made → (c.make k).isPresent = false
  present : c.made < values.length → (c.make (c.made - 1)).isPresent = true
  /-- Each making is for one reader, and the last one for all that follow. -/
  value : ∀ k v, values[k]? = some v → v = c.make (min k (c.made - 1))
  held : c.held = if c.made = 0 then .null else c.make (c.made - 1)

theorem served_new (name : String) (make : Nat → Value) : Served (.new name make) [] where
  made_eq_zero_iff := by simp [Component.new]
  made_le := Nat.le_refl 0
  absent k h := by simp [Component.new] at h
  present h := by simp [Component.new] at h
  value k v h := by simp at h
  held := rfl

namespace Served

variable {c : Component} {values : List Value} (h : Served c values)
include h

theorem made_eq_length (habsent : c.held.isPresent = false) : c.made = values.length := by
  refine Nat.le_antisymm h.made_le (Nat.le_of_not_lt fun hlt => ?_)
  have hpresent := h.present hlt
  have hmade : c.made ≠ 0 := by
    intro hzero
    rw [h.made_eq_zero_iff.1 hzero] at hlt
    contradiction
  rw [h.held, if_neg hmade, hpresent] at habsent
  contradiction

theorem read_of_present (hpresent : c.held.isPresent = true) : Served c (values ++ [c.held]) := by
  have hmade : c.made ≠ 0 := by
    intro hzero
    rw [h.held, if_pos hzero] at hpresent
    contradiction
  have hheld : c.held = c.make (c.made - 1) := by rw [h.held, if_neg hmade]
  have hle := h.made_le
  constructor
  case made_eq_zero_iff => simp [hmade]
  case made_le =>
    rw [List.length_append]
    omega
  case absent => exact h.absent
  case present =>
    intro _
    rw [← hheld]
    exact hpresent
  case value =>
    apply forall_getElem?_concat h.value
    rw [Nat.min_eq_right (by omega), hheld]
  case held => exact h.held

theorem read_of_absent (habsent : c.held.isPresent = false) :
    Served { c with held := c.make c.made, made := c.made + 1 } (values ++ [c.make c.made]) := by
  have hlength := h.made_eq_length habsent
  constructor
  case made_eq_zero_iff => simp
  case made_le =>
    rw [List.length_append, ← hlength]
    exact Nat.le_refl _
  case absent =>
    intro k hk
    change k + 1 < c.made + 1 at hk
    change (c.make k).isPresent = false
    by_cases hlast : k + 1 < c.made
    · exact h.absent k hlast
    · have hheld : c.held = c.make k := by
        rw [h.held, if_neg (by omega)]
        congr 1
        omega
      rw [← hheld]
      exact habsent
  case present =>
    intro hlt
    change c.made + 1 < (values ++ [c.make c.made]).length at hlt
    rw [List.length_append, List.length_singleton] at hlt
    omega
  case value =>
    -- so far, nobody has been given what had been made before
    apply forall_getElem?_concat
    · intro k v hv
      have hk := (List.getElem?_eq_some_iff.1 hv).1
      rw [h.value k v hv]
      change c.make (min k (c.made - 1)) = c.make (min k c.made)
      congr 1
      omega
    · change c.make c.made = c.make (min values.length c.made)
      congr 1
      omega
  case held => rfl

theorem read : Served c.resources.2 (values ++ [c.resources.1]) := by
  cases hheld : c.held.isPresent with
  | true =>
    rw [Component.resources_of_held hheld]
    exact h.read_of_present hheld
  | false =>
    rw [Component.resources_of_not_held hheld]
    exact h.read_of_absent hheld

/-- Resources are made once and for all if they count as present, or if there has been no second reader. -/
theorem once_iff : (c.made = 1 ∧ ∀ v ∈ values, v = c.make 0) ↔
    values ≠ [] ∧ ((c.make 0).isPresent = true ∨ values.length = 1) := by
  have hle := h.made_le
  have hzero := h.made_eq_zero_iff
  constructor
  · rintro ⟨hmade, -⟩
    have hne : values ≠ [] := fun hnil => absurd (hzero.2 hnil) (by omega)
    refine ⟨hne, ?_⟩
    by_cases hlt : c.made < values.length
    · left
      have hpresent := h.present hlt
      rwa [hmade] at hpresent
    · right
      omega
  · rintro ⟨hne, honce⟩
    have hmade : c.made = 1 := by
      have hpos : c.made ≠ 0 := hzero.not.2 hne
      rcases honce with hpresent | hlength
      · by_contra hmore
        rw [h.absent 0 (by omega)] at hpresent
        contradiction
      · omega
    refine ⟨hmade, fun v hv => ?_⟩
    obtain ⟨k, hk⟩ := List.mem_iff_getElem?.1 hv
    rw [h.value k v hk, hmade, Nat.min_zero]

end Served

namespace Workshop

/-- What can be done in a workshop. -/
inductive Action where
  | add (name : String) (make : Nat → Value)
  /-- A component that has taken its name, and then cannot be made after all. -/
  | abandon (name : String)
  | read (i : Nat)
  | clear

/-- A workshop, and what its components have given to readers, each value with the place of its component. -/
structure Run where
  workshop : Workshop
  answers : List (Nat × Value)

namespace Run

def next (r : Run) : Action → Run
  | .add name make =>
    match r.workshop.add name make with
    | .ok w => { r with workshop := w }
    | .error _ => r
  | .abandon name =>
    match r.workshop.registry.register name with
    | .ok registry => { r with workshop.registry := registry }
    | .error _ => r
  | .read i =>
    match r.workshop.read i with
    | some (v, w) => ⟨w, r.answers ++ [(i, v)]⟩
    | none => r
  | .clear => { r with workshop := r.workshop.clear }

def after (actions : List Action) : Run := actions.foldl next ⟨.empty, []⟩

theorem after_concat (actions : List Action) (action : Action) :
    after (actions ++ [action]) = (after actions).next action := by
  rw [after, List.foldl_append]
  rfl

def component? (r : Run) (i : Nat) : Option Component := r.workshop.components[i]?

/-- What the `i`-th component has given to readers. -/
def answersOf (r : Run) (i : Nat) : List Value := (r.answers.filter (·.1 = i)).map (·.2)

/-- All there is to see of the `i`-th component. -/
def view (r : Run) (i : Nat) : Option Component × List Value := (r.component? i, r.answersOf i)

variable (r : Run)

theorem next_read_of_some {i : Nat} {c : Component} (h : r.component? i = some c) : r.next (.read i) =
    ⟨{ r.workshop with components := r.workshop.components.set i c.resources.2 },
      r.answers ++ [(i, c.resources.1)]⟩ := by
  rw [component?] at h
  rw [next, Workshop.read, h]
  rfl

theorem next_read_of_none {i : Nat} (h : r.component? i = none) : r.next (.read i) = r := by
  rw [component?] at h
  rw [next, Workshop.read, h]
  rfl

theorem view_next_read_self {i : Nat} {c : Component} (h : r.component? i = some c) :
    (r.next (.read i)).view i = (some c.resources.2, r.answersOf i ++ [c.resources.1]) := by
  have hset : (r.workshop.components.set i c.resources.2)[i]? = some c.resources.2 := by
    have hlength := (List.getElem?_eq_some_iff.1 h).1
    exact List.getElem?_set_self hlength
  rw [r.next_read_of_some h]
  simp [view, component?, answersOf, hset]

theorem view_next_read_of_ne {i j : Nat} (hne : j ≠ i) : (r.next (.read i)).view j = r.view j := by
  cases h : r.component? i with
  | none => rw [r.next_read_of_none h]
  | some c =>
    rw [r.next_read_of_some h]
    simp [view, component?, answersOf, List.getElem?_set_ne hne.symm, hne.symm]

theorem view_next_clear (j : Nat) : (r.next .clear).view j = r.view j := rfl

theorem view_next_abandon (name : String) (j : Nat) : (r.next (.abandon name)).view j = r.view j := by
  rw [next]
  cases r.workshop.registry.register name <;> rfl

theorem components_of_add {w w' : Workshop} {name : String} {make : Nat → Value} (h : w.add name make = .ok w') :
    w'.components = w.components ++ [.new name make] := by
  rw [Workshop.add] at h
  cases hregister : w.registry.register name with
  | error e =>
    rw [hregister] at h
    contradiction
  | ok registry =>
    rw [hregister] at h
    obtain rfl := Except.ok.inj h
    rfl

theorem view_next_add (name : String) (make : Nat → Value) (j : Nat) :
    (r.next (.add name make)).view j = r.view j ∨ r.component? j = none ∧
      (r.next (.add name make)).view j = (some (.new name make), r.answersOf j) := by
  rw [next]
  cases h : r.workshop.add name make with
  | error e => exact .inl rfl
  | ok w =>
    change (w.components[j]?, r.answersOf j) = _ ∨ _ ∧ (w.components[j]?, r.answersOf j) = _
    rw [components_of_add h, List.getElem?_append, List.getElem?_singleton]
    split
    · exact .inl rfl
    · have hnone : r.component? j = none := List.getElem?_eq_none (by omega)
      split
      · exact .inr ⟨hnone, rfl⟩
      · left
        rw [view, hnone]

/-- Every component of a run has served its readers, and nobody has been served by others. -/
def Consistent (r : Run) : Prop :=
  ∀ i, match r.view i with
    | (some c, values) => Served c values
    | (none, values) => values = []

namespace Consistent

variable {r : Run}

theorem served (h : r.Consistent) {i : Nat} {c : Component} (hc : r.component? i = some c) :
    Served c (r.answersOf i) := by
  have hi := h i
  rw [view, hc] at hi
  exact hi

theorem answersOf_eq_nil (h : r.Consistent) {i : Nat} (hc : r.component? i = none) : r.answersOf i = [] := by
  have hi := h i
  rw [view, hc] at hi
  exact hi

/-- What one action does to all components. -/
theorem next (h : r.Consistent) (action : Action) : (r.next action).Consistent := by
  intro j
  cases action with
  | add name make =>
    rcases r.view_next_add name make j with hview | ⟨hnone, hview⟩
    · rw [hview]
      exact h j
    · rw [hview, h.answersOf_eq_nil hnone]
      exact served_new name make
  | abandon name =>
    rw [r.view_next_abandon]
    exact h j
  | read i =>
    by_cases hj : j = i
    · subst hj
      cases hc : r.component? j with
      | none =>
        rw [r.next_read_of_none hc]
        exact h j
      | some c =>
        rw [r.view_next_read_self hc]
        exact (h.served hc).read
    · rw [r.view_next_read_of_ne hj]
      exact h j
  | clear =>
    rw [r.view_next_clear]
    exact h j

end Consistent

theorem consistent_after (actions : List Action) : (after actions).Consistent := by
  induction actions using List.reverseRecOn with
  | nil => exact fun _ => rfl
  | append_singleton actions action ih =>
    rw [after_concat]
    exact ih.next action

/-- What comes of a run for its components, at the end of the run and with one action more. -/
structure MakesOnRead (actions : List Action) : Prop where
  served : ∀ i c, (after actions).component? i = some c → Served c ((after actions).answersOf i)
  once_iff : ∀ i c, (after actions).component? i = some c →
    ((c.made = 1 ∧ ∀ v ∈ (after actions).answersOf i, v = c.make 0) ↔ (after actions).answersOf i ≠ [] ∧
      ((c.make 0).isPresent = true ∨ ((after actions).answersOf i).length = 1))
  /-- Every read of a component is answered, by the same component as before. -/
  read_self : ∀ i c, (after actions).component? i = some c → ∃ c' v, c'.name = c.name ∧ c'.make = c.make ∧
    (after (actions ++ [.read i])).view i = (some c', (after actions).answersOf i ++ [v])
  read_other : ∀ i j, j ≠ i → (after (actions ++ [.read i])).view j = (after actions).view j
  clear : ∀ j, (after (actions ++ [.clear])).view j = (after actions).view j
  abandon : ∀ name j, (after (actions ++ [.abandon name])).view j = (after actions).view j
  /-- Components that are there already do not notice new ones, which have made nothing yet. -/
  add : ∀ name make j, (after (actions ++ [.add name make])).view j = (after actions).view j ∨
    (after actions).component? j = none ∧
      (after (actions ++ [.add name make])).view j = (some (.new name make), [])

/-- Whatever components make and whenever they are read, each keeps the first thing it has made that counts as
present, and makes nothing after that. -/
theorem makesOnRead (actions : List Action) : MakesOnRead actions := by
  have h := consistent_after actions
  constructor
  case served => exact fun i c hc => h.served hc
  case once_iff => exact fun i c hc => (h.served hc).once_iff
  case read_self =>
    intro i c hc
    rw [after_concat]
    exact ⟨_, _, c.name_resources, c.make_resources, (after actions).view_next_read_self hc⟩
  case read_other =>
    intro i j hne
    rw [after_concat]
    exact (after actions).view_next_read_of_ne hne
  case clear =>
    intro j
    rw [after_concat]
    exact (after actions).view_next_clear j
  case abandon =>
    intro name j
    rw [after_concat]
    exact (after actions).view_next_abandon name j
  case add =>
    intro name make j
    rw [after_concat]
    rcases (after actions).view_next_add name make j with hview | ⟨hnone, hview⟩
    · exact .inl hview
    · exact .inr ⟨hnone, h.answersOf_eq_nil hnone ▸ hview⟩

/-- An empty object does not count as present, so that it is made for every reader. -/
example : (Component.new "api" fun _ => .object []).resources.2.resources.2.made = 2 := by
  rfl

end Run

end Workshop

end SchemaAccess.Deploy

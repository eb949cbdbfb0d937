import SchemaAccess.Proofs.GrantLedger

namespace SchemaAccess.Policy.Ledger

open Access (Role Rule)

/-- Work on a ledger where it stands. Work that fails leaves behind what it has done by then. -/
abbrev Work := EStateM Failure Ledger

namespace Work

variable {α β : Type} {l l₁ : Ledger}

def whole (f : Ledger → Except Failure (α × Ledger)) : Work α := fun l =>
  match f l with
  | .ok (a, l₁) => .ok a l₁
  | .error e => .error e l

def ask (f : Ledger → Except Failure α) : Work α := whole fun l => (f l).map fun a => (a, l)

/-- Enter a field for a role, and tell whether it was new there. -/
def enter (role : Role) (r : Resource) : Work Bool := do
  ask requireOpen
  if r ∈ (← get).resources role then return false
  modify fun l => l.setResources role (l.resources role ++ [r])
  return true

def enterAll (r : Resource) : List Role → Work (List Role)
  | [] => return []
  | role :: rest => do
    let new ← enter role r
    let roles ← enterAll r rest
    return if new then role :: roles else roles

/-- Draw documents. The ledger is closed before the first one is cut. -/
def draw (cap : Int) : Work (List Document) := do
  ask requireOpen
  if cap < 1 then throw (.value .capBelowOne)
  modify fun l => { l with closed := true }
  let auth ← ask fun l => partition .auth l.auth cap
  let unauth ← ask fun l => partition .unauth l.unauth cap
  return auth ++ unauth

theorem whole_of_ok {f : Ledger → Except Failure (α × Ledger)} {a : α} (h : f l = .ok (a, l₁)) :
    whole f l = .ok a l₁ := by
  rw [whole, h]

theorem whole_of_error {f : Ledger → Except Failure (α × Ledger)} {e : Failure} (h : f l = .error e) :
    whole f l = .error e l := by
  rw [whole, h]

theorem ask_of_ok {f : Ledger → Except Failure α} {a : α} (h : f l = .ok a) : ask f l = .ok a l := by
  apply whole_of_ok
  rw [h]
  rfl

theorem ask_of_error {f : Ledger → Except Failure α} {e : Failure} (h : f l = .error e) :
    ask f l = .error e l := by
  apply whole_of_error
  rw [h]
  rfl

theorem bind_of_ok {x : Work α} {a : α} (h : x l = .ok a l₁) (k : α → Work β) : (x >>= k) l = k a l₁ := by
  change EStateM.bind x k l = _
  rw [EStateM.bind, h]

theorem bind_of_error {x : Work α} {e : Failure} (h : x l = .error e l₁) (k : α → Work β) :
    (x >>= k) l = .error e l₁ := by
  change EStateM.bind x k l = _
  rw [EStateM.bind, h]

theorem map_whole (f : α → β) (g : Ledger → Except Failure (α × Ledger)) :
    f <$> whole g = whole fun l => (g l).map fun result => (f result.1, result.2) := by
  funext l
  cases hg : g l with
  | ok result => exact (bind_of_ok (whole_of_ok hg) _).trans (whole_of_ok (by rw [hg]; rfl)).symm
  | error e => exact (bind_of_error (whole_of_error hg) _).trans (whole_of_error (by rw [hg]; rfl)).symm

theorem enter_eq_whole (role : Role) (r : Resource) : enter role r = whole (·.add role r) := by
  funext l
  cases hc : l.closed with
  | true =>
    rw [whole_of_error (add_of_closed hc role r), enter]
    exact bind_of_error (ask_of_error (requireOpen_of_closed hc)) _
  | false =>
    rw [enter, bind_of_ok (ask_of_ok (requireOpen_of_open hc))]
    change (if r ∈ l.resources role then pure false else _ : Work Bool) l = _
    by_cases hr : r ∈ l.resources role
    · rw [whole_of_ok (add_of_mem hc hr), if_pos hr]
      rfl
    · rw [whole_of_ok (add_of_not_mem hc hr), if_neg hr]
      rfl

theorem enterAll_eq_whole (r : Resource) {roles : List Role} (hn : roles.Nodup) :
    enterAll r roles = whole (·.addAll r roles) := by
  induction roles with
  | nil => rfl
  | cons role rest ih =>
    have hrest := (List.nodup_cons.1 hn).2
    funext l
    rw [enterAll, enter_eq_whole, ih hrest]
    cases hc : l.closed with
    | true =>
      have hne : role :: rest ≠ [] := List.cons_ne_nil role rest
      rw [whole_of_error (addAll_of_closed hc r hne)]
      exact bind_of_error (whole_of_error (add_of_closed hc role r)) _
    | false =>
      obtain ⟨l₁, hadd, hopen, -⟩ := exists_add_of_open hc role r
      obtain ⟨l₂, hall, -, -⟩ := exists_addAll_of_open hopen r hrest
      rw [whole_of_ok (addAll_cons_of_ok hadd hall), bind_of_ok (whole_of_ok hadd),
        bind_of_ok (whole_of_ok hall)]
      rfl

/-- With a cap that is let through, cutting documents cannot fail, so none of them closes a ledger in vain. -/
theorem draw_eq_whole (cap : Int) : draw cap = whole (·.documents cap) := by
  funext l
  cases hc : l.closed with
  | true =>
    rw [whole_of_error (documents_of_closed hc cap), draw]
    exact bind_of_error (ask_of_error (requireOpen_of_closed hc)) _
  | false =>
    rw [draw, bind_of_ok (ask_of_ok (requireOpen_of_open hc))]
    by_cases hcap : cap < 1
    · rw [whole_of_error (documents_of_cap_lt hc hcap), if_pos hcap]
      rfl
    · have hpart : ∀ role rs, partition role rs cap = .ok (documentsOf role rs cap.toNat) :=
        fun _ _ => if_neg hcap
      rw [whole_of_ok (documents_of_one_le hc hcap), if_neg hcap]
      simp only [hpart]
      rfl

end Work

end SchemaAccess.Policy.Ledger

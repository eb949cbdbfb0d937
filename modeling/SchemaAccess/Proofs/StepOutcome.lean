import SchemaAccess.Pass.Handler

namespace SchemaAccess

/-- The result `a`, unless something is wrong; then the first of the faults. -/
def settled {α : Type} (faults : List Failure) (a : α) : Except Failure α :=
  match faults with
  | [] => .ok a
  | e :: _ => .error e

theorem exists_ok_of_isOk {ε α : Type} {x : Except ε α} (h : x.isOk = true) : ∃ a, x = .ok a := by
  cases x with
  | ok a => exact ⟨a, rfl⟩
  | error e => contradiction

theorem eq_ok_of_toOption_eq_some {ε α : Type} {x : Except ε α} {a : α} (h : x.toOption = some a) :
    x = .ok a := by
  cases x with
  | ok b => exact congrArg Except.ok (Option.some.inj h)
  | error e => contradiction

section Settled

variable {α β : Type}

@[simp] theorem settled_nil (a : α) : settled [] a = .ok a := rfl

@[simp] theorem settled_cons (e : Failure) (faults : List Failure) (a : α) :
    settled (e :: faults) a = .error e := rfl

theorem settled_eq_ok_iff (faults : List Failure) (a b : α) :
    settled faults a = .ok b ↔ faults = [] ∧ a = b := by
  cases faults <;> simp

theorem settled_eq_error_iff (faults : List Failure) (a : α) (e : Failure) :
    settled faults a = .error e ↔ faults.head? = some e := by
  cases faults <;> simp

theorem settled_bind (faults more : List Failure) (a : α) (b : β) (k : α → Except Failure β)
    (h : k a = settled more b) : (settled faults a >>= k) = settled (faults ++ more) b := by
  cases faults with
  | nil => exact h
  | cons e faults => rfl

theorem settled_bind_pure (faults : List Failure) (a : α) (f : α → β) :
    (settled faults a >>= fun a => pure (f a)) = settled faults (f a) := by
  cases faults <;> rfl

theorem settled_map (faults : List Failure) (a : α) (f : α → β) :
    (settled faults a).map f = settled faults (f a) := by
  cases faults <;> rfl

end Settled

namespace Pass.Step

variable {α β : Type}

/-- Where a step leads. What a step that fails leaves behind is not looked at. -/
def outcome (x : Step α) (s : Session) : Except Failure (α × Session) :=
  match x.run s with
  | .ok a t => .ok (a, t)
  | .error e _ => .error e

@[simp] theorem outcome_pure (a : α) (s : Session) : outcome (pure a) s = .ok (a, s) := rfl

theorem outcome_bind (x : Step α) (k : α → Step β) (s : Session) :
    outcome (x >>= k) s = outcome x s >>= fun r => outcome (k r.1) r.2 := by
  change outcome (EStateM.bind x k) s = _
  simp only [outcome, EStateM.run, EStateM.bind]
  cases x s <;> rfl

@[simp] theorem outcome_get (s : Session) : outcome get s = .ok (s, s) := rfl

@[simp] theorem outcome_require (x : Except Failure α) (s : Session) :
    outcome (require x) s = x.map fun a => (a, s) := by
  cases x <;> rfl

@[simp] theorem outcome_update (f : Session → Except Failure Session) (s : Session) :
    outcome (update f) s = (f s).map fun t => ((), t) := by
  simp only [update, outcome_bind, outcome_get, outcome_require]
  cases h : f s with
  | ok t => simp [h, bind, Except.bind, Except.map]; rfl
  | error e => simp [h, bind, Except.bind, Except.map]

theorem outcome_bind_settled (x : Step α) (k : α → Step β) {s t u : Session} {a : α} {b : β}
    {faults more : List Failure} (hx : outcome x s = settled faults (a, t))
    (hk : outcome (k a) t = settled more (b, u)) :
    outcome (x >>= k) s = settled (faults ++ more) (b, u) := by
  rw [outcome_bind, hx]
  exact settled_bind faults more (a, t) (b, u) _ hk

theorem outcome_bind_pure (x : Step α) (f : α → β) {s t : Session} {a : α} {faults : List Failure}
    (hx : outcome x s = settled faults (a, t)) :
    outcome (x >>= fun a => pure (f a)) s = settled faults (f a, t) := by
  have hk : outcome (pure (f a)) t = settled [] (f a, t) := rfl
  have h := outcome_bind_settled x (fun a => pure (f a)) hx hk
  simpa only [List.append_nil] using h

end Pass.Step

namespace Pass

variable {α β σ : Type}

/-- The faults met when the steps for a list are taken in turn, each from the state that the one before
it leads to. -/
def along (faults : σ → α → List Failure) (next : σ → α → σ) (s : σ) : List α → List Failure
  | [] => []
  | a :: rest => faults s a ++ along faults next (next s a) rest

section Along

variable (faults : σ → α → List Failure) (next : σ → α → σ)

@[simp] theorem along_nil (s : σ) : along faults next s [] = [] := rfl

@[simp] theorem along_cons (s : σ) (a : α) (rest : List α) :
    along faults next s (a :: rest) = faults s a ++ along faults next (next s a) rest := rfl

theorem along_append (s : σ) (before rest : List α) :
    along faults next s (before ++ rest) =
      along faults next s before ++ along faults next (before.foldl next s) rest := by
  induction before generalizing s with
  | nil => rfl
  | cons a before ih => simp [ih]

theorem along_map (f : β → α) (s : σ) (items : List β) :
    along faults next s (items.map f) =
      along (fun s b => faults s (f b)) (fun s b => next s (f b)) s items := by
  induction items generalizing s with
  | nil => rfl
  | cons b items ih => simp [ih]

theorem along_flatMap (f : β → List α) (s : σ) (items : List β) :
    along faults next s (items.flatMap f) =
      along (fun s b => along faults next s (f b)) (fun s b => (f b).foldl next s) s items := by
  induction items generalizing s with
  | nil => rfl
  | cons b items ih => rw [List.flatMap_cons, along_append, ih, along_cons]

theorem along_eq_flatMap {P : σ → Prop} (fixed : α → List Failure)
    (hf : ∀ s a, P s → faults s a = fixed a) (hn : ∀ s a, P s → P (next s a))
    (s : σ) (hs : P s) (items : List α) : along faults next s items = items.flatMap fixed := by
  induction items generalizing s with
  | nil => rfl
  | cons a items ih => rw [along_cons, hf s a hs, ih (next s a) (hn s a hs), List.flatMap_cons]

theorem head?_along_eq_some_iff (s : σ) (items : List α) (e : Failure) :
    (along faults next s items).head? = some e ↔ ∃ before a after, items = before ++ a :: after ∧
      along faults next s before = [] ∧ (faults (before.foldl next s) a).head? = some e := by
  constructor
  · intro h
    induction items generalizing s with
    | nil => contradiction
    | cons a items ih =>
      cases hfault : faults s a with
      | cons e' more => exact ⟨[], a, items, rfl, rfl, by simpa [hfault] using h⟩
      | nil =>
        rw [along_cons, hfault, List.nil_append] at h
        obtain ⟨before, a', after, rfl, hbefore, hhead⟩ := ih (next s a) h
        exact ⟨a :: before, a', after, rfl, by rw [along_cons, hfault, hbefore]; rfl, hhead⟩
  · rintro ⟨before, a, after, rfl, hbefore, hhead⟩
    rw [along_append, hbefore, List.nil_append, along_cons, List.head?_append, hhead]
    rfl

end Along

theorem foldl_keeps {P : Session → Prop} {next : Session → α → Session}
    (hn : ∀ s a, P s → P (next s a)) (items : List α) {s : Session} (hs : P s) :
    P (items.foldl next s) := by
  induction items generalizing s with
  | nil => exact hs
  | cons a items ih => exact ih (hn s a hs)

theorem outcome_mapM {P : Session → Prop} (f : α → Step β) (faults : Session → α → List Failure)
    (next : Session → α → Session) (g : α → β)
    (hf : ∀ s a, P s → Step.outcome (f a) s = settled (faults s a) (g a, next s a))
    (hn : ∀ s a, P s → P (next s a)) (items : List α) (s : Session) (hs : P s) :
    Step.outcome (items.mapM f) s =
      settled (along faults next s items) (items.map g, items.foldl next s) := by
  induction items generalizing s with
  | nil => rfl
  | cons a items ih =>
    rw [List.mapM_cons]
    have hrest := ih (next s a) (hn s a hs)
    refine Step.outcome_bind_settled (f a) _ (hf s a hs) ?_
    exact Step.outcome_bind_pure (items.mapM f) (g a :: ·) hrest

end Pass

theorem head?_flatMap_eq_some_iff {α : Type} (faults : α → List Failure) (items : List α) (e : Failure) :
    (items.flatMap faults).head? = some e ↔ ∃ before a after, items = before ++ a :: after ∧
      (∀ x ∈ before, faults x = []) ∧ (faults a).head? = some e := by
  have halong : ∀ items : List α,
      Pass.along (fun _ : Unit => faults) (fun s _ => s) () items = items.flatMap faults := fun items =>
    Pass.along_eq_flatMap (P := fun _ => True) _ _ faults (fun _ _ _ => rfl) (fun _ _ h => h) ()
      trivial items
  simp only [← List.flatMap_eq_nil_iff, ← halong]
  exact Pass.head?_along_eq_some_iff _ _ () items e

end SchemaAccess

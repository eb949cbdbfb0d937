import Mathlib.Data.List.Induction
import SchemaAccess.Proofs.LedgerWork

namespace SchemaAccess.Policy.Ledger

open Access (Role Rule)

inductive Call where
  | add (role : Role) (r : Resource)
  | grant (rule : Rule) (r : Resource)
  | resources (role : Role)
  | documents (cap : Int)

inductive Answer where
  | entered (new : Bool)
  | granted (roles : List Role)
  | listed (resources : List Resource)
  | drawn (documents : List Document)

namespace Call

def perform : Call → Work Answer
  | add role r => .entered <$> Work.whole (·.add role r)
  | grant rule r => .granted <$> Work.whole (·.grant rule r)
  | resources role => return .listed ((← get).resources role)
  | documents cap => .drawn <$> Work.whole (·.documents cap)

/-- A call that is made step by step, where the ledger stands. -/
def stepwise : Call → Work Answer
  | add role r => .entered <$> Work.enter role r
  | grant rule r => .granted <$> Work.enterAll r rule.grants
  | resources role => return .listed ((← get).resources role)
  | documents cap => .drawn <$> Work.draw cap

/-- What a call of a ledger comes to: the answer or the failure. -/
def answer (call : Call) (l : Ledger) : Except Failure Answer :=
  match call.perform.run l with
  | .ok a _ => .ok a
  | .error e _ => .error e

/-- What a call of a ledger leaves behind, whether it is answered or fails. -/
def next (call : Call) (l : Ledger) : Ledger :=
  match call.perform.run l with
  | .ok _ l₁ => l₁
  | .error _ l₁ => l₁

def entries (role : Role) : Call → List Resource
  | add role' r => if role = role' then [r] else []
  | grant rule r => if role ∈ rule.grants then [r] else []
  | _ => []

def draws : Call → Bool
  | documents cap => 1 ≤ cap
  | _ => false

section Performed

variable {call : Call} {l l₁ : Ledger} {a : Answer} {e : Failure}

theorem answer_of_ok (h : call.perform l = .ok a l₁) : call.answer l = .ok a := by
  rw [answer, EStateM.run, h]

theorem next_of_ok (h : call.perform l = .ok a l₁) : call.next l = l₁ := by
  rw [next, EStateM.run, h]

theorem answer_of_error (h : call.perform l = .error e l₁) : call.answer l = .error e := by
  rw [answer, EStateM.run, h]

theorem next_of_error (h : call.perform l = .error e l₁) : call.next l = l₁ := by
  rw [next, EStateM.run, h]

end Performed

end Call

def after (calls : List Call) : Ledger := calls.foldl (fun l call => call.next l) empty

/-- The fields that calls enter for a role, as often as they do. What comes behind the first call that draws
documents is too late. -/
def given (calls : List Call) (role : Role) : List Resource :=
  (calls.takeWhile (!·.draws)).flatMap (Call.entries role)

theorem Call.stepwise_eq_perform (call : Call) : call.stepwise = call.perform := by
  cases call with
  | add role r => rw [stepwise, Work.enter_eq_whole, perform]
  | grant rule r =>
    rw [stepwise, Work.enterAll_eq_whole r (nodup_grants rule), perform]
    rfl
  | resources role => rfl
  | documents cap => rw [stepwise, Work.draw_eq_whole, perform]

theorem Call.exists_perform_eq_whole (call : Call) : ∃ change, call.perform = Work.whole change := by
  cases call with
  | resources role => exact ⟨fun l => .ok (.listed (l.resources role), l), rfl⟩
  | _ => exact ⟨_, Work.map_whole _ _⟩

theorem Call.next_of_answer_eq_error {call : Call} {l : Ledger} {e : Failure} (h : call.answer l = .error e) :
    call.next l = l := by
  obtain ⟨change, hperform⟩ := call.exists_perform_eq_whole
  cases hchange : change l with
  | ok result =>
    have hanswer := answer_of_ok ((congrFun hperform l).trans (Work.whole_of_ok hchange))
    rw [h] at hanswer
    contradiction
  | error e' => exact next_of_error ((congrFun hperform l).trans (Work.whole_of_error hchange))

theorem perform_grant_of_grants_eq_nil {rule : Rule} (h : rule.grants = []) (r : Resource) (l : Ledger) :
    (Call.grant rule r).perform l = .ok (.granted []) l := by
  have hall : l.grant rule r = .ok ([], l) := by
    rw [grant, h]
    rfl
  exact Work.bind_of_ok (Work.whole_of_ok hall) _

section Closed

variable {l : Ledger} (h : l.closed = true)
include h

theorem perform_add_of_closed (role : Role) (r : Resource) :
    (Call.add role r).perform l = .error (.state .policiesGenerated) l :=
  Work.bind_of_error (Work.whole_of_error (add_of_closed h role r)) _

theorem perform_grant_of_closed {rule : Rule} (hne : rule.grants ≠ []) (r : Resource) :
    (Call.grant rule r).perform l = .error (.state .policiesGenerated) l :=
  Work.bind_of_error (Work.whole_of_error (addAll_of_closed h r hne)) _

theorem perform_documents_of_closed (cap : Int) :
    (Call.documents cap).perform l = .error (.state .policiesGenerated) l :=
  Work.bind_of_error (Work.whole_of_error (documents_of_closed h cap)) _

theorem next_of_closed (call : Call) : call.next l = l := by
  cases call with
  | add role r => exact Call.next_of_error (perform_add_of_closed h role r)
  | grant rule r =>
    by_cases hgrants : rule.grants = []
    · exact Call.next_of_ok (perform_grant_of_grants_eq_nil hgrants r l)
    · exact Call.next_of_error (perform_grant_of_closed h hgrants r)
  | resources role => rfl
  | documents cap => exact Call.next_of_error (perform_documents_of_closed h cap)

end Closed

namespace Holds

variable {l : Ledger} {given : Role → List Resource} (h : Holds l given)
include h

theorem perform_add (role : Role) (r : Resource) :
    ∃ l₁, (Call.add role r).perform l = .ok (.entered (decide (r ∉ given role))) l₁ ∧
      Holds l₁ fun role' => given role' ++ (Call.add role r).entries role' := by
  obtain ⟨l₁, hadd, h₁⟩ := h.add role r
  refine ⟨l₁, Work.bind_of_ok (Work.whole_of_ok hadd) _, ?_⟩
  convert h₁ using 2 with role'
  by_cases he : role' = role <;> simp [Call.entries, he]

theorem perform_grant (rule : Rule) (r : Resource) :
    ∃ l₁, (Call.grant rule r).perform l = .ok (.granted (rule.grants.filter (r ∉ given ·))) l₁ ∧
      Holds l₁ fun role => given role ++ (Call.grant rule r).entries role := by
  obtain ⟨l₁, hgrant, h₁⟩ := h.grant rule r
  refine ⟨l₁, Work.bind_of_ok (Work.whole_of_ok hgrant) _, ?_⟩
  convert h₁ using 2 with role
  by_cases hrole : role ∈ rule.grants <;> simp [Call.entries, hrole]

theorem perform_documents_of_cap_lt {cap : Int} (hcap : cap < 1) :
    (Call.documents cap).perform l = .error (.value .capBelowOne) l :=
  Work.bind_of_error (Work.whole_of_error (documents_of_cap_lt h.isOpen hcap)) _

theorem perform_documents {cap : Int} (hcap : 1 ≤ cap) :
    (Call.documents cap).perform l = .ok (.drawn (drawn given cap)) { l with closed := true } :=
  Work.bind_of_ok (Work.whole_of_ok (h.documents hcap)) _

end Holds

/-- Where a ledger stands after calls. -/
structure Stands (l : Ledger) (calls : List Call) : Prop where
  closed : l.closed = calls.any Call.draws
  resources : ∀ role, l.resources role = (given calls role).eraseDups

theorem given_concat (calls : List Call) (call : Call) (role : Role) : given (calls ++ [call]) role =
    if calls.any Call.draws then given calls role else given calls role ++ call.entries role := by
  have hlate : call.draws = true → call.entries role = [] := by
    intro hdraws
    cases call <;> first | rfl | contradiction
  unfold given
  induction calls with
  | nil => cases hdraws : call.draws <;> simp [hdraws, hlate]
  | cons first calls ih =>
    cases hfirst : first.draws with
    | true => simp [hfirst]
    | false =>
      simp only [List.cons_append, List.takeWhile_cons, hfirst, Bool.not_false, if_true, List.flatMap_cons,
        ih, List.any_cons, Bool.false_or]
      split <;> simp

namespace Stands

variable {l : Ledger} {calls : List Call} (h : Stands l calls)
include h

theorem holds (hopen : calls.any Call.draws = false) : Holds l (given calls) where
  isOpen := h.closed.trans hopen
  resources := h.resources

/-- What one call does. -/
theorem next (call : Call) : Stands (call.next l) (calls ++ [call]) := by
  cases hdrawn : calls.any Call.draws with
  | true =>
    rw [next_of_closed (h.closed.trans hdrawn)]
    constructor
    · rw [h.closed, List.any_append, hdrawn, Bool.true_or]
    · intro role
      rw [given_concat, hdrawn, if_pos rfl]
      exact h.resources role
  | false =>
    have hholds := h.holds hdrawn
    have hgiven : given (calls ++ [call]) = fun role => given calls role ++ call.entries role := by
      funext role
      rw [given_concat, hdrawn, if_neg Bool.false_ne_true]
    have hclosed : (calls ++ [call]).any Call.draws = call.draws := by
      simp [hdrawn]
    -- a call that leaves the ledger open leaves it with what it enters
    have hstays : ∀ l₁, Holds l₁ (given (calls ++ [call])) → call.draws = false → Stands l₁ (calls ++ [call]) :=
      fun l₁ h₁ hdraws => ⟨by rw [hclosed, hdraws, h₁.isOpen], h₁.resources⟩
    rw [hgiven] at hstays
    cases call with
    | add role r =>
      obtain ⟨l₁, hperform, h₁⟩ := hholds.perform_add role r
      rw [Call.next_of_ok hperform]
      exact hstays l₁ h₁ rfl
    | grant rule r =>
      obtain ⟨l₁, hperform, h₁⟩ := hholds.perform_grant rule r
      rw [Call.next_of_ok hperform]
      exact hstays l₁ h₁ rfl
    | resources role =>
      apply hstays l _ rfl
      simpa [Call.entries] using hholds
    | documents cap =>
      have hsame : given (calls ++ [.documents cap]) = given calls := by
        rw [hgiven]
        funext role
        exact List.append_nil _
      by_cases hcap : cap < 1
      · rw [Call.next_of_error (hholds.perform_documents_of_cap_lt hcap)]
        apply hstays l
        · rw [← hgiven, hsame]
          exact hholds
        · exact decide_eq_false (by omega)
      · have hdraws : (Call.documents cap).draws = true := decide_eq_true (by omega)
        rw [Call.next_of_ok (hholds.perform_documents (by omega))]
        constructor
        · rw [hclosed, hdraws]
        · rw [hsame]
          intro role
          cases role with
          | auth => exact h.resources .auth
          | unauth => exact h.resources .unauth

end Stands

theorem stands_after (calls : List Call) : Stands (after calls) calls := by
  induction calls using List.reverseRecOn with
  | nil => exact ⟨rfl, fun role => by cases role <;> rfl⟩
  | append_singleton calls call ih =>
    rw [after, List.foldl_append]
    exact ih.next call

theorem after_append (calls later : List Call) :
    after (calls ++ later) = later.foldl (fun l call => call.next l) (after calls) := List.foldl_append

theorem holds_after {calls : List Call} (h : calls.any Call.draws = false) :
    Holds (after calls) (given calls) := (stands_after calls).holds h

theorem closed_after {calls : List Call} (h : calls.any Call.draws = true) : (after calls).closed = true :=
  (stands_after calls).closed.trans h

theorem after_append_of_closed {calls : List Call} (h : calls.any Call.draws = true) (later : List Call) :
    after (calls ++ later) = after calls := by
  rw [after_append]
  induction later with
  | nil => rfl
  | cons call later ih => rw [List.foldl_cons, next_of_closed (closed_after h), ih]

/-- Some call has been answered by documents. -/
def Drawn (calls : List Call) : Prop :=
  ∃ earlier cap documents later, calls = earlier ++ .documents cap :: later ∧
    (Call.documents cap).answer (after earlier) = .ok (.drawn documents)

theorem answer_documents_iff (calls : List Call) (cap : Int) :
    (∃ documents, (Call.documents cap).answer (after calls) = .ok (.drawn documents)) ↔
      calls.any Call.draws = false ∧ 1 ≤ cap := by
  cases hdrawn : calls.any Call.draws with
  | true =>
    have hanswer := Call.answer_of_error (perform_documents_of_closed (closed_after hdrawn) cap)
    simp [hanswer]
  | false =>
    by_cases hcap : cap < 1
    · have hanswer := Call.answer_of_error ((holds_after hdrawn).perform_documents_of_cap_lt hcap)
      have hlow : ¬ 1 ≤ cap := by omega
      simp [hanswer, hlow]
    · have hcap : 1 ≤ cap := by omega
      have hanswer := Call.answer_of_ok ((holds_after hdrawn).perform_documents hcap)
      simp [hanswer, hcap]

theorem drawn_iff_any (calls : List Call) : Drawn calls ↔ calls.any Call.draws = true := by
  constructor
  · rintro ⟨earlier, cap, documents, later, rfl, hanswer⟩
    have hcap := ((answer_documents_iff earlier cap).1 ⟨documents, hanswer⟩).2
    simp [Call.draws, hcap]
  · intro hany
    induction calls using List.reverseRecOn with
    | nil => contradiction
    | append_singleton calls call ih =>
      cases hdrawn : calls.any Call.draws with
      | true =>
        obtain ⟨earlier, cap, documents, later, rfl, hanswer⟩ := ih hdrawn
        exact ⟨earlier, cap, documents, later ++ [call], by simp, hanswer⟩
      | false =>
        have hdraws : call.draws = true := by simpa [hdrawn] using hany
        cases call with
        | documents cap =>
          have hcap : 1 ≤ cap := of_decide_eq_true hdraws
          obtain ⟨documents, hanswer⟩ := (answer_documents_iff calls cap).2 ⟨hdrawn, hcap⟩
          exact ⟨calls, cap, documents, [], rfl, hanswer⟩
        | _ => contradiction

/-- What comes of calls, told from them alone. -/
structure Recorded (calls : List Call) : Prop where
  resources : ∀ role, (Call.resources role).answer (after calls) = .ok (.listed (given calls role).eraseDups)
  drawn_iff : Drawn calls ↔ ∃ call ∈ calls, call.draws = true
  add : ¬ Drawn calls → ∀ role r,
    (Call.add role r).answer (after calls) = .ok (.entered (decide (r ∉ given calls role)))
  add_other : ∀ role r role', role' ≠ role →
    (after (calls ++ [.add role r])).resources role' = (after calls).resources role'
  grant : ¬ Drawn calls → ∀ rule r,
    (Call.grant rule r).answer (after calls) = .ok (.granted (rule.grants.filter (r ∉ given calls ·)))
  grant_other : ∀ rule r, ∀ role ∉ rule.grants,
    (after (calls ++ [.grant rule r])).resources role = (after calls).resources role
  documents : ¬ Drawn calls → ∀ cap, 1 ≤ cap →
    (Call.documents cap).answer (after calls) = .ok (.drawn (drawn (given calls) cap))
  documents_iff : ∀ cap, (∃ documents, (Call.documents cap).answer (after calls) = .ok (.drawn documents)) ↔
    ¬ Drawn calls ∧ 1 ≤ cap
  low_cap : ¬ Drawn calls → ∀ cap, cap < 1 →
    (Call.documents cap).answer (after calls) = .error (.value .capBelowOne)
  add_drawn : Drawn calls → ∀ role r,
    (Call.add role r).answer (after calls) = .error (.state .policiesGenerated)
  grant_drawn : Drawn calls → ∀ rule r, rule.grants ≠ [] →
    (Call.grant rule r).answer (after calls) = .error (.state .policiesGenerated)
  documents_drawn : Drawn calls → ∀ cap,
    (Call.documents cap).answer (after calls) = .error (.state .policiesGenerated)
  /-- Nothing is changed any more, so everything that can be asked is answered as before. -/
  after_drawn : Drawn calls → ∀ later, after (calls ++ later) = after calls
  /-- A rule that grants nothing has nothing entered. -/
  grant_nothing : ∀ rule r, rule.grants = [] → (Call.grant rule r).answer (after calls) = .ok (.granted [])
  stepwise : ∀ call : Call, call.stepwise (after calls) = call.perform (after calls)
  /-- A call that fails might as well not have been made. -/
  after_failed : ∀ call e, call.answer (after calls) = .error e →
    ∀ later, after (calls ++ call :: later) = after (calls ++ later)

theorem resources_after (calls : List Call) (role : Role) :
    (after calls).resources role = (given calls role).eraseDups := (stands_after calls).resources role

theorem resources_after_concat (calls : List Call) {call : Call} {role : Role} (h : call.entries role = []) :
    (after (calls ++ [call])).resources role = (after calls).resources role := by
  rw [resources_after, resources_after, given_concat, h, List.append_nil, ite_self]

/-- Whatever is called in whatever order, the ledger keeps to the record. -/
theorem recorded (calls : List Call) : Recorded calls := by
  have hdrawn : Drawn calls → (after calls).closed = true := fun h => closed_after ((drawn_iff_any calls).1 h)
  have hopen : ¬ Drawn calls → Holds (after calls) (given calls) := by
    intro h
    rw [drawn_iff_any, Bool.not_eq_true] at h
    exact holds_after h
  constructor
  case resources =>
    intro role
    rw [← resources_after]
    rfl
  case drawn_iff => rw [drawn_iff_any, List.any_eq_true]
  case add =>
    intro h role r
    obtain ⟨_, hperform, -⟩ := (hopen h).perform_add role r
    exact Call.answer_of_ok hperform
  case add_other =>
    intro role r role' hne
    exact resources_after_concat calls (if_neg hne)
  case grant =>
    intro h rule r
    obtain ⟨_, hperform, -⟩ := (hopen h).perform_grant rule r
    exact Call.answer_of_ok hperform
  case grant_other =>
    intro rule r role hrole
    exact resources_after_concat calls (if_neg hrole)
  case documents =>
    intro h cap hcap
    exact Call.answer_of_ok ((hopen h).perform_documents hcap)
  case documents_iff =>
    intro cap
    rw [answer_documents_iff, drawn_iff_any, Bool.not_eq_true]
  case low_cap =>
    intro h cap hcap
    exact Call.answer_of_error ((hopen h).perform_documents_of_cap_lt hcap)
  case add_drawn =>
    intro h role r
    exact Call.answer_of_error (perform_add_of_closed (hdrawn h) role r)
  case grant_drawn =>
    intro h rule r hne
    exact Call.answer_of_error (perform_grant_of_closed (hdrawn h) hne r)
  case documents_drawn =>
    intro h cap
    exact Call.answer_of_error (perform_documents_of_closed (hdrawn h) cap)
  case after_drawn =>
    intro h
    exact after_append_of_closed ((drawn_iff_any calls).1 h)
  case grant_nothing =>
    intro rule r hnone
    exact Call.answer_of_ok (perform_grant_of_grants_eq_nil hnone r (after calls))
  case stepwise =>
    intro call
    rw [call.stepwise_eq_perform]
  case after_failed =>
    intro call e h later
    rw [after_append, List.foldl_cons, Call.next_of_answer_eq_error h, ← after_append]

end SchemaAccess.Policy.Ledger

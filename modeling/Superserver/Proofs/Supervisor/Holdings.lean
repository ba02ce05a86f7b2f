import Mathlib.Algebra.Order.Group.Multiset
import Mathlib.Tactic.Abel
import Superserver.Proofs.Supervisor.Transcript

/-!
The descriptors that calls open and close. Main statements: what is held before some calls and what
they open is what they close and what is held after them; and with fresh numbers what is opened is
closed once, or held, until its number is given out again.
-/

namespace Superserver

namespace Call

def opened : Call → List Descriptor
  | .accept _ (.ok arrival) => [arrival.1]
  | .pipe (.ok ends) => [ends.1, ends.2]
  | .duplicate _ (.ok input) => [input]
  | _ => []

def closed : Call → List Descriptor
  | .close descriptor => [descriptor]
  | _ => []

/-- Descriptors that are only opened to be handed to a process: a connection, its duplicate and the
write end of a pipe. -/
def passing : Call → List Descriptor
  | .accept _ (.ok arrival) => [arrival.1]
  | .pipe (.ok ends) => [ends.2]
  | .duplicate _ (.ok input) => [input]
  | _ => []

theorem mem_opened_of_passing (call : Call) {descriptor : Descriptor}
    (passes : descriptor ∈ call.passing) : descriptor ∈ call.opened := by
  cases call with
  | accept listener answer =>
      cases answer with
      | error error => cases passes
      | ok arrival => exact passes
  | pipe answer =>
      cases answer with
      | error error => cases passes
      | ok ends => exact List.mem_cons_of_mem _ passes
  | duplicate descriptor answer =>
      cases answer with
      | error error => cases passes
      | ok input => exact passes
  | _ => cases passes

/-- What is held after a call, unless it closed what was not held. -/
def settle (held : Multiset Descriptor) : Call → Option (Multiset Descriptor)
  | .close descriptor => if descriptor ∈ held then some (held.erase descriptor) else none
  | call => some (call.opened + held)

end Call

open Call

def holdings (held : Multiset Descriptor) (calls : List Call) : Option (Multiset Descriptor) :=
  calls.foldlM settle held

def openedIn (calls : List Call) : List Descriptor := calls.flatMap opened

def closedIn (calls : List Call) : List Descriptor := calls.flatMap closed

def passingIn (calls : List Call) : List Descriptor := calls.flatMap passing

def throughout (check : Multiset Descriptor → Call → Bool) (held : Multiset Descriptor) :
    List Call → Bool
  | [] => true
  | call :: calls =>
      check held call && (call.settle held).all fun left => throughout check left calls

/-- Whether the system gives no number that is in use. -/
def givesFresh : Multiset Descriptor → List Call → Bool :=
  throughout fun held call =>
    decide (call.opened.Nodup ∧ ∀ descriptor ∈ call.opened, descriptor ∉ held)

/-! ### The balance of opening and closing -/

section

variable {held left : Multiset Descriptor} {calls : List Call}

@[simp] theorem openedIn_nil : openedIn [] = [] := rfl

@[simp] theorem closedIn_nil : closedIn [] = [] := rfl

@[simp] theorem openedIn_cons (call : Call) (calls : List Call) :
    openedIn (call :: calls) = call.opened ++ openedIn calls := List.flatMap_cons

@[simp] theorem closedIn_cons (call : Call) (calls : List Call) :
    closedIn (call :: calls) = call.closed ++ closedIn calls := List.flatMap_cons

@[simp] theorem passingIn_nil : passingIn [] = [] := rfl

@[simp] theorem passingIn_cons (call : Call) (calls : List Call) :
    passingIn (call :: calls) = call.passing ++ passingIn calls := List.flatMap_cons

@[simp] theorem openedIn_append (first second : List Call) :
    openedIn (first ++ second) = openedIn first ++ openedIn second := List.flatMap_append

@[simp] theorem closedIn_append (first second : List Call) :
    closedIn (first ++ second) = closedIn first ++ closedIn second := List.flatMap_append

@[simp] theorem passingIn_append (first second : List Call) :
    passingIn (first ++ second) = passingIn first ++ passingIn second := List.flatMap_append

theorem holdings_append (held : Multiset Descriptor) (first second : List Call) :
    holdings held (first ++ second) = (holdings held first).bind (holdings · second) := by
  simp [holdings, List.foldlM_append]

theorem holdings_cons (held : Multiset Descriptor) (call : Call) (calls : List Call) :
    holdings held (call :: calls) = (call.settle held).bind (holdings · calls) := by
  simp [holdings, List.foldlM_cons]

theorem settle_of_open {call : Call} (stays : call.closed = []) (held : Multiset Descriptor) :
    call.settle held = some (call.opened + held) := by
  cases call <;> first | rfl | cases stays

theorem settle_balance {call : Call} (settled : call.settle held = some left) :
    (call.opened : Multiset Descriptor) + held = call.closed + left := by
  by_cases stays : call.closed = []
  · rw [settle_of_open stays] at settled
    cases settled
    rw [stays]
    simp
  · cases call with
    | close descriptor =>
        simp only [settle] at settled
        split at settled
        · rename_i member
          cases settled
          simp [opened, closed, Multiset.cons_erase member]
        · cases settled
    | _ => exact absurd rfl stays

theorem holdings_balance (settled : holdings held calls = some left) :
    (openedIn calls : Multiset Descriptor) + held = closedIn calls + left := by
  induction calls generalizing held with
  | nil =>
      cases settled
      rfl
  | cons call calls ih =>
      rw [holdings_cons] at settled
      obtain ⟨middle, first, rest⟩ := Option.bind_eq_some_iff.mp settled
      have now := settle_balance first
      have later := ih rest
      rw [openedIn_cons, closedIn_cons, ← Multiset.coe_add, ← Multiset.coe_add]
      calc (call.opened : Multiset Descriptor) + openedIn calls + held
          = openedIn calls + (call.opened + held) := by abel
        _ = call.closed + (openedIn calls + middle) := by rw [now]; abel
        _ = call.closed + closedIn calls + left := by rw [later]; abel

/-- Without a closing everything opened is added. -/
theorem holdings_of_open (stays : closedIn calls = []) (held : Multiset Descriptor) :
    holdings held calls = some (openedIn calls + held) := by
  induction calls generalizing held with
  | nil => simp [holdings]
  | cons call calls ih =>
      rw [closedIn_cons, List.append_eq_nil_iff] at stays
      rw [holdings_cons, settle_of_open stays.1, Option.bind_some, ih stays.2, openedIn_cons,
        ← Multiset.coe_add]
      congr 1
      abel

/-- Without an opening, what is to be closed has to be held, and then the rest is left. -/
theorem holdings_of_close (closes : openedIn calls = []) (rest : Multiset Descriptor) :
    holdings (closedIn calls + rest) calls = some rest := by
  induction calls with
  | nil => simp [holdings]
  | cons call calls ih =>
      rw [openedIn_cons, List.append_eq_nil_iff] at closes
      have step : call.settle (closedIn (call :: calls) + rest) =
          some (closedIn calls + rest) := by
        by_cases stays : call.closed = []
        · rw [settle_of_open stays, closes.1, closedIn_cons, stays]
          simp
        · cases call with
          | close descriptor =>
              have first : ((closedIn (.close descriptor :: calls) : List Descriptor) +
                  rest : Multiset Descriptor) = descriptor ::ₘ (closedIn calls + rest) := by
                rw [closedIn_cons, closed, List.singleton_append, ← Multiset.cons_coe,
                  Multiset.cons_add]
              rw [first, settle, if_pos (Multiset.mem_cons_self _ _), Multiset.erase_cons_head]
          | _ => exact absurd rfl stays
      rw [holdings_cons, step, Option.bind_some, ih closes.2]

theorem none_of_plain (plain : ∀ call ∈ calls, call.isPlain = true) :
    openedIn calls = [] ∧ closedIn calls = [] := by
  have none : ∀ call ∈ calls, call.opened = [] ∧ call.closed = [] := by
    intro call member
    have plain := plain call member
    cases call <;> first | exact ⟨rfl, rfl⟩ | cases plain
  exact ⟨List.flatMap_eq_nil_iff.mpr fun call member => (none call member).1,
    List.flatMap_eq_nil_iff.mpr fun call member => (none call member).2⟩

theorem passingIn_of_openedIn (none : openedIn calls = []) : passingIn calls = [] := by
  apply List.flatMap_eq_nil_iff.mpr
  intro call member
  have none := List.flatMap_eq_nil_iff.mp none call member
  apply List.eq_nil_iff_forall_not_mem.mpr
  intro descriptor passes
  have gives := call.mem_opened_of_passing passes
  rw [none] at gives
  cases gives

/-! ### Checks of every call -/

theorem throughout_append (check : Multiset Descriptor → Call → Bool)
    (held : Multiset Descriptor) (first second : List Call) :
    throughout check held (first ++ second) =
      (throughout check held first &&
        (holdings held first).all fun left => throughout check left second) := by
  induction first generalizing held with
  | nil => simp [throughout, holdings]
  | cons call first ih =>
      rw [List.cons_append, throughout, throughout, holdings_cons]
      cases call.settle held with
      | none => simp
      | some left => simp [ih, Bool.and_assoc]

/-- A check of every call is one of those behind some calls, at what is held then. -/
theorem throughout_rest {check : Multiset Descriptor → Call → Bool} {first second : List Call}
    (passed : throughout check held (first ++ second) = true)
    (settled : holdings held first = some left) :
    throughout check held first = true ∧ throughout check left second = true := by
  rwa [throughout_append, Bool.and_eq_true, settled, Option.all_some] at passed

theorem throughout_split {check : Multiset Descriptor → Call → Bool} {call : Call}
    {earlier later : List Call} (passed : throughout check held (earlier ++ call :: later) = true)
    (settled : holdings held earlier = some left) : check left call = true := by
  have rest := (throughout_rest passed settled).2
  rw [throughout, Bool.and_eq_true] at rest
  exact rest.1

/-! ### Fresh numbers -/

theorem nodup_settle {call : Call} (apart : held.Nodup)
    (fresh : call.opened.Nodup ∧ ∀ descriptor ∈ call.opened, descriptor ∉ held)
    (settled : call.settle held = some left) : left.Nodup := by
  have added : ((call.opened : Multiset Descriptor) + held).Nodup := by
    rw [Multiset.nodup_add]
    refine ⟨Multiset.coe_nodup.mpr fresh.1, apart, ?_⟩
    rw [Multiset.disjoint_left]
    intro descriptor given
    exact fresh.2 descriptor given
  rw [settle_balance settled] at added
  exact (Multiset.nodup_add.mp added).2.1

theorem nodup_holdings (apart : held.Nodup) (fresh : givesFresh held calls = true)
    (settled : holdings held calls = some left) : left.Nodup := by
  induction calls generalizing held with
  | nil =>
      cases settled
      exact apart
  | cons call calls ih =>
      rw [holdings_cons] at settled
      obtain ⟨middle, first, rest⟩ := Option.bind_eq_some_iff.mp settled
      rw [givesFresh, throughout, first, Bool.and_eq_true, decide_eq_true_eq,
        Option.all_some] at fresh
      exact ih (nodup_settle apart fresh.1 first) fresh.2 rest

/-- Until its number is given out again, what was opened is closed once or held. -/
theorem closed_once {earlier later rest : List Call} {call : Call} {descriptor : Descriptor}
    (fresh : givesFresh held (earlier ++ call :: (later ++ rest)) = true)
    (gives : descriptor ∈ call.opened) (only : descriptor ∉ openedIn later)
    (settled : holdings held (earlier ++ call :: later) = some left) :
    (closedIn later).count descriptor + left.count descriptor = 1 := by
  rw [holdings_append] at settled
  obtain ⟨before, first, settled⟩ := Option.bind_eq_some_iff.mp settled
  rw [holdings_cons] at settled
  obtain ⟨after, second, settled⟩ := Option.bind_eq_some_iff.mp settled
  obtain ⟨distinct, unused⟩ := of_decide_eq_true (throughout_split fresh first)
  have one : after.count descriptor = 1 := by
    have stays : call.closed = [] := by
      cases call <;> first | rfl | cases gives
    rw [settle_of_open stays] at second
    cases second
    rw [Multiset.count_add, Multiset.coe_count, List.count_eq_one_of_mem distinct gives,
      Multiset.count_eq_zero_of_notMem (unused descriptor gives)]
  have balance := congrArg (Multiset.count descriptor) (holdings_balance settled)
  rw [Multiset.count_add, Multiset.count_add, Multiset.coe_count, Multiset.coe_count,
    List.count_eq_zero_of_not_mem only, one] at balance
  omega

end

/-! ### Calls that open first and close afterwards -/

structure Opens (calls : List Call) (given passed : List Descriptor) : Prop where
  opened : openedIn calls = given
  closed : closedIn calls = []
  passing : passingIn calls = passed

/-- Calls of which the first ones open and the others close, and what they leave open. -/
structure Settles (opens closes : List Call) (kept : List Descriptor) : Prop where
  opening : closedIn opens = []
  closing : openedIn closes = []
  balance : (openedIn opens).Perm (closedIn closes ++ kept)
  handed : (openedIn opens).Nodup → ∀ descriptor ∈ passingIn opens, descriptor ∉ kept

theorem Opens.append {first second : List Call} {given passed others beyond : List Descriptor}
    (opens : Opens first given passed) (next : Opens second others beyond) :
    Opens (first ++ second) (given ++ others) (passed ++ beyond) where
  opened := by rw [openedIn_append, opens.opened, next.opened]
  closed := by rw [closedIn_append, opens.closed, next.closed]; rfl
  passing := by rw [passingIn_append, opens.passing, next.passing]

section

variable {opens closes : List Call} {given passed : List Descriptor}

theorem Opens.settles_none (opened : Opens opens given passed) (closing : openedIn closes = [])
    (balance : given.Perm (closedIn closes)) :
    Settles opens closes [] where
  opening := opened.closed
  closing := closing
  balance := by rw [opened.opened, List.append_nil]; exact balance
  handed := by simp

end

theorem Settles.holdings {opens closes : List Call} {kept : List Descriptor}
    (settles : Settles opens closes kept) (held : Multiset Descriptor) :
    holdings held (opens ++ closes) = some (kept + held) := by
  rw [holdings_append, holdings_of_open settles.opening, Option.bind_some,
    Multiset.coe_eq_coe.mpr settles.balance, ← Multiset.coe_add, add_assoc]
  exact holdings_of_close settles.closing _

end Superserver

-- Waiting for a resumption, against a clock that stands still while anything is done and
-- then jumps to the next thing to happen. Things can be planned for given times, and the
-- wait goes on until all of them have been done. The time limit counts from the start of
-- the wait, and is the one in force at that moment.
--
-- The waiter sleeps between two looks for the resumption. It looks before anything that is
-- planned for the same time is done, so that what arrives meanwhile is found at the next
-- look. A waiter with limited patience leaves at the last sleep that it stands.
import WebRequest.Async.Cycle
import WebRequest.Patience

namespace WebRequest.Async

/-- How far the wait of a span has come. -/
inductive Vigil where
  /-- It waits for the resumption, and not beyond the deadline if there is one. -/
  | waiting (deadline : Option Nat)
  /-- The deadline has passed, and the cycle has not been told. -/
  | late
  /-- The resumption and the time it came at. -/
  | ended (resumption : Resumption) (time : Nat)
  deriving DecidableEq, Repr

namespace Vigil

/-- A wait that begins at a time. A limit of zero is none. -/
def start (limit time : Nat) : Vigil := .waiting (if limit = 0 then none else some (time + limit))

/-- Looks for the resumption. What has arrived counts even if the deadline has come. -/
def look (arrived : Option Resumption) (time : Nat) : Vigil → Vigil
  | .waiting deadline =>
    match arrived with
    | some r => .ended r time
    | none => if deadline.any (· ≤ time) then .late else .waiting deadline
  | v => v

/-- Goes on after the cycle has been told that its time is over. If it was no longer suspended,
the resumption is waited for without a limit. -/
def settle (expired : Bool) (time : Nat) : Vigil → Vigil
  | .late => if expired then .ended .timedOut time else .waiting none
  | v => v

end Vigil

/-! ## Waits against the clock -/

/-- What a wait needs to know of the state that it takes place in. -/
structure Watch (σ : Type) where
  /-- The resumption that has arrived. -/
  arrived : σ → Option Resumption
  /-- Lets the time run out; the answer is whether the request was still suspended. -/
  expire : σ → Outcome σ Bool

/-- A thing planned for a time, in milliseconds. -/
structure Planned (σ α : Type) where
  time : Nat
  act : σ → Outcome σ α

/-- A wait on its way. -/
structure Waited (σ α : Type) where
  state : σ
  time : Nat := 0
  patience : Patience := none
  /-- The waiter has left. -/
  abandoned : Bool := false
  vigil : Vigil
  /-- The answers of what was done, the last one first. -/
  answers : List α := []
  effects : List Effect := []

namespace Waited

variable {σ α : Type}

/-- Looks for the resumption at a time. -/
def look (watch : Watch σ) (time : Nat) (w : Waited σ α) : Waited σ α :=
  { w with time, vigil := w.vigil.look (watch.arrived w.state) time }

/-- Tells the cycle that its time is over, if it is. -/
def runOut (watch : Watch σ) (w : Waited σ α) : Waited σ α :=
  if w.vigil = .late then
    let o := watch.expire w.state
    { w with
      state := o.state, effects := w.effects ++ o.effects,
      vigil := w.vigil.settle o.answer w.time }
  else w

def wake (watch : Watch σ) (time : Nat) (w : Waited σ α) : Waited σ α :=
  (look watch time w).runOut watch

/-- Sleeps until a time, unless patience is used up. -/
def sleep (watch : Watch σ) (time : Nat) (w : Waited σ α) : Waited σ α :=
  if w.abandoned then w
  else
    match w.patience.afterWait with
    | none => { w with abandoned := true }
    | some patience => wake watch time { w with patience }

/-- Looks again if a resumption has arrived since the last look. -/
def settle (watch : Watch σ) (w : Waited σ α) : Waited σ α :=
  match w.vigil, watch.arrived w.state with
  | .waiting _, some _ => w.sleep watch w.time
  | _, _ => w

/-- Sleeps until the deadline, if it comes before a time. -/
def meetDeadline (watch : Watch σ) (time : Option Nat) (w : Waited σ α) : Waited σ α :=
  match w.vigil with
  | .waiting (some deadline) => if time.all (deadline < ·) then w.sleep watch deadline else w
  | _ => w

/-! ## The plan -/

/-- Sleeps until a later time. A deadline before it is met on the way. -/
def upTo (watch : Watch σ) (time : Nat) (w : Waited σ α) : Waited σ α :=
  if time ≤ w.time then w
  else
    ((w.settle watch).meetDeadline watch (some time)).sleep watch time

/-- Does what is planned next, unless the waiter leaves before. -/
def doNext (watch : Watch σ) (w : Waited σ α) (p : Planned σ α) : Waited σ α :=
  let w := w.upTo watch p.time
  if w.abandoned then w
  else
    let o := p.act w.state
    { w with state := o.state, answers := o.answer :: w.answers,
             effects := w.effects ++ o.effects }

/-- The whole wait, from a time on. A limit of zero is none. -/
def run (watch : Watch σ) (limit : Nat) (patience : Patience) (plan : List (Planned σ α))
    (s : σ) (time : Nat := 0) : Waited σ α :=
  let start : Waited σ α := { state := s, time, patience, vigil := .start limit time }
  let done := plan.foldl (doNext watch) (look watch time start)
  (done.settle watch).meetDeadline watch none

theorem sleep_of_patient {w : Waited σ α} (h : w.abandoned = false) (hp : w.patience = none)
    (watch : Watch σ) (time : Nat) : w.sleep watch time = wake watch time w := by
  obtain ⟨state, now, patience, abandoned, vigil, answers, effects⟩ := w
  subst h hp
  rfl

end Waited

end WebRequest.Async

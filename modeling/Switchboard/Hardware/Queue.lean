import Switchboard.Failure

/-!
The queue in front of a device. One worker takes the jobs one by one in the order of submission. A job
belongs to a lease; the jobs of a lease that was cancelled are taken and dropped. A job that crashes
ends the worker and everything that waits with it. Leases are numbered by natural numbers: a counter of 64
bits gives a number again only after `2 ^ 64` leases, more than are ever asked for.
-/

namespace Switchboard

inductive Worker
  /-- There is no device. -/
  | absent
  | running
  /-- A job crashed. -/
  | ended
  deriving DecidableEq, Repr, Inhabited

structure Waiting (J : Type) where
  lease : Nat
  job : J
  deriving DecidableEq, Repr

structure JobQueue (J : Type) where
  name : String
  worker : Worker
  /-- The number of the next lease. -/
  nextLease : Nat := 1
  /-- The leases that were cancelled. -/
  cancelled : List Nat := []
  /-- The jobs not yet taken, the oldest first. -/
  waiting : List (Waiting J) := []
  /-- The number of jobs that is reported to wait. -/
  queued : Nat := 0
  deriving Repr

namespace JobQueue

variable {J : Type}

def spawn (name : String) : JobQueue J :=
  { name, worker := .running }

/-- A queue without a device. -/
def unavailable (name : String) : JobQueue J :=
  { name, worker := .absent }

def isAvailable (q : JobQueue J) : Bool :=
  q.worker == .running

def lease (q : JobQueue J) : Nat × JobQueue J :=
  (q.nextLease, { q with nextLease := q.nextLease + 1 })

def isCancelled (q : JobQueue J) (lease : Nat) : Bool :=
  q.cancelled.contains lease

def leaseAvailable (q : JobQueue J) (lease : Nat) : Bool :=
  !q.isCancelled lease && q.isAvailable

/-- Puts a job behind all that wait, or says why it is refused. -/
def submit (q : JobQueue J) (lease : Nat) (job : J) : Except Failure (JobQueue J) :=
  if q.isCancelled lease then
    .error (.transportClosed (q.name ++ " lease " ++ toString lease ++ " was cancelled"))
  else if q.isAvailable then
    .ok { q with waiting := q.waiting ++ [⟨lease, job⟩], queued := q.queued + 1 }
  else .error (.transportClosed q.name)

/-- Drops the waiting jobs of a lease and refuses further ones. -/
def cancel (q : JobQueue J) (lease : Nat) : JobQueue J :=
  if q.isCancelled lease then q else { q with cancelled := lease :: q.cancelled }

/-- Takes the oldest job from the queue; of a cancelled lease it gives no job to run. -/
def take? (q : JobQueue J) : Option (Option J × JobQueue J) :=
  if q.isAvailable then
    match q.waiting with
    | [] => none
    | w :: rest =>
      some (if q.isCancelled w.lease then none else some w.job,
        { q with waiting := rest, queued := q.queued - 1 })
  else none

/-- Ends the worker; what waited is lost, yet still reported to wait. -/
def crash (q : JobQueue J) : JobQueue J :=
  { q with worker := .ended, waiting := [] }

/-- Lets the worker take one job and run it on a device; a job that gives no device back has crashed. -/
def work {σ : Type} (run : σ → J → Option σ) (device : σ) (q : JobQueue J) : σ × JobQueue J :=
  match q.take? with
  | none => (device, q)
  | some (none, q) => (device, q)
  | some (some job, q) =>
    match run device job with
    | some device => (device, q)
    | none => (device, q.crash)

/-- Lets the worker take every job. -/
def workAll {σ : Type} (run : σ → J → Option σ) (device : σ) (q : JobQueue J) : σ × JobQueue J :=
  q.waiting.foldl (fun (device, q) _ => q.work run device) (device, q)

def describe (q : JobQueue J) (quote : String → String) : String :=
  "Transport \x7b name: " ++ quote q.name ++ ", available: " ++
    (if q.worker == .absent then "false" else "true") ++ " \x7d"

end JobQueue

end Switchboard

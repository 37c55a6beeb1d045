import Reencode.Work.Job

/-!
# Scheduler

The scheduler accepts jobs, has them run by an executor, and keeps their outcomes in a mailbox until
the owner takes them out. It counts the jobs in flight, which are those accepted whose outcome the
owner has not taken, and for every entry the jobs still running. It never touches an entry.

The executor decides when an accepted job runs: when it is told to, at once, or in order while the
owner waits. It may be shut down apart from the scheduler, and then refuses jobs; a refused job
leaves nothing behind.
-/
namespace Reencode

/-- When an accepted job runs: when the executor is told to run it, at once, or in order of
acceptance while the owner waits. -/
inductive Pace where
  | onDemand
  | immediate
  | whileWaiting
deriving DecidableEq

/-- Accepted jobs, their outcomes and their counts. The newest job has the number of accepted ones,
and the pending ones have not run. The mailbox has the outcomes that were not taken out, in the
order the jobs finished; in flight are the jobs whose outcome was not taken out. Unfinished jobs are
counted by entry, for entries that have some. -/
structure Scheduler (S : Type) where
  workers : Int
  pace : Pace
  cache : DecodeCache S
  usage : Usage
  pending : List (Nat × Job)
  accepted : Nat
  mailbox : List Outcome
  inFlight : Int
  running : List (EntryId × Nat)
  closed : Bool
  executorShut : Bool

namespace Scheduler

variable {S : Type}

/-- A scheduler that has no jobs. -/
def initial (workers : Int) (pace : Pace) (cache : DecodeCache S) : Scheduler S where
  workers := workers
  pace := pace
  cache := cache
  usage := .none
  pending := []
  accepted := 0
  mailbox := []
  inFlight := 0
  running := []
  closed := false
  executorShut := false

/-- The failure of a scheduler without workers. -/
def workersFailure : Failure := .value "max_workers 必须大于 0"

/-- A scheduler with a cache given to it. A cache that holds nothing is left alone, and a new one
takes its place. -/
def create (workers : Int) (pace : Pace) (cache : DecodeCache S) : Except Failure (Scheduler S) :=
  if workers ≤ 0 then .error workersFailure
  else .ok (initial workers pace (if cache.size = 0 then .empty else cache))

/-! ## Running jobs of an entry -/

/-- The number of unfinished jobs of an entry. -/
def runningOf (s : Scheduler S) (id : EntryId) : Nat := (s.running.lookup id).getD 0

/-- Whether an entry has unfinished jobs. -/
def isRunning (s : Scheduler S) (id : EntryId) : Bool := (s.running.lookup id).isSome

/-- Sets the number of unfinished jobs of an entry; an entry without any is dropped. -/
def setRunning (s : Scheduler S) (id : EntryId) (n : Nat) : Scheduler S :=
  let others := s.running.filter fun (other, _) => other ≠ id
  { s with running := if n = 0 then others else others ++ [(id, n)] }

/-- Counts a job of an entry as finished. -/
def noteFinished (s : Scheduler S) (id : EntryId) : Scheduler S :=
  s.setRunning id (s.runningOf id - 1)

/-- Ends an entry's retirement if no job of it is left. -/
def releaseIdle (s : Scheduler S) (id : EntryId) : Scheduler S :=
  if s.isRunning id then s else { s with cache := s.cache.releaseRetired id }

/-- Counts a job as finished, and ends the entry's retirement with its last one. -/
def finish (s : Scheduler S) (id : EntryId) : Scheduler S := (s.noteFinished id).releaseIdle id

/-! ## Jobs -/

/-- Counts a job as accepted. -/
def enter (s : Scheduler S) (j : Job) : Scheduler S :=
  { s with inFlight := s.inFlight + 1 }.setRunning j.entry (s.runningOf j.entry + 1)

/-- Counts a job as no longer in flight. -/
def leave (s : Scheduler S) : Scheduler S := { s with inFlight := s.inFlight - 1 }

/-- Counts a job as finished and puts its outcome into the mailbox; a job without an outcome is no
longer in flight. -/
def deliver (s : Scheduler S) (id : EntryId) (outcome : Option Outcome) : Scheduler S :=
  let s := s.finish id
  match outcome with
  | some o => { s with mailbox := s.mailbox ++ [o] }
  | none => s.leave

/-- Runs a job that was accepted. -/
def perform (codec : Codec S) (s : Scheduler S) (j : Job) : Scheduler S × List LogRecord :=
  let report := j.run codec s.cache
  ({ s with cache := report.cache, usage := s.usage.append report.usage }.deliver j.entry
    report.outcome, report.records)

/-- The record of an accepted job. -/
def submitRecord (j : Job) : LogRecord := ⟨.debug, "派发任务: " ++ j.describe⟩

/-- The failure of submitting to a closed scheduler. -/
def closedFailure : Failure := .runtime "调度器已关闭"

/-- The failure of submitting to an executor that was shut down. -/
def refusedFailure : Failure := .runtime "cannot schedule new futures after shutdown"

/-- Submits a job. When the executor refuses it, its counts are taken back. -/
def submit (codec : Codec S) (s : Scheduler S) (j : Job) :
    Except Failure Unit × Scheduler S × List LogRecord :=
  if s.closed then (.error closedFailure, s, [])
  -- Until the executor refuses it, the job counts as accepted.
  else if s.executorShut then (.error refusedFailure, (s.enter j).leave.finish j.entry, [])
  else
    let s := { s.enter j with accepted := s.accepted + 1 }
    match s.pace with
    | .immediate =>
      let (s, records) := s.perform codec j
      (.ok (), s, records ++ [submitRecord j])
    | _ => (.ok (), { s with pending := s.pending ++ [(s.accepted, j)] }, [submitRecord j])

/-- Runs the pending job of a number, and says whether there was one. -/
def runPending (codec : Codec S) (s : Scheduler S) (k : Nat) :
    Bool × Scheduler S × List LogRecord :=
  match s.pending.lookup k with
  | none => (false, s, [])
  | some j =>
    let s := { s with pending := s.pending.filter fun (n, _) => n ≠ k }
    let (s, records) := s.perform codec j
    (true, s, records)

/-- Runs the pending jobs of some numbers in that order. -/
def runAll (codec : Codec S) (s : Scheduler S) : List Nat → Scheduler S × List LogRecord
  | [] => (s, [])
  | k :: rest =>
    let (_, s, records) := s.runPending codec k
    let (s, more) := s.runAll codec rest
    (s, records ++ more)

/-- The numbers of the pending jobs, oldest first. -/
def pendingNumbers (s : Scheduler S) : List Nat := s.pending.map (·.1)

/-- Cancels the pending job of a number, and says whether there was one. -/
def cancel (s : Scheduler S) (k : Nat) : Bool × Scheduler S :=
  match s.pending.lookup k with
  | none => (false, s)
  | some j =>
    let left := { s with pending := s.pending.filter fun (n, _) => n ≠ k }
    (true, left.deliver j.entry none)

/-- Cancels the pending jobs of some numbers. -/
def cancelAll (s : Scheduler S) (numbers : List Nat) : Scheduler S :=
  numbers.foldl (fun s k => (s.cancel k).2) s

/-- Shuts the executor down: it refuses jobs from now on. -/
def shutExecutor (s : Scheduler S) : Scheduler S := { s with executorShut := true }

/-! ## The owner -/

/-- Takes the oldest outcome out of the mailbox. -/
def take (s : Scheduler S) : Option (Outcome × Scheduler S) :=
  match s.mailbox with
  | [] => none
  | o :: rest => some (o, { s with mailbox := rest }.leave)

/-- The failure of waiting for a negative time. -/
def negativeTimeoutFailure : Failure := .value "'timeout' must be a non-negative number"

/-- Takes the oldest outcome out, waiting for one if a time is given, which must not be negative.
Nothing arrives while the owner waits. -/
def next (s : Scheduler S) (timeout : Option Number) :
    Except Failure (Option Outcome) × Scheduler S :=
  if timeout.any fun t => t.lt (.int 0) then (.error negativeTimeoutFailure, s)
  else
    match s.take with
    | some (o, s) => (.ok (some o), s)
    | none => (.ok none, s)

/-- Drops what is kept for an entry and retires it while jobs of it are running. -/
def forget (s : Scheduler S) (id : EntryId) : Scheduler S :=
  { s with cache := s.cache.invalidate id }.releaseIdle id

/-- The record of a shutdown. -/
def shutdownRecord : LogRecord := ⟨.debug, "调度器已关闭"⟩

/-- Closes the scheduler, running the pending jobs if it is to wait and cancelling them if not. A
second time nothing happens. -/
def shutdown (codec : Codec S) (s : Scheduler S) (wait : Bool) : Scheduler S × List LogRecord :=
  if s.closed then (s, [])
  else
    let s := { s with closed := true }.shutExecutor
    if wait then
      let (s, records) := s.runAll codec s.pendingNumbers
      (s, records ++ [shutdownRecord])
    else (s.cancelAll s.pendingNumbers, [shutdownRecord])

/-- Lets an executor that works while the owner waits run what is pending. -/
def advance (codec : Codec S) (s : Scheduler S) : Scheduler S × List LogRecord :=
  match s.pace with
  | .whileWaiting => s.runAll codec s.pendingNumbers
  | _ => (s, [])

end Scheduler
end Reencode

import Reencode.Proofs.Work.Running

/-!
# Jobs are conserved

The number in flight is changed wherever a job is accepted, refused, run or cancelled and wherever
an outcome is taken out.  Here a scheduler is followed through any requests to it and to its
executor.  `Scheduler.ask` answers a request by the scheduler's own functions and tells what
happened, as a list of `Occurrence`s: which job was accepted under which number, which number ran
and to which outcome, which one was cancelled, and which outcome was handed to the owner.

`Scheduler.Conserved` compares these occurrences with the scheduler they have led to.  It needs
nothing of the jobs, the codec or the cache: a job may fail before it has begun, reporting that may
fail as well, and the cache may hold anything.  Three kinds of moves carry it (`Conserved.queued`,
`Conserved.settled`, `Conserved.take`), and everything else is `Conserved.congr`.
-/

namespace Reencode

variable {S : Type}

/-! ## What a job comes to, with any cache -/

/-- Whether the failure of a job can be reported. -/
def Job.Reports (j : Job) : Prop := ∀ failure, j.defect ≠ .report failure

namespace Job

variable {j : Job} {codec : Codec S} {cache : DecodeCache S}

lemma encode_reports (surface : Option S) (records : List LogRecord) (usage : Usage) :
    ∃ payload, (j.encode codec surface records cache usage).outcome =
      some (j.outcome payload) := by
  unfold encode
  dsimp only
  split
  · exact ⟨_, rfl⟩
  · split <;> exact ⟨_, rfl⟩

/-- A job that can report its failure always comes to an outcome, and one of its own. -/
lemma run_reports (reports : j.Reports) :
    ∃ o, (j.run codec cache).outcome = some o ∧ o.ticket = j.ticket := by
  have some_payload : ∃ payload, (j.run codec cache).outcome = some (j.outcome payload) := by
    unfold run
    split
    · unfold recode
      dsimp only
      split
      · exact ⟨_, rfl⟩
      · exact encode_reports _ _ _
    · exact ⟨_, rfl⟩
    · rename_i failure defect
      exact absurd defect (reports failure)
  obtain ⟨payload, outcome⟩ := some_payload
  exact ⟨_, outcome, rfl⟩

lemma run_of_not_reports (silent : ¬j.Reports) : (j.run codec cache).outcome = none := by
  simp only [Reports, not_forall, not_not] at silent
  obtain ⟨failure, defect⟩ := silent
  simp only [run, defect]

end Job

namespace Scheduler

/-! ## Requests and what they lead to -/

/-- What can be asked of a scheduler and of the executor behind it.  An executor that runs its last
jobs in an order of its own while the scheduler shuts down is one that is shut down first, then runs
them. -/
inductive Request where
  | submit (j : Job)
  | run (k : Nat)
  | cancel (k : Nat)
  | next (timeout : Option Number)
  | forget (id : EntryId)
  | shutExecutor
  | shutdown (wait : Bool)

/-- What happens to jobs and their outcomes. -/
inductive Occurrence where
  | accepted (k : Nat) (j : Job)
  | ran (k : Nat) (outcome : Option Outcome)
  | cancelled (k : Nat)
  | delivered (o : Outcome)

/-- A job is accepted, and may run at once. -/
def onSubmit (codec : Codec S) (s : Scheduler S) (j : Job) : List Occurrence :=
  match (s.submit codec j).1 with
  | .error _ => []
  | .ok () =>
    .accepted (s.accepted + 1) j ::
      if s.pace = .immediate then [.ran (s.accepted + 1) (j.run codec s.cache).outcome] else []

/-- The pending job of a number runs. -/
def onRun (codec : Codec S) (s : Scheduler S) (k : Nat) : List Occurrence :=
  match s.pending.lookup k with
  | none => []
  | some j => [.ran k (j.run codec s.cache).outcome]

/-- The pending jobs of some numbers run. -/
def onRunAll (codec : Codec S) (s : Scheduler S) : List Nat → List Occurrence
  | [] => []
  | k :: rest => s.onRun codec k ++ onRunAll codec (s.runPending codec k).2.1 rest

/-- The pending job of a number is cancelled. -/
def onCancel (s : Scheduler S) (k : Nat) : List Occurrence :=
  if (s.cancel k).1 then [.cancelled k] else []

/-- The pending jobs of some numbers are cancelled. -/
def onCancelAll (s : Scheduler S) : List Nat → List Occurrence
  | [] => []
  | k :: rest => s.onCancel k ++ onCancelAll (s.cancel k).2 rest

/-- An outcome is handed to the owner. -/
def onNext (s : Scheduler S) (timeout : Option Number) : List Occurrence :=
  match (s.next timeout).1 with
  | .ok (some o) => [.delivered o]
  | _ => []

/-- The pending jobs run or are cancelled, once. -/
def onShutdown (codec : Codec S) (s : Scheduler S) (wait : Bool) : List Occurrence :=
  let shut := { s with closed := true }.shutExecutor
  if s.closed then []
  else if wait then onRunAll codec shut shut.pendingNumbers
  else onCancelAll shut shut.pendingNumbers

/-- Does what is asked, and tells what happened. -/
def ask (codec : Codec S) (s : Scheduler S) : Request → Scheduler S × List Occurrence
  | .submit j => ((s.submit codec j).2.1, s.onSubmit codec j)
  | .run k => ((s.runPending codec k).2.1, s.onRun codec k)
  | .cancel k => ((s.cancel k).2, s.onCancel k)
  | .next timeout => ((s.next timeout).2, s.onNext timeout)
  | .forget id => (s.forget id, [])
  | .shutExecutor => (s.shutExecutor, [])
  | .shutdown wait => ((s.shutdown codec wait).1, s.onShutdown codec wait)

/-- Does what is asked one after the other. -/
def askAll (codec : Codec S) (s : Scheduler S) : List Request → Scheduler S × List Occurrence
  | [] => (s, [])
  | r :: rest =>
    let (s, first) := s.ask codec r
    let (s, later) := s.askAll codec rest
    (s, first ++ later)

/-! ## Reading occurrences -/

namespace Occurrence

/-- The job that is accepted, with its number. -/
def accepts : Occurrence → List (Nat × Job)
  | .accepted k j => [(k, j)]
  | _ => []

/-- The number of the job that is done with. -/
def finishes : Occurrence → List Nat
  | .ran k _ | .cancelled k => [k]
  | _ => []

/-- The number of the job that is cancelled. -/
def cancels : Occurrence → List Nat
  | .cancelled k => [k]
  | _ => []

/-- The outcome that the job of a number puts into the mailbox. -/
def posts (k : Nat) : Occurrence → List Outcome
  | .ran n outcome => if n = k then outcome.toList else []
  | _ => []

/-- The outcome that is handed to the owner. -/
def delivers : Occurrence → List Outcome
  | .delivered o => [o]
  | _ => []

end Occurrence

/-- The jobs that were accepted, with their numbers. -/
def acceptedIn (past : List Occurrence) : List (Nat × Job) := past.flatMap Occurrence.accepts

/-- The numbers of the jobs that are done with, in the order they finished. -/
def finishedIn (past : List Occurrence) : List Nat := past.flatMap Occurrence.finishes

/-- The numbers of the jobs that were cancelled. -/
def cancelledIn (past : List Occurrence) : List Nat := past.flatMap Occurrence.cancels

/-- The outcomes that the job of a number put into the mailbox. -/
def postedBy (past : List Occurrence) (k : Nat) : List Outcome := past.flatMap (Occurrence.posts k)

/-- The outcomes that were handed to the owner. -/
def deliveredIn (past : List Occurrence) : List Outcome := past.flatMap Occurrence.delivers

/-- The jobs that were accepted and have not finished. -/
def unfinishedIn (past : List Occurrence) : List (Nat × Job) :=
  (acceptedIn past).filter fun p => p.1 ∉ finishedIn past

section Reading

variable {past : List Occurrence} {e : Occurrence} {k : Nat}

lemma acceptedIn_concat : acceptedIn (past ++ [e]) = acceptedIn past ++ e.accepts := by
  simp [acceptedIn]

lemma finishedIn_concat : finishedIn (past ++ [e]) = finishedIn past ++ e.finishes := by
  simp [finishedIn]

lemma cancelledIn_concat : cancelledIn (past ++ [e]) = cancelledIn past ++ e.cancels := by
  simp [cancelledIn]

lemma postedBy_concat : postedBy (past ++ [e]) k = postedBy past k ++ e.posts k := by
  simp [postedBy]

lemma deliveredIn_concat : deliveredIn (past ++ [e]) = deliveredIn past ++ e.delivers := by
  simp [deliveredIn]

lemma mem_finishedIn_of_posts {o : Outcome} (mem : e ∈ past) (posts : o ∈ e.posts k) :
    k ∈ finishedIn past := by
  refine List.mem_flatMap.mpr ⟨e, mem, ?_⟩
  cases e with
  | accepted | cancelled | delivered => cases posts
  | ran n outcome =>
    rw [Occurrence.posts] at posts
    split at posts
    · rename_i same
      exact List.mem_singleton.mpr same.symm
    · cases posts

lemma postedBy_of_unfinished (unfinished : k ∉ finishedIn past) : postedBy past k = [] := by
  refine List.flatMap_eq_nil_iff.mpr fun e mem => List.eq_nil_iff_forall_not_mem.mpr ?_
  intro o posts
  exact unfinished (mem_finishedIn_of_posts mem posts)

lemma cancelledIn_subset : cancelledIn past ⊆ finishedIn past := by
  intro k cancelled
  obtain ⟨e, mem, cancels⟩ := List.mem_flatMap.mp cancelled
  refine List.mem_flatMap.mpr ⟨e, mem, ?_⟩
  cases e with
  | accepted | ran | delivered => cases cancels
  | cancelled => exact cancels

/-- What ends no job changes nothing of what became of jobs. -/
lemma endings_concat (past : List Occurrence) (none : e.finishes = []) :
    finishedIn (past ++ [e]) = finishedIn past ∧ cancelledIn (past ++ [e]) = cancelledIn past ∧
      postedBy (past ++ [e]) = postedBy past := by
  refine ⟨?_, ?_, funext fun k => ?_⟩
  · rw [finishedIn_concat, none, List.append_nil]
  · rw [cancelledIn_concat]
    cases e with
    | accepted | delivered => exact List.append_nil _
    | ran | cancelled => cases none
  · rw [postedBy_concat]
    cases e with
    | accepted | delivered => exact List.append_nil _
    | ran | cancelled => cases none

end Reading

/-! ## Conservation -/

/-- What a scheduler is, compared with all that happened. Accepted jobs are numbered from one on,
only they finish, and none finishes twice. The pending jobs are the unfinished ones; in flight are
these and the outcomes in the mailbox, and the table has their number for every entry that has some.
A finished job has put one outcome of its own into the mailbox, unless it was cancelled or its
failure cannot be reported. The outcomes were handed to the owner in the order in which the jobs
finished; those in the mailbox are the last of them. -/
structure Conserved (past : List Occurrence) (s : Scheduler S) : Prop where
  numbers : (acceptedIn past).map (·.1) = List.range' 1 s.accepted
  known : ∀ k ∈ finishedIn past, k ∈ (acceptedIn past).map (·.1)
  once : (finishedIn past).Nodup
  pending : s.pending = unfinishedIn past
  inFlight : s.inFlight = (unfinishedIn past).length + s.mailbox.length
  running : Tallies s.running fun id => (unfinishedIn past).countP fun p => p.2.entry = id
  posted : ∀ p ∈ acceptedIn past, p.1 ∈ finishedIn past → p.1 ∉ cancelledIn past → p.2.Reports →
    ∃ o, postedBy past p.1 = [o] ∧ o.ticket = p.2.ticket
  lost : ∀ p ∈ acceptedIn past, p.1 ∈ cancelledIn past ∨ ¬p.2.Reports → postedBy past p.1 = []
  delivered : (finishedIn past).flatMap (postedBy past) = deliveredIn past ++ s.mailbox

/-- How a pending job ends, and the outcome it leaves: it runs, to an outcome of its own unless its
failure cannot be reported, or it is cancelled. -/
inductive Ending (k : Nat) (j : Job) : Occurrence → Option Outcome → Prop
  | ran {outcome : Option Outcome}
      (own : j.Reports → ∃ o, outcome = some o ∧ o.ticket = j.ticket)
      (silent : ¬j.Reports → outcome = none) : Ending k j (.ran k outcome) outcome
  | cancelled : Ending k j (.cancelled k) none

namespace Ending

variable {k : Nat} {j : Job} {e : Occurrence} {outcome : Option Outcome}

lemma of_run (codec : Codec S) (cache : DecodeCache S) :
    Ending k j (.ran k (j.run codec cache).outcome) (j.run codec cache).outcome :=
  .ran Job.run_reports Job.run_of_not_reports

lemma accepts (h : Ending k j e outcome) : e.accepts = [] := by
  cases h <;> rfl

lemma finishes (h : Ending k j e outcome) : e.finishes = [k] := by
  cases h <;> rfl

lemma delivers (h : Ending k j e outcome) : e.delivers = [] := by
  cases h <;> rfl

lemma posts_self (h : Ending k j e outcome) : e.posts k = outcome.toList := by
  cases h with
  | ran => exact if_pos rfl
  | cancelled => rfl

lemma posts_of_ne (h : Ending k j e outcome) {n : Nat} (other : n ≠ k) : e.posts n = [] := by
  cases h with
  | ran => exact if_neg (Ne.symm other)
  | cancelled => rfl

lemma cancels_subset (h : Ending k j e outcome) : e.cancels ⊆ [k] := by
  cases h with
  | ran => exact List.nil_subset _
  | cancelled => exact List.Subset.refl _

/-- A job that was not cancelled leaves an outcome, if it can report its failure. -/
lemma own (h : Ending k j e outcome) (ran : k ∉ e.cancels) (reports : j.Reports) :
    ∃ o, outcome = some o ∧ o.ticket = j.ticket := by
  cases h with
  | ran own _ => exact own reports
  | cancelled => exact absurd (List.mem_singleton.mpr rfl) ran

lemma none (h : Ending k j e outcome) (lost : k ∈ e.cancels ∨ ¬j.Reports) : outcome = none := by
  cases h with
  | ran _ silent =>
    rcases lost with cancelled | unreported
    · cases cancelled
    · exact silent unreported
  | cancelled => rfl

end Ending

namespace Conserved

variable {past : List Occurrence} {s s' : Scheduler S} {codec : Codec S} {j : Job} {k : Nat}

lemma start {workers : Int} {pace : Pace} {cache : DecodeCache S}
    (created : create workers pace cache = .ok s) : Conserved [] s := by
  unfold create at created
  split at created
  · cases created
  · obtain rfl := Except.ok.inj created
    exact {
      numbers := rfl
      known := by simp [finishedIn]
      once := List.nodup_nil
      pending := rfl
      inFlight := rfl
      running := .nil
      posted := by simp [acceptedIn]
      lost := by simp [acceptedIn]
      delivered := rfl }

lemma bound (h : Conserved past s) {p : Nat × Job} (mem : p ∈ acceptedIn past) :
    p.1 ≤ s.accepted := by
  have number := List.mem_map_of_mem (f := (·.1)) mem
  rw [h.numbers, List.mem_range'_1] at number
  omega

lemma distinct (h : Conserved past s) : ((acceptedIn past).map (·.1)).Nodup := by
  rw [h.numbers]
  exact List.nodup_range'

/-- The next number is not given out yet. -/
lemma next_unfinished (h : Conserved past s) : s.accepted + 1 ∉ finishedIn past := by
  intro mem
  have number := h.known _ mem
  rw [h.numbers, List.mem_range'_1] at number
  omega

lemma counted (h : Conserved past s) : s.Counted where
  numbers := by
    rw [h.pending]
    exact h.distinct.sublist (List.filter_sublist.map _)
  bounded := by
    intro p mem
    rw [h.pending] at mem
    exact h.bound (List.mem_of_mem_filter mem)
  tallies := by
    have same : s.unfinished = fun id => (unfinishedIn past).countP fun p => p.2.entry = id := by
      unfold Scheduler.unfinished
      rw [h.pending]
    rw [same]
    exact h.running

lemma running_of_counted (counted : s.Counted) (pending : s.pending = unfinishedIn past) :
    Tallies s.running fun id => (unfinishedIn past).countP fun p => p.2.entry = id := by
  rw [← pending]
  exact counted.tallies

/-- Conservation is about nothing but jobs, outcomes and their numbers. -/
lemma congr (h : Conserved past s) (counted : s'.Counted) (pending : s'.pending = s.pending)
    (accepted : s'.accepted = s.accepted) (mailbox : s'.mailbox = s.mailbox)
    (inFlight : s'.inFlight = s.inFlight) : Conserved past s' where
  numbers := accepted ▸ h.numbers
  known := h.known
  once := h.once
  pending := pending.trans h.pending
  inFlight := by rw [inFlight, mailbox, h.inFlight]
  running := running_of_counted counted (pending.trans h.pending)
  posted := h.posted
  lost := h.lost
  delivered := mailbox ▸ h.delivered

/-! ### One move after the other -/

/-- An accepted job is unfinished at first. -/
lemma queued (h : Conserved past s) (j : Job) :
    Conserved (past ++ [.accepted (s.accepted + 1) j]) (s.queued j) := by
  have accepted : acceptedIn (past ++ [.accepted (s.accepted + 1) j]) =
      acceptedIn past ++ [(s.accepted + 1, j)] := acceptedIn_concat
  obtain ⟨finished, cancelled, posted⟩ :=
    endings_concat past (e := .accepted (s.accepted + 1) j) rfl
  have unfinished : unfinishedIn (past ++ [.accepted (s.accepted + 1) j]) =
      unfinishedIn past ++ [(s.accepted + 1, j)] := by
    rw [unfinishedIn, accepted, finished, List.filter_append]
    simp [unfinishedIn, h.next_unfinished]
  -- The pending jobs grow exactly as the unfinished ones do; this settles the fields that only
  -- speak of them.
  have pending : (s.queued j).pending = unfinishedIn (past ++ [.accepted (s.accepted + 1) j]) := by
    rw [unfinished, ← h.pending]
    rfl
  constructor
  case numbers =>
    rw [accepted, List.map_append, h.numbers]
    show List.range' 1 s.accepted ++ [s.accepted + 1] = List.range' 1 (s.accepted + 1)
    rw [List.range'_1_concat, Nat.add_comm 1]
  case known =>
    intro k mem
    rw [finished] at mem
    rw [accepted, List.map_append]
    exact List.mem_append_left _ (h.known k mem)
  case once => exact finished ▸ h.once
  case pending => exact pending
  case inFlight =>
    have balance : (s.queued j).inFlight = s.inFlight + 1 := rfl
    have mail : (s.queued j).mailbox = s.mailbox := rfl
    rw [balance, mail, unfinished, h.inFlight, List.length_append, List.length_singleton]
    omega
  case running => exact running_of_counted (h.counted.queued j) pending
  case posted =>
    intro p mem ends kept reports
    rw [finished] at ends
    rw [cancelled] at kept
    rw [accepted] at mem
    rw [posted]
    rcases List.mem_append.mp mem with old | new
    · exact h.posted p old ends kept reports
    -- The new number has not finished, so this case does not arise.
    · obtain rfl := List.mem_singleton.mp new
      exact absurd ends h.next_unfinished
  case lost =>
    intro p mem lost
    rw [cancelled] at lost
    rw [accepted] at mem
    rw [posted]
    rcases List.mem_append.mp mem with old | new
    · exact h.lost p old lost
    · obtain rfl := List.mem_singleton.mp new
      exact postedBy_of_unfinished h.next_unfinished
  case delivered =>
    rw [finished, posted, deliveredIn_concat]
    exact h.delivered.trans (congrArg (· ++ s.mailbox) (List.append_nil _).symm)

/-- A pending job ends, with the outcome it leaves. -/
lemma settled (h : Conserved past s) (found : s.pending.lookup k = some j) {e : Occurrence}
    {outcome : Option Outcome} (ending : Ending k j e outcome) (cache : DecodeCache S)
    (usage : Usage) : Conserved (past ++ [e]) (s.settled k j cache usage outcome) := by
  -- Taking the job out of the pending ones permutes them to it and the rest, since numbers are
  -- distinct.
  have apart := Lookup.perm_of_lookup h.counted.numbers found
  have waiting : (k, j) ∈ unfinishedIn past := by
    rw [← h.pending]
    exact apart.symm.subset List.mem_cons_self
  have mine : (k, j) ∈ acceptedIn past := List.mem_of_mem_filter waiting
  have unfinished : k ∉ finishedIn past := by simpa using (List.mem_filter.mp waiting).2
  have accepted : acceptedIn (past ++ [e]) = acceptedIn past := by
    rw [acceptedIn_concat, ending.accepts, List.append_nil]
  have finished : finishedIn (past ++ [e]) = finishedIn past ++ [k] := by
    rw [finishedIn_concat, ending.finishes]
  -- The ending speaks of job `k` alone: whatever is asked of another number is answered by the
  -- past.
  have others : ∀ n, n ≠ k → postedBy (past ++ [e]) n = postedBy past n := by
    intro n other
    rw [postedBy_concat, ending.posts_of_ne other, List.append_nil]
  have self : postedBy (past ++ [e]) k = outcome.toList := by
    rw [postedBy_concat, postedBy_of_unfinished unfinished, ending.posts_self, List.nil_append]
  have same : ∀ p ∈ acceptedIn past, p.1 = k → p = (k, j) := by
    intro p mem number
    exact List.inj_on_of_nodup_map h.distinct mem mine number
  have rest : unfinishedIn (past ++ [e]) = (unfinishedIn past).filter fun p => p.1 ≠ k := by
    rw [unfinishedIn, accepted, finished, unfinishedIn, List.filter_filter]
    refine List.filter_congr fun p _ => ?_
    simp [and_comm]
  have pending : (s.settled k j cache usage outcome).pending = unfinishedIn (past ++ [e]) := by
    rw [pending_settled, h.pending, rest]
  constructor
  case numbers =>
    rw [accepted, accepted_settled]
    exact h.numbers
  case known =>
    intro n mem
    rw [finished] at mem
    rw [accepted]
    rcases List.mem_append.mp mem with old | new
    · exact h.known n old
    · obtain rfl := List.mem_singleton.mp new
      exact List.mem_map_of_mem mine
  case once =>
    rw [finished]
    exact List.nodup_append.mpr ⟨h.once, List.nodup_singleton _, fun n old m new =>
      fun equal => unfinished (List.mem_singleton.mp new ▸ equal ▸ old)⟩
  case pending => exact pending
  case inFlight =>
    have fewer := apart.length_eq
    rw [h.pending, ← rest, List.length_cons] at fewer
    rw [inFlight_settled, mailbox_settled, h.inFlight, fewer, List.length_append]
    cases outcome <;> simp <;> omega
  case running => exact running_of_counted (h.counted.settled found) pending
  case posted =>
    intro p mem ends kept reports
    rw [accepted] at mem
    rw [cancelledIn_concat, List.mem_append, not_or] at kept
    -- Of job `k` nothing was posted before, so its ending decides; of any other the past does.
    by_cases number : p.1 = k
    · obtain rfl := same p mem number
      obtain ⟨o, some_outcome, ticket⟩ := ending.own kept.2 reports
      exact ⟨o, by rw [self, some_outcome]; rfl, ticket⟩
    · rw [others p.1 number]
      refine h.posted p mem ?_ kept.1 reports
      rw [finished] at ends
      exact (List.mem_append.mp ends).resolve_right fun new => number (List.mem_singleton.mp new)
  case lost =>
    intro p mem lost
    rw [accepted] at mem
    rw [cancelledIn_concat, List.mem_append] at lost
    by_cases number : p.1 = k
    · obtain rfl := same p mem number
      have gone : k ∈ e.cancels ∨ ¬j.Reports :=
        lost.imp_left fun either =>
          either.resolve_left fun old => unfinished (cancelledIn_subset old)
      rw [self, ending.none gone]
      rfl
    · rw [others p.1 number]
      refine h.lost p mem (lost.imp_left fun either => either.resolve_right fun new => ?_)
      exact number (List.mem_singleton.mp (ending.cancels_subset new))
  case delivered =>
    -- What the jobs that finished earlier posted is untouched, so the new outcome comes last.
    have earlier : (finishedIn past).flatMap (postedBy (past ++ [e])) =
        (finishedIn past).flatMap (postedBy past) :=
      List.flatMap_congr fun n old => others n fun number => unfinished (number ▸ old)
    rw [finished, List.flatMap_append, earlier, h.delivered, List.flatMap_singleton, self,
      deliveredIn_concat, ending.delivers, List.append_nil, mailbox_settled, List.append_assoc]

/-- The oldest outcome goes to the owner. -/
lemma take (h : Conserved past s) {o : Outcome} (taken : s.take = some (o, s')) :
    Conserved (past ++ [.delivered o]) s' := by
  unfold Scheduler.take at taken
  split at taken
  · cases taken
  rename_i first rest mail
  obtain ⟨rfl, rfl⟩ := Prod.mk.inj (Option.some.inj taken)
  have accepted : acceptedIn (past ++ [.delivered first]) = acceptedIn past :=
    acceptedIn_concat.trans (List.append_nil _)
  obtain ⟨finished, cancelled, posted⟩ :=
    endings_concat past (e := .delivered first) rfl
  have unfinished : unfinishedIn (past ++ [.delivered first]) = unfinishedIn past := by
    rw [unfinishedIn, accepted, finished, unfinishedIn]
  constructor
  case numbers => exact accepted ▸ h.numbers
  case known => exact finished ▸ accepted ▸ h.known
  case once => exact finished ▸ h.once
  case pending => exact unfinished ▸ h.pending
  case inFlight =>
    have balance := h.inFlight
    rw [mail, List.length_cons] at balance
    rw [unfinished]
    simp only [leave]
    omega
  case running => exact unfinished ▸ h.running
  case posted => rw [accepted, finished, cancelled, posted]; exact h.posted
  case lost => rw [accepted, cancelled, posted]; exact h.lost
  case delivered =>
    rw [finished, posted, deliveredIn_concat, List.append_assoc, h.delivered, mail]
    rfl

/-! ### One request after the other -/

lemma run (h : Conserved past s) (k : Nat) :
    Conserved (past ++ s.onRun codec k) (s.runPending codec k).2.1 := by
  unfold onRun
  cases found : s.pending.lookup k with
  | none =>
    rw [runPending_eq_self found, List.append_nil]
    exact h
  | some j =>
    rw [runPending_eq found]
    exact h.settled found (.of_run codec s.cache) _ _

lemma runAll (h : Conserved past s) (numbers : List Nat) :
    Conserved (past ++ onRunAll codec s numbers) (s.runAll codec numbers).1 := by
  induction numbers generalizing past s with
  | nil => simpa [onRunAll, Scheduler.runAll] using h
  | cons k rest ih =>
    rw [onRunAll, ← List.append_assoc]
    exact ih (h.run k)

lemma cancel (h : Conserved past s) (k : Nat) :
    Conserved (past ++ s.onCancel k) (s.cancel k).2 := by
  cases found : s.pending.lookup k with
  | none =>
    rw [cancel_eq_self found, onCancel, Scheduler.cancel, found]
    simpa using h
  | some j =>
    have told : s.onCancel k = [.cancelled k] := by
      rw [onCancel, Scheduler.cancel, found]
      rfl
    rw [cancel_eq found, told]
    exact h.settled found .cancelled _ _

lemma cancelAll (h : Conserved past s) (numbers : List Nat) :
    Conserved (past ++ onCancelAll s numbers) (s.cancelAll numbers) := by
  induction numbers generalizing past s with
  | nil => simpa [onCancelAll, Scheduler.cancelAll] using h
  | cons k rest ih =>
    rw [onCancelAll, ← List.append_assoc]
    exact ih (h.cancel k)

/-- A refused job leaves no trace: it is counted, and the counts are taken back. -/
lemma submit (h : Conserved past s) (j : Job) :
    Conserved (past ++ s.onSubmit codec j) (s.submit codec j).2.1 := by
  -- Only an accepted job is an occurrence. At an immediate pace it is followed by its run.
  by_cases accepted : s.closed = false ∧ s.executorShut = false
  · obtain ⟨isOpen, running⟩ := accepted
    have answer := (submit_result s codec j).mpr ⟨isOpen, running⟩
    rw [submit_eq h.counted.bounded isOpen running, onSubmit, answer]
    dsimp only
    split
    · rename_i immediate
      have found : (s.queued j).pending.lookup (s.accepted + 1) = some j := by
        simp [Scheduler.queued, List.lookup_append, h.counted.lookup_next]
      have ran : Conserved (past ++ [.accepted (s.accepted + 1) j] ++
          (s.queued j).onRun codec (s.accepted + 1))
          ((s.queued j).runPending codec (s.accepted + 1)).2.1 := (h.queued j).run _
      rw [onRun, found, List.append_assoc] at ran
      exact ran
    · exact h.queued j
  · have refused : (s.submit codec j).1 ≠ .ok () := fun answer =>
      accepted ((submit_result s codec j).mp answer)
    have silent : s.onSubmit codec j = [] := by
      unfold onSubmit
      split
      · rfl
      · rename_i answer
        exact absurd answer refused
    have same := submit_alike refused
    rw [silent, List.append_nil]
    exact h.congr (h.counted.refused refused) same.pending same.accepted same.mailbox same.inFlight

lemma next (h : Conserved past s) (timeout : Option Number) :
    Conserved (past ++ s.onNext timeout) (s.next timeout).2 := by
  unfold onNext Scheduler.next
  by_cases negative : (timeout.any fun t => t.lt (.int 0)) = true
  · simpa only [if_pos negative, List.append_nil] using h
  · simp only [if_neg negative]
    cases taken : s.take with
    | none => simpa only [List.append_nil] using h
    | some found => exact h.take taken

lemma forget (h : Conserved past s) (id : EntryId) : Conserved past (s.forget id) := by
  have same := ({ s with cache := s.cache.invalidate id } : Scheduler S).releaseIdle_alike id
  exact h.congr (h.counted.forget id) same.pending same.accepted same.mailbox same.inFlight

lemma shutdown (h : Conserved past s) (wait : Bool) :
    Conserved (past ++ s.onShutdown codec wait) (s.shutdown codec wait).1 := by
  unfold onShutdown Scheduler.shutdown
  cases closed : s.closed with
  | true => simpa using h
  | false =>
    have shut : Conserved past { s with closed := true }.shutExecutor :=
      h.congr (h.counted.congr rfl rfl rfl) rfl rfl rfl rfl
    cases wait with
    | true => exact shut.runAll _
    | false => exact shut.cancelAll _

/-- Whatever is asked of a scheduler, jobs are conserved. -/
lemma ask (h : Conserved past s) (r : Request) :
    Conserved (past ++ (s.ask codec r).2) (s.ask codec r).1 := by
  cases r with
  | submit j => exact h.submit j
  | run k => exact h.run k
  | cancel k => exact h.cancel k
  | next timeout => exact h.next timeout
  | forget id => simpa only [Scheduler.ask, List.append_nil] using h.forget id
  | shutExecutor =>
    have shut : Conserved past s.shutExecutor :=
      h.congr (h.counted.congr rfl rfl rfl) rfl rfl rfl rfl
    simpa only [Scheduler.ask, List.append_nil] using shut
  | shutdown wait => exact h.shutdown wait

lemma askAll (h : Conserved past s) (requests : List Request) :
    Conserved (past ++ (s.askAll codec requests).2) (s.askAll codec requests).1 := by
  induction requests generalizing past s with
  | nil => simpa only [Scheduler.askAll, List.append_nil] using h
  | cons r rest ih =>
    rw [Scheduler.askAll, ← List.append_assoc]
    exact ih (h.ask r)

end Conserved

/-- **Jobs are conserved.** Whatever is asked of a scheduler and its executor from the start on, and
whatever the jobs, the codec and the cache are like: in flight are the unfinished jobs and the
outcomes in the mailbox, the table of running jobs is right, every job that finished has put one
outcome into the mailbox unless it was cancelled or its failure could not be reported, and the
outcomes come to the owner in the order the jobs finished, none of them twice. -/
theorem jobs_are_conserved {codec : Codec S} {workers : Int} {pace : Pace}
    {cache : DecodeCache S} {s : Scheduler S} (created : create workers pace cache = .ok s)
    (requests : List Request) :
    Conserved (s.askAll codec requests).2 (s.askAll codec requests).1 := by
  have all : Conserved ([] ++ (s.askAll codec requests).2) (s.askAll codec requests).1 :=
    (Conserved.start created).askAll requests
  rwa [List.nil_append] at all

/-- Of three jobs one runs, one is cancelled, and one fails and cannot report it; a fourth one is
refused.  One outcome comes to the owner, and then nothing is in flight. -/
theorem jobs_are_conserved_of_four :
    let job (n : Nat) (defect : JobDefect) : Job := ⟨.nth n, n, ⟨#[1]⟩, .default, defect⟩
    let start : Scheduler ByteArray := .initial 4 .onDemand .empty
    let told := start.askAll .verbatim [.submit (job 1 .none), .submit (job 1 .none),
      .submit (job 2 (.report .overflow)), .run 3, .cancel 1, .shutExecutor,
      .submit (job 3 .none), .run 2, .next none]
    create 4 .onDemand .empty = .ok start ∧ finishedIn told.2 = [3, 1, 2] ∧
      (deliveredIn told.2).length = 1 ∧ told.1.inFlight = 0 ∧ Conserved told.2 told.1 := by
  intro job start told
  have made : create 4 .onDemand .empty = .ok start := rfl
  exact ⟨made, by decide +kernel, by decide +kernel, by decide +kernel, jobs_are_conserved made _⟩

end Scheduler

end Reencode

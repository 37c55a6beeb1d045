import Reencode.Session.Edit

/-!
# Taking over outcomes

Jobs finish when they like; what they came to is taken over by the owner of the session, who drains
the mailbox. An outcome counts if its entry is still in the collection and its token is the entry's
newest; any other is dropped, and changes nothing.
-/
namespace Reencode.Session

variable {S O : Type}

/-- Reports an outcome that came too late. -/
def dropStale (e : Entry) (o : Outcome) : Act S O Bool := do
  log .debug (Message.staleResult e.id o.token e.token)
  return false

/-- Takes over a fault. -/
def applyFault (w : Surroundings S O) (e : Entry) (o : Outcome) (fault : Fault) : Act S O Bool := do
  match e.recordFault fault with
  | none => dropStale e o
  | some e =>
    change fun c => c.setEntry e
    log .warning (Message.operationFailed "重新压缩" e.name (some fault.message))
    emit w (.failed e.id fault)
    return true

/-- Takes over encoded bytes. -/
def applyData (w : Surroundings S O) (e : Entry) (o : Outcome) (data : ByteArray) :
    Act S O Bool := do
  match ← lift (e.applyOutput (← collection?).registry o.token data (some o.params)) with
  | none => dropStale e o
  | some (e, registry) =>
    change fun c => { c.setEntry e with registry }
    log .debug ("更新压缩结果: " ++ e.name ++ " " ++ o.params.format.name ++ " q=" ++
      toString o.params.quality ++ " → " ++ toString e.outputSize ++ " bytes")
    emit w (.about .outputUpdated e.id)
    return true

/-- Takes over an outcome, and says whether it counted. -/
def apply (w : Surroundings S O) (o : Outcome) : Act S O Bool := do
  match (← collection?).get? o.entry with
  | none =>
    log .debug ("条目已移除，丢弃任务结果: " ++ o.entry.text)
    return false
  | some e =>
    match o.payload with
    | .fault fault => applyFault w e o fault
    | .data data => applyData w e o data
    | .nothing => dropStale e o

/-- Takes over outcomes until the mailbox is empty, at most so many, and gives the number of those
that counted. -/
def drainUpTo (w : Surroundings S O) : Nat → Act S O Nat
  | 0 => pure 0
  | limit + 1 => do
    match (← collection?).scheduler.take with
    | none => return 0
    | some (o, scheduler) =>
      change fun c => { c with scheduler }
      let counted ← apply w o
      let others ← drainUpTo w limit
      return (if counted then 1 else 0) + others

/-- Takes over what is in the mailbox and what arrives there meanwhile. -/
def drain (w : Surroundings S O) : Act S O Nat := do
  drainUpTo w ((← collection?).scheduler.mailbox.length + w.patience)

/-- Lets the executor work as far as it does so while the owner waits. -/
def letWork (w : Surroundings S O) : Act S O Unit := do
  let (scheduler, records) := (← collection?).scheduler.advance w.codec
  change fun c => { c with scheduler }
  logAll records

/-- Drains and lets the executor work in turns, until nothing is in flight, or nothing more is going
to happen, or so many turns were taken. Says whether nothing is in flight. -/
def waitTurns (w : Surroundings S O) : Nat → Act S O Bool
  | 0 => pure false
  | turns + 1 => do
    letWork w
    let _ ← drain w
    let scheduler := (← collection?).scheduler
    -- Jobs may have come in while outcomes were told.
    if scheduler.inFlight = 0 then return true
    else if scheduler.pace = .whileWaiting ∧ !scheduler.pending.isEmpty then waitTurns w turns
    else return false

/-- Waits for the jobs in flight, and says whether all of them have ended. -/
def waitIdle (w : Surroundings S O) : Act S O Bool := waitTurns w (w.patience + 1)

/-- Removes every entry, shuts the scheduler down once its jobs have run, and drains. -/
def close (w : Surroundings S O) : Act S O Unit := do
  clear w
  let (scheduler, records) := (← collection?).scheduler.shutdown w.codec true
  change fun c => { c with scheduler }
  logAll records
  let _ ← drain w

end Reencode.Session

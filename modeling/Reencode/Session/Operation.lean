import Reencode.Session.Outcomes

/-!
# Operations

The operations of a session as data: a run of a session is a list of them. Besides what a caller may
ask of the collection there are the steps of the executor, which runs or cancels a pending job, and
refuses jobs once it is shut down.
-/
namespace Reencode

/-- A step of a session: what its owner calls, observers that come and go, and what the executor
does with pending jobs. -/
inductive Operation where
  | add (name : String) (data : ByteArray)
  | addMany (files : List (String × ByteArray))
  | remove (id : EntryId)
  | clear
  | select (id : EntryId)
  | setParams (id : EntryId) (source : Session.ParamsSource) (quality format : Value)
  | setGlobalFormat (format : Value)
  | resetParams (id : EntryId)
  | setPreviewMode (showSource : Bool)
  | drain
  | waitIdle
  | close
  | subscribe (tag : ObserverTag)
  | unsubscribe (tag : ObserverTag)
  | runJob (number : Nat)
  | runJobs (numbers : List Nat)
  | cancelJob (number : Nat)
  | shutExecutor

/-- What an operation gives back. -/
inductive Reply where
  | done
  | truth (b : Bool)
  | count (n : Nat)
  | entry (id : Option EntryId)
  | entries (ids : List EntryId)
deriving DecidableEq

/-- A reply as a value. -/
def Reply.toValue : Reply → Value
  | done => .null
  | truth b => .bool b
  | count n => .int n
  | entry id => Value.ofOption (id.map fun i => .text i.text)
  | entries ids => .list (ids.map fun i => .text i.text)

namespace Session

variable {S O : Type}

/-- Has the executor run pending jobs in this order. -/
def runJobs (w : Surroundings S O) (numbers : List Nat) : Act S O Unit := do
  let (scheduler, records) := (← collection?).scheduler.runAll w.codec numbers
  change fun c => { c with scheduler }
  logAll records

/-- Has the executor run a pending job, and says whether there was one. -/
def runJob (w : Surroundings S O) (number : Nat) : Act S O Bool := do
  let isPending := ((← collection?).scheduler.pending.lookup number).isSome
  runJobs w [number]
  return isPending

/-- Has the executor cancel a pending job, and says whether there was one. -/
def cancelJob (number : Nat) : Act S O Bool := do
  let (wasPending, scheduler) := (← collection?).scheduler.cancel number
  change fun c => { c with scheduler }
  return wasPending

end Session

/-- Performs an operation. -/
def Operation.perform {S O : Type} (w : Surroundings S O) : Operation → Act S O Reply
  | add name data => .entry <$> Session.add w name data
  | addMany files => .entries <$> Session.addMany w files
  | remove id => .truth <$> Session.remove w id
  | clear => do
    Session.clear w
    return .done
  | select id => .truth <$> Session.select w id
  | setParams id source quality format => .truth <$> Session.setParams w id source quality format
  | setGlobalFormat format => do
    Session.setGlobalFormat w format
    return .done
  | resetParams id => .truth <$> Session.resetParams w id
  | setPreviewMode showSource => do
    Session.setPreviewMode showSource
    return .done
  | drain => .count <$> Session.drain w
  | waitIdle => .truth <$> Session.waitIdle w
  | close => do
    Session.close w
    return .done
  | subscribe tag => do
    Session.change fun c => c.subscribe tag
    return .done
  | unsubscribe tag => do
    Session.change fun c => c.unsubscribe tag
    return .done
  | runJob number => .truth <$> Session.runJob w number
  | runJobs numbers => do
    Session.runJobs w numbers
    return .count numbers.length
  | cancelJob number => .truth <$> Session.cancelJob number
  | shutExecutor => do
    Session.change fun c => { c with scheduler := c.scheduler.shutExecutor }
    return .done

end Reencode

import Reencode.Resource.Handle
import Reencode.Snapshot.Basic

/-!
# Entries

An entry is an imported image: its source, the parameters in force, and the output of the last job
that was still wanted when it finished. Every dispatch takes a new token; a result counts only if
it carries the newest one and the entry was not destroyed. What a result changes, it changes all at
once.
-/
namespace Reencode

/-- An imported image. Its bytes may be listed in a registry; the source handle is for display
layers. The fault is the last one, unless an output came after it, and the token is the newest one.
-/
structure Entry where
  id : EntryId
  name : String
  source : ByteArray
  listed : Bool
  sourceHandle : Handle
  params : Params
  output : Option Handle
  outputParams : Option Params
  outputSize : Nat
  savings : Binary64
  fault : Option Fault
  token : Int
  destroyed : Bool

namespace Entry

/-- A new entry. -/
def create (id : EntryId) (name : String) (source : ByteArray) (params : Params) (listed : Bool)
    (r : Registry) : Entry × Registry :=
  let (handle, r) := Handle.make listed r source
  ({ id, name, source, listed, sourceHandle := handle, params, output := none,
     outputParams := none, outputSize := 0, savings := Binary64.zero, fault := none, token := 0,
     destroyed := false }, r)

/-- The size of the source. -/
def sourceSize (e : Entry) : Nat := e.source.size

/-- Whether there is an output. -/
def hasOutput (e : Entry) : Bool := e.output.isSome

/-- The entry with a new token, which makes every earlier one stale. -/
def advance (e : Entry) : Entry := { e with token := e.token + 1 }

/-- Whether a result with this token is still wanted. -/
def isCurrent (e : Entry) (token : Int) : Bool := decide (token = e.token) && !e.destroyed

/-- Takes over an output, unless its token is stale: `none` then. Fails, and changes nothing, when
the handle of the current output was released. Without parameters of its own the output counts as
made with those in force. -/
def applyOutput (e : Entry) (r : Registry) (token : Int) (data : ByteArray)
    (params : Option Params) : Except Failure (Option (Entry × Registry)) := do
  if !e.isCurrent token then return none
  let (handle, r) ← match e.output with
    | none => pure (Handle.make e.listed r data)
    | some h => h.replace r data
  return some ({ e with
    output := some handle
    outputParams := some (params.getD e.params)
    outputSize := data.size
    savings := Reencode.savings e.sourceSize data.size
    fault := none }, r)

/-- The bytes of the output and the parameters they were made with. -/
def readOutput (e : Entry) : Except Failure (Option (ByteArray × Params)) :=
  match e.output, e.outputParams with
  | some h, some params => h.read.map fun data => some (data, params)
  | _, _ => .ok none

/-- Takes over a fault, unless its token is stale. The output stays. -/
def recordFault (e : Entry) (fault : Fault) : Option Entry :=
  if e.isCurrent fault.token then some { e with fault := some fault } else none

/-- Releases everything the entry holds; a second time nothing happens. -/
def destroy (e : Entry) (r : Registry) : Entry × Registry :=
  if e.destroyed then (e, r)
  else
    let r := e.sourceHandle.release r
    let r := match e.output with
      | some h => h.release r
      | none => r
    ({ e with sourceHandle := .released, output := none, destroyed := true }, r)

/-- Releases the output's handle alone; there must be an output. -/
def releaseOutput (e : Entry) (r : Registry) : Except Failure (Entry × Registry) :=
  match e.output with
  | some h => .ok ({ e with output := some .released }, h.release r)
  | none => .error (.outside .attribute "'NoneType' object has no attribute 'release'")

/-- The entry at this moment. -/
def snapshot (e : Entry) (selected : Bool) : EntrySnapshot where
  id := e.id
  name := e.name
  sourceSize := e.sourceSize
  outputSize := e.outputSize
  savings := e.savings
  params := e.params
  hasOutput := e.hasOutput
  sourceLocator := e.sourceHandle.locator?
  outputLocator := e.output.bind (·.locator?)
  fault := e.fault
  selected := selected

/-- The parameters that name the exported file: those of the output if there is one. -/
def exportParams (e : Entry) : Params := e.outputParams.getD e.params

/-- The entry as text. -/
def describe (e : Entry) : String :=
  "ImageEntry(id=" ++ Text.quoted e.id.text ++ ", name=" ++ Text.quoted e.name ++ ", params=" ++
    e.params.describe ++ ")"

/-- The state of the entry, by names. -/
def fields (e : Entry) : List (String × Value) := [
  ("token", .int e.token), ("has_output", .bool e.hasOutput), ("output_size", .int e.outputSize),
  ("savings", .real e.savings), ("fault", .ofOption (e.fault.map Fault.toValue)),
  ("destroyed", .bool e.destroyed), ("params", e.params.toValue),
  ("output_params", .ofOption (e.outputParams.map Params.toValue))]

end Entry
end Reencode

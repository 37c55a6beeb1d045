import Reencode.Work.DecodeCache

/-!
# Jobs

A job re-encodes one source with one set of parameters. It is made when it is dispatched and knows
nothing of what becomes of the entry afterwards. Whatever goes wrong in it becomes a fault, so that
its outcome always tells which entry, token and parameters it belongs to.
-/
namespace Reencode

/-- What is wrong with a job itself, apart from its codec and source: nothing, or it fails before it
has begun, and reporting that may fail too. -/
inductive JobDefect where
  | none
  | work (failure : Failure)
  | report (failure : Failure)

/-- A re-encoding to do, with the token it was dispatched with. -/
structure Job where
  entry : EntryId
  token : Int
  source : ByteArray
  params : Params
  defect : JobDefect

/-- The job as text. -/
def Job.describe (j : Job) : String :=
  "RecompressionJob(" ++ Text.quoted j.entry.text ++ ", #" ++ toString j.token ++ ", " ++
    j.params.format.name ++ " q=" ++ toString j.params.quality ++ ")"

/-- What a job came to: bytes, a fault, or neither, because the codec encoded to nothing. -/
inductive Payload where
  | data (bytes : ByteArray)
  | fault (f : Fault)
  | nothing

/-- A finished job. -/
structure Outcome where
  entry : EntryId
  token : Int
  params : Params
  payload : Payload

/-- What a run of a job leaves behind: its outcome, unless even the fault could not be made, what
was logged, the cache afterwards, and what the codec was asked to do. -/
structure JobReport (S : Type) where
  outcome : Option Outcome
  records : List LogRecord
  cache : DecodeCache S
  usage : Usage

namespace Job

variable {S : Type}

/-- The outcome of a job with a payload. -/
def outcome (j : Job) (payload : Payload) : Outcome := ⟨j.entry, j.token, j.params, payload⟩

/-- The outcome of a job that failed, and the record that tells of it. -/
def faultOutcome (j : Job) (failure : Failure) : Outcome × LogRecord :=
  let (fault, record) := Fault.ofFailure failure j.entry j.token
  (j.outcome (.fault fault), record)

/-- The payload of a product; a product that is no bytes is refused. -/
def payloadOf : Product → Except Failure Payload
  | .bytes data => .ok (.data data)
  | .text s => .ok (.data s.toUTF8)
  | .nothing => .ok .nothing
  | .other => .error (.invalid "JobOutcome" [⟨["data"], .notBytes⟩])

/-- The report of a job that failed. -/
def failed (j : Job) (failure : Failure) (records : List LogRecord) (cache : DecodeCache S)
    (usage : Usage) : JobReport S :=
  let (outcome, record) := j.faultOutcome failure
  ⟨some outcome, records ++ [record], cache, usage⟩

/-- Encodes a surface. -/
def encode (codec : Codec S) (j : Job) (surface : Option S) (records : List LogRecord)
    (cache : DecodeCache S) (usage : Usage) : JobReport S :=
  let attempt := codec.encode surface j.params.format j.params.quality
  let records := records ++ attempt.records
  match attempt.result with
  | .error failure => j.failed failure records cache usage
  | .ok product =>
    let usage := usage.append ⟨0, [(j.params.format, j.params.quality)]⟩
    match payloadOf product with
    | .ok payload => ⟨some (j.outcome payload), records, cache, usage⟩
    | .error failure => j.failed failure records cache usage

/-- Decodes, unless the surface is kept, and encodes. -/
def recode (codec : Codec S) (j : Job) (cache : DecodeCache S) : JobReport S :=
  -- A decoding that fails was asked for all the same.
  let usage : Usage := ⟨if (cache.lookup j.entry).isSome then 0 else 1, []⟩
  let attempt := cache.getOrDecode codec j.entry j.source
  match attempt.result with
  | .error failure => j.failed failure attempt.records cache usage
  | .ok (surface, cache) => j.encode codec surface attempt.records cache usage

/-- The record of a job whose fault could not be made. -/
def lostRecord (j : Job) : LogRecord :=
  ⟨.error, Message.operationFailed "投递任务结果" j.entry.text none⟩

/-- Runs a job. -/
def run (codec : Codec S) (j : Job) (cache : DecodeCache S) : JobReport S :=
  match j.defect with
  | .none => j.recode codec cache
  | .work failure => j.failed failure [] cache .none
  | .report _ => ⟨none, [j.lostRecord], cache, .none⟩

end Job
end Reencode

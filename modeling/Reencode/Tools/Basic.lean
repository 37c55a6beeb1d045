import Reencode.Export.Collect
import Reencode.Files.Import
import Reencode.Tools.Response

/-!
# Tools

The tools are the operations of a session for a remote caller: each takes plain values and answers
with a response. The tools that set something wait until the jobs have ended before they answer, as
long as the settings allow.
-/
namespace Reencode.Tools

open Session

variable {S O : Type}

/-- The state of the collection. -/
def stateNow (settled : Bool) : Act S O ToolResponse := do
  return .state (← collection?).snapshot settled none

/-- Whether nothing is in flight. -/
def isSettled : Act S O Bool := do
  return decide ((← collection?).scheduler.inFlight = 0)

/-- Waits for the jobs to end, and says whether they have. -/
def settle (w : Surroundings S O) : Act S O Bool := do
  let settled ← waitIdle w
  if !settled then log .warning "等待重新压缩任务超时，返回当前状态"
  return settled

/-- The state of the collection after waiting for the jobs to end. -/
def settledState (w : Surroundings S O) : Act S O ToolResponse := do
  stateNow (← settle w)

/-- The answer for an id of no entry. -/
def noSuchImage (id : EntryId) : ToolResponse :=
  .failed (.notFound (Message.entryNotFound id) id.text)

/-! ## The collection -/

/-- The values that stand for paths: one text, or a list. -/
def pathValues : Value → Except Failure (List Value)
  | .text s => .ok [.text s]
  | .list items => .ok items
  | v => .error (.type ("'" ++ v.kindName ++ "' object is not iterable"))

/-- Reads what paths stand for; a value that is no text stops it. -/
def readValues (t : FileTree) (recursive : Bool) : List Value → Reading
  | [] => (.ok [], [])
  | .text s :: rest =>
    (t.readPath recursive (FilePath.ofString s)).andThen (readValues t recursive rest)
  | v :: _ =>
    (.error (.type ("expected str, bytes or os.PathLike object, not " ++ v.kindName)), [])

/-- Adds what was read, waits for the jobs, and reports. -/
def importFiles (w : Surroundings S O) (files : List (String × ByteArray)) :
    Act S O ToolResponse := do
  let added ← addMany w files
  let settled ← settle w
  return .state (← collection?).snapshot settled (some (added, files.length - added.length))

/-- Imports what paths stand for; fails as its steps do. -/
def importValues (w : Surroundings S O) (paths : Value) (recursive : Bool) :
    Act S O ToolResponse := do
  let items ← lift (pathValues paths)
  let (result, records) := readValues (← get).files recursive items
  logAll records
  importFiles w (← lift result)

/-- Imports what paths stand for. -/
def importImages (w : Surroundings S O) (paths : Value) (recursive : Bool) : Act S O ToolResponse :=
  tryCatch (importValues w paths recursive) fun e => do
    log .error (Message.operationFailed "导入图片" paths.display (some e.text))
    return .failed (.processing e.text "导入图片")

/-- Lists the images after taking over what has finished. -/
def listImages (w : Surroundings S O) : Act S O ToolResponse := do
  let _ ← drain w
  stateNow (← isSettled)

/-- Selects an image. -/
def selectImage (w : Surroundings S O) (id : EntryId) : Act S O ToolResponse := do
  if ← select w id then stateNow (← isSettled) else return noSuchImage id

/-- Answers a refusal of parameters with a response, and passes any other failure on. -/
def refusal (e : Failure) : Act S O ToolResponse :=
  match e with
  | .own .validation message _ => return .failed (.validation message "format")
  | other => throw other

/-- Sets an image's parameters. -/
def setImageParams (w : Surroundings S O) (id : EntryId) (quality format : Value) :
    Act S O ToolResponse :=
  tryCatch (do
    if ← setParams w id .none quality format then settledState w else return noSuchImage id) refusal

/-- Gives an image the default quality, and selects it. -/
def resetImageQuality (w : Surroundings S O) (id : EntryId) : Act S O ToolResponse := do
  if ← resetParams w id then settledState w else return noSuchImage id

/-- Sets the format of all images. -/
def setFormat (w : Surroundings S O) (format : Value) : Act S O ToolResponse :=
  tryCatch (do
    setGlobalFormat w format
    settledState w) refusal

/-- Removes an image. -/
def removeImage (w : Surroundings S O) (id : EntryId) : Act S O ToolResponse := do
  if ← remove w id then stateNow (← isSettled) else return noSuchImage id

/-- Removes every image. -/
def clearImages (w : Surroundings S O) : Act S O ToolResponse := do
  clear w
  stateNow true

/-! ## Exports -/

/-- Exports everything there is as an archive. -/
def exportArchive (w : Surroundings S O) (output : String) : Act S O ToolResponse :=
  tryCatch (do
    let settled ← waitIdle w
    let written ← writeArchive (FilePath.ofString output)
    let size := (← get).files.sizeAt written.path
    return .archive settled written.path.text size written.names) fun e => do
    log .error (Message.operationFailed "导出归档" output (some e.text))
    return .failed (.processing e.text "导出归档")

/-- The answer for a failed export of one image; a failure that is not the system's is passed
on. -/
def exportFailure (id : EntryId) (directory : String) (e : Failure) : Act S O ToolResponse :=
  match e with
  | .own .notFound message _ => return .failed (.notFound message id.text)
  | .own .notReady message _ => return .failed (.notReady message id.text)
  | other@(.outside kind message) =>
    if kind.isIo then do
      log .error (Message.operationFailed "导出图片" directory (some message))
      return .failed (.processing message "导出图片")
    else throw other
  | other => throw other

/-- Exports one image into a directory. -/
def exportImage (w : Surroundings S O) (id : EntryId) (directory : String) :
    Act S O ToolResponse :=
  tryCatch (do
    let _ ← waitIdle w
    let path ← writeOne id (FilePath.ofString directory)
    return .file path.text ((← get).files.sizeAt path)) (exportFailure id directory)

end Reencode.Tools

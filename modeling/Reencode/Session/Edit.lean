import Reencode.Naming.ImageName
import Reencode.Session.Basic

/-!
# Editing a session

The operations that change the collection: importing, removing, selecting, and setting parameters.
An operation that changes what an entry is to be encoded with dispatches a new job for it, which
makes the jobs dispatched before stale. Events are told as soon as what they tell of has happened.
-/
namespace Reencode.Session

variable {S O : Type}

/-! ## Parts of operations -/

/-- Dispatches a job for an entry with its parameters in force. -/
def dispatch (w : Surroundings S O) (id : EntryId) : Act S O Unit := do
  match (← collection?).find? id with
  | none => pure ()
  | some e =>
    -- The token is taken even if the scheduler is going to refuse the job.
    let e := e.advance
    change fun c => c.setEntry e
    let job : Job := ⟨id, e.token, e.source, e.params, .none⟩
    let (result, scheduler, records) := (← collection?).scheduler.submit w.codec job
    change fun c => { c with scheduler }
    logAll records
    lift result

/-- Selects an entry, or none, and tells so. -/
def setSelection (w : Surroundings S O) (id : Option EntryId) : Act S O Unit := do
  change fun c => c.choose id
  emit w (.selection id)

/-- Gives an entry parameters, tells so, and dispatches a job. -/
def setEntryParams (w : Surroundings S O) (id : EntryId) (params : Params) : Act S O Unit := do
  match (← collection?).find? id with
  | none => pure ()
  | some e => change fun c => c.setEntry { e with params }
  emit w (.about .paramsChanged id)
  dispatch w id

/-! ## Importing -/

/-- The parameters of new entries. -/
def importParams (settings : Settings) (c : Collection S) : Params :=
  ⟨clampQuality settings.quality, c.globalFormat⟩

/-- Imports an image and gives its id, unless its name is taken. -/
def add (w : Surroundings S O) (name : String) (data : ByteArray) : Act S O (Option EntryId) := do
  let c ← collection?
  if (c.findByName name).isSome then
    log .debug (Message.duplicateName name)
    return none
  let (e, c) := c.insert name data (importParams (← get).settings c)
  change fun _ => c
  log .debug ("导入图片: " ++ name ++ " (" ++ e.id.text ++ ", " ++ toString e.sourceSize ++ " bytes)")
  emit w (.about .added e.id)
  -- Whoever was told may have selected an entry, or removed this one.
  if (← collection?).selected.isNone then setSelection w (some e.id)
  dispatch w e.id
  return some e.id

/-- Imports images in order and gives the new ids. Names that are no image's, or are taken, are
skipped. -/
def addMany (w : Surroundings S O) : List (String × ByteArray) → Act S O (List EntryId)
  | [] => pure []
  | (name, data) :: rest => do
    if !isImageName name then
      log .debug ("跳过非图片文件: " ++ name)
      addMany w rest
    else
      let id ← add w name data
      let others ← addMany w rest
      return id.toList ++ others

/-! ## Removing -/

/-- Removes an entry, and says whether there was one. The oldest entry left takes over the
selection. -/
def remove (w : Surroundings S O) (id : EntryId) : Act S O Bool := do
  match (← collection?).get? id with
  | none => return false
  | some e =>
    change fun c => (c.drop id).destroy e
    log .debug ("移除图片: " ++ e.name ++ " (" ++ id.text ++ ")")
    emit w (.about .removed id)
    let c ← collection?
    -- Whoever was told may have selected another entry by now.
    if c.selected = some id then setSelection w c.ids.head?
    return true

/-- Removes every entry. -/
def clear (w : Surroundings S O) : Act S O Unit := do
  let ids := (← collection?).ids
  change fun c => ({ c with ids := [] }.destroyAll ids).choose none
  log .debug ("清空集合，共释放 " ++ toString ids.length ++ " 张图片")
  emit w .cleared

/-! ## Selecting -/

/-- Selects an entry, and says whether there is one. Selecting it again changes nothing. -/
def select (w : Surroundings S O) (id : EntryId) : Act S O Bool := do
  let c ← collection?
  if !c.contains id then return false
  if c.selected ≠ some id then setSelection w (some id)
  return true

/-- Shows the source or the output in the preview. -/
def setPreviewMode (showSource : Bool) : Act S O Unit :=
  change fun c => { c with preview := c.preview.setMode showSource }

/-! ## Parameters -/

/-- Where changed parameters come from, apart from a quality and a format given on their own:
nowhere else, named values, of which those that are absent are taken from what is given on its own,
or parameters built before, for which that is ignored. -/
inductive ParamsSource where
  | none
  | fields (named : List (String × Value))
  | params (p : Params)

/-- The quality and format that are asked for. -/
def ParamsSource.resolve (quality format : Value) : ParamsSource → Value × Value
  | .none => (quality, format)
  | .fields named => ((named.lookup "quality").getD quality, (named.lookup "format").getD format)
  | .params p => (.int p.quality, .text p.format.name)

/-- The failure of a parameter that was refused for a reason; it shows what was asked for, and fails
itself if that has no text. -/
def parameterFailure (parameter : String) (asked : Value) (reason : String) (id : Option EntryId) :
    Failure :=
  match asked.shown with
  | .ok shown => .own .validation (Message.validationError parameter shown reason) id
  | .error failure => failure

/-- The failure of setting an entry's parameters. An infinite quality stays what it is. -/
def paramsFailure (id : EntryId) (quality format : Value) (e : ParamsError) : Failure :=
  match Failure.ofParamsError e with
  | .invalid model errors =>
    parameterFailure "编码参数" (.record [("quality", quality), ("format", format)])
      (Failure.reportLine model errors) (some id)
  | other => other

/-- Sets an entry's parameters, and says whether there is such an entry. -/
def setParams (w : Surroundings S O) (id : EntryId) (source : ParamsSource)
    (quality format : Value) : Act S O Bool := do
  match (← collection?).get? id with
  | none =>
    log .debug (Message.entryNotFound id)
    return false
  | some e =>
    let (quality, format) := source.resolve quality format
    match e.params.change w.reader quality format with
    | .error problem => throw (paramsFailure id quality format problem)
    | .ok params =>
      setEntryParams w id params
      return true

/-- Gives entries a format, in order; the quality of each is checked again. Entries removed
meanwhile are no exception. -/
def giveFormat (w : Surroundings S O) (format : Format) : List EntryId → Act S O Unit
  | [] => pure ()
  | id :: rest => do
    match (← collection?).find? id with
    | none => pure ()
    | some e => setEntryParams w id ⟨clampQuality e.params.quality, format⟩
    giveFormat w format rest

/-- Sets the format of new entries, and gives it to all entries there are. -/
def setGlobalFormat (w : Surroundings S O) (value : Value) : Act S O Unit := do
  match Format.read value with
  | .error e => throw (parameterFailure "全局格式" value e.message none)
  | .ok format =>
    change fun c => { c with globalFormat := format }
    log .debug ("全局格式设置为 " ++ format.name)
    giveFormat w format (← collection?).ids

/-- Gives an entry the quality of new ones and selects it; says whether there is such an entry. -/
def resetParams (w : Surroundings S O) (id : EntryId) : Act S O Bool := do
  let quality := clampQuality (← get).settings.quality
  match (← collection?).get? id with
  | none => return false
  | some e =>
    change fun c => c.setEntry { e with params := ⟨quality, e.params.format⟩ }
    let _ ← select w id
    emit w (.about .paramsChanged id)
    dispatch w id
    return true

end Reencode.Session

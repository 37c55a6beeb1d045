import Reencode.Fault
import Reencode.Resource.Locator
import Reencode.Snapshot.Savings
import Reencode.Snapshot.Size

/-!
# Snapshots

A snapshot is a read-only picture of an entry, or of the whole collection, at one moment, with the
texts a display shows for it.
-/
namespace Reencode

/-- An entry at one moment. The savings are in percent of the source. -/
structure EntrySnapshot where
  id : EntryId
  name : String
  sourceSize : Int
  outputSize : Int
  savings : Binary64
  params : Params
  hasOutput : Bool
  sourceLocator : Option Locator
  outputLocator : Option Locator
  fault : Option Fault
  selected : Bool
deriving DecidableEq

namespace EntrySnapshot

/-- Reads a locator. -/
def readLocator (v : Value) : Except FieldProblem Locator := v.readText.map Locator.mk

/-- The fault of a record of fields: none, or a nested record. -/
def faultOfFields (fields : List (String × Value)) : Checked (Option Fault) :=
  match fields.lookup "fault" with
  | none | some .null => .valid none
  | some (.record inner) => ((Fault.ofFields inner).map some).within "fault"
  | some _ => .invalid [⟨["fault"], .notRecord "EntryFault"⟩]

/-- Builds a snapshot from the fields of a record and parameters built before. -/
def ofFields (fields : List (String × Value)) (params : Option Params) : Checked EntrySnapshot :=
  mk <$> EntryId.mk <$> required fields "id" Value.readText
    <*> required fields "name" Value.readText
    <*> required fields "source_size" Value.readInteger
    <*> defaulted fields "output_size" 0 Value.readInteger
    <*> defaulted fields "savings_percent" Binary64.zero Value.readNumber
    <*> Checked.field "params" (match params with
      | some p => .ok p
      | none => .error .missing)
    <*> defaulted fields "has_output" false Value.readTruth
    <*> defaulted fields "source_locator" none (Value.readOptional readLocator)
    <*> defaulted fields "output_locator" none (Value.readOptional readLocator)
    <*> faultOfFields fields
    <*> defaulted fields "selected" false Value.readTruth

/-- The size of the source as text. -/
def sourceSizeText (s : EntrySnapshot) : Except Failure String := sizeText s.sourceSize

/-- The size of the output as text. -/
def outputSizeText (s : EntrySnapshot) : Except Failure String := sizeText s.outputSize

/-- The change of size a list shows: a minus for what was saved, a plus for growth. -/
def savingsLabel (s : EntrySnapshot) : String :=
  if Binary64.zero.le s.savings then "-" ++ s.savings.fixedText 1 ++ "%"
  else "+" ++ s.savings.abs.fixedText 1 ++ "%"

/-- Whether the output is larger than the source. -/
def grew (s : EntrySnapshot) : Bool := s.hasOutput && decide (s.sourceSize < s.outputSize)

/-- The entry in one line. -/
def summary (s : EntrySnapshot) : Except Failure String := do
  let source ← s.sourceSizeText
  if s.hasOutput then
    let output ← s.outputSizeText
    return s.name ++ ": " ++ source ++ " → " ++ output ++ " (" ++ s.savingsLabel ++ ")"
  else return s.name ++ ": " ++ source ++ " → 处理中"

/-- The snapshot as a record, with the texts a display shows. -/
def toValue (s : EntrySnapshot) : Except Failure Value := do
  return .record [
    ("id", .text s.id.text), ("name", .text s.name), ("source_size", .int s.sourceSize),
    ("output_size", .int s.outputSize), ("savings_percent", .real s.savings),
    ("params", s.params.toValue), ("has_output", .bool s.hasOutput),
    ("source_locator", .ofOption (s.sourceLocator.map fun l => .text l.text)),
    ("output_locator", .ofOption (s.outputLocator.map fun l => .text l.text)),
    ("fault", .ofOption (s.fault.map Fault.toValue)), ("selected", .bool s.selected),
    ("source_size_human", .text (← s.sourceSizeText)),
    ("output_size_human", .text (← s.outputSizeText)),
    ("savings_label", .text s.savingsLabel), ("grew", .bool s.grew),
    ("summary", .text (← s.summary))]

end EntrySnapshot

/-- The collection at one moment. -/
structure CollectionSnapshot where
  entries : List EntrySnapshot
  selected : Option EntryId
  globalFormat : String
deriving DecidableEq

namespace CollectionSnapshot

/-- Builds a snapshot of entries from the fields of a record. -/
def ofFields (fields : List (String × Value)) (entries : List EntrySnapshot) :
    Checked CollectionSnapshot :=
  mk entries <$> defaulted fields "selected_id" none
      (Value.readOptional fun v => v.readText.map EntryId.mk)
    <*> required fields "global_format" Value.readText

/-- The number of entries. -/
def total (s : CollectionSnapshot) : Nat := s.entries.length

/-- The entries that have an output. -/
def readyEntries (s : CollectionSnapshot) : List EntrySnapshot := s.entries.filter (·.hasOutput)

/-- The number of entries that have an output. -/
def ready (s : CollectionSnapshot) : Nat := s.readyEntries.length

/-- The size of all sources. -/
def sourceTotal (s : CollectionSnapshot) : Int :=
  (s.entries.map (·.sourceSize)).foldl (· + ·) 0

/-- The size of all outputs. -/
def outputTotal (s : CollectionSnapshot) : Int :=
  (s.readyEntries.map (·.outputSize)).foldl (· + ·) 0

/-- The collection in one line. -/
def summary (s : CollectionSnapshot) : Except Failure String := do
  if s.entries.isEmpty then return "没有图片"
  let source ← sizeText s.sourceTotal
  let output ← sizeText s.outputTotal
  return "已处理 " ++ toString s.ready ++ "/" ++ toString s.total ++ " 张图片, " ++ source ++ " → " ++
    output

/-- The snapshot as a record, with the texts a display shows. -/
def toValue (s : CollectionSnapshot) : Except Failure Value := do
  return .record [
    ("entries", .list (← s.entries.mapM EntrySnapshot.toValue)),
    ("selected_id", .ofOption (s.selected.map fun id => .text id.text)),
    ("global_format", .text s.globalFormat), ("total", .int s.total), ("ready", .int s.ready),
    ("source_total", .int s.sourceTotal), ("output_total", .int s.outputTotal),
    ("summary", .text (← s.summary))]

end CollectionSnapshot
end Reencode

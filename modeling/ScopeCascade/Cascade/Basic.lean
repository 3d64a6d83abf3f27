import ScopeCascade.Cascade.Ranking

/-! The preference cascade: the records of all bundles, and a memory of what they came to at the
paths asked for since the last change. -/
namespace ScopeCascade

structure CascadeOptions where
  /-- Whether resolutions are remembered. -/
  cache : Bool := true
deriving DecidableEq

/-- The settings in force at a path. Two resolutions with one serial number are the same object. -/
structure Resolution where
  settings : EffectiveSettings
  serial : Nat

/-- What came of the records of a bundle. -/
structure RegisterReport where
  registered : List Nat := []
  rejected : List BundleError := []

namespace RegisterReport

def isClean (report : RegisterReport) : Bool := report.rejected.isEmpty

def warnings (report : RegisterReport) (bundle : String) : List Warning :=
  report.rejected.map (.rejectedRecord (some bundle))

end RegisterReport

structure Cascade where
  options : CascadeOptions := {}
  /-- The registered records, oldest first. -/
  records : List Record := []
  nextOrder : Nat := 0
  /-- Counts the changes that made the memory void. -/
  generation : Nat := 0
  /-- Resolutions by path and by whether there is a selection. -/
  cache : InsertionMap (ScopePath × Bool) Resolution := ∅
  nextSerial : Nat := 0

namespace Cascade

def ofOptions (options : CascadeOptions) : Cascade := { options }

/-- Adds a record and leaves the memory as it is. -/
def push (cascade : Cascade) (record : CompiledRecord) : Cascade :=
  { cascade with
    records := cascade.records ++ [{ record with order := cascade.nextOrder }]
    nextOrder := cascade.nextOrder + 1 }

def pushAll (cascade : Cascade) (records : List CompiledRecord) : Cascade :=
  records.foldl push cascade

/-- Forgets all resolutions, also those that are still being worked out. -/
def invalidate (cascade : Cascade) : Cascade :=
  { cascade with generation := cascade.generation + 1, cache := ∅ }

/-- Drops the records of a bundle and leaves the memory as it is. -/
def dropBundle (cascade : Cascade) (bundle : String) : Cascade :=
  { cascade with records := cascade.records.filter (·.bundle ≠ bundle) }

/-- Registers one record, whose identifier is the result. -/
def register (cascade : Cascade) (spec : RecordSpec) : Except BundleError Nat × Cascade :=
  match spec.compile with
  | .ok record => (.ok cascade.nextOrder, (cascade.push record).invalidate)
  | .error error => (.error error, cascade)

/-- The records of a bundle whose selectors parse, and the errors of the others. -/
def compileBundle (bundle : Bundle) : List CompiledRecord × List BundleError :=
  let results := (RecordSpec.ofBundle bundle).map RecordSpec.compile
  (results.filterMap fun
    | .ok record => some record
    | .error _ => none,
   results.filterMap fun
    | .ok _ => none
    | .error error => some error)

/-- The identifiers that the next records get. -/
def nextIds (cascade : Cascade) (count : Nat) : List Nat := List.range' cascade.nextOrder count

/-- Registers all records of a bundle; those with malformed selectors are left out. -/
def registerBundle (cascade : Cascade) (bundle : Bundle) : RegisterReport × Cascade :=
  let (records, rejected) := compileBundle bundle
  (⟨cascade.nextIds records.length, rejected⟩, (cascade.pushAll records).invalidate)

/-- Puts the records of a bundle in the place of all that carry its identifier. -/
def replaceBundle (cascade : Cascade) (bundle : Bundle) : RegisterReport × Cascade :=
  let (records, rejected) := compileBundle bundle
  (⟨cascade.nextIds records.length, rejected⟩,
    ((cascade.dropBundle bundle.uuid).pushAll records).invalidate)

/-- Removes the records of a bundle; the result is their number. -/
def unregisterBundle (cascade : Cascade) (bundle : String) : Nat × Cascade :=
  let dropped := cascade.dropBundle bundle
  let removed := cascade.records.length - dropped.records.length
  (removed, if 0 < removed then dropped.invalidate else dropped)

/-- The settings in force at a path, without the memory. -/
def resolveUncached (cascade : Cascade) (path : ScopePath) (hasSelection : Bool) :
    EffectiveSettings :=
  resolveRecords cascade.records path hasSelection

/-- Remembers a resolution that was worked out in a generation, unless the records have changed
since. One that is remembered already stays. -/
def store (cascade : Cascade) (key : ScopePath × Bool) (resolution : Resolution)
    (generation : Nat) : Resolution × Cascade :=
  if cascade.generation = generation then
    match cascade.cache.get? key with
    | some held => (held, cascade)
    | none => (resolution, { cascade with cache := cascade.cache.insert key resolution })
  else (resolution, cascade)

/-- The settings in force at a path, remembered if the options say so. -/
def resolve (cascade : Cascade) (path : ScopePath) (hasSelection : Bool) : Resolution × Cascade :=
  match cascade.cache.get? (path, hasSelection) with
  | some known => (known, cascade)
  | none =>
    let resolution := ⟨cascade.resolveUncached path hasSelection, cascade.nextSerial⟩
    let counted := { cascade with nextSerial := cascade.nextSerial + 1 }
    if cascade.options.cache then
      counted.store (path, hasSelection) resolution cascade.generation
    else (resolution, counted)

/-- The records that apply at a path, the lowest priority first. -/
def ranking (cascade : Cascade) (path : ScopePath) (hasSelection : Bool) : List RankedRecord :=
  rankRecords cascade.records path hasSelection

/-- One setting in force at a path. -/
def preference? (cascade : Cascade) (path : ScopePath) (key : SettingKey) :
    Option Setting × Cascade :=
  let (resolution, cascade) := cascade.resolve path false
  (resolution.settings.get? key, cascade)

/-- Several settings in force at a path. -/
def preferences (cascade : Cascade) (path : ScopePath) (keys : List SettingKey) :
    EffectiveSettings × Cascade :=
  let (resolution, cascade) := cascade.resolve path false
  (resolution.settings.select keys, cascade)

/-- The items offered at a path. -/
def commandsForScope (cascade : Cascade) (path : ScopePath) (hasSelection : Bool) :
    List BundleItem × Cascade :=
  let (resolution, cascade) := cascade.resolve path hasSelection
  (resolution.settings.commands, cascade)

/-- The number of registered records. -/
def size (cascade : Cascade) : Nat := cascade.records.length

def isEmpty (cascade : Cascade) : Bool := cascade.records.isEmpty

/-- The number of remembered resolutions. -/
def cachedEntries (cascade : Cascade) : Nat := cascade.cache.size

end Cascade

end ScopeCascade

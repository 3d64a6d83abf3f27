import ScopeCascade.Cascade.Record

/-! The records that apply at a path, from the lowest priority to the highest. -/
namespace ScopeCascade

/-- A record that applies, with its specificity. -/
structure RankedRecord where
  record : Record
  specificity : Specificity

namespace RankedRecord

/-- The less specific record comes first, and of equally specific ones the older. -/
def compare : RankedRecord → RankedRecord → Ordering :=
  compareLex (compareOn RankedRecord.specificity) (compareOn fun ranked => ranked.record.order)

/-- The record with its specificity at a path, if it applies there. -/
def ofRecord? (path : ScopePath) (hasSelection : Bool) (record : Record) : Option RankedRecord :=
  (record.rank? path hasSelection).map fun specificity => ⟨record, specificity⟩

end RankedRecord

/-- The records that apply at a path, in order of priority. -/
def rankRecords (records : List Record) (path : ScopePath) (hasSelection : Bool) :
    List RankedRecord :=
  (records.filterMap (RankedRecord.ofRecord? path hasSelection)).mergeSort
    fun a b => (a.compare b).isLE

/-- What the records come to at a path. -/
def resolveRecords (records : List Record) (path : ScopePath) (hasSelection : Bool) :
    EffectiveSettings :=
  .ofFragments ((rankRecords records path hasSelection).map (·.record.settings))

end ScopeCascade

import ScopeCascade.Bundle.Basic
import ScopeCascade.Specificity

/-! Records: settings for the scopes that a selector matches, as bundles contribute them. -/
namespace ScopeCascade

/-- A record as declared. -/
structure RecordSpec where
  bundle : String
  /-- The text of the selector; the record applies everywhere without one. -/
  selector : Option String
  settings : SettingsFragment
  selection : SelectionRequirement := .any

/-- A record whose selector has been read. -/
structure CompiledRecord where
  bundle : String
  selector : Option Selector
  settings : SettingsFragment
  selection : SelectionRequirement

/-- A registered record. -/
structure Record extends CompiledRecord where
  /-- The place among all records that were ever registered, from 0 on. It identifies the record
  and decides between records of one specificity. -/
  order : Nat

namespace RecordSpec

def ofPreference (bundle : String) (preference : Preference) : RecordSpec :=
  { bundle, selector := preference.scope, settings := preference.settings }

/-- The settings that offer an item. -/
def offering (item : BundleItem) : SettingsFragment :=
  .ofList [.commands (.singleton item.uuid (.offer item))]

def ofItem (bundle : String) (item : BundleItem) : RecordSpec :=
  { bundle, selector := item.scope, settings := offering item, selection := item.selection }

/-- The records of a bundle: its preferences, then its items. -/
def ofBundle (bundle : Bundle) : List RecordSpec :=
  bundle.preferences.map (ofPreference bundle.uuid) ++ bundle.items.map (ofItem bundle.uuid)

/-- Reads the selector. -/
def compile (spec : RecordSpec) : Except BundleError CompiledRecord :=
  match spec.selector with
  | none => .ok ⟨spec.bundle, none, spec.settings, spec.selection⟩
  | some text =>
    match Selector.parse text with
    | .ok selector => .ok ⟨spec.bundle, some selector, spec.settings, spec.selection⟩
    | .error source => .error (.selector spec.bundle text source)

/-- The selector is read, everything else stays. -/
theorem compile_eq_ok_iff (spec : RecordSpec) (record : CompiledRecord) :
    spec.compile = .ok record ↔
      record.bundle = spec.bundle ∧ record.settings = spec.settings ∧
        record.selection = spec.selection ∧
        match spec.selector with
        | none => record.selector = none
        | some text => ∃ selector, Selector.parse text = .ok selector ∧
            record.selector = some selector := by
  obtain ⟨bundle, selector, settings, selection⟩ := record
  unfold compile
  cases spec.selector with
  | none => grind
  | some text =>
    dsimp only
    cases read : Selector.parse text with
    | error error => simp
    | ok compiled => grind

end RecordSpec

namespace CompiledRecord

/-- The specificity of a record at a path, if it applies there. -/
def rank? (record : CompiledRecord) (path : ScopePath) (hasSelection : Bool) :
    Option Specificity :=
  if record.selection.admits hasSelection then
    match record.selector with
    | none => some .universal
    | some selector => selector.rank? path
  else none

end CompiledRecord

end ScopeCascade

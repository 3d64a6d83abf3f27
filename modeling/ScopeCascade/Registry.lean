import ScopeCascade.Cascade.Basic

/-! The registry of loaded bundles, whose records are those of its cascade. -/
namespace ScopeCascade

structure Registry where
  cascade : Cascade := {}
  /-- Loaded bundles by identifier, in the order of their latest load. -/
  bundles : InsertionMap String Bundle := ∅

namespace Registry

def ofOptions (options : CascadeOptions) : Registry := { cascade := .ofOptions options }

def get? (registry : Registry) (uuid : String) : Option Bundle := registry.bundles.get? uuid

/-- Loads a bundle, in the place of one with its identifier that is loaded already. Its records
come behind all others in either case. -/
def load (registry : Registry) (bundle : Bundle) : RegisterReport × Registry :=
  let (report, cascade) :=
    match registry.get? bundle.uuid with
    | some _ => registry.cascade.replaceBundle bundle
    | none => registry.cascade.registerBundle bundle
  (report, ⟨cascade, (registry.bundles.erase bundle.uuid).insert bundle.uuid bundle⟩)

/-- Unloads a bundle together with its records. -/
def unload (registry : Registry) (uuid : String) : Option Bundle × Registry :=
  match registry.get? uuid with
  | some bundle =>
    (some bundle, ⟨(registry.cascade.unregisterBundle uuid).2, registry.bundles.erase uuid⟩)
  | none => (none, registry)

/-- The loaded bundles in the order of their latest load. -/
def toList (registry : Registry) : List Bundle := registry.bundles.values

/-- The first item with an identifier, and its bundle. -/
def item? (registry : Registry) (uuid : String) : Option (Bundle × BundleItem) :=
  registry.toList.findSome? fun bundle => (bundle.item? uuid).map fun item => (bundle, item)

def size (registry : Registry) : Nat := registry.bundles.size

def isEmpty (registry : Registry) : Bool := registry.bundles.isEmpty

end Registry

end ScopeCascade

import StorageSetup.Vendor.ExternalCeph
import StorageSetup.Vendor.FlashSystem
/-!
# The registry of vendors

Vendors are registered by kind; a later registration replaces an earlier one of its kind and moves
to the end.

Key definitions:
- `Registry`: the registered vendors in the order of their last registration
- `Registry.register`, `Registry.get?`, `Registry.selected?`
- `Registry.builtins`: the two vendors that are always there
-/

namespace StorageSetup

/-- The registered vendors. -/
structure Registry where
  vendors : List Vendor := []

namespace Registry

def empty : Registry := {}

/-- Registers a vendor in place of any other of its kind. -/
def register (r : Registry) (v : Vendor) : Registry :=
  ⟨r.vendors.filter (fun w => w.kind != v.kind) ++ [v]⟩

/-- The vendor of the kind. -/
def get? (r : Registry) (kind : String) : Option Vendor :=
  r.vendors.find? (·.kind == kind)

/-- The kinds in the order of their last registration. -/
def kinds (r : Registry) : List String :=
  r.vendors.map (·.kind)

def isEmpty (r : Registry) : Bool :=
  r.vendors.isEmpty

/-- The registry with the vendors that are always there. -/
def builtins : Registry :=
  (empty.register .externalCeph).register .flashSystem

/-- The vendor that the settings choose, in external mode only. -/
def selected? (r : Registry) (s : State) : Option Vendor :=
  if s.isExternal then r.get? s.backingStorage.externalStorage else none

end Registry

end StorageSetup

import Tablecraft.NameMap

namespace Tablecraft

structure VendorOptions where
  dialect : String
  parameters : NameMap String := ∅
  deriving DecidableEq, Repr

namespace VendorOptions

def set (v : VendorOptions) (name value : String) : VendorOptions :=
  { v with parameters := v.parameters.insert name value }

def ofPairs (dialect : String) (pairs : List (String × String)) : VendorOptions :=
  ⟨dialect, NameMap.ofList pairs⟩

def get? (v : VendorOptions) (name : String) : Option String := v.parameters.get? name

def has (v : VendorOptions) (name : String) : Bool := v.parameters.contains name

def isEmpty (v : VendorOptions) : Bool := v.parameters.isEmpty

def merge (v w : VendorOptions) : VendorOptions :=
  { v with parameters := v.parameters.union w.parameters }

/-- The parameters of all bags for the dialect, later bags winning. -/
def forDialect (bags : List VendorOptions) (dialect : String) : VendorOptions :=
  (bags.filter (·.dialect == dialect)).foldl merge { dialect }

end VendorOptions

end Tablecraft

import DxCommonGo.GoStrings

/-! Go types as reflection shows them: a graph in which a type may reach itself. -/

namespace DxCommonGo.GoTypes
open GoStrings

variable {ι : Type}

/-- A field as reflect.StructField shows it; a tag that is not there reads as "". -/
structure StructField (ι : Type) where
  name : GoString
  exported : Bool
  anonymous : Bool
  jsonTag : GoString
  esTag : GoString
  type : ι
  named : name ≠ []

/-- `integer` covers the kinds Int to Uint64, `float` the two float kinds, `time` is time.Time (a
struct without exported fields), `other` the rest. -/
inductive GoType (ι : Type) where
  | time
  | string
  | bool
  | integer
  | float
  | pointer (elem : ι)
  | slice (elem : ι)
  | array (length : Nat) (elem : ι)
  | map (elem : ι)
  | struct (fields : List (StructField ι))
  | other

def tagName (f : StructField ι) : GoString := (split f.jsonTag 44).headD []

end DxCommonGo.GoTypes

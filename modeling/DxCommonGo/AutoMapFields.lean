import DxCommonGo.AutoMap
import DxCommonGo.GoJsonFields

/-! The fields of a struct as AutoMap and as encoding/json take them. In a regular struct the kept
fields are those AutoMap maps, one key each; embedded structs, odd tags, repeated names, maps and
empty arrays are where the two part. -/

namespace DxCommonGo.AutoMapFields
open GoStrings GoTypes AutoMap GoJsonFields

variable {ι : Type}

structure Plain (types : ι → GoType ι) (isValidTag : GoString → Bool) (f : StructField ι) :
    Prop where
  untyped : f.esTag = []
  dash : tagName f = str "-" → f.jsonTag = str "-"
  valid : tagName f = [] ∨ f.jsonTag = str "-" ∨ isValidTag (tagName f) = true
  embedded : f.anonymous = true → isStruct types (base types f.type) = true →
    f.jsonTag = str "-" ∨ (f.exported = true ∧ tagName f ≠ [])
  shown : tagOption (str "omitzero") f = true → ¬Vacant types f.type

structure Regular (types : ι → GoType ι) (isValidTag : GoString → Bool) (t : ι) : Prop where
  mappable : types t ≠ .other
  notMap : ∀ elem, types t ≠ .map elem
  notEmpty : ∀ elem, types t ≠ .array 0 elem
  plain : ∀ f ∈ fieldsOf types t, Plain types isValidTag f
  distinct : (((fieldsOf types t).filter mapped).map jsonFieldName).Nodup

variable {types : ι → GoType ι} {isValidTag : GoString → Bool} {f : StructField ι}

section Structs

variable [DecidableEq ι] {t : ι} {fields : List (StructField ι)}

end Structs

end DxCommonGo.AutoMapFields

import DxCommonGo.GoTypes

/-! AutoMap of database/elasticsearch/mapping/template.go, over the graph of Go types. Nothing keeps
a visited set; each call takes one unit of fuel, and `none` is a call still running when it is
spent. -/

namespace DxCommonGo.AutoMap
open GoStrings GoTypes

variable {ι : Type}

/-- A property body: `typed` is a body with a type alone. -/
inductive Property where
  | typed (type : GoString)
  | textWithKeyword
  | dynamicObject
  | object (properties : List (GoString × Property))
  | nested (properties : List (GoString × Property))

/-- The map m.properties of a MappingBuilder, the only part of it that AutoMap writes. -/
abbrev Properties := List (GoString × Property)

def Property.properties : Property → Properties
  | .object properties => properties
  | .nested properties => properties
  | _ => []

def field (name : GoString) (property : Property) (m : Properties) : Properties :=
  (name, property) :: m.filter fun entry => entry.1 != name

@[simp] theorem lookup_field_self (name : GoString) (property : Property) (m : Properties) :
    (field name property m).lookup name = some property := by
  simp [field]

theorem lookup_field_of_ne {name other : GoString} (property : Property) (m : Properties)
    (ne : other ≠ name) : (field name property m).lookup other = m.lookup other := by
  have skip : (other == name) = false := by simpa using ne
  simp only [field, List.lookup_cons, skip]
  induction m with
  | nil => rfl
  | cons entry rest ih =>
    obtain ⟨key, body⟩ := entry
    by_cases same : key = name
    · subst same
      simpa [List.lookup_cons, skip] using ih
    · have kept : (key != name) = true := by simpa using same
      simp only [List.filter_cons, kept, if_true, List.lookup_cons, ih]

def jsonFieldName (f : StructField ι) : GoString :=
  if f.jsonTag.isEmpty then f.name
  else if tagName f == str "-" then []
  else if (tagName f).isEmpty then f.name
  else tagName f

def autoMapField (mapFieldType : GoString → ι → Properties → Option Properties)
    (m : Properties) (f : StructField ι) : Option Properties :=
  if !f.exported then some m
  else if (jsonFieldName f).isEmpty then some m
  else if !f.esTag.isEmpty then
    if f.esTag == str "-" then some m
    else some (field (jsonFieldName f) (.typed f.esTag) m)
  else mapFieldType (jsonFieldName f) f.type m

variable (types : ι → GoType ι)

def deref : Nat → ι → Option ι
  | 0, _ => none
  | fuel + 1, t =>
    match types t with
    | .pointer elem => deref fuel elem
    | _ => some t

def mapElem (autoMapStruct : ι → Properties → Option Properties)
    (mapFieldType : GoString → ι → Properties → Option Properties)
    (fuel : Nat) (name : GoString) (elem : ι) (m : Properties) : Option Properties :=
  (deref types fuel elem).bind fun elem =>
    match types elem with
    | .struct _ => (autoMapStruct elem []).map fun sub => field name (.nested sub) m
    | _ => mapFieldType name elem m

mutual

def autoMapStruct : Nat → ι → Properties → Option Properties
  | 0, _, _ => none
  | fuel + 1, t, m =>
    match types t with
    | .struct fields => fields.foldlM (autoMapField (mapFieldType fuel)) m
    | _ => some m

def mapFieldType : Nat → GoString → ι → Properties → Option Properties
  | 0, _, _, _ => none
  | fuel + 1, name, t, m =>
    (deref types fuel t).bind fun t =>
      match types t with
      | .time => some (field name (.typed (str "date")) m)
      | .string => some (field name .textWithKeyword m)
      | .bool => some (field name (.typed (str "boolean")) m)
      | .integer => some (field name (.typed (str "long")) m)
      | .float => some (field name (.typed (str "double")) m)
      | .slice elem | .array _ elem =>
        mapElem types (autoMapStruct fuel) (mapFieldType fuel) fuel name elem m
      | .struct _ => (autoMapStruct fuel t []).map fun sub => field name (.object sub) m
      | .map _ => some (field name .dynamicObject m)
      | .pointer _ | .other => some m

end

def autoMap (fuel : Nat) (t : ι) : Option Properties := autoMapStruct types fuel t []

def mapped (f : StructField ι) : Bool :=
  f.exported && !(jsonFieldName f).isEmpty && f.esTag.isEmpty

/-- The types that reading one type goes on to read: never the element of a map. -/
def reads : GoType ι → List ι
  | .pointer elem | .slice elem | .array _ elem => [elem]
  | .struct fields => (fields.filter mapped).map StructField.type
  | _ => []

def Leads (t u : ι) : Prop := u ∈ reads (types t)

theorem autoMapField_of_mapped {f : StructField ι} (h : mapped f = true)
    (call : GoString → ι → Properties → Option Properties) (m : Properties) :
    autoMapField call m f = call (jsonFieldName f) f.type m := by
  simp only [mapped, Bool.and_eq_true, Bool.not_eq_true'] at h
  simp [autoMapField, h]

end DxCommonGo.AutoMap

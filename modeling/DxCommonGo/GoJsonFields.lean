import DxCommonGo.GoTypes
import Mathlib.Data.List.Dedup
import Mathlib.Data.List.Nodup

/-! The object keys encoding/json writes for a fully populated value, from its type: the fields
typeFields finds level by level, and the one dominantField keeps for each name. Types with a
MarshalJSON of their own are not covered, time.Time apart. -/

namespace DxCommonGo.GoJsonFields
open GoStrings GoTypes

variable {ι : Type}

structure JsonField (ι : Type) where
  name : GoString
  tagged : Bool
  omitEmpty : Bool
  omitZero : Bool
  type : ι

def tagOption (option : GoString) (f : StructField ι) : Bool :=
  (split f.jsonTag 44).tail.contains option

def element : GoType ι → Option ι
  | .pointer elem | .slice elem => some elem
  | .array length elem => if 0 < length then some elem else none
  | _ => none

section Fields

variable (types : ι → GoType ι) (isValidTag : GoString → Bool)

def base (t : ι) : ι :=
  match types t with
  | .pointer elem => elem
  | _ => t

def isStruct (t : ι) : Bool :=
  match types t with
  | .struct _ | .time => true
  | _ => false

/-- The fields of a struct; those of time.Time are all unexported. -/
def fieldsOf (t : ι) : List (StructField ι) :=
  match types t with
  | .struct fields => fields
  | _ => []

/-- An embedded struct is looked into even if its type is unexported. -/
def encoded (f : StructField ι) : Bool :=
  (f.exported || f.anonymous && isStruct types (base types f.type)) && f.jsonTag != str "-"

def givenName (f : StructField ι) : GoString :=
  if isValidTag (tagName f) then tagName f else []

def explored (f : StructField ι) : Bool :=
  encoded types f && (givenName isValidTag f).isEmpty && f.anonymous &&
    isStruct types (base types f.type)

def recorded (f : StructField ι) : Bool := encoded types f && !explored types isValidTag f

def record (f : StructField ι) : JsonField ι where
  name := if (givenName isValidTag f).isEmpty then f.name else givenName isValidTag f
  tagged := !(givenName isValidTag f).isEmpty
  omitEmpty := tagOption (str "omitempty") f
  omitZero := tagOption (str "omitzero") f
  type := f.type

/-- Types whose values are zero however they are populated. -/
inductive Vacant : ι → Prop where
  | empty {t elem : ι} : types t = .array 0 elem → Vacant t
  | array {t elem : ι} {length : Nat} : types t = .array length elem → Vacant elem → Vacant t
  | struct {t : ι} {fields : List (StructField ι)} :
      types t = .struct fields → (∀ f ∈ fields, Vacant f.type) → Vacant t

def Omitted (g : JsonField ι) : Prop :=
  (g.omitEmpty = true ∧ ∃ elem, types g.type = .array 0 elem) ∨
    (g.omitZero = true ∧ Vacant types g.type)

variable [DecidableEq ι]

/-- The types visited before a level and those queued for it, once for each field that embeds
them. -/
def level (t : ι) : Nat → List ι × List ι
  | 0 => ([], [t])
  | depth + 1 =>
    let (visited, current) := level t depth
    let fresh := (current.filter fun u => !visited.contains u).dedup
    (visited ++ current,
      fresh.flatMap fun u =>
        ((fieldsOf types u).filter (explored types isValidTag)).map fun f => base types f.type)

/-- The fields recorded at a level, twice if their struct is queued more than once. -/
def candidates (t : ι) (depth : Nat) : List (JsonField ι) :=
  let (visited, current) := level types isValidTag t depth
  (current.filter fun u => !visited.contains u).dedup.flatMap fun u =>
    let found := ((fieldsOf types u).filter (recorded types isValidTag)).map (record isValidTag)
    if current.count u > 1 then found ++ found else found

/-- dominantField keeps `g`: nothing of the name is shallower, or as deep and tagged if `g` is not,
or a second one as deep and tagged alike. -/
def Dominant (t : ι) (g : JsonField ι) : Prop :=
  ∃ depth, g ∈ candidates types isValidTag t depth ∧
    (∀ above < depth, ∀ other ∈ candidates types isValidTag t above, other.name ≠ g.name) ∧
    (∀ other ∈ candidates types isValidTag t depth,
      other.name = g.name → other.tagged = true → g.tagged = true) ∧
    ((candidates types isValidTag t depth).countP fun other =>
      other.name == g.name && other.tagged == g.tagged) = 1

/-- The paths of object keys in the JSON of a populated value; array positions are not part of
a path, and a map may have any key. -/
inductive KeyPath : ι → List GoString → Prop where
  | key {t : ι} {g : JsonField ι} :
      Dominant types isValidTag t g → ¬Omitted types g → KeyPath t [g.name]
  | inside {t : ι} {g : JsonField ι} {path : List GoString} :
      Dominant types isValidTag t g → ¬Omitted types g → KeyPath g.type path →
      KeyPath t (g.name :: path)
  | element {t elem : ι} {path : List GoString} :
      element (types t) = some elem → KeyPath elem path → KeyPath t path
  | mapKey {t elem : ι} (key : GoString) : types t = .map elem → KeyPath t [key]
  | mapInside {t elem : ι} (key : GoString) {path : List GoString} :
      types t = .map elem → KeyPath elem path → KeyPath t (key :: path)

end Fields

section Flat

variable {types : ι → GoType ι} {isValidTag : GoString → Bool} [DecidableEq ι] {t : ι}

end Flat

end DxCommonGo.GoJsonFields

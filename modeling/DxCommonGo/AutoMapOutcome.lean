import DxCommonGo.AutoMap
import Mathlib.Order.Filter.AtTopBot.Basic
import Mathlib.Order.Filter.Finite

/-! What mapFieldType writes for a type, by recursion on the types it reads. `settles_of_outcome`
connects it to the code: with enough fuel the calls return and write exactly this. -/

namespace DxCommonGo.AutoMapOutcome
open GoStrings GoTypes AutoMap Filter

variable {ι : Type} {types : ι → GoType ι}

def write (name : GoString) (outcome : Option Property) (m : Properties) : Properties :=
  match outcome with
  | some property => field name property m
  | none => m

def written (outcome : Option Property) (f : StructField ι) : Option Property :=
  if mapped f then outcome
  else if f.exported && !(jsonFieldName f).isEmpty && f.esTag != str "-" then
    some (.typed f.esTag)
  else none

def fill (outcome : StructField ι → Option Property) (fields : List (StructField ι)) :
    Properties :=
  fields.foldl (fun m f => write (jsonFieldName f) (written (outcome f) f) m) []

def scalarProperty : GoType ι → Option Property
  | .time => some (.typed (str "date"))
  | .string => some .textWithKeyword
  | .bool => some (.typed (str "boolean"))
  | .integer => some (.typed (str "long"))
  | .float => some (.typed (str "double"))
  | .map _ => some .dynamicObject
  | _ => none

def isScalar : GoType ι → Bool
  | .pointer _ | .slice _ | .array _ _ | .struct _ => false
  | _ => true

/-- A list of objects is nested; a list of anything else is mapped as the element is. -/
def asNested : Property → Property
  | .object properties => .nested properties
  | property => property

inductive Outcome (types : ι → GoType ι) : ι → Option Property → Prop where
  | scalar {t : ι} : isScalar (types t) = true → Outcome types t (scalarProperty (types t))
  | pointer {t elem : ι} {outcome : Option Property} :
      types t = .pointer elem → Outcome types elem outcome → Outcome types t outcome
  | slice {t elem : ι} {outcome : Option Property} :
      types t = .slice elem → Outcome types elem outcome →
      Outcome types t (outcome.map asNested)
  | array {t elem : ι} {length : Nat} {outcome : Option Property} :
      types t = .array length elem → Outcome types elem outcome →
      Outcome types t (outcome.map asNested)
  | struct {t : ι} {fields : List (StructField ι)} (outcome : StructField ι → Option Property) :
      types t = .struct fields →
      (∀ f ∈ fields, mapped f = true → Outcome types f.type (outcome f)) →
      Outcome types t (some (.object (fill outcome fields)))

variable {t : ι} {outcome : Option Property} {fields : List (StructField ι)}

theorem deref_ne_pointer {fuel : Nat} {u : ι} (ends : deref types fuel t = some u) (elem : ι) :
    types u ≠ .pointer elem := by
  induction fuel generalizing t with
  | zero => simp [deref] at ends
  | succ fuel ih =>
    unfold deref at ends
    split at ends
    · exact ih ends
    · next notPointer =>
      cases ends
      exact notPointer elem

def Writes (types : ι → GoType ι) (t : ι) (outcome : Option Property) : Prop :=
  ∀ᶠ fuel in atTop, ∀ name m, mapFieldType types fuel name t m = some (write name outcome m)

def Fills (types : ι → GoType ι) (t : ι) (properties : Properties) : Prop :=
  ∀ᶠ fuel in atTop, autoMapStruct types fuel t [] = some properties

def Derefs (types : ι → GoType ι) (t u : ι) : Prop :=
  ∀ᶠ fuel in atTop, deref types fuel t = some u

theorem eventually_of_succ {P : Nat → Prop} (h : ∀ᶠ fuel in atTop, P (fuel + 1)) :
    ∀ᶠ fuel in atTop, P fuel := by
  rw [← map_add_atTop_eq_nat 1, eventually_map]
  exact h

theorem derefs_self (notPointer : ∀ elem, types t ≠ .pointer elem) : Derefs types t t := by
  refine eventually_of_succ (Eventually.of_forall fun fuel => ?_)
  unfold deref
  split
  · next elem kind => exact absurd kind (notPointer elem)
  · rfl

theorem Derefs.self {u : ι} (ends : Derefs types t u) : Derefs types u u := by
  obtain ⟨fuel, reached⟩ := ends.exists
  exact derefs_self (deref_ne_pointer reached)

theorem Derefs.pointer {t elem u : ι} (kind : types t = .pointer elem)
    (ends : Derefs types elem u) : Derefs types t u := by
  refine eventually_of_succ ?_
  filter_upwards [ends] with fuel reached
  simpa [deref, kind] using reached

theorem Writes.of_derefs {u : ι} (ends : Derefs types t u) (writes : Writes types u outcome) :
    Writes types t outcome := by
  refine eventually_of_succ ?_
  have later := tendsto_add_atTop_nat 1 |>.eventually writes
  filter_upwards [ends, ends.self, later] with fuel reached stays body name m
  rw [← body name m, mapFieldType, mapFieldType, reached, stays]

theorem Writes.of_fills {properties : Properties} (kind : types t = .struct fields)
    (fills : Fills types t properties) : Writes types t (some (.object properties)) := by
  have stays : Derefs types t t := derefs_self (by simp [kind])
  refine eventually_of_succ ?_
  filter_upwards [stays, fills] with fuel reached filled name m
  simp [mapFieldType, reached, kind, filled, write]

/-- The type at the end of the pointers, and what is known there: the properties of a struct,
or an outcome that a list would not change. -/
def Settles (types : ι → GoType ι) (t : ι) (outcome : Option Property) : Prop :=
  ∃ u, Derefs types t u ∧
    ((∃ fields properties, types u = .struct fields ∧ outcome = some (.object properties) ∧
        Fills types u properties) ∨
      ((∀ fields, types u ≠ .struct fields) ∧ outcome.map asNested = outcome ∧
        Writes types u outcome))

theorem Settles.writes (settles : Settles types t outcome) : Writes types t outcome := by
  obtain ⟨u, ends, ⟨fields, properties, kind, rfl, fills⟩ | ⟨-, -, writes⟩⟩ := settles
  · exact .of_derefs ends (.of_fills kind fills)
  · exact .of_derefs ends writes

theorem asNested_asNested (property : Property) :
    asNested (asNested property) = asNested property := by
  cases property <;> rfl

theorem settles_scalar (kind : isScalar (types t) = true) :
    Settles types t (scalarProperty (types t)) := by
  have notPointer : ∀ elem, types t ≠ .pointer elem := by
    intro elem pointer
    simp [pointer, isScalar] at kind
  have stays : Derefs types t t := derefs_self notPointer
  refine ⟨t, stays, .inr ⟨?_, ?_, eventually_of_succ ?_⟩⟩
  · intro fields struct
    simp [struct, isScalar] at kind
  · cases types t <;> rfl
  · filter_upwards [stays] with fuel reached name m
    rw [mapFieldType, reached, Option.bind_some]
    cases shape : types t with
    | pointer | slice | array | struct => simp [shape, isScalar] at kind
    | _ => rfl

theorem settles_list {elem : ι}
    (kind : (types t = .slice elem) ∨ ∃ length, types t = .array length elem)
    (settles : Settles types elem outcome) : Settles types t (outcome.map asNested) := by
  have stays : Derefs types t t := by
    refine derefs_self fun other pointer => ?_
    rcases kind with slice | ⟨length, array⟩
    · simp [slice] at pointer
    · simp [array] at pointer
  have branch : ∀ fuel name m, deref types fuel t = some t →
      mapFieldType types (fuel + 1) name t m =
        mapElem types (autoMapStruct types fuel) (mapFieldType types fuel) fuel name elem m := by
    intro fuel name m reached
    rw [mapFieldType, reached]
    rcases kind with slice | ⟨length, array⟩
    · simp [slice]
    · simp [array]
  refine ⟨t, stays, .inr ⟨?_, ?_, eventually_of_succ ?_⟩⟩
  · intro fields struct
    rcases kind with slice | ⟨length, array⟩
    · simp [slice] at struct
    · simp [array] at struct
  · cases outcome <;> simp [asNested_asNested]
  · obtain ⟨u, ends, ⟨fields, properties, kindU, rfl, fills⟩ | ⟨notStruct, same, writes⟩⟩ := settles
    · filter_upwards [stays, ends, fills] with fuel reached reachedElem filled name m
      rw [branch fuel name m reached, mapElem, reachedElem]
      simp [kindU, filled, write, asNested]
    · filter_upwards [stays, ends, writes] with fuel reached reachedElem body name m
      rw [branch fuel name m reached, mapElem, reachedElem, same, ← body name m, Option.bind_some]
      split
      · next fields kindU => exact absurd kindU (notStruct fields)
      · rfl

theorem foldlM_of_step {α β : Type} {step : β → α → Option β} {next : β → α → β} {xs : List α}
    (each : ∀ x ∈ xs, ∀ m, step m x = some (next m x)) (m : β) :
    xs.foldlM step m = some (xs.foldl next m) := by
  induction xs generalizing m with
  | nil => rfl
  | cons x xs ih =>
    rw [List.foldlM_cons, each x List.mem_cons_self m, Option.bind_eq_bind, Option.bind_some]
    exact ih (fun y later => each y (List.mem_cons_of_mem x later)) (next m x)

theorem autoMapField_written {call : GoString → ι → Properties → Option Properties}
    {f : StructField ι}
    (done : mapped f = true → ∀ name m, call name f.type m = some (write name outcome m))
    (m : Properties) :
    autoMapField call m f = some (write (jsonFieldName f) (written outcome f) m) := by
  by_cases isMapped : mapped f = true
  · rw [autoMapField_of_mapped isMapped, done isMapped, written, if_pos isMapped]
  · rw [written, if_neg isMapped, autoMapField]
    cases exported : f.exported with
    | false => rfl
    | true =>
      cases unnamed : (jsonFieldName f).isEmpty with
      | true => rfl
      | false =>
        have tagged : f.esTag.isEmpty = false := by
          simpa [mapped, exported, unnamed] using isMapped
        cases dash : f.esTag == str "-" with
        | true => simp [tagged, dash, bne, write]
        | false => simp [tagged, dash, bne, write]

theorem fills_struct {outcome : StructField ι → Option Property} (kind : types t = .struct fields)
    (settles : ∀ f ∈ fields, mapped f = true → Settles types f.type (outcome f)) :
    Fills types t (fill outcome fields) := by
  have calls : ∀ᶠ fuel in atTop, ∀ f ∈ {f | f ∈ fields}, mapped f = true →
      ∀ name m, mapFieldType types fuel name f.type m = some (write name (outcome f) m) := by
    rw [eventually_all_finite (List.finite_toSet fields)]
    intro f member
    by_cases isMapped : mapped f = true
    · filter_upwards [(settles f member isMapped).writes] with fuel body _
      exact body
    · exact Eventually.of_forall fun fuel isMapped' => absurd isMapped' isMapped
  refine eventually_of_succ ?_
  filter_upwards [calls] with fuel body
  simp only [autoMapStruct, kind]
  exact foldlM_of_step (fun f member m => autoMapField_written (body f member) m) []

theorem settles_of_outcome (done : Outcome types t outcome) : Settles types t outcome := by
  induction done with
  | scalar kind => exact settles_scalar kind
  | pointer kind _ ih =>
    obtain ⟨u, ends, known⟩ := ih
    exact ⟨u, ends.pointer kind, known⟩
  | slice kind _ ih => exact settles_list (.inl kind) ih
  | array kind _ ih => exact settles_list (.inr ⟨_, kind⟩) ih
  | struct outcome kind _ ih =>
    exact ⟨_, derefs_self (by simp [kind]), .inl ⟨_, _, kind, rfl, fills_struct kind ih⟩⟩

theorem fills_of_outcome (kind : types t = .struct fields) (done : Outcome types t outcome) :
    ∃ properties, outcome = some (.object properties) ∧ Fills types t properties := by
  obtain ⟨u, ends, known⟩ := settles_of_outcome done
  have stays : Derefs types t t := derefs_self (by simp [kind])
  obtain ⟨fuel, reached, here⟩ := (ends.and stays).exists
  obtain rfl : u = t := Option.some.inj (reached.symm.trans here)
  rcases known with ⟨-, properties, -, rfl, fills⟩ | ⟨notStruct, -, -⟩
  · exact ⟨properties, rfl, fills⟩
  · exact absurd kind (notStruct fields)

end DxCommonGo.AutoMapOutcome

import DxCommonGo.AutoMapFields
import DxCommonGo.AutoMapReturns

/-! The property paths AutoMap derives from a struct type, against the object keys encoding/json
writes: where every type read is regular they are the same. -/

namespace DxCommonGo.AutoMapPaths
open GoStrings GoTypes AutoMap AutoMapFields AutoMapOutcome AutoMapReturns GoJsonFields Filter

variable {ι : Type} {types : ι → GoType ι} {isValidTag : GoString → Bool}

def hasPath : List GoString → Properties → Bool
  | [], _ => false
  | name :: rest, m =>
    match m.lookup name with
    | none => false
    | some property => rest.isEmpty || hasPath rest property.properties

variable {name : GoString}

section Filling

variable {fields : List (StructField ι)} {outcome : StructField ι → Option Property}

theorem lookup_foldl_field {α : Type} {key : α → GoString} {body : α → Property} {xs : List α}
    (distinct : (xs.map key).Nodup) (m : Properties) {property : Property} :
    (xs.foldl (fun m x => field (key x) (body x) m) m).lookup name = some property ↔
      (∃ x ∈ xs, key x = name ∧ body x = property) ∨
        ((∀ x ∈ xs, key x ≠ name) ∧ m.lookup name = some property) := by
  induction xs generalizing m with
  | nil => simp
  | cons x xs ih =>
    obtain ⟨fresh, distinct⟩ := List.nodup_cons.mp distinct
    rw [List.foldl_cons, ih distinct]
    by_cases same : key x = name
    · subst same
      have others : ∀ y ∈ xs, key y ≠ key x :=
        fun y inside same => fresh (same ▸ List.mem_map_of_mem inside)
      rw [lookup_field_self, Option.some.injEq]
      refine ⟨?_, ?_⟩
      · rintro (⟨y, inside, same, -⟩ | ⟨-, rfl⟩)
        · exact absurd same (others y inside)
        · exact .inl ⟨x, List.mem_cons_self, rfl, rfl⟩
      · rintro (⟨y, member, same, rfl⟩ | ⟨absent, -⟩)
        · rcases List.mem_cons.mp member with rfl | inside
          · exact .inr ⟨others, rfl⟩
          · exact absurd same (others y inside)
        · exact absurd rfl (absent x List.mem_cons_self)
    · rw [lookup_field_of_ne _ _ (Ne.symm same)]
      simp [same]

variable {body : StructField ι → Property}

theorem fill_eq_foldl (untyped : ∀ f ∈ fields, f.esTag = [])
    (known : ∀ f ∈ fields, mapped f = true → outcome f = some (body f)) :
    fill outcome fields =
      (fields.filter mapped).foldl (fun m f => field (jsonFieldName f) (body f) m) [] := by
  rw [List.foldl_filter, fill]
  refine List.foldl_ext _ _ _ fun m f member => ?_
  by_cases isMapped : mapped f = true
  · rw [written, if_pos isMapped, known f member isMapped, if_pos isMapped, write]
  · have unnamed : (f.exported && !(jsonFieldName f).isEmpty) = false := by
      simpa [mapped, untyped f member] using isMapped
    rw [written, if_neg isMapped, unnamed, if_neg isMapped]
    rfl

theorem lookup_fill (untyped : ∀ f ∈ fields, f.esTag = [])
    (distinct : ((fields.filter mapped).map jsonFieldName).Nodup)
    (known : ∀ f ∈ fields, mapped f = true → outcome f = some (body f)) {property : Property} :
    (fill outcome fields).lookup name = some property ↔
      ∃ f ∈ fields, mapped f = true ∧ jsonFieldName f = name ∧ body f = property := by
  rw [fill_eq_foldl untyped known, lookup_foldl_field distinct]
  simp only [List.lookup_nil, reduceCtorEq, and_false, or_false, List.mem_filter, and_assoc]

end Filling

section Agreement

variable [DecidableEq ι] {t elem : ι} {outcome : Option Property}

def Agrees (types : ι → GoType ι) (isValidTag : GoString → Bool) (t : ι)
    (outcome : Option Property) : Prop :=
  ∃ property, outcome = some property ∧
    ∀ path, hasPath path property.properties = true ↔ KeyPath types isValidTag t path

end Agreement

end DxCommonGo.AutoMapPaths

import DxCommonGo.AutoMapOutcome
import Mathlib.Data.Fintype.Pigeonhole
import Mathlib.Order.WellFounded

/-! When AutoMap returns: on exactly the structs from which no endless chain of types is read, so
never on one that reads itself again. -/

namespace DxCommonGo.AutoMapReturns
open GoStrings GoTypes AutoMap AutoMapOutcome Filter

variable {ι : Type} {types : ι → GoType ι}

abbrev Founded (types : ι → GoType ι) (t : ι) : Prop := Acc (fun u t => Leads types t u) t

variable {t : ι} {fields : List (StructField ι)}

theorem founded_iff : Founded types t ↔ ∀ u ∈ reads (types t), Founded types u :=
  acc_def

theorem founded_of_deref {fuel : Nat} {u : ι} (ends : deref types fuel t = some u)
    (founded : Founded types u) : Founded types t := by
  induction fuel generalizing t with
  | zero => simp [deref] at ends
  | succ fuel ih =>
    unfold deref at ends
    split at ends
    · next elem kind =>
      rw [founded_iff, kind]
      intro read member
      rw [List.mem_singleton.mp member]
      exact ih ends
    · cases ends
      exact founded

theorem step_of_foldlM {α β : Type} {step : β → α → Option β} {xs : List α} {m m' : β}
    (run : xs.foldlM step m = some m') : ∀ x ∈ xs, ∃ before after, step before x = some after := by
  induction xs generalizing m with
  | nil => simp
  | cons x xs ih =>
    rw [List.foldlM_cons] at run
    obtain ⟨next, first, rest⟩ := Option.bind_eq_some_iff.mp run
    intro y member
    rcases List.mem_cons.mp member with rfl | later
    · exact ⟨m, next, first⟩
    · exact ih rest y later

variable {call : GoString → ι → Properties → Option Properties}

theorem founded_of_fields {m m' : Properties} (kind : types t = .struct fields)
    (run : fields.foldlM (autoMapField call) m = some m')
    (returned : ∀ name u m m', call name u m = some m' → Founded types u) : Founded types t := by
  rw [founded_iff, kind]
  intro u member
  obtain ⟨f, kept, rfl⟩ := List.mem_map.mp member
  obtain ⟨inside, isMapped⟩ := List.mem_filter.mp kept
  obtain ⟨before, after, step⟩ := step_of_foldlM run f inside
  rw [autoMapField_of_mapped isMapped] at step
  exact returned _ _ _ _ step

theorem founded_of_mapElem {struct : ι → Properties → Option Properties} {fuel : Nat} {elem : ι}
    {name : GoString} {m m' : Properties} (reads : reads (types t) = [elem])
    (run : mapElem types struct call fuel name elem m = some m')
    (structs : ∀ t fields m m', types t = .struct fields →
      struct t m = some m' → Founded types t)
    (calls : ∀ name t m m', call name t m = some m' → Founded types t) : Founded types t := by
  obtain ⟨u, ends, body⟩ := Option.bind_eq_some_iff.mp run
  rw [founded_iff, reads]
  intro read member
  rw [List.mem_singleton.mp member]
  refine founded_of_deref ends ?_
  split at body
  · next fields kind =>
    obtain ⟨sub, filled, -⟩ := Option.map_eq_some_iff.mp body
    exact structs u fields [] sub kind filled
  · exact calls name u m m' body

theorem founded_of_returns (fuel : Nat) :
    (∀ t fields m m', types t = .struct fields →
      autoMapStruct types fuel t m = some m' → Founded types t) ∧
    ∀ name t m m', mapFieldType types fuel name t m = some m' → Founded types t := by
  induction fuel with
  | zero => simp [autoMapStruct, mapFieldType]
  | succ fuel ih =>
    obtain ⟨structs, calls⟩ := ih
    refine ⟨?_, ?_⟩
    · intro t fields m m' kind run
      simp only [autoMapStruct, kind] at run
      exact founded_of_fields kind run calls
    · intro name t m m' run
      rw [mapFieldType] at run
      obtain ⟨u, ends, body⟩ := Option.bind_eq_some_iff.mp run
      refine founded_of_deref ends ?_
      cases kind : types u with
      | slice elem =>
        rw [kind] at body
        exact founded_of_mapElem (by rw [kind]; rfl) body structs calls
      | array length elem =>
        rw [kind] at body
        exact founded_of_mapElem (by rw [kind]; rfl) body structs calls
      | struct fields =>
        rw [kind] at body
        obtain ⟨sub, filled, -⟩ := Option.map_eq_some_iff.mp body
        exact structs u fields [] sub kind filled
      | pointer elem => exact absurd kind (deref_ne_pointer ends elem)
      | _ =>
        rw [founded_iff, kind]
        simp [reads]

theorem exists_outcome (founded : Founded types t) : ∃ outcome, Outcome types t outcome := by
  induction founded with
  | intro t _ ih =>
    have read : ∀ u ∈ reads (types t), ∃ outcome, Outcome types u outcome := ih
    cases kind : types t with
    | pointer elem =>
      obtain ⟨outcome, done⟩ := read elem (by simp [kind, reads])
      exact ⟨outcome, .pointer kind done⟩
    | slice elem =>
      obtain ⟨outcome, done⟩ := read elem (by simp [kind, reads])
      exact ⟨_, .slice kind done⟩
    | array length elem =>
      obtain ⟨outcome, done⟩ := read elem (by simp [kind, reads])
      exact ⟨_, .array kind done⟩
    | struct fields =>
      have each : ∀ f : StructField ι, ∃ outcome, f ∈ fields → mapped f = true →
          Outcome types f.type outcome := by
        intro f
        by_cases member : f ∈ fields ∧ mapped f = true
        · obtain ⟨outcome, done⟩ := read f.type (by
            rw [kind]
            exact List.mem_map_of_mem (List.mem_filter.mpr member))
          exact ⟨outcome, fun _ _ => done⟩
        · exact ⟨none, fun inside isMapped => absurd ⟨inside, isMapped⟩ member⟩
      choose outcome done using each
      exact ⟨_, .struct outcome kind done⟩
    | _ => exact ⟨_, .scalar (by rw [kind]; rfl)⟩

theorem returns_iff_founded (kind : types t = .struct fields) :
    (∃ fuel properties, autoMap types fuel t = some properties) ↔ Founded types t := by
  refine ⟨?_, ?_⟩
  · rintro ⟨fuel, properties, run⟩
    exact (founded_of_returns fuel).1 t fields [] properties kind run
  · intro founded
    obtain ⟨outcome, done⟩ := exists_outcome founded
    obtain ⟨properties, -, fills⟩ := fills_of_outcome kind done
    obtain ⟨fuel, run⟩ := fills.exists
    exact ⟨fuel, properties, run⟩

theorem founded_of_reaches {u : ι} (founded : Founded types t)
    (reaches : Relation.ReflTransGen (Leads types) t u) : Founded types u := by
  induction reaches with
  | refl => exact founded
  | tail _ leads ih => exact ih.inv leads

theorem not_founded_of_cycle (cycle : Relation.TransGen (Leads types) t t) : ¬Founded types t := by
  intro founded
  induction founded with
  | intro t _ ih =>
    obtain ⟨u, leads, back⟩ := Relation.TransGen.head'_iff.mp cycle
    exact ih u leads (Relation.TransGen.tail' back leads)

theorem cycle_of_chain [Finite ι] {chain : ℕ → ι}
    (leads : ∀ n, Leads types (chain n) (chain (n + 1))) :
    ∃ n, Relation.TransGen (Leads types) (chain n) (chain n) := by
  have later : ∀ n k, Relation.TransGen (Leads types) (chain n) (chain (n + k + 1)) := by
    intro n k
    induction k with
    | zero => exact .single (leads n)
    | succ k ih => exact ih.tail (leads (n + k + 1))
  obtain ⟨i, j, ne, same⟩ := Finite.exists_ne_map_eq_of_infinite chain
  rcases Nat.lt_or_gt_of_ne ne with lt | lt
  · obtain ⟨k, rfl⟩ := Nat.exists_eq_add_of_lt lt
    exact ⟨i, by simpa only [← same] using later i k⟩
  · obtain ⟨k, rfl⟩ := Nat.exists_eq_add_of_lt lt
    exact ⟨j, by simpa only [same] using later j k⟩

/-- Among finitely many types, AutoMap returns exactly if no type it comes to read reads itself
again. -/
theorem autoMap_returns_iff_acyclic [Finite ι] (kind : types t = .struct fields) :
    (∃ fuel properties, autoMap types fuel t = some properties) ↔
      ∀ u, Relation.ReflTransGen (Leads types) t u → ¬Relation.TransGen (Leads types) u u := by
  rw [returns_iff_founded kind]
  refine ⟨?_, ?_⟩
  · intro founded u reaches cycle
    exact not_founded_of_cycle cycle (founded_of_reaches founded reaches)
  · intro acyclic
    by_contra endless
    obtain ⟨chain, start, leads⟩ := not_acc_iff_exists_descending_chain.mp endless
    obtain ⟨n, cycle⟩ := cycle_of_chain leads
    have reaches : Relation.ReflTransGen (Leads types) t (chain n) := by
      rw [← start]
      clear cycle
      induction n with
      | zero => exact .refl
      | succ n ih => exact ih.tail (leads n)
    exact acyclic (chain n) reaches cycle

/-- AutoMap returns on a struct type exactly if no endless chain of types is read from it. -/
theorem autoMap_returns_iff {t : ι} {fields : List (StructField ι)}
    (kind : types t = .struct fields) :
    (∃ fuel properties, autoMap types fuel t = some properties) ↔
      ¬∃ chain : ℕ → ι, chain 0 = t ∧ ∀ n, Leads types (chain n) (chain (n + 1)) := by
  rw [returns_iff_founded kind]
  exact (not_iff_comm.mp not_acc_iff_exists_descending_chain).symm

inductive TreeType where
  | tree
  | name
  | children

def exportedField (name : GoString) (type : ι) (named : name ≠ []) : StructField ι :=
  ⟨name, true, false, [], [], type, named⟩

def treeTypes : TreeType → GoType TreeType
  | .tree => .struct [exportedField (str "Name") .name (by decide),
      exportedField (str "Children") .children (by decide)]
  | .name => .string
  | .children => .map .tree

theorem tree_returns : ∃ fuel properties, autoMap treeTypes fuel .tree = some properties := by
  refine (autoMap_returns_iff rfl).mpr ?_
  rintro ⟨chain, start, leads⟩
  have first : chain 1 ∈ reads (treeTypes (chain 0)) := leads 0
  have second : chain 2 ∈ reads (treeTypes (chain 1)) := leads 1
  rw [start] at first
  have reads : reads (treeTypes .tree) = [.name, .children] := rfl
  rw [reads] at first
  have leaf : chain 1 = .name ∨ chain 1 = .children := by simpa using first
  rcases leaf with leaf | leaf
  · rw [leaf] at second
    cases second
  · rw [leaf] at second
    cases second

inductive ListType where
  | node
  | next

def listTypes : ListType → GoType ListType
  | .node => .struct [exportedField (str "Next") .next (by decide)]
  | .next => .pointer .node

theorem node_endless : ¬∃ fuel properties, autoMap listTypes fuel .node = some properties := by
  rw [returns_iff_founded rfl]
  have reads : Leads listTypes .node .next := List.mem_singleton.mpr rfl
  have back : Leads listTypes .next .node := List.mem_singleton.mpr rfl
  exact not_founded_of_cycle (.tail (.single reads) back)

end DxCommonGo.AutoMapReturns

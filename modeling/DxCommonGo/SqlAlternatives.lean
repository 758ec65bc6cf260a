import DxCommonGo.SqlSemantics

/-! Boolean bodies by precedence: an OR of alternatives, each a run of operands joined by AND.
Writing AND between two bodies connects the last run of the one with the first of the other. -/

namespace DxCommonGo.SqlAlternatives
open GoStrings SqlSemantics

variable {Φ : Type}

def glue : List (List Φ) → List (List Φ) → List (List Φ)
  | [], bs => bs
  | [a], [] => [a]
  | [a], b :: bs => (a ++ b) :: bs
  | a :: a' :: as, bs => a :: glue (a' :: as) bs

theorem glue_concat (as : List (List Φ)) (a b : List Φ) (bs : List (List Φ)) :
    glue (as ++ [a]) (b :: bs) = as ++ (a ++ b) :: bs := by
  induction as with
  | nil => rfl
  | cons c as ih =>
    cases as with
    | nil => rfl
    | cons d as =>
      rw [List.cons_append, List.cons_append] at ih
      rw [List.cons_append, List.cons_append, glue, ih]
      rfl

variable {as : List (List Φ)} {v : Φ → Truth}

theorem glue_unit (h : as ≠ []) : glue as [[]] = as := by
  obtain ⟨front, last, rfl⟩ := List.eq_nil_or_concat as |>.resolve_left h
  rw [List.concat_eq_append, glue_concat, List.append_nil]

def bodyTruth (v : Φ → Truth) (as : List (List Φ)) : Truth :=
  Truth.any (as.map fun run => Truth.all (run.map v))

theorem bodyTruth_eq_true : bodyTruth v as = .true ↔ ∃ run ∈ as, ∀ φ ∈ run, v φ = .true := by
  simp only [bodyTruth, Truth.any_eq_true, List.mem_map, Truth.all_eq_true, forall_exists_index,
    and_imp, forall_apply_eq_imp_iff₂]

theorem bodyTruth_singleton (v : Φ → Truth) (run : List Φ) :
    bodyTruth v [run] = .true ↔ ∀ φ ∈ run, v φ = .true := by
  simp [bodyTruth_eq_true]

theorem bodyTruth_glue {bs : List (List Φ)} (ha : bodyTruth v as = .true)
    (hb : bodyTruth v bs = .true) : bodyTruth v (glue as bs) = .true := by
  rw [bodyTruth_eq_true] at ha hb ⊢
  obtain ⟨run, hrun, truths⟩ := ha
  obtain ⟨run', hrun', truths'⟩ := hb
  obtain ⟨front, last, rfl⟩ :=
    List.eq_nil_or_concat as |>.resolve_left (List.ne_nil_of_mem hrun)
  cases bs with
  | nil => cases hrun'
  | cons b bs =>
    simp only [List.concat_eq_append, List.mem_append, List.mem_singleton] at hrun
    rw [List.concat_eq_append, glue_concat]
    rcases hrun with early | rfl
    · exact ⟨run, List.mem_append_left _ early, truths⟩
    · rcases List.mem_cons.mp hrun' with rfl | late
      · refine ⟨run ++ run', List.mem_append_right _ List.mem_cons_self, ?_⟩
        exact List.forall_mem_append.mpr ⟨truths, truths'⟩
      · exact ⟨run', List.mem_append_right _ (List.mem_cons_of_mem _ late), truths'⟩

def glueAll (bodies : List (List (List Φ))) : List (List Φ) := bodies.foldr glue [[]]

theorem bodyTruth_glueAll {bodies : List (List (List Φ))}
    (h : ∀ as ∈ bodies, bodyTruth v as = .true) : bodyTruth v (glueAll bodies) = .true := by
  induction bodies with
  | nil => simp [glueAll, bodyTruth_eq_true]
  | cons as bodies ih =>
    rw [List.forall_mem_cons] at h
    exact bodyTruth_glue h.1 (ih h.2)

theorem glueAll_singletons (runs : List (List Φ)) :
    glueAll (runs.map fun run => [run]) = [runs.flatten] := by
  induction runs with
  | nil => rfl
  | cons run runs ih =>
    rw [glueAll] at ih
    rw [glueAll, List.map_cons, List.foldr_cons, ih]
    rfl

/-- How a server reads boolean texts: the runs of a complete body, and that AND connects complete
bodies. -/
structure Dialect (Φ : Type) where
  read : GoString → Option (List (List Φ))
  read_ne_nil : ∀ {s as}, read s = some as → as ≠ []
  read_and : ∀ {s t as bs}, read s = some as → read t = some bs →
    read (s ++ str " AND " ++ t) = some (glue as bs)

namespace Dialect

variable (δ : Dialect Φ)

/-- The truth value of a text with given operands. The empty text restricts nothing, and `none` is
no complete body. -/
def truth (v : Φ → Truth) (text : GoString) : Option Truth :=
  if text.isEmpty then some .true else (δ.read text).map (bodyTruth v)

theorem read_join {s : GoString} {ss : List GoString} {bodies : List (List (List Φ))}
    (h : (s :: ss).mapM δ.read = some bodies) :
    δ.read (join (str " AND ") (s :: ss)) = some (glueAll bodies) := by
  induction ss generalizing s bodies with
  | nil =>
    obtain ⟨as, has, rfl⟩ : ∃ as, δ.read s = some as ∧ [as] = bodies := by
      simpa [List.mapM_cons, Option.bind_eq_some_iff] using h
    rw [join, has, glueAll, List.foldr_cons, List.foldr_nil, glue_unit (δ.read_ne_nil has)]
  | cons t ss ih =>
    rw [List.mapM_cons] at h
    obtain ⟨as, has, rest⟩ := Option.bind_eq_some_iff.mp h
    obtain ⟨bss, hbss, same⟩ := Option.bind_eq_some_iff.mp rest
    cases same
    rw [join_cons_cons, δ.read_and has (ih hbss)]
    rfl

end Dialect

end DxCommonGo.SqlAlternatives

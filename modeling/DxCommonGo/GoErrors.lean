import DxCommonGo.GoStrings

/-! Go error values with `Unwrap`: a value with the errors it unwraps to. `errors.Is` and
`errors.As` walk that tree depth first, so both are functions of the pre-order list of its values.
-/

namespace DxCommonGo.GoErrors

inductive ErrorTree (ε : Type) where
  | node (value : ε) (causes : List (ErrorTree ε))

variable {ε α : Type}

mutual

def chain : ErrorTree ε → List ε
  | .node value causes => value :: chains causes

def chains : List (ErrorTree ε) → List ε
  | [] => []
  | e :: es => chain e ++ chains es

end

def leaf (value : ε) : ErrorTree ε := .node value []

def errorsIs [DecidableEq ε] (e : ErrorTree ε) (target : ε) : Bool := (chain e).contains target

def errorsAs (e : ErrorTree ε) (cast : ε → Option α) : Option α := (chain e).findSome? cast

@[simp] theorem chain_leaf (value : ε) : chain (leaf value) = [value] := rfl

@[simp] theorem chain_node_one (value : ε) (e : ErrorTree ε) :
    chain (.node value [e]) = value :: chain e := by
  simp [chain, chains]

theorem errorsAs_leaf (value : ε) (cast : ε → Option α) :
    errorsAs (leaf value) cast = cast value := by
  simp only [errorsAs, chain_leaf, List.findSome?]
  cases cast value <;> rfl

theorem errorsAs_node_one {value : ε} {cast : ε → Option α} (h : cast value = none)
    (e : ErrorTree ε) : errorsAs (.node value [e]) cast = errorsAs e cast := by
  simp [errorsAs, h]

variable {β : Type} {f : α → Except ε β} {l : List α}

theorem bind_eq_ok {x : Except ε α} {b : β} : x >>= f = .ok b ↔ ∃ a, x = .ok a ∧ f a = .ok b := by
  cases x with
  | error e => simp [bind, Except.bind]
  | ok a => simp [bind, Except.bind]

theorem map_eq_ok {x : Except ε α} {f : α → β} {b : β} :
    x.map f = .ok b ↔ ∃ a, x = .ok a ∧ f a = b := by
  cases x with
  | error e => simp [Except.map]
  | ok a => simp [Except.map]

theorem filterMap_of_mapM_ok {r : List β} (h : l.mapM f = .ok r) :
    l.filterMap (fun a => (f a).toOption) = r := by
  induction l generalizing r with
  | nil =>
    cases h
    rfl
  | cons a l ih =>
    rw [List.mapM_cons] at h
    obtain ⟨b, hb, h⟩ := bind_eq_ok.mp h
    obtain ⟨bs, hbs, h⟩ := bind_eq_ok.mp h
    cases h
    have kept : (f a).toOption = some b := by
      rw [hb]
      rfl
    simp only [List.filterMap_cons, kept, ih hbs]

theorem mapM_ok {r : List β} (h : l.mapM f = .ok r) :
    r.length = l.length ∧ ∀ b ∈ r, ∃ a ∈ l, f a = .ok b := by
  induction l generalizing r with
  | nil =>
    cases h
    simp
  | cons a l ih =>
    rw [List.mapM_cons] at h
    obtain ⟨b, hb, h⟩ := bind_eq_ok.mp h
    obtain ⟨bs, hbs, h⟩ := bind_eq_ok.mp h
    cases h
    obtain ⟨hlength, hmem⟩ := ih hbs
    refine ⟨by simp [hlength], fun c hc => ?_⟩
    rcases List.mem_cons.mp hc with rfl | hc
    · exact ⟨a, List.mem_cons_self, hb⟩
    · obtain ⟨d, hd, hdc⟩ := hmem c hc
      exact ⟨d, List.mem_cons_of_mem _ hd, hdc⟩

theorem forall_of_mapM_ok {r : List β} (h : l.mapM f = .ok r) : ∀ a ∈ l, ∃ b ∈ r, f a = .ok b := by
  induction l generalizing r with
  | nil => simp
  | cons c l ih =>
    rw [List.mapM_cons] at h
    obtain ⟨b, first, h⟩ := bind_eq_ok.mp h
    obtain ⟨bs, rest, h⟩ := bind_eq_ok.mp h
    cases h
    intro a mem
    rcases List.mem_cons.mp mem with rfl | mem
    · exact ⟨b, List.mem_cons_self, first⟩
    · obtain ⟨b', found, same⟩ := ih rest a mem
      exact ⟨b', List.mem_cons_of_mem b found, same⟩

theorem exists_mapM_ok (h : ∀ a ∈ l, ∃ b, f a = .ok b) : ∃ r, l.mapM f = .ok r := by
  induction l with
  | nil => exact ⟨[], rfl⟩
  | cons a l ih =>
    obtain ⟨b, first⟩ := h a List.mem_cons_self
    obtain ⟨r, rest⟩ := ih fun c mem => h c (List.mem_cons_of_mem a mem)
    exact ⟨b :: r, by rw [List.mapM_cons, first, rest]; rfl⟩

end DxCommonGo.GoErrors

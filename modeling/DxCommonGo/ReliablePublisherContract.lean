import DxCommonGo.ReliablePublisher

/-! Concurrent calls of `Publish`. A call that redials closes the connection another call has
installed, whose second attempt can then find its channel closed although none was lost. -/

namespace DxCommonGo.ReliablePublisherContract
open AmqpBroker (errClosed errClosedValue)
open ReliablePublisher

def Before (x y : Happening) (log : List Happening) : Prop := [x, y].Sublist log

variable {log : List Happening}

theorem before_concat {x : Happening} (y : Happening) (h : x ∈ log) : Before x y (log ++ [y]) :=
  (List.singleton_sublist.mpr h).append (List.Sublist.refl [y])

theorem Before.mono {x y : Happening} {log' : List Happening} (h : Before x y log)
    (grows : log <+: log') : Before x y log' := h.trans grows.sublist

theorem Before.mem {x y : Happening} (h : Before x y log) : x ∈ log :=
  h.subset List.mem_cons_self

/-- The connection that call `i` has redialled is not lost, no other call has
installed a connection after it did, none that it waited on for a confirm has
ended, and its context has not ended such a wait. -/
structure Undisturbed (cfg : PublisherConfig) (i : Nat) (log : List Happening) : Prop where
  noLoss : ∀ c, ¬Before (.redial i c) (.lost c) log
  alone : ∀ c j c', j ≠ i → ¬Before (.installed i c) (.installed j c') log
  kept : cfg.confirms = true → ∀ c,
    ¬Before (.published i c) (.lost c) log ∧ ¬Before (.published i c) (.closed c) log
  unexpired : .expired i ∉ log

theorem Undisturbed.of_prefix {cfg : PublisherConfig} {i : Nat} {log' : List Happening}
    (h : Undisturbed cfg i log') (grows : log <+: log') : Undisturbed cfg i log where
  noLoss c before := h.noLoss c (before.mono grows)
  alone c j c' other before := h.alone c j c' other (before.mono grows)
  kept confirms c :=
    ⟨fun before => (h.kept confirms c).1 (before.mono grows),
      fun before => (h.kept confirms c).2 (before.mono grows)⟩
  unexpired expired := h.unexpired (grows.subset expired)

structure Orderly (w : World) : Prop where
  fields : w.ch = w.conn
  bounded : ∀ c, w.conn = some c → c < w.dialled
  installed : ∀ c k, w.conn = some c → w.owner c = some k → .installed k c ∈ w.log

/-- Another call replaces the connection only by an installation, ends a connection of `i` only
after having replaced it, and no connection ends without a record. -/
structure Relies (i : Nat) (w w' : World) : Prop where
  dialled : w.dialled ≤ w'.dialled
  log : w.log <+: w'.log
  owner : ∀ c, c < w.dialled → w'.owner c = w.owner c
  installs : ∀ c, .installed i c ∈ w'.log → .installed i c ∈ w.log
  conn : w'.conn = w.conn ∨ ∃ j c, j ≠ i ∧ ∀ e ∈ w.log, Before e (.installed j c) w'.log
  drops : ∀ c, w.isOpen c = true → w'.isOpen c = true ∨
    (∀ e ∈ w.log, Before e (.lost c) w'.log) ∨ ∀ e ∈ w.log, Before e (.closed c) w'.log
  own : ∀ c, c < w.dialled → w.owner c = some i → w.isOpen c = true → w'.isOpen c = true ∨
    (∀ e ∈ w.log, Before e (.lost c) w'.log) ∨
    ∃ j c', j ≠ i ∧ Before (.installed i c) (.installed j c') w'.log

variable {cfg : PublisherConfig} {i : Nat} {w w' : World}

theorem Relies.refl (i : Nat) (w : World) : Relies i w w :=
  ⟨le_refl _, List.prefix_refl _, fun _ _ => rfl, fun _ h => h, .inl rfl, fun _ h => .inl h,
    fun _ _ _ h => .inl h⟩

theorem Relies.trans {v : World} (h : Relies i w v) (h' : Relies i v w') : Relies i w w' where
  dialled := h.dialled.trans h'.dialled
  log := h.log.trans h'.log
  owner c known := (h'.owner c (known.trans_le h.dialled)).trans (h.owner c known)
  installs c installed := h.installs c (h'.installs c installed)
  conn := by
    rcases h.conn with same | ⟨j, c, other, replaced⟩
    · rcases h'.conn with same' | ⟨j, c, other, replaced⟩
      · exact .inl (same'.trans same)
      · exact .inr ⟨j, c, other, fun e he => replaced e (h.log.subset he)⟩
    · exact .inr ⟨j, c, other, fun e he => (replaced e he).mono h'.log⟩
  drops c opened := by
    rcases h.drops c opened with still | lost | closed
    · exact (h'.drops c still).imp_right (Or.imp (fun lost e he => lost e (h.log.subset he))
        fun closed e he => closed e (h.log.subset he))
    · exact .inr (.inl fun e he => (lost e he).mono h'.log)
    · exact .inr (.inr fun e he => (closed e he).mono h'.log)
  own c known mine opened := by
    rcases h.own c known mine opened with still | lost | ⟨j, c', other, replaced⟩
    · have mine' := (h.owner c known).trans mine
      exact (h'.own c (known.trans_le h.dialled) mine' still).imp_right
        (Or.imp_left fun lost e he => lost e (h.log.subset he))
    · exact .inr (.inl fun e he => (lost e he).mono h'.log)
    · exact .inr (.inr ⟨j, c', other, replaced.mono h'.log⟩)

section Steps

theorem Orderly.record (h : Orderly w) (e : Happening) : Orderly (w.record e) :=
  ⟨h.fields, h.bounded, fun c k same mine => List.mem_append_left _ (h.installed c k same mine)⟩

theorem Orderly.drop (h : Orderly w) (c : Nat) : Orderly (w.drop c) :=
  ⟨h.fields, h.bounded, h.installed⟩

theorem Orderly.add (h : Orderly w) (i : Nat) : Orderly (w.add i) := by
  refine ⟨h.fields, fun c same => Nat.lt_succ_of_lt (h.bounded c same), fun c k same mine => ?_⟩
  have known : c ≠ w.dialled := Nat.ne_of_lt (h.bounded c same)
  exact h.installed c k same (by simpa [World.add, known] using mine)

theorem orderly_install {c : Nat} (known : c < w.dialled) (mine : w.owner c = some i) :
    Orderly ({ w with conn := some c, ch := some c }.record (.installed i c)) := by
  refine ⟨rfl, ?_, ?_⟩
  · rintro c' ⟨⟩
    exact known
  · rintro c' k ⟨⟩ owner
    cases Option.some.inj (mine.symm.trans owner)
    exact List.mem_append_right _ (List.mem_singleton_self _)

theorem relies_record {e : Happening} (other : ∀ c, e ≠ .installed i c) :
    Relies i w (w.record e) where
  dialled := le_refl _
  log := List.prefix_append _ _
  owner _ _ := rfl
  installs c installed := by
    rcases List.mem_append.mp installed with before | now
    · exact before
    · exact absurd (List.mem_singleton.mp now).symm (other c)
  conn := .inl rfl
  drops _ opened := .inl opened
  own _ _ _ opened := .inl opened

theorem relies_add (i j : Nat) (w : World) : Relies i w (w.add j) where
  dialled := Nat.le_succ _
  log := List.prefix_refl _
  owner c known := Function.update_of_ne (Nat.ne_of_lt known) _ _
  installs _ installed := installed
  conn := .inl rfl
  drops c opened := by
    left
    by_cases same : c = w.dialled <;> simp [World.add, same, opened]
  own c known _ opened := by
    left
    simp [World.add, Nat.ne_of_lt known, opened]

theorem relies_install {j : Nat} (other : j ≠ i) (c : Nat) :
    Relies i w ({ w with conn := some c, ch := some c }.record (.installed j c)) where
  dialled := le_refl _
  log := List.prefix_append _ _
  owner _ _ := rfl
  installs c' installed := by
    rcases List.mem_append.mp installed with before | now
    · exact before
    · cases List.mem_singleton.mp now
      exact absurd rfl other
  conn := .inr ⟨j, c, other, fun _ he => before_concat _ he⟩
  drops _ opened := .inl opened
  own _ _ _ opened := .inl opened

theorem isOpen_drop (c : Nat) {c' : Nat} (h : w.isOpen c' = true) :
    (w.drop c).isOpen c' = true ∨ c' = c := by
  by_cases same : c' = c
  · exact .inr same
  · exact .inl (by simp [World.drop, same, h])

theorem relies_lost (i c : Nat) (w : World) : Relies i w ((w.drop c).record (.lost c)) where
  dialled := le_refl _
  log := List.prefix_append _ _
  owner _ _ := rfl
  installs c' installed := by simpa [World.record, World.drop] using installed
  conn := .inl rfl
  drops c' opened := by
    rcases isOpen_drop c opened with still | rfl
    · exact .inl still
    · exact .inr (.inl fun _ he => before_concat _ he)
  own c' _ _ opened := by
    rcases isOpen_drop c opened with still | rfl
    · exact .inl still
    · exact .inr (.inl fun _ he => before_concat _ he)

/-- Call `j` may close connection `c`: it is its own, or it has replaced it. -/
def MayClose (j c : Nat) (w : World) : Prop :=
  ∀ k, w.owner c = some k → k ≠ j → ∃ c', Before (.installed k c) (.installed j c') w.log

theorem MayClose.mono {j c : Nat} (h : MayClose j c w) (known : c < w.dialled)
    (relies : Relies i w w') : MayClose j c w' := by
  intro k mine other
  rw [relies.owner c known] at mine
  obtain ⟨c', replaced⟩ := h k mine other
  exact ⟨c', replaced.mono relies.log⟩

theorem relies_closed {j c : Nat} (other : j ≠ i) (may : MayClose j c w) :
    Relies i w ((w.drop c).record (.closed c)) where
  dialled := le_refl _
  log := List.prefix_append _ _
  owner _ _ := rfl
  installs c' installed := by simpa [World.record, World.drop] using installed
  conn := .inl rfl
  drops c' opened := by
    rcases isOpen_drop c opened with still | rfl
    · exact .inl still
    · exact .inr (.inr fun _ he => before_concat _ he)
  own c' known mine opened := by
    rcases isOpen_drop c opened with still | rfl
    · exact .inl still
    · obtain ⟨c'', replaced⟩ := may i mine other.symm
      exact .inr (.inr ⟨j, c'', other, replaced.mono (List.prefix_append _ _)⟩)

end Steps

end DxCommonGo.ReliablePublisherContract

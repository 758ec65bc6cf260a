import DxCommonGo.Programs

/-! Transcripts of runs: operations with their replies. A property of every point of every run is
proved on the program alone. -/

namespace DxCommonGo.Transcripts
open Programs

abbrev Event (Op : Type) (Reply : Op → Type) := Sigma Reply

variable {Op : Type} {Reply : Op → Type} {ω α β : Type}

def transcript (h : Handler Op Reply ω) : Prog Op Reply α → ω → List (Event Op Reply)
  | .ret _, _ => []
  | .panic, _ => []
  | .goexit, _ => []
  | .call op next, w => ⟨op, (h op w).1⟩ :: transcript h (next (h op w).1) (h op w).2

/-- Whatever the replies, `P` holds at each event of what happened before it and of the program that
is left, and `Q` at the return of all that has happened. -/
def Throughout (P : List (Event Op Reply) → Event Op Reply → Prog Op Reply α → Prop)
    (Q : List (Event Op Reply) → α → Prop) : List (Event Op Reply) → Prog Op Reply α → Prop
  | past, .ret a => Q past a
  | _, .panic => True
  | _, .goexit => True
  | past, .call op next =>
    ∀ r, P past ⟨op, r⟩ (next r) ∧ Throughout P Q (past ++ [⟨op, r⟩]) (next r)

variable {p : Prog Op Reply α} {S : Op → Prop}

section Rules

variable {P : List (Event Op Reply) → Event Op Reply → Prog Op Reply β → Prop}
  {Q : List (Event Op Reply) → β → Prop} {past : List (Event Op Reply)}

theorem throughout_bind {R : List (Event Op Reply) → α → Prop} {f : α → Prog Op Reply β}
    (first : Throughout (fun past e rest => P past e (rest >>= f)) R past p)
    (then_ : ∀ past a, R past a → Throughout P Q past (f a)) : Throughout P Q past (p >>= f) := by
  induction p generalizing past with
  | ret a => exact then_ past a first
  | panic => trivial
  | goexit => trivial
  | call op next ih =>
    intro r
    obtain ⟨here, later⟩ := first r
    exact ⟨here, ih r later⟩

theorem throughout_perform_bind {op : Op} {f : Reply op → Prog Op Reply β}
    (here : ∀ r, P past ⟨op, r⟩ (f r))
    (later : ∀ r, Throughout P Q (past ++ [⟨op, r⟩]) (f r)) :
    Throughout P Q past (perform op >>= f) :=
  fun r => ⟨here r, later r⟩

end Rules

def Uses (S : Op → Prop) : Prog Op Reply α → Prop
  | .ret _ => True
  | .panic => True
  | .goexit => True
  | .call op next => S op ∧ ∀ r, Uses S (next r)

theorem uses_bind {f : α → Prog Op Reply β} (first : Uses S p) (next : ∀ a, Uses S (f a)) :
    Uses S (p >>= f) := by
  induction p with
  | ret a => exact next a
  | panic => trivial
  | goexit => trivial
  | call op next ih => exact ⟨first.1, fun r => ih r (first.2 r)⟩

theorem uses_perform_bind {op : Op} {f : Reply op → Prog Op Reply α} (here : S op)
    (next : ∀ r, Uses S (f r)) : Uses S (perform op >>= f) := ⟨here, next⟩

theorem Uses.mono {T : Op → Prop} (h : ∀ op, S op → T op) (uses : Uses S p) : Uses T p := by
  induction p with
  | ret | panic | goexit => trivial
  | call op next ih => exact ⟨h op uses.1, fun r => ih r (uses.2 r)⟩

variable {P : List (Event Op Reply) → Event Op Reply → Prog Op Reply α → Prop}

theorem Uses.throughout (uses : Uses S p) (allowed : ∀ past op r rest, S op → P past ⟨op, r⟩ rest)
    {σ : Type} (observe : List (Event Op Reply) → σ)
    (kept : ∀ past op r, S op → observe (past ++ [⟨op, r⟩]) = observe past)
    (past : List (Event Op Reply)) :
    Throughout P (fun past' _ => observe past' = observe past) past p := by
  induction p generalizing past with
  | ret a => exact rfl
  | panic => trivial
  | goexit => trivial
  | call op next ih =>
    intro r
    refine ⟨allowed past op r (next r) uses.1, ?_⟩
    rw [← kept past op r uses.1]
    exact ih r (uses.2 r) _

theorem Throughout.at_event {Q : List (Event Op Reply) → α → Prop} {past : List (Event Op Reply)}
    (through : Throughout P Q past p) {h : Handler Op Reply ω} {w : ω}
    {pre post : List (Event Op Reply)} {e : Event Op Reply}
    (split : transcript h p w = pre ++ e :: post) :
    ∃ rest w', P (past ++ pre) e rest ∧ transcript h rest w' = post ∧
      run h rest w' = run h p w := by
  induction p generalizing past pre w with
  | ret | panic | goexit => simp [transcript] at split
  | call op next ih =>
    obtain ⟨here, later⟩ := through (h op w).1
    cases pre with
    | nil =>
      obtain ⟨rfl, rest⟩ := List.cons.inj split
      exact ⟨_, _, by simpa using here, rest, rfl⟩
    | cons e' pre =>
      obtain ⟨rfl, rest⟩ := List.cons.inj split
      obtain ⟨rest', w', held, after, same⟩ := ih _ later rest
      refine ⟨rest', w', ?_, after, same⟩
      simpa using held

end DxCommonGo.Transcripts

import Mathlib.Computability.Language

/-! Patterns over any alphabet: a list of pieces, each of which takes some words. A text is accepted
if it can be cut into words for the pieces. -/

namespace DxCommonGo.GlobPatterns

variable {α : Type}

abbrev Piece (α : Type) := List α → Bool

def accepts : List (Piece α) → List α → Bool
  | [], s => s.isEmpty
  | p :: ps, s => (List.range (s.length + 1)).any fun n => p (s.take n) && accepts ps (s.drop n)

def Piece.language (p : Piece α) : Language α := {w | p w = true}

variable {ps : List (Piece α)} {s : List α}

theorem accepts_iff : accepts ps s = true ↔ s ∈ (ps.map Piece.language).prod := by
  induction ps generalizing s with
  | nil => simp [accepts]
  | cons p ps ih =>
    rw [accepts, List.any_eq_true, List.map_cons, List.prod_cons, Language.mem_mul]
    constructor
    · rintro ⟨n, -, taken⟩
      rw [Bool.and_eq_true, ih] at taken
      exact ⟨_, taken.1, _, taken.2, List.take_append_drop n s⟩
    · rintro ⟨a, first, b, rest, rfl⟩
      have short : a.length < (a ++ b).length + 1 := by
        rw [List.length_append]
        omega
      refine ⟨a.length, List.mem_range.mpr short, ?_⟩
      rw [List.take_left, List.drop_left, Bool.and_eq_true]
      exact ⟨first, ih.mpr rest⟩

theorem accepts_cons {p : Piece α} :
    accepts (p :: ps) s = true ↔ ∃ a b, p a = true ∧ accepts ps b = true ∧ a ++ b = s := by
  rw [accepts_iff, List.map_cons, List.prod_cons, Language.mem_mul]
  constructor
  · rintro ⟨a, first, b, rest, same⟩
    exact ⟨a, b, first, accepts_iff.mpr rest, same⟩
  · rintro ⟨a, b, first, rest, same⟩
    exact ⟨a, first, b, accepts_iff.mp rest, same⟩

theorem accepts_of_forall₂ (each : List.Forall₂ (fun p a => p [a] = true) ps s) :
    accepts ps s = true := by
  induction each with
  | nil => rfl
  | @cons p a ps s first _ ih => exact accepts_cons.mpr ⟨[a], s, first, ih, rfl⟩

def Piece.one (test : α → Bool) : Piece α
  | [a] => test a
  | _ => false

def Piece.star : Piece α := fun _ => true

theorem Piece.one_eq_true {test : α → Bool} {w : List α} :
    Piece.one test w = true ↔ ∃ a, w = [a] ∧ test a = true := by
  match w with
  | [] => simp [Piece.one]
  | [a] => simp [Piece.one]
  | a :: b :: w => simp [Piece.one]

theorem accepts_one_cons {test : α → Bool} :
    accepts (Piece.one test :: ps) s = true ↔
      ∃ a t, s = a :: t ∧ test a = true ∧ accepts ps t = true := by
  rw [accepts_cons]
  constructor
  · rintro ⟨w, t, first, rest, rfl⟩
    obtain ⟨a, rfl, taken⟩ := Piece.one_eq_true.mp first
    exact ⟨a, t, rfl, taken, rest⟩
  · rintro ⟨a, t, rfl, taken, rest⟩
    exact ⟨[a], t, taken, rest, rfl⟩

section Literal

variable [DecidableEq α] {u s : List α} {ps : List (Piece α)}

def Piece.letter (a : α) : Piece α := Piece.one fun b => b = a

def literal (u : List α) : List (Piece α) := u.map Piece.letter

theorem accepts_literal_append :
    accepts (literal u ++ ps) s = true ↔ ∃ t, s = u ++ t ∧ accepts ps t = true := by
  induction u generalizing s with
  | nil =>
    constructor
    · exact fun rest => ⟨s, rfl, rest⟩
    · rintro ⟨t, rfl, rest⟩
      exact rest
  | cons a u ih =>
    rw [literal, List.map_cons, List.cons_append, Piece.letter, accepts_one_cons]
    constructor
    · rintro ⟨b, t, rfl, same, taken⟩
      obtain ⟨t, rfl, rest⟩ := ih.mp taken
      exact ⟨t, by rw [of_decide_eq_true same]; rfl, rest⟩
    · rintro ⟨t, rfl, rest⟩
      exact ⟨a, u ++ t, rfl, decide_eq_true rfl, ih.mpr ⟨t, rfl, rest⟩⟩

theorem accepts_literal : accepts (literal u) s = true ↔ s = u := by
  have same := @accepts_literal_append α _ u s []
  rw [List.append_nil] at same
  rw [same]
  constructor
  · rintro ⟨t, rfl, none⟩
    rw [List.isEmpty_iff.mp none, List.append_nil]
  · rintro rfl
    exact ⟨[], (List.append_nil s).symm, rfl⟩

theorem accepts_literal_star : accepts (literal u ++ [Piece.star]) s = true ↔ u <+: s := by
  rw [accepts_literal_append]
  constructor
  · rintro ⟨t, rfl, -⟩
    exact List.prefix_append u t
  · rintro ⟨t, rfl⟩
    exact ⟨t, rfl, accepts_cons.mpr ⟨t, [], rfl, rfl, List.append_nil t⟩⟩

end Literal

end DxCommonGo.GlobPatterns

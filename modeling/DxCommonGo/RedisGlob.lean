import DxCommonGo.GlobPatterns
import DxCommonGo.GoStrings

/-! The patterns of Redis, as `SCAN MATCH` reads them: star, question mark, classes in square
brackets, and a backslash before any of them. -/

namespace DxCommonGo.RedisGlob
open GoStrings GlobPatterns

inductive Token where
  | star
  | one (test : UInt8 → Bool)

def Token.piece : Token → Piece UInt8
  | .star => Piece.star
  | .one test => Piece.one test

def addRange (range : UInt8 × UInt8) (rest : List (UInt8 × UInt8) × GoString) :
    List (UInt8 × UInt8) × GoString :=
  (range :: rest.1, rest.2)

def lastRange (b : UInt8) : List (UInt8 × UInt8) × GoString :=
  if b = 93 then ([], []) else ([(b, b)], [])

/-- The ranges of a class up to its closing bracket, or to the end of the pattern if there is
none, and what follows. -/
def classRanges : GoString → List (UInt8 × UInt8) × GoString
  | [] => ([], [])
  | [b] => lastRange b
  | [b, c] =>
    if b = 93 then ([], [c])
    else if b = 92 then ([(c, c)], [])
    else addRange (b, b) (lastRange c)
  | b :: c :: d :: rest =>
    if b = 93 then ([], c :: d :: rest)
    else if b = 92 then addRange (c, c) (classRanges (d :: rest))
    else if c = 45 then addRange (b, d) (classRanges rest)
    else addRange (b, b) (classRanges (c :: d :: rest))

def inRange (b : UInt8) (range : UInt8 × UInt8) : Bool :=
  min range.1 range.2 ≤ b && b ≤ max range.1 range.2

def classToken : GoString → Token × GoString
  | 94 :: rest => (.one fun b => !(classRanges rest).1.any (inRange b), (classRanges rest).2)
  | rest => (.one fun b => (classRanges rest).1.any (inRange b), (classRanges rest).2)

def letter (b : UInt8) : Token := .one fun c => c = b

/-- The byte after a backslash stands for itself, as does a backslash at the end. -/
def escapeToken : GoString → Token × GoString
  | [] => (letter 92, [])
  | b :: rest => (letter b, rest)

def tokensFrom : Nat → GoString → List Token
  | 0, _ => []
  | _ + 1, [] => []
  | n + 1, b :: rest =>
    if b = 42 then .star :: tokensFrom n rest
    else if b = 63 then .one (fun _ => true) :: tokensFrom n rest
    else if b = 91 then (classToken rest).1 :: tokensFrom n (classToken rest).2
    else if b = 92 then (escapeToken rest).1 :: tokensFrom n (escapeToken rest).2
    else letter b :: tokensFrom n rest

def tokens (pattern : GoString) : List Token := tokensFrom pattern.length pattern

def globMatch (pattern key : GoString) : Bool := accepts ((tokens pattern).map Token.piece) key

def special (b : UInt8) : Bool := b = 42 || b = 63 || b = 91 || b = 92

example : globMatch (str "a[^b-d]?\\*") (str "ae**") = true := by decide +kernel
example : globMatch (str "a[^b-d]?\\*") (str "ac**") = false := by decide +kernel

section Widths

variable {ts : List Token} {key : GoString}

def Token.isStar : Token → Bool
  | .star => true
  | .one _ => false

def stars (ts : List Token) : Nat := ts.countP Token.isStar

theorem length_of_no_star (none : stars ts = 0)
    (matched : accepts (ts.map Token.piece) key = true) : key.length = ts.length := by
  induction ts generalizing key with
  | nil => rw [List.isEmpty_iff.mp matched]; rfl
  | cons t ts ih =>
    cases t with
    | star => simp [stars, Token.isStar] at none
    | one test =>
      obtain ⟨b, rest, rfl, -, matched⟩ := accepts_one_cons.mp matched
      have later : stars ts = 0 := by simpa [stars, Token.isStar] using none
      rw [List.length_cons, ih later matched, List.length_cons]

theorem exists_shortest (matched : accepts (ts.map Token.piece) key = true) :
    ∃ short, accepts (ts.map Token.piece) short = true ∧ short.length + stars ts = ts.length := by
  induction ts generalizing key with
  | nil => exact ⟨[], rfl, rfl⟩
  | cons t ts ih =>
    cases t with
    | star =>
      obtain ⟨a, rest, -, matched, -⟩ := accepts_cons.mp matched
      obtain ⟨short, matched, length⟩ := ih matched
      refine ⟨short, accepts_cons.mpr ⟨[], short, rfl, matched, rfl⟩, ?_⟩
      rw [stars, List.countP_cons, ← stars, List.length_cons, ← length]
      rfl
    | one test =>
      obtain ⟨b, rest, -, taken, matched⟩ := accepts_one_cons.mp matched
      obtain ⟨short, matched, length⟩ := ih matched
      refine ⟨b :: short, accepts_one_cons.mpr ⟨b, short, rfl, taken, matched⟩, ?_⟩
      rw [stars, List.countP_cons, ← stars, List.length_cons, List.length_cons, ← length]
      exact Nat.add_right_comm ..

end Widths

section Tokens

variable {n : Nat} {p q : GoString}

theorem length_lastRange (b : UInt8) : (lastRange b).2.length = 0 := by
  unfold lastRange
  split_ifs <;> rfl

theorem length_classRanges (p : GoString) : p = [] ∨ (classRanges p).2.length < p.length := by
  fun_induction classRanges p with
  | case1 => exact .inl rfl
  | case2 b => exact .inr (by rw [length_lastRange]; exact Nat.one_pos)
  | case3 => simp
  | case4 => simp
  | case5 b c => exact .inr (by rw [addRange, length_lastRange]; exact Nat.two_pos)
  | case6 => simp
  | case7 c d rest _ ih =>
    obtain none | less := ih
    · cases none
    · exact .inr (less.trans (by simp))
  | case8 b d rest _ _ ih =>
    refine .inr ?_
    obtain none | less := ih
    · subst none
      simp [addRange, classRanges]
    · exact less.trans (by simp only [List.length_cons]; omega)
  | case9 b c d rest _ _ _ ih =>
    obtain none | less := ih
    · cases none
    · exact .inr (less.trans (by simp))

theorem length_classToken (some : p ≠ []) : (classToken p).2.length < p.length := by
  unfold classToken
  split
  · rename_i rest
    obtain rfl | less := length_classRanges rest
    · simp [classRanges]
    · exact less.trans (by simp)
  · exact (length_classRanges p).resolve_left some

theorem length_escapeToken (some : p ≠ []) : (escapeToken p).2.length < p.length := by
  cases p with
  | nil => exact absurd rfl some
  | cons b rest => exact Nat.lt_succ_self _

theorem length_tokensFrom (n : Nat) (p : GoString) : (tokensFrom n p).length ≤ p.length := by
  induction n generalizing p with
  | zero => exact Nat.zero_le _
  | succ n ih =>
    cases p with
    | nil => exact Nat.zero_le _
    | cons b rest =>
      rw [tokensFrom]
      split_ifs with star one bracket escape
      · exact Nat.succ_le_succ (ih rest)
      · exact Nat.succ_le_succ (ih rest)
      · refine Nat.succ_le_succ ((ih _).trans ?_)
        cases rest with
        | nil => exact le_rfl
        | cons c rest => exact (length_classToken (List.cons_ne_nil c rest)).le
      · refine Nat.succ_le_succ ((ih _).trans ?_)
        cases rest with
        | nil => exact le_rfl
        | cons c rest => exact (length_escapeToken (List.cons_ne_nil c rest)).le
      · exact Nat.succ_le_succ (ih rest)

theorem length_tokensFrom_lt {b : UInt8} (mem : b ∈ p) (wide : b = 91 ∨ b = 92) :
    (tokensFrom n (p ++ [42])).length < (p ++ [42]).length := by
  induction n generalizing p with
  | zero => simp [tokensFrom]
  | succ n ih =>
    cases p with
    | nil => cases mem
    | cons c rest =>
      have later : c ≠ 91 → c ≠ 92 →
          (tokensFrom n (rest ++ [42])).length < (rest ++ [42]).length := by
        intro bracket escape
        refine ih ((List.mem_cons.mp mem).resolve_left ?_)
        rintro rfl
        exact wide.elim bracket escape
      rw [List.cons_append, tokensFrom]
      split_ifs with star one bracket escape
      · exact Nat.succ_lt_succ (later (by simp [star]) (by simp [star]))
      · exact Nat.succ_lt_succ (later (by simp [one]) (by simp [one]))
      · exact Nat.succ_lt_succ ((length_tokensFrom n _).trans_lt (length_classToken (by simp)))
      · exact Nat.succ_lt_succ ((length_tokensFrom n _).trans_lt (length_escapeToken (by simp)))
      · exact Nat.succ_lt_succ (later bracket escape)

def simple (b : UInt8) : Token :=
  if b = 42 then .star else if b = 63 then .one fun _ => true else letter b

theorem tokensFrom_simple (enough : p.length ≤ n) (narrow : ∀ b ∈ p, b ≠ 91 ∧ b ≠ 92) :
    tokensFrom n p = p.map simple := by
  induction p generalizing n with
  | nil => cases n <;> rfl
  | cons b p ih =>
    cases n with
    | zero => cases enough
    | succ n =>
      obtain ⟨bracket, escape⟩ := narrow b List.mem_cons_self
      have rest := ih (Nat.le_of_succ_le_succ enough)
        fun c mem => narrow c (List.mem_cons_of_mem b mem)
      rw [tokensFrom, List.map_cons, simple, if_neg bracket, rest]
      split_ifs with star one
      · rfl
      · rfl
      · rfl

end Tokens

section Star

variable {p key : GoString}

theorem takes_simple (b : UInt8) : (simple b).piece [b] = true := by
  unfold simple
  split_ifs
  · rfl
  · rfl
  · exact decide_eq_true rfl

theorem forall₂_simple (s : GoString) :
    List.Forall₂ (fun p b => p [b] = true) ((s.map simple).map Token.piece) s := by
  rw [List.map_map, List.forall₂_map_left_iff]
  exact List.forall₂_same.mpr fun b _ => takes_simple b

theorem plain_of_any {p : GoString} (none : p.any special = false) :
    ∀ b ∈ p, special b = false := by
  intro b mem
  exact Bool.eq_false_of_not_eq_true (List.any_eq_false.mp none b mem)

theorem piece_simple {b : UInt8} (plain : special b = false) :
    (simple b).piece = Piece.letter b := by
  simp only [special, Bool.or_eq_false_iff, decide_eq_false_iff_not] at plain
  obtain ⟨⟨⟨star, one⟩, -⟩, -⟩ := plain
  rw [simple, if_neg star, if_neg one]
  rfl

theorem tokens_star (narrow : ∀ b ∈ p, b ≠ 91 ∧ b ≠ 92) :
    tokens (p ++ [42]) = p.map simple ++ [.star] := by
  rw [tokens, tokensFrom_simple le_rfl, List.map_append]
  · rfl
  · intro b mem
    obtain mem | same := List.mem_append.mp mem
    · exact narrow b mem
    · rw [List.mem_singleton.mp same]
      decide

theorem globMatch_star (plain : ∀ b ∈ p, special b = false) :
    globMatch (p ++ [42]) key = true ↔ p <+: key := by
  have narrow : ∀ b ∈ p, b ≠ 91 ∧ b ≠ 92 := by
    intro b mem
    have none := plain b mem
    simp only [special, Bool.or_eq_false_iff, decide_eq_false_iff_not] at none
    exact ⟨none.1.2, none.2⟩
  have pieces : (p.map simple).map Token.piece = literal p := by
    rw [List.map_map, literal]
    exact List.map_congr_left fun b mem => piece_simple (plain b mem)
  rw [globMatch, tokens_star narrow, List.map_append, pieces]
  exact accepts_literal_star

section Exact

variable (literally : ∀ key, globMatch (p ++ [42]) key = true ↔ p <+: key)

include literally

theorem stars_pos : 0 < stars (tokens (p ++ [42])) := by
  by_contra none
  have length := fun key (start : p <+: key) =>
    length_of_no_star (Nat.eq_zero_of_not_pos none) ((literally key).mpr start)
  have one := length p (List.prefix_refl p)
  have other := length (p ++ [0]) (List.prefix_append p [0])
  rw [List.length_append, ← one] at other
  exact Nat.succ_ne_self _ other

theorem length_le : p.length + stars (tokens (p ++ [42])) ≤ (tokens (p ++ [42])).length := by
  obtain ⟨short, matched, length⟩ := exists_shortest ((literally p).mpr (List.prefix_refl p))
  have le := ((literally short).mp matched).length_le
  omega

theorem narrow_of_exact {b : UInt8} (mem : b ∈ p) : b ≠ 91 ∧ b ≠ 92 := by
  have pos := stars_pos literally
  have le := length_le literally
  refine not_or.mp fun wide => ?_
  have less := @length_tokensFrom_lt (p ++ [42]).length p b mem wide
  rw [← tokens, List.length_append] at less
  simp only [List.length_singleton] at less
  omega

theorem plain_of_exact {b : UInt8} (mem : b ∈ p) : special b = false := by
  have narrow : ∀ b ∈ p, b ≠ 91 ∧ b ≠ 92 := fun b mem => narrow_of_exact literally mem
  have toks := tokens_star narrow
  have noStar : b ≠ 42 := by
    rintro rfl
    have le := length_le literally
    have counted : 0 < stars (p.map simple) :=
      List.countP_pos_iff.mpr ⟨_, List.mem_map_of_mem mem, rfl⟩
    have last : stars (p.map simple ++ [.star]) = stars (p.map simple) + 1 :=
      List.countP_append
    rw [toks, last, List.length_append, List.length_map, List.length_singleton] at le
    omega
  have noOne : b ≠ 63 := by
    rintro rfl
    obtain ⟨u, v, rfl⟩ := List.append_of_mem mem
    -- Another byte in the place of the question mark, and one for the star.
    have matched : globMatch ((u ++ 63 :: v) ++ [42]) (u ++ 97 :: v ++ [42]) = true := by
      refine accepts_of_forall₂ ?_
      rw [toks]
      simp only [List.map_append, List.map_cons, List.map_nil]
      exact List.rel_append (List.rel_append (forall₂_simple u) (.cons rfl (forall₂_simple v)))
        (.cons rfl .nil)
    have start := (literally _).mp matched
    rw [List.append_assoc, List.prefix_append_right_inj, List.cons_append,
      List.cons_prefix_cons] at start
    exact absurd start.1 (by decide)
  simp [special, noStar, noOne, narrow b mem]

end Exact

end Star

theorem globMatch_star_iff (p : GoString) :
    (∀ key, globMatch (p ++ [42]) key = true ↔ p <+: key) ↔ ∀ b ∈ p, special b = false :=
  ⟨fun literally _ mem => plain_of_exact literally mem, fun plain _ => globMatch_star plain⟩

end DxCommonGo.RedisGlob

import DxCommonGo.SqlReading

/-! Lexing a text piece by piece. A text that does not end inside a comment keeps its lexemes when a
space follows it. -/

namespace DxCommonGo.SqlScanning
open GoStrings SqlSyntax SqlReading

def residue : GoString → GoString → GoString
  | cur, [] => cur
  | cur, b :: bs => if continues cur b then residue (cur ++ [b]) bs else residue (start b) bs

/-- The text does not end inside a comment: only there a space is read on. -/
def closed (s : GoString) : Bool := !continues (residue [] s) 32

variable {s : GoString}

theorem scan_append_space {cur : GoString} (h : continues (residue cur s) 32 = false)
    (rest : GoString) : scan cur (s ++ 32 :: rest) = scan cur s ++ scan [] rest := by
  induction s generalizing cur with
  | nil =>
    rw [residue] at h
    have step : scan cur (32 :: rest) = flush cur ++ scan (start 32) rest := by
      rw [scan, h]
      rfl
    exact step
  | cons b s ih =>
    rw [residue] at h
    rw [List.cons_append, scan, scan]
    split_ifs at h ⊢ with next
    · exact ih h
    · rw [ih h, List.append_assoc]

theorem scan_closed (h : closed s = true) (rest : GoString) :
    scan [] (s ++ 32 :: rest) = scan [] s ++ scan [] rest :=
  scan_append_space (by simpa [closed] using h) rest

theorem residue_append_space {cur : GoString} (h : continues (residue cur s) 32 = false)
    (rest : GoString) : residue cur (s ++ 32 :: rest) = residue [] rest := by
  induction s generalizing cur with
  | nil =>
    rw [residue] at h
    have step : residue cur (32 :: rest) = residue (start 32) rest := by
      rw [residue, h]
      rfl
    exact step
  | cons b s ih =>
    rw [residue] at h
    rw [List.cons_append, residue]
    split_ifs at h ⊢ with next
    · exact ih h
    · exact ih h

theorem scan_append_open {cur : GoString} (h : continues (residue cur s) 32 = true) :
    scan cur (s ++ [32]) ≠ scan cur s := by
  induction s generalizing cur with
  | nil =>
    rw [residue] at h
    cases cur with
    | nil => cases h
    | cons c cs =>
      have read : scan (c :: cs) ([] ++ [32]) = [c :: cs ++ [32]] := by
        rw [List.nil_append, scan, if_pos h]
        rfl
      rw [read]
      simp [scan, flush]
  | cons b s ih =>
    rw [residue] at h
    rw [List.cons_append, scan, scan]
    split_ifs at h ⊢ with next
    · exact ih h
    · exact fun same => ih h (List.append_cancel_left same)

theorem closed_of_lexes {ls : List GoString} (h : Lexes s ls) : closed s = true := by
  have alone : scan [] s = ls := by simpa [scan, flush] using h [] (by simp [Breaks])
  have spaced : scan [] (s ++ [32]) = ls := by
    have read := h [32] (by simp [Breaks])
    rwa [show scan [] [32] = [] from rfl, List.append_nil] at read
  by_contra inside
  rw [closed, Bool.not_eq_true, Bool.not_eq_false'] at inside
  exact scan_append_open inside (spaced.trans alone.symm)

theorem closed_append_and (h : closed s = true) (t : GoString) :
    closed (s ++ str " AND " ++ t) = closed t := by
  have text : s ++ str " AND " ++ t = s ++ 32 :: (str "AND " ++ t) := List.append_assoc s _ t
  have word : residue [] (str "AND " ++ t) = residue [] t := rfl
  rw [closed, text, residue_append_space (by simpa [closed] using h), word]
  rfl

theorem items_append_and {is : List Item} (hs : items s = some is) (hc : closed s = true)
    (t : GoString) : items (s ++ str " AND " ++ t) = (items t).map (is ++ .and :: ·) := by
  obtain ⟨ts, hts, his⟩ := Option.bind_eq_some_iff.mp hs
  have split : tokens (s ++ str " AND " ++ t) = (tokens t).map (ts ++ .kw .and :: ·) := by
    have rest : scan [] (str "AND " ++ t) = str "AND" :: scan [] t := rfl
    have text : s ++ str " AND " ++ t = s ++ 32 :: (str "AND " ++ t) := List.append_assoc s _ t
    have word : token (str "AND") = some (.kw .and) := rfl
    rw [tokens] at hts
    rw [text, tokens, scan_closed hc, rest, lexTokens_concat, hts, Option.bind_some,
      lexTokens_cons word, Option.map_map]
    rfl
  rw [items, split, items]
  cases tokens t with
  | none => rfl
  | some us =>
    simp only [Option.map_some, Option.bind_some, predicates_append his, predicates,
      Option.map_map]
    rfl

end DxCommonGo.SqlScanning

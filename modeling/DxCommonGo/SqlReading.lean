import DxCommonGo.SqlSyntax

/-! How rendered text is read back: `ReadsAs` up to items, `Lexes` up to lexemes, and `Pushes` says
that items amount to one operand. Connectives and parentheses keep all of them. -/

namespace DxCommonGo.SqlReading
open GoStrings SqlSemantics SqlSyntax

/-- What may follow a lexeme without being read into it. -/
def Breaks (rest : GoString) : Prop := ∀ b ∈ rest.head?, b = 32 ∨ b = 41

variable {c : UInt8} {cs rest s : GoString} {ts : List Token} {is : List Item}

theorem continues_word {b : UInt8} (hc : isWordByte c = true) :
    continues (c :: cs) b = (isWordByte b || (c = 36 && cs.isEmpty && b = 45)) := by
  unfold continues
  split
  · rename_i h
    cases h
  · rename_i h
    cases h
    exact absurd hc (by decide)
  · rename_i h
    cases h
    simp [hc]

theorem scan_run {w : GoString} (hc : isWordByte c = true) (hw : w.all isWordByte = true) :
    scan (c :: cs) (w ++ rest) = scan (c :: cs ++ w) rest := by
  induction w generalizing cs with
  | nil => simp
  | cons b w ih =>
    simp only [List.all_cons, Bool.and_eq_true] at hw
    have next : continues (c :: cs) b = true := by simp [continues_word hc, hw.1]
    rw [List.cons_append, scan, if_pos next, List.cons_append, ih hw.2]
    simp

theorem scan_stop {cur : GoString} (hcur : cur ≠ [])
    (h : ∀ b ∈ rest.head?, continues cur b = false) : scan cur rest = cur :: scan [] rest := by
  have flushed : flush cur = [cur] := by
    cases cur with
    | nil => exact absurd rfl hcur
    | cons b bs => rfl
  cases rest with
  | nil => exact flushed
  | cons b bs =>
    have stop : continues cur b = false := h b rfl
    rw [scan, stop, flushed]
    rfl

theorem scan_word_breaks (hc : isWordByte c = true) (h : Breaks rest) :
    scan (c :: cs) rest = (c :: cs) :: scan [] rest := by
  apply scan_stop (by simp)
  intro b hb
  rw [continues_word hc]
  rcases h b hb with rfl | rfl <;> simp [show isWordByte 32 = false by decide,
    show isWordByte 41 = false by decide]

theorem not_space_of_word (h : isWordByte c = true) : isSpaceByte c = false := by
  simp only [isWordByte, isSpaceByte, isLetter, isDigit] at h ⊢
  grind

theorem scan_word (hc : isWordByte c = true) (hcs : cs.all isWordByte = true) (h : Breaks rest) :
    scan [] (c :: cs ++ rest) = (c :: cs) :: scan [] rest := by
  have hstart : start c = [c] := by simp [start, not_space_of_word hc]
  calc
    scan [] (c :: cs ++ rest) = scan (start c) (cs ++ rest) := rfl
    _ = scan (c :: cs) rest := by rw [hstart, scan_run hc hcs]; rfl
    _ = (c :: cs) :: scan [] rest := scan_word_breaks hc h

theorem isWordByte_of_digit {b : UInt8} (h : isDigit b = true) : isWordByte b = true := by
  simp [isWordByte, h]

theorem itoaNat_word (n : Nat) : (itoaNat n).all isWordByte = true := by
  rw [List.all_eq_true]
  intro b hb
  exact isWordByte_of_digit (List.all_eq_true.mp (itoaNat_digits n) b hb)

theorem scan_placeholder (n : Int) (h : Breaks rest) :
    scan [] (36 :: itoa n ++ rest) = (36 :: itoa n) :: scan [] rest := by
  have dollar : isWordByte 36 = true := by decide
  cases n with
  | ofNat n => exact scan_word dollar (itoaNat_word n) h
  | negSucc n =>
    calc
      scan [] (36 :: itoa (.negSucc n) ++ rest) = scan [36, 45] (itoaNat (n + 1) ++ rest) := rfl
      _ = scan ([36, 45] ++ itoaNat (n + 1)) rest := scan_run dollar (itoaNat_word _)
      _ = _ := scan_word_breaks dollar h

theorem index_itoa (n : Int) : index (itoa n) = some n := by
  cases n with
  | ofNat n =>
    rw [itoa]
    unfold index
    split
    · rename_i ds heq
      have digits := itoaNat_digits n
      rw [heq] at digits
      exact absurd digits (by simp [isDigit])
    · rw [decimal_itoaNat]
      rfl
  | negSucc n =>
    rw [itoa, index, decimal_itoaNat]
    rfl

theorem token_placeholder (n : Int) : token (36 :: itoa n) = some (.operand (.param n)) := by
  rw [token, index_itoa]
  rfl

theorem token_comment (h : isComment s = true) : token s = none := by
  obtain ⟨body, rfl⟩ := List.isPrefixOf_iff_prefix.mp h
  rfl

theorem lexTokens_cons {t : Token} (h : token s = some t) (rest : List GoString) :
    lexTokens (s :: rest) = (lexTokens rest).map (t :: ·) := by
  have plain : isComment s = false := by
    cases hc : isComment s with
    | false => rfl
    | true => simp [token_comment hc] at h
  simp only [lexTokens, List.filter_cons, plain, Bool.not_false, if_true, List.mapM_cons, h]
  cases (rest.filter fun s => !isComment s).mapM token <;> rfl

theorem plainIdentifier_word (h : plainIdentifier s = true) :
    ∃ c cs, s = c :: cs ∧ isWordByte c = true ∧ cs.all isWordByte = true := by
  cases s with
  | nil => cases h
  | cons c cs =>
    simp only [plainIdentifier, isIdentifier, Bool.and_eq_true, List.all_eq_true] at h
    refine ⟨c, cs, rfl, ?_, ?_⟩
    · simp only [isWordByte]
      grind
    · rw [List.all_eq_true]
      intro b hb
      have := h.1.2 b hb
      simp only [isWordByte]
      grind

theorem token_identifier (h : plainIdentifier s = true) :
    token s = some (.operand (.column s)) := by
  unfold token
  split
  · rename_i ds
    simp [plainIdentifier, isIdentifier, isLetter] at h
  · rw [if_pos h]

/-- `s` is read as the given items whatever follows it. -/
def ReadsAs (s : GoString) (is : List Item) : Prop :=
  ∀ rest, Breaks rest → items (s ++ rest) = (items rest).map (is ++ ·)

theorem lexTokens_of_map {ls : List GoString} (h : ls.map token = ts.map some) :
    lexTokens ls = some ts := by
  induction ls generalizing ts with
  | nil =>
    cases ts with
    | nil => rfl
    | cons t ts => cases h
  | cons l ls ih =>
    cases ts with
    | nil => cases h
    | cons t ts =>
      simp only [List.map_cons, List.cons.injEq] at h
      rw [lexTokens_cons h.1, ih h.2]
      rfl

theorem lexTokens_concat (xs ys : List GoString) :
    lexTokens (xs ++ ys) =
      (lexTokens xs).bind fun ts => (lexTokens ys).map (ts ++ ·) := by
  simp only [lexTokens, List.filter_append, List.mapM_append]
  cases (xs.filter fun s => !isComment s).mapM token with
  | none => rfl
  | some ts => cases (ys.filter fun s => !isComment s).mapM token <;> rfl

theorem predicates_append (h : predicates ts = some is) (us : List Token) :
    predicates (ts ++ us) = (predicates us).map (is ++ ·) := by
  fun_induction predicates ts generalizing is with
  | case1 =>
    cases h
    simp
  | case13 => cases h
  | _ =>
    rename_i ih
    obtain ⟨js, hjs, rfl⟩ := Option.map_eq_some_iff.mp h
    simp only [List.cons_append, predicates, ih hjs, Option.map_map]
    rfl

theorem items_of_scan {ls : List GoString} (hscan : scan [] (s ++ rest) = ls ++ scan [] rest)
    (ht : lexTokens ls = some ts) (hp : predicates ts = some is) :
    items (s ++ rest) = (items rest).map (is ++ ·) := by
  have read : tokens (s ++ rest) = (tokens rest).map (ts ++ ·) := by
    rw [tokens, hscan, lexTokens_concat, ht]
    rfl
  rw [items, read, items]
  cases tokens rest with
  | none => rfl
  | some us => exact predicates_append hp us

section Lexing

/-- The text is cut into these lexemes, if what follows it does not run into the last. -/
def Lexes (s : GoString) (ls : List GoString) : Prop :=
  ∀ rest, Breaks rest → scan [] (s ++ rest) = ls ++ scan [] rest

def Ends (s : GoString) (ls : List GoString) : Prop :=
  ∀ rest, scan [] (s ++ rest) = ls ++ scan [] rest

variable {s t : GoString} {ls ms : List GoString}

theorem Ends.append (h : Ends s ls) (k : Lexes t ms) : Lexes (s ++ t) (ls ++ ms) := by
  intro rest hrest
  rw [List.append_assoc, h, k rest hrest, List.append_assoc]

theorem Lexes.append (h : Lexes s ls) (k : Lexes t ms) (breaks : ∀ rest, Breaks (t ++ rest)) :
    Lexes (s ++ t) (ls ++ ms) := by
  intro rest hrest
  rw [List.append_assoc, h _ (breaks rest), k rest hrest, List.append_assoc]

theorem Lexes.readsAs (h : Lexes s ls) (ht : lexTokens ls = some ts)
    (hp : predicates ts = some is) : ReadsAs s is :=
  fun rest hrest => items_of_scan (h rest hrest) ht hp

theorem Lexes.join {sep word : GoString} (ends : Ends sep [word])
    (breaks : ∀ rest, Breaks (sep ++ rest)) {ss : List GoString} {lss : List (List GoString)}
    (h : List.Forall₂ Lexes ss lss) :
    Lexes (GoStrings.join sep ss) (GoStrings.join [word] lss) := by
  induction h with
  | nil => exact fun _ _ => rfl
  | cons hs hss ih =>
    cases hss with
    | nil => exact hs
    | cons ht hts =>
      intro rest hrest
      simp only [join_cons_cons, List.append_assoc]
      rw [hs _ (breaks _), ends, ih rest hrest]

theorem scan_lparen (rest : GoString) : scan [] (40 :: rest) = [40] :: scan [] rest := by
  have alone : scan [40] rest = [40] :: scan [] rest := scan_stop (by simp) fun _ _ => rfl
  exact alone

theorem scan_rparen (rest : GoString) : scan [] (41 :: rest) = [41] :: scan [] rest := by
  have alone : scan [41] rest = [41] :: scan [] rest := scan_stop (by simp) fun _ _ => rfl
  exact alone

theorem lexes_column (h : plainIdentifier s = true) : Lexes s [s] := by
  obtain ⟨c, cs, rfl, hc, hcs⟩ := plainIdentifier_word h
  exact fun _ hr => scan_word hc hcs hr

theorem lexes_placeholder (n : Int) : Lexes (36 :: itoa n) [36 :: itoa n] :=
  fun _ hr => scan_placeholder n hr

theorem lexes_isNull : Lexes (str " IS NULL") [str "IS", str "NULL"] := by
  intro rest hr
  have last : scan (str "NULL") rest = str "NULL" :: scan [] rest :=
    scan_word_breaks (by decide) hr
  exact congrArg (str "IS" :: ·) last

theorem lexes_isNotNull : Lexes (str " IS NOT NULL") [str "IS", str "NOT", str "NULL"] := by
  intro rest hr
  have last : scan (str "NULL") rest = str "NULL" :: scan [] rest :=
    scan_word_breaks (by decide) hr
  exact congrArg (fun ls => str "IS" :: str "NOT" :: ls) last

theorem ends_any : Ends (str " = ANY(") [str "=", str "ANY", str "("] := fun rest =>
  congrArg (fun ls => str "=" :: str "ANY" :: ls) (scan_lparen rest)

theorem ends_all : Ends (str " <> ALL(") [str "<>", str "ALL", str "("] := fun rest =>
  congrArg (fun ls => str "<>" :: str "ALL" :: ls) (scan_lparen rest)

theorem ends_lparen : Ends (str "(") [str "("] := scan_lparen

theorem ends_rparen : Ends (str ")") [str ")"] := scan_rparen

theorem ends_between : Ends (str " BETWEEN ") [str "BETWEEN"] := fun _ => rfl

theorem ends_and : Ends (str " AND ") [str "AND"] := fun _ => rfl

theorem ends_or : Ends (str " OR ") [str "OR"] := fun _ => rfl

theorem breaks_rparen (rest : GoString) : Breaks (str ")" ++ rest) :=
  fun _ hb => .inr (Option.some.inj hb).symm

theorem Lexes.parenthesised (h : Lexes s ls) :
    Lexes (str "(" ++ s ++ str ")") (str "(" :: ls ++ [str ")"]) := by
  have closing := h.append (fun rest _ => ends_rparen rest) breaks_rparen
  rw [List.append_assoc]
  exact ends_lparen.append closing

end Lexing

theorem items_lparen (rest : GoString) :
    items (str "(" ++ rest) = (items rest).map (.lparen :: ·) :=
  items_of_scan (ends_lparen rest) rfl rfl

theorem items_rparen (rest : GoString) :
    items (str ")" ++ rest) = (items rest).map (.rparen :: ·) :=
  items_of_scan (ends_rparen rest) rfl rfl

theorem items_and (rest : GoString) :
    items (str " AND " ++ rest) = (items rest).map (.and :: ·) :=
  items_of_scan (ends_and rest) rfl rfl

theorem items_or (rest : GoString) :
    items (str " OR " ++ rest) = (items rest).map (.or :: ·) :=
  items_of_scan (ends_or rest) rfl rfl

structure Connective (sep : GoString) (i : Item) : Prop where
  breaks : ∀ rest, Breaks (sep ++ rest)
  reads : ∀ rest, items (sep ++ rest) = (items rest).map (i :: ·)

theorem connective_and : Connective (str " AND ") .and :=
  ⟨fun _ _ hb => .inl (Option.some.inj hb).symm, items_and⟩

theorem connective_or : Connective (str " OR ") .or :=
  ⟨fun _ _ hb => .inl (Option.some.inj hb).symm, items_or⟩

theorem ReadsAs.join {sep : GoString} {i : Item} (hsep : Connective sep i)
    {ss : List GoString} {iss : List (List Item)} (h : List.Forall₂ ReadsAs ss iss) :
    ReadsAs (GoStrings.join sep ss) (GoStrings.join [i] iss) := by
  induction h with
  | nil =>
    intro rest _
    simp [GoStrings.join]
  | cons hs hss ih =>
    rename_i s is ss iss
    cases hss with
    | nil => exact hs
    | cons ht hts =>
      intro rest hrest
      simp only [join_cons_cons, List.append_assoc]
      rw [hs _ (hsep.breaks _), hsep.reads, ih rest hrest]
      simp [Option.map_map, Function.comp_def]

theorem ReadsAs.parenthesised (h : ReadsAs s is) :
    ReadsAs (str "(" ++ s ++ str ")") (.lparen :: is ++ [.rparen]) := by
  intro rest _
  rw [List.append_assoc, List.append_assoc, items_lparen, h _ (breaks_rparen rest), items_rparen]
  simp [Option.map_map, Function.comp_def]

/-- Reading the items leaves one operand on top of the level they started in. -/
def Pushes (is : List Item) (e : Expr) : Prop :=
  ∀ (f : Frame) (fs : List Frame), f.current = none → is.foldlM shift (f :: fs) =
    some ({ f with nots := 0, current := some (Expr.not^[f.nots] e) } :: fs)

theorem Pushes.atom (e : Expr) : Pushes [.atom e] e := by
  intro f fs hf
  simp [shift, Frame.operand, hf]

theorem foldlM_and {p : List Item × Expr} {ps : List (List Item × Expr)}
    (h : ∀ q ∈ p :: ps, Pushes q.1 q.2) (f : Frame) (fs : List Frame)
    (hf : f.current = none) (hn : f.nots = 0) :
    ∃ g, (join [.and] ((p :: ps).map Prod.fst)).foldlM shift (f :: fs) = some (g :: fs) ∧
      g.finish = some (Frame.joinOr f.alternatives
        (ps.foldl (fun a q => .and a q.2) (Frame.joinAnd f.conjuncts p.2))) := by
  have head := h p List.mem_cons_self f fs hf
  rw [hn] at head
  induction ps generalizing p f with
  | nil => exact ⟨_, head, rfl⟩
  | cons q ps ih =>
    have tail := fun r hr => h r (List.mem_cons_of_mem p hr)
    let closed : Frame := ⟨f.alternatives, some (Frame.joinAnd f.conjuncts p.2), 0, none⟩
    have next := tail q List.mem_cons_self closed fs rfl
    obtain ⟨g, hg, hfinish⟩ := ih tail closed rfl rfl next
    refine ⟨g, ?_, hfinish⟩
    rw [← hg]
    simp only [List.map_cons, join_cons_cons, List.foldlM_append, head, List.foldlM_cons]
    rfl

theorem foldlM_or {p : List Item × Expr} {ps : List (List Item × Expr)}
    (h : ∀ q ∈ p :: ps, Pushes q.1 q.2) (f : Frame) (fs : List Frame)
    (hf : f.current = none) (hn : f.nots = 0) (hc : f.conjuncts = none) :
    ∃ g, (join [.or] ((p :: ps).map Prod.fst)).foldlM shift (f :: fs) = some (g :: fs) ∧
      g.finish = some (ps.foldl (fun a q => .or a q.2) (Frame.joinOr f.alternatives p.2)) := by
  have head := h p List.mem_cons_self f fs hf
  rw [hn] at head
  induction ps generalizing p f with
  | nil =>
    refine ⟨_, head, ?_⟩
    simp [Frame.finish, hc, Frame.joinAnd]
  | cons q ps ih =>
    have tail := fun r hr => h r (List.mem_cons_of_mem p hr)
    let closed : Frame := ⟨some (Frame.joinOr f.alternatives p.2), none, 0, none⟩
    have next := tail q List.mem_cons_self closed fs rfl
    obtain ⟨g, hg, hfinish⟩ := ih tail closed rfl rfl rfl next
    refine ⟨g, ?_, hfinish⟩
    rw [← hg]
    simp only [List.map_cons, join_cons_cons, List.foldlM_append, head, List.foldlM_cons]
    simp [shift, Frame.closeOr, hc, Frame.joinAnd, closed]

theorem Pushes.group {e : Expr}
    (h : ∀ fs, ∃ g, is.foldlM shift (Frame.empty :: fs) = some (g :: fs) ∧ g.finish = some e) :
    Pushes (.lparen :: is ++ [.rparen]) e := by
  intro f fs hf
  obtain ⟨g, hg, hfinish⟩ := h (f :: fs)
  have opened : shift (f :: fs) .lparen = some (Frame.empty :: f :: fs) := by simp [shift, hf]
  have closed : shift (g :: f :: fs) .rparen =
      some ({ f with nots := 0, current := some (Expr.not^[f.nots] e) } :: fs) := by
    simp [shift, hfinish, Frame.operand, hf]
  simp [List.foldlM_cons, List.foldlM_append, opened, hg, closed]

end DxCommonGo.SqlReading

import DxCommonGo.QueryBuilder
import DxCommonGo.SqlReading

/-! How the predicates that `conditionSQL` writes are read back: each is a single atom, whatever
follows it. -/

namespace DxCommonGo.QueryReading
open GoStrings QueryModel QueryBuilder SqlSemantics SqlSyntax SqlReading

@[simp] theorem render_nil : render [] = [] := rfl
@[simp] theorem render_text (s : GoString) (t : SqlText) :
    render (.text s :: t) = s ++ render t := rfl
@[simp] theorem render_lit (s : String) (t : SqlText) :
    render (lit s :: t) = str s ++ render t := rfl
@[simp] theorem render_placeholder (n : Int) (t : SqlText) :
    render (.placeholder n :: t) = 36 :: itoa n ++ render t := rfl

theorem render_append (t u : SqlText) : render (t ++ u) = render t ++ render u :=
  List.flatMap_append

theorem render_join (sep : SqlText) (ts : List SqlText) :
    render (join sep ts) = join (render sep) (ts.map render) :=
  join_map render render_append rfl sep ts

theorem breaks_space (rest : GoString) : Breaks (32 :: rest) :=
  fun _ hb => .inl (Option.some.inj hb).symm

def comparison : Operator → Option CmpOp
  | .eq => some .eq
  | .notEq => some .ne
  | .gt => some .gt
  | .gte => some .ge
  | .lt => some .lt
  | .lte => some .le
  | .like => some .like
  | .ilike => some .ilike
  | _ => none

variable {c : CmpOp} {op : Operator}

theorem ends_comparison (h : comparison op = some c) :
    Ends (str " " ++ op.text ++ str " ") [op.text] := by
  intro rest
  cases op <;> cases h <;> rfl

theorem token_comparison (h : comparison op = some c) : token op.text = some (.op c) := by
  cases op <;> cases h <;> rfl

section Predicates

variable {column : GoString}

theorem lexes_comparison (h : comparison op = some c) (hc : plainIdentifier column = true)
    (n : Int) :
    Lexes (render [.text column, lit " ", .text op.text, lit " ", .placeholder n])
      [column, op.text, 36 :: itoa n] := by
  have text : render [.text column, lit " ", .text op.text, lit " ", .placeholder n] =
      column ++ (str " " ++ op.text ++ str " " ++ (36 :: itoa n)) := by simp
  rw [text]
  exact (lexes_column hc).append ((ends_comparison h).append (lexes_placeholder n))
    fun _ => breaks_space _

theorem lexes_column_isNull (hc : plainIdentifier column = true) :
    Lexes (render [.text column, lit " IS NULL"]) [column, str "IS", str "NULL"] := by
  have text : render [.text column, lit " IS NULL"] = column ++ str " IS NULL" := by simp
  rw [text]
  exact (lexes_column hc).append lexes_isNull fun _ => breaks_space _

theorem lexes_column_isNotNull (hc : plainIdentifier column = true) :
    Lexes (render [.text column, lit " IS NOT NULL"])
      [column, str "IS", str "NOT", str "NULL"] := by
  have text : render [.text column, lit " IS NOT NULL"] = column ++ str " IS NOT NULL" := by simp
  rw [text]
  exact (lexes_column hc).append lexes_isNotNull fun _ => breaks_space _

theorem lexes_quantified {word : String} {op quantifier : GoString}
    (ends : Ends (str word) [op, quantifier, str "("])
    (breaks : ∀ rest, Breaks (str word ++ rest)) (hc : plainIdentifier column = true) (n : Int) :
    Lexes (render [.text column, lit word, .placeholder n, lit ")"])
      [column, op, quantifier, str "(", 36 :: itoa n, str ")"] := by
  have text : render [.text column, lit word, .placeholder n, lit ")"] =
      column ++ (str word ++ (36 :: itoa n ++ str ")")) := by simp
  rw [text]
  have array := (lexes_placeholder n).append (fun rest _ => ends_rparen rest) breaks_rparen
  refine (lexes_column hc).append (ends.append array) fun rest => ?_
  rw [List.append_assoc]
  exact breaks _

theorem lexes_between (hc : plainIdentifier column = true) (m n : Int) :
    Lexes (render [.text column, lit " BETWEEN ", .placeholder m, lit " AND ", .placeholder n])
      [column, str "BETWEEN", 36 :: itoa m, str "AND", 36 :: itoa n] := by
  have text : render [.text column, lit " BETWEEN ", .placeholder m, lit " AND ", .placeholder n] =
      column ++ (str " BETWEEN " ++ (36 :: itoa m ++ (str " AND " ++ (36 :: itoa n)))) := by simp
  rw [text]
  have high := ends_and.append (lexes_placeholder n)
  have bounds := (lexes_placeholder m).append high fun _ => breaks_space _
  exact (lexes_column hc).append (ends_between.append bounds) fun _ => breaks_space _

theorem readsAs_comparison (h : comparison op = some c) (hc : plainIdentifier column = true)
    (n : Int) :
    ReadsAs (render [.text column, lit " ", .text op.text, lit " ", .placeholder n])
      [.atom (.compare c (.column column) (.param n))] := by
  have read : lexTokens [column, op.text, 36 :: itoa n] =
      some [.operand (.column column), .op c, .operand (.param n)] :=
    lexTokens_of_map (by simp [token_identifier hc, token_comparison h, token_placeholder])
  exact (lexes_comparison h hc n).readsAs read rfl

theorem readsAs_isNull (hc : plainIdentifier column = true) :
    ReadsAs (render [.text column, lit " IS NULL"]) [.atom (.isNull (.column column))] := by
  have read : lexTokens [column, str "IS", str "NULL"] =
      some [.operand (.column column), .kw .is, .kw .null] := by
    rw [lexTokens_cons (token_identifier hc)]
    rfl
  exact (lexes_column_isNull hc).readsAs read rfl

theorem readsAs_isNotNull (hc : plainIdentifier column = true) :
    ReadsAs (render [.text column, lit " IS NOT NULL"])
      [.atom (.isNotNull (.column column))] := by
  have read : lexTokens [column, str "IS", str "NOT", str "NULL"] =
      some [.operand (.column column), .kw .is, .kw .not, .kw .null] := by
    rw [lexTokens_cons (token_identifier hc)]
    rfl
  exact (lexes_column_isNotNull hc).readsAs read rfl

theorem lexTokens_quantified {op quantifier : GoString} {k : Keyword}
    (hop : token op = some (.op c)) (hk : token quantifier = some (.kw k))
    (hc : plainIdentifier column = true) (n : Int) :
    lexTokens [column, op, quantifier, str "(", 36 :: itoa n, str ")"] =
      some [.operand (.column column), .op c, .kw k, .lparen, .operand (.param n), .rparen] := by
  have lparen : token (str "(") = some .lparen := rfl
  have rparen : token (str ")") = some .rparen := rfl
  exact lexTokens_of_map (by simp [token_identifier hc, hop, hk, lparen, token_placeholder, rparen])

theorem readsAs_any (hc : plainIdentifier column = true) (n : Int) :
    ReadsAs (render [.text column, lit " = ANY(", .placeholder n, lit ")"])
      [.atom (.anyOf .eq (.column column) n)] :=
  (lexes_quantified ends_any (fun _ => breaks_space _) hc n).readsAs
    (lexTokens_quantified rfl rfl hc n) rfl

theorem readsAs_all (hc : plainIdentifier column = true) (n : Int) :
    ReadsAs (render [.text column, lit " <> ALL(", .placeholder n, lit ")"])
      [.atom (.allOf .ne (.column column) n)] :=
  (lexes_quantified ends_all (fun _ => breaks_space _) hc n).readsAs
    (lexTokens_quantified rfl rfl hc n) rfl

theorem readsAs_between (hc : plainIdentifier column = true) (m n : Int) :
    ReadsAs (render [.text column, lit " BETWEEN ", .placeholder m, lit " AND ", .placeholder n])
      [.atom (.between (.column column) (.param m) (.param n))] := by
  have between : token (str "BETWEEN") = some (.kw .between) := rfl
  have and : token (str "AND") = some (.kw .and) := rfl
  have read : lexTokens [column, str "BETWEEN", 36 :: itoa m, str "AND", 36 :: itoa n] =
      some [.operand (.column column), .kw .between, .operand (.param m), .kw .and,
        .operand (.param n)] :=
    lexTokens_of_map (by simp [token_identifier hc, between, and, token_placeholder])
  exact (lexes_between hc m n).readsAs read rfl

def noBounds : String := "1=0 /* BETWEEN requires [low, high] */"

theorem lexes_noBounds : Lexes (render [lit noBounds])
    [str "1", str "=", str "0", str "/* BETWEEN requires [low, high] */"] := by
  have text : render [lit noBounds] =
      str "1=0 " ++ str "/* BETWEEN requires [low, high] */" := by decide +kernel
  rw [text]
  have never : Ends (str "1=0 ") [str "1", str "=", str "0"] := fun _ => rfl
  have comment : Lexes (str "/* BETWEEN requires [low, high] */")
      [str "/* BETWEEN requires [low, high] */"] := by
    intro rest _
    have ended : scan (str "/* BETWEEN requires [low, high] */") rest =
        str "/* BETWEEN requires [low, high] */" :: scan [] rest :=
      scan_stop (by decide) fun _ _ => rfl
    exact ended
  exact never.append comment

theorem readsAs_noBounds :
    ReadsAs (render [lit noBounds]) [.atom (.compare .eq (.number 1) (.number 0))] := by
  have read : lexTokens [str "1", str "=", str "0", str "/* BETWEEN requires [low, high] */"] =
      some [.operand (.number 1), .op .eq, .operand (.number 0)] := by decide +kernel
  exact lexes_noBounds.readsAs read rfl

end Predicates

end DxCommonGo.QueryReading

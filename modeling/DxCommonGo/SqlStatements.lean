import DxCommonGo.SqlScanning

/-! Statements as a head and the clauses behind it, in a fixed order of their words. WHERE and
HAVING hold boolean expressions; heads and lists of names are left to the server's grammar. -/

namespace DxCommonGo.SqlStatements
open GoStrings SqlSemantics SqlSyntax SqlScanning

inductive Clause where
  | filter | group | having | order | limit | offset | lock | returning
  deriving DecidableEq, Repr

def Clause.rank : Clause → Nat
  | .filter => 0
  | .group => 1
  | .having => 2
  | .order => 3
  | .limit => 4
  | .offset => 5
  | .lock => 6
  | .returning => 7

def Clause.word : Clause → GoString
  | .filter => str "WHERE"
  | .group => str "GROUP"
  | .having => str "HAVING"
  | .order => str "ORDER"
  | .limit => str "LIMIT"
  | .offset => str "OFFSET"
  | .lock => str "FOR"
  | .returning => str "RETURNING"

def clauses : List Clause :=
  [.filter, .group, .having, .order, .limit, .offset, .lock, .returning]

def clauseOf (lexeme : GoString) : Option Clause :=
  clauses.find? fun c => c.word.map lowerByte = lexeme.map lowerByte

def sections : List GoString → List GoString × List (Clause × List GoString)
  | [] => ([], [])
  | l :: ls =>
    let rest := sections ls
    match clauseOf l with
    | none => (l :: rest.1, rest.2)
    | some c => ([], (c, rest.1) :: rest.2)

def boolean (lexemes : List GoString) : Option Expr :=
  ((lexTokens lexemes).bind predicates).bind expression

/-- What the server accepts as the head of a statement, as a list of names and as a
list of sort terms. -/
structure Grammar where
  head : List GoString → Prop
  names : List GoString → Prop
  terms : List GoString → Prop

namespace Grammar

variable (G : Grammar)

def clauseOk : Clause → List GoString → Prop
  | .filter, ls | .having, ls => (boolean ls).isSome = true
  | .group, ls => ∃ names, ls = str "BY" :: names ∧ G.names names
  | .order, ls => ∃ terms, ls = str "BY" :: terms ∧ G.terms terms
  | .limit, ls | .offset, ls => ∃ n : Int, ls = [36 :: itoa n]
  | .lock, ls => ls = [str "UPDATE"]
  | .returning, ls => G.names ls

structure Accepts (text : GoString) : Prop where
  head : G.head (sections (scan [] text)).1
  order : ((sections (scan [] text)).2.map Prod.fst).Pairwise fun c d => c.rank < d.rank
  clauses : ∀ s ∈ (sections (scan [] text)).2, G.clauseOk s.1 s.2

end Grammar

structure Fits (accepts : List GoString → Prop) (text : GoString) : Prop where
  closed : closed text = true
  free : ∀ l ∈ scan [] text, clauseOf l = none
  accepted : accepts (scan [] text)

section Composition

def clauseLexemes (cs : List (Clause × List GoString)) : List GoString :=
  cs.flatMap fun c => c.1.word :: c.2

theorem clauseOf_word (c : Clause) : clauseOf c.word = some c := by
  cases c <;> rfl

theorem sections_append {hs ls : List GoString} (h : ∀ l ∈ hs, clauseOf l = none) :
    sections (hs ++ ls) = (hs ++ (sections ls).1, (sections ls).2) := by
  induction hs with
  | nil => rfl
  | cons l hs ih =>
    rw [List.forall_mem_cons] at h
    simp only [List.cons_append, sections, h.1, ih h.2]

variable {cs : List (Clause × List GoString)}

theorem sections_clauseLexemes (h : ∀ c ∈ cs, ∀ l ∈ c.2, clauseOf l = none) :
    sections (clauseLexemes cs) = ([], cs) := by
  induction cs with
  | nil => rfl
  | cons c cs ih =>
    rw [List.forall_mem_cons] at h
    have read : clauseLexemes (c :: cs) = c.1.word :: (c.2 ++ clauseLexemes cs) := rfl
    simp only [read, sections, clauseOf_word, sections_append h.1, ih h.2, List.append_nil]

/-- A text that consists of whole clauses, or of none. -/
structure ClauseText (text : GoString) (cs : List (Clause × List GoString)) : Prop where
  closed : closed text = true
  spaced : text = [] ∨ ∃ rest, text = 32 :: rest
  lexemes : scan [] text = clauseLexemes cs
  free : ∀ c ∈ cs, ∀ l ∈ c.2, clauseOf l = none

theorem scan_append_spaced {s t : GoString} (hs : SqlScanning.closed s = true)
    (ht : t = [] ∨ ∃ rest, t = 32 :: rest) : scan [] (s ++ t) = scan [] s ++ scan [] t := by
  rcases ht with rfl | ⟨rest, rfl⟩
  · simp [scan, flush]
  · exact scan_closed hs rest

theorem closed_append_spaced {s t : GoString} (hs : SqlScanning.closed s = true)
    (ht : t = [] ∨ ∃ rest, t = 32 :: rest) (hc : SqlScanning.closed t = true) :
    SqlScanning.closed (s ++ t) = true := by
  rcases ht with rfl | ⟨rest, rfl⟩
  · rwa [List.append_nil]
  · rw [SqlScanning.closed, residue_append_space (by simpa [SqlScanning.closed] using hs)]
    exact hc

namespace ClauseText

theorem nil : ClauseText [] [] := ⟨rfl, .inl rfl, rfl, by simp⟩

theorem append {s t : GoString} {ds : List (Clause × List GoString)} (hs : ClauseText s cs)
    (ht : ClauseText t ds) : ClauseText (s ++ t) (cs ++ ds) where
  closed := closed_append_spaced hs.closed ht.spaced ht.closed
  spaced := by
    rcases hs.spaced with rfl | ⟨rest, rfl⟩
    · simpa using ht.spaced
    · exact .inr ⟨rest ++ t, rfl⟩
  lexemes := by
    rw [scan_append_spaced hs.closed ht.spaced, hs.lexemes, ht.lexemes]
    simp [clauseLexemes]
  free := List.forall_mem_append.mpr ⟨hs.free, ht.free⟩

theorem single {opening : GoString} {c : Clause} {words : List GoString} {body : GoString}
    (hscan : scan [] (32 :: opening ++ body) = c.word :: words ++ scan [] body)
    (hresidue : residue [] (32 :: opening ++ body) = residue [] body)
    (hwords : ∀ w ∈ words, clauseOf w = none) (hbody : SqlScanning.closed body = true)
    (hfree : ∀ l ∈ scan [] body, clauseOf l = none) :
    ClauseText (32 :: opening ++ body) [(c, words ++ scan [] body)] where
  closed := by
    rw [SqlScanning.closed, hresidue]
    exact hbody
  spaced := .inr ⟨opening ++ body, rfl⟩
  lexemes := by
    rw [hscan]
    simp [clauseLexemes]
  free := by simpa using fun l hl => hl.elim (hwords l) (hfree l)

end ClauseText

theorem sections_statement {head tail : GoString} (hclosed : SqlScanning.closed head = true)
    (hfree : ∀ l ∈ scan [] head, clauseOf l = none) (ht : ClauseText tail cs) :
    sections (scan [] (head ++ tail)) = (scan [] head, cs) := by
  rw [scan_append_spaced hclosed ht.spaced, ht.lexemes, sections_append hfree,
    sections_clauseLexemes ht.free, List.append_nil]

end Composition

end DxCommonGo.SqlStatements

import DxCommonGo.SqlSemantics

/-! Reading a boolean SQL text: bytes to lexemes, tokens, predicates and connectives, and an
expression. The AND of a BETWEEN is taken by the BETWEEN. Every pass is structural, so texts can be
read by evaluation. -/

namespace DxCommonGo.SqlSyntax
open GoStrings SqlSemantics

def isLetter (b : UInt8) : Bool := (65 ≤ b && b ≤ 90) || (97 ≤ b && b ≤ 122)

/-- Bytes of identifiers, keywords, numbers and `$n`; `36` is the dollar sign. -/
def isWordByte (b : UInt8) : Bool := isLetter b || isDigit b || b = 95 || b = 36 || 128 ≤ b

def isSymbolByte (b : UInt8) : Bool := (str "<>=!+-*/~%^&|").contains b

def isSpaceByte (b : UInt8) : Bool := b = 32 || (9 ≤ b && b ≤ 13)

/-- Whether a byte extends the lexeme. A comment runs to its closing mark, and a minus of an index
may follow a dollar sign. -/
def continues (cur : GoString) (b : UInt8) : Bool :=
  match cur with
  | [] => false
  | 47 :: 42 :: body => !(str "*/").isSuffixOf body
  | c :: rest =>
    if isWordByte c then isWordByte b || (c = 36 && rest.isEmpty && b = 45)
    else isSymbolByte c && isSymbolByte b

def flush : GoString → List GoString
  | [] => []
  | cur => [cur]

def start (b : UInt8) : GoString := if isSpaceByte b then [] else [b]

def scan : GoString → GoString → List GoString
  | cur, [] => flush cur
  | cur, b :: bs =>
    if continues cur b then scan (cur ++ [b]) bs else flush cur ++ scan (start b) bs

inductive Keyword where
  | and | or | not | is | null | between | any | all
  deriving DecidableEq, Repr

inductive Token where
  | operand (x : Operand)
  | op (c : CmpOp)
  | kw (k : Keyword)
  | lparen
  | rparen
  deriving DecidableEq, Repr

def keywords : List (GoString × Token) :=
  [(str "and", .kw .and), (str "or", .kw .or), (str "not", .kw .not), (str "is", .kw .is),
    (str "null", .kw .null), (str "between", .kw .between), (str "any", .kw .any),
    (str "all", .kw .all), (str "like", .op .like), (str "ilike", .op .ilike)]

def symbols : List (GoString × Token) :=
  [(str "=", .op .eq), (str "<>", .op .ne), (str ">", .op .gt), (str ">=", .op .ge),
    (str "<", .op .lt), (str "<=", .op .le), (str "(", .lparen), (str ")", .rparen)]

def isIdentifier : GoString → Bool
  | [] => false
  | b :: bs => (isLetter b || b = 95) && bs.all fun c => isLetter c || isDigit c || c = 95

/-- An unquoted identifier that is not one of the keywords, in any case. -/
def plainIdentifier (s : GoString) : Bool :=
  isIdentifier s && (keywords.lookup (s.map lowerByte)).isNone

def index (s : GoString) : Option Int :=
  match s with
  | 45 :: ds => (decimal ds).map fun n => -Int.ofNat n
  | ds => (decimal ds).map Int.ofNat

def token (s : GoString) : Option Token :=
  match s with
  | 36 :: ds => (index ds).map fun n => .operand (.param n)
  | s =>
    if plainIdentifier s then some (.operand (.column s))
    else if isIdentifier s then keywords.lookup (s.map lowerByte)
    else (symbols.lookup s).or ((decimal s).map fun n => .operand (.number n))

def isComment (s : GoString) : Bool := (str "/*").isPrefixOf s

def lexTokens (lexemes : List GoString) : Option (List Token) :=
  (lexemes.filter fun s => !isComment s).mapM token

def tokens (text : GoString) : Option (List Token) := lexTokens (scan [] text)

inductive Item where
  | atom (e : Expr)
  | and | or | not
  | lparen
  | rparen
  deriving DecidableEq, Repr

def predicates : List Token → Option (List Item)
  | [] => some []
  | .operand x :: .kw .is :: .kw .null :: ts => (predicates ts).map (.atom (.isNull x) :: ·)
  | .operand x :: .kw .is :: .kw .not :: .kw .null :: ts =>
    (predicates ts).map (.atom (.isNotNull x) :: ·)
  | .operand x :: .kw .between :: .operand low :: .kw .and :: .operand high :: ts =>
    (predicates ts).map (.atom (.between x low high) :: ·)
  | .operand x :: .op c :: .kw .any :: .lparen :: .operand (.param n) :: .rparen :: ts =>
    (predicates ts).map (.atom (.anyOf c x n) :: ·)
  | .operand x :: .op c :: .kw .all :: .lparen :: .operand (.param n) :: .rparen :: ts =>
    (predicates ts).map (.atom (.allOf c x n) :: ·)
  | .operand x :: .op c :: .operand y :: ts => (predicates ts).map (.atom (.compare c x y) :: ·)
  | .kw .and :: ts => (predicates ts).map (.and :: ·)
  | .kw .or :: ts => (predicates ts).map (.or :: ·)
  | .kw .not :: ts => (predicates ts).map (.not :: ·)
  | .lparen :: ts => (predicates ts).map (.lparen :: ·)
  | .rparen :: ts => (predicates ts).map (.rparen :: ·)
  | _ => none

/-- One open parenthesis level: the closed alternatives of an OR, the closed
operands of the current AND, the NOTs waiting, and the operand read last. -/
structure Frame where
  alternatives : Option Expr
  conjuncts : Option Expr
  nots : Nat
  current : Option Expr
  deriving DecidableEq

namespace Frame

def empty : Frame := ⟨none, none, 0, none⟩

def joinAnd : Option Expr → Expr → Expr
  | none, e => e
  | some a, e => .and a e

def joinOr : Option Expr → Expr → Expr
  | none, e => e
  | some a, e => .or a e

def operand (f : Frame) (e : Expr) : Option Frame :=
  match f.current with
  | none => some { f with nots := 0, current := some (Expr.not^[f.nots] e) }
  | some _ => none

def closeAnd (f : Frame) : Option Frame :=
  f.current.map fun e => { f with conjuncts := some (joinAnd f.conjuncts e), current := none }

def closeOr (f : Frame) : Option Frame :=
  f.current.map fun e =>
    ⟨some (joinOr f.alternatives (joinAnd f.conjuncts e)), none, 0, none⟩

def finish (f : Frame) : Option Expr :=
  f.current.map fun e => joinOr f.alternatives (joinAnd f.conjuncts e)

end Frame

def shift : List Frame → Item → Option (List Frame)
  | f :: fs, .atom e => (f.operand e).map (· :: fs)
  | f :: fs, .and => f.closeAnd.map (· :: fs)
  | f :: fs, .or => f.closeOr.map (· :: fs)
  | f :: fs, .not => if f.current.isNone then some ({ f with nots := f.nots + 1 } :: fs) else none
  | f :: fs, .lparen => if f.current.isNone then some (Frame.empty :: f :: fs) else none
  | f :: g :: fs, .rparen => do
    let e ← f.finish
    let g ← g.operand e
    return g :: fs
  | _, _ => none

def expression (items : List Item) : Option Expr := do
  match ← items.foldlM shift [Frame.empty] with
  | [f] => f.finish
  | _ => none

def parse (text : GoString) : Option Expr := do
  let ts ← tokens text
  let items ← predicates ts
  expression items

example : parse (str "a = $1 OR b BETWEEN $2 AND $3 AND c IS NOT NULL") =
    some (.or (.compare .eq (.column (str "a")) (.param 1))
      (.and (.between (.column (str "b")) (.param 2) (.param 3))
        (.isNotNull (.column (str "c"))))) := by decide

def items (text : GoString) : Option (List Item) := (tokens text).bind predicates

end DxCommonGo.SqlSyntax

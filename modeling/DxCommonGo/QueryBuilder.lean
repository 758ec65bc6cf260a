import DxCommonGo.QueryModel

/-! The statement builders of package `query` and of `dao.InsertMany`. SQL text is kept as pieces,
so that a `$n` of the builder stays apart from an identifier's; `render` is the text. The `Binder`
is the argument slice and placeholder index threaded by pointer. -/

namespace DxCommonGo.QueryBuilder
open GoStrings GoMaps QueryModel

inductive Piece where
  | text (s : GoString)
  | placeholder (n : Int)
  deriving DecidableEq

abbrev SqlText := List Piece

def Piece.render : Piece → GoString
  | .text s => s
  | .placeholder n => 36 :: itoa n

def render (t : SqlText) : GoString := t.flatMap Piece.render

def lit (s : String) : Piece := .text (str s)

structure Binder where
  args : List Value
  idx : Int
  deriving DecidableEq

def Binder.bind (b : Binder) (v : Value) : Piece × Binder :=
  (.placeholder b.idx, ⟨b.args ++ [v], b.idx + 1⟩)

def Binder.first : Binder := ⟨[], 1⟩

/-- The assertion to a two-element `[]any`; a `[]string` does not pass it. -/
def betweenBounds : Value → Option (Value × Value)
  | .anys [low, high] => some (low, high)
  | _ => none

mutual

def conditionSQL : Condition → Binder → SqlText × Binder
  | ⟨column, op, value, sub⟩, b =>
    match op with
    | .isNull => ([.text column, lit " IS NULL"], b)
    | .notNull => ([.text column, lit " IS NOT NULL"], b)
    | .in =>
      let p := b.bind value
      ([.text column, lit " = ANY(", p.1, lit ")"], p.2)
    | .notIn =>
      let p := b.bind value
      ([.text column, lit " <> ALL(", p.1, lit ")"], p.2)
    | .between =>
      match betweenBounds value with
      | some (low, high) =>
        let p := b.bind low
        let q := p.2.bind high
        ([.text column, lit " BETWEEN ", p.1, lit " AND ", q.1], q.2)
      | none => ([lit "1=0 /* BETWEEN requires [low, high] */"], b)
    | .and =>
      let p := conditionsSQL sub b
      (lit "(" :: join [lit " AND "] p.1 ++ [lit ")"], p.2)
    | .or =>
      let p := conditionsSQL sub b
      (lit "(" :: join [lit " OR "] p.1 ++ [lit ")"], p.2)
    | .eq | .notEq | .gt | .gte | .lt | .lte | .like | .ilike =>
      let p := b.bind value
      ([.text column, lit " ", .text op.text, lit " ", p.1], p.2)

def conditionsSQL : List Condition → Binder → List SqlText × Binder
  | [], b => ([], b)
  | c :: cs, b =>
    let p := conditionSQL c b
    let q := conditionsSQL cs p.2
    (p.1 :: q.1, q.2)

end

def buildConditions (conditions : List Condition) (b : Binder) : SqlText × Binder :=
  let p := conditionsSQL conditions b
  (join [lit " AND "] p.1, p.2)

def conditionClause (keyword : String) (conditions : List Condition) (b : Binder) :
    SqlText × Binder :=
  if conditions.isEmpty then ([], b)
  else
    let p := buildConditions conditions b
    (lit keyword :: p.1, p.2)

def listClause (keyword : String) (names : List GoString) : SqlText :=
  if names.isEmpty then [] else [lit keyword, .text (join (str ", ") names)]

def orderTerm (o : OrderBy) : GoString :=
  o.column ++ str " " ++ if o.desc then str "DESC" else str "ASC"

/-- A LIMIT or OFFSET clause, written only for a positive number. -/
def countClause (keyword : String) (n : Int) (b : Binder) : SqlText × Binder :=
  if 0 < n then
    let p := b.bind (.int n)
    ([lit keyword, p.1], p.2)
  else ([], b)

def buildSelect (q : SelectQuery) : SqlText × List Value :=
  let cols := if q.columns.isEmpty then str "*" else join (str ", ") q.columns
  let selectKw := if q.distinct then str "SELECT DISTINCT" else str "SELECT"
  let joins := q.joins.flatMap fun j =>
    [lit " ", .text j.type, lit " JOIN ", .text j.table, lit " ON ", .text j.on]
  let wh := conditionClause " WHERE " q.conditions Binder.first
  let having := conditionClause " HAVING " q.having wh.2
  let limit := countClause " LIMIT " q.limit having.2
  let offset := countClause " OFFSET " q.offset limit.2
  let text := [.text selectKw, lit " ", .text cols, lit " FROM ", .text q.table] ++ joins ++
    wh.1 ++ listClause " GROUP BY " q.groupBy ++ having.1 ++
    listClause " ORDER BY " (q.orderBy.map orderTerm) ++ limit.1 ++ offset.1 ++
    (if q.forUpdate then [lit " FOR UPDATE"] else [])
  (text, offset.2.args)

def bindAll : List Value → Binder → List SqlText × Binder
  | [], b => ([], b)
  | v :: vs, b =>
    let p := b.bind v
    let q := bindAll vs p.2
    ([p.1] :: q.1, q.2)

def buildInsert (q : InsertQuery) : SqlText × List Value :=
  let p := bindAll q.values Binder.first
  let text := [lit "INSERT INTO ", .text q.table, lit " (", .text (join (str ", ") q.columns),
      lit ") VALUES ("] ++ join [lit ", "] p.1 ++ [lit ")"] ++
    listClause " RETURNING " q.returning
  (text, p.2.args)

def setParts : List (GoString × Value) → Binder → List SqlText × Binder
  | [], b => ([], b)
  | (col, val) :: rest, b =>
    let p := b.bind val
    let q := setParts rest p.2
    ([.text col, lit " = ", p.1] :: q.1, q.2)

def incrementPart (col : GoString) : SqlText := [.text col, lit " = ", .text col, lit " + 1"]

def buildUpdate (ord : RangeOrder) (q : UpdateQuery) : SqlText × List Value :=
  let p := setParts (range ord 0 q.set) Binder.first
  let wh := conditionClause " WHERE " q.conditions p.2
  let text := [lit "UPDATE ", .text q.table, lit " SET "] ++
    join [lit ", "] (p.1 ++ q.increment.map incrementPart) ++ wh.1 ++
    listClause " RETURNING " q.returning
  (text, wh.2.args)

def buildDelete (q : DeleteQuery) : SqlText × List Value :=
  let wh := conditionClause " WHERE " q.conditions Binder.first
  if q.softDelete then
    ([lit "UPDATE ", .text q.table, lit " SET status = 'DELETED'"] ++ wh.1, wh.2.args)
  else ([lit "DELETE FROM ", .text q.table] ++ wh.1, wh.2.args)

def excludedPart (col : GoString) : SqlText := [.text col, lit " = EXCLUDED.", .text col]

def buildUpsert (q : UpsertQuery) : SqlText × List Value :=
  let p := bindAll q.values Binder.first
  let text := [lit "INSERT INTO ", .text q.table, lit " (", .text (join (str ", ") q.columns),
      lit ") VALUES ("] ++ join [lit ", "] p.1 ++
    [lit ") ON CONFLICT (", .text q.conflictColumn, lit ") DO UPDATE SET "] ++
    join [lit ", "] (q.updateColumns.map excludedPart) ++ listClause " RETURNING " q.returning
  (text, p.2.args)

def buildWhere (conditions : List Condition) (startIdx : Int) : SqlText × List Value :=
  if conditions.isEmpty then ([], [])
  else
    let p := buildConditions conditions ⟨[], startIdx⟩
    (p.1, p.2.args)

def joinAnd (fragments : List GoString) : GoString :=
  join (str " AND ") (fragments.filter fun f => trimSpace f ≠ [])

def buildOrderBy (orders : List OrderBy) : GoString :=
  if orders.isEmpty then [] else str "ORDER BY " ++ join (str ", ") (orders.map orderTerm)

/-- The VALUES lists of `InsertMany`, or its error for the first row whose
length is not that of the column list. -/
def insertManyRows (columns : List GoString) :
    Nat → List (List Value) → Binder → Except GoString (SqlText × Binder)
  | _, [], b => .ok ([], b)
  | i, row :: rows, b =>
    if row.length ≠ columns.length then
      .error (str "dao.InsertMany: row " ++ itoaNat i ++ str " has " ++ itoaNat row.length ++
        str " values, want " ++ itoaNat columns.length)
    else
      let p := bindAll row b
      let open_ := if 0 < i then [lit ", ", lit "("] else [lit "("]
      (insertManyRows columns (i + 1) rows p.2).map fun rest =>
        (open_ ++ join [lit ","] p.1 ++ [lit ")"] ++ rest.1, rest.2)

def insertMany (table : GoString) (columns : List GoString) (rows : List (List Value)) :
    Except GoString (Option (SqlText × List Value)) :=
  if rows.isEmpty then .ok none
  else
    (insertManyRows columns 0 rows Binder.first).map fun p =>
      some ([lit "INSERT INTO ", .text table, lit " (", .text (join (str ", ") columns),
        lit ") VALUES "] ++ p.1, p.2.args)

example : render (buildSelect
    { table := str "items"
      conditions := [eq (str "status") (.str (str "ACTIVE")),
        isIn (str "category") (.slice [.str (str "A"), .str (str "B")]),
        between (str "created_at") (.int 1) (.int 2)]
      orderBy := [⟨str "created_at", true⟩], limit := 10, offset := 20 }).1 =
    str "SELECT * FROM items WHERE status = $1 AND category = ANY($2) AND created_at BETWEEN $3 AND $4 ORDER BY created_at DESC LIMIT $5 OFFSET $6" := by
  decide +kernel

end DxCommonGo.QueryBuilder

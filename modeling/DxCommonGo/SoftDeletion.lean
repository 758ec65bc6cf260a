import DxCommonGo.DaoWrites
import DxCommonGo.ScopedReads

/-! Soft deletion. `SoftDelete` writes `status = 'DELETED'` whatever the DAO was configured with,
while reads and `Restore` use the configuration. -/

namespace DxCommonGo.SoftDeletion
open GoStrings GoMaps DxErrors QueryModel Programs PgxPool Transactions
open BaseDao DaoFinder DaoWrites QueryMeaning TableSemantics TableServer ScopedReads

variable {D T ω : Type}

section Statements

variable {B : Backend D T ω} {d : BaseDAO} {id : GoString}

end Statements

section Law

variable {B : Backend D T ω} {d : BaseDAO} {id : GoString} {pre post : List (Row D)} {row : Row D}
  {w : World ω}

end Law

section Converse

variable (d : BaseDAO)

variable {d}

end Converse

end DxCommonGo.SoftDeletion

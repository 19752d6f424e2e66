import SqlWeave.Dialect
import SqlWeave.Value.Display

/-!
# Paging

The suffix of a SELECT that keeps a window of its rows. Some dialects have no offset without a
limit and take the largest limit instead; one has no window without an order.
-/

namespace SqlWeave.Dialect

/-- The largest limit there is in the dialects of the MySQL family. -/
def largestLimit : Nat := 18446744073709551615

/-- `LIMIT` and `OFFSET`, each when it is given. -/
def limitOffset : Option String → Option String → String
  | some l, some o => " LIMIT " ++ l ++ " OFFSET " ++ o
  | some l, none => " LIMIT " ++ l
  | none, some o => " OFFSET " ++ o
  | none, none => ""

/-- The paging suffix for a limit and an offset as they are written; `skipped` is the offset that is
written where the dialect needs one, and `ordered` says whether an ORDER BY stands before. -/
def window (d : Dialect) (limit offset : Option String) (skipped : String) (ordered : Bool) : String :=
  match d with
  | .postgres => limitOffset limit offset
  | .mysql | .mariadb =>
    match limit, offset with
    | none, some o => " LIMIT " ++ toString largestLimit ++ " OFFSET " ++ o
    | _, _ => limitOffset limit offset
  | .sqlite | .sqljs =>
    match limit, offset with
    | none, some o => " LIMIT -1 OFFSET " ++ o
    | _, _ => limitOffset limit offset
  | .mssql =>
    match limit, offset with
    | none, none => ""
    | _, _ =>
      (if ordered then "" else " ORDER BY (SELECT NULL)") ++ " OFFSET " ++ skipped ++ " ROWS" ++
        (match limit with
          | some l => " FETCH NEXT " ++ l ++ " ROWS ONLY"
          | none => "")

/-- The paging suffix of a limit and an offset. -/
def paging (d : Dialect) (limit offset : Option Nat) (ordered : Bool := true) : String :=
  d.window (limit.map toString) (offset.map toString) (toString (offset.getD 0)) ordered

/-- The paging suffix of any two values, written as they are displayed; an offset that counts as false
is written as zero where one is needed. -/
def pagingValue (d : Dialect) (limit offset : Value) (ordered : Bool) : String :=
  let given (v : Value) : Option String := if v.isNull then none else some v.display
  d.window (given limit) (given offset) ((offset.orElse (.int 0)).display) ordered

end SqlWeave.Dialect

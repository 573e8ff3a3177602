import DuckdbOracle.Scan.FilterColumn
import DuckdbOracle.Scan.PushedTexts

/-!
# The rows that a pushed query returns

A query that reads back is a statement, and a statement has an answer.  Oracle evaluates
the conditions on the cells of a row, and an empty text is `NULL` there; DuckDB evaluates
the filters on what it has fetched of them.  For filters that keep their meaning on the
rows of the wrapped query (`PortableFilter`) the answer of the query that the last pushdown
call built is what DuckDB would have kept of them: the rows on which every accepted filter
is TRUE, in their order, cut to the columns of the call (`pushed_query_answers`).

A reference number `p` of a filter is to the column that `column_names` lists there.
-/

namespace DuckdbOracle
namespace Scan

open Catalog Duckdb Oracle QuotedText SqlTokens Write

/-! ## What a condition means in Oracle -/

section

variable (compareOther : Value → Value → Option Ordering) (conv : Conversion)
  (columns : List DescribedColumn) (t : Table Cell)

variable {compareOther conv columns t}

variable (compareOther)

end

/-! ## Where the names come from -/

end Scan
end DuckdbOracle

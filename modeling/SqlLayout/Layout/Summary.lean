import SqlLayout.Tree.Basic

/-!
# Statement summaries

One line that says what a statement is about.
-/

namespace SqlLayout.Layout

open SqlLayout.Tree

/-- The name of a table source in a summary. -/
def sourceName : Source → String
  | .table table => table.qualifiedName
  | .derived _ _ _ => "(subquery)"

/-- The summary of a query: its columns, its sources and its joins. -/
def querySummary (query : Query) : String :=
  let sources := ", ".intercalate (query.sources.map sourceName)
  toString query.columns.length ++ " column(s)" ++
    (if sources.isEmpty then "" else " from " ++ sources) ++
    if query.joins.isEmpty then "" else ", " ++ toString query.joins.length ++ " join(s)"

/-- One line about a statement. -/
def summary : Statement → String
  | .select query => querySummary query
  | .create node => (if node.replace then "OR REPLACE " else "") ++ node.target.qualifiedName
  | .insert node =>
    "into " ++ node.target.qualifiedName ++ " from " ++
      if node.query.isSome then "SELECT" else toString node.rows.length ++ " row(s)"
  | .update node => node.target.qualifiedName
  | .delete node => node.target.qualifiedName
  | .grant node =>
    match node.verbatim with
    | some text => text
    | none =>
      node.privilege.getD "None" ++ " on " ++ node.onName.getD "None" ++ " to " ++
        node.toName.getD "None"
  | .comment node => (node.text.allLines.head?).getD ""
  | .unrendered node => node.sql

end SqlLayout.Layout

import SqlLayout.Layout.Doc
import SqlLayout.Tree.Basic

/-!
# Layout of queries

Keywords and function names are upper case and column names lower case.  Every projected column
stands on its own line, as does every clause; a nested query is indented one level inside its
parentheses.

## Implementation notes

An expression is laid out in two ways at once: inline, and as the operands of its outermost chain of
`AND` and `OR`, which conditions put on lines of their own.
-/

namespace SqlLayout.Layout

open SqlLayout.Tree

/-- The start of the lines of all projected columns but the first. -/
def columnContinuation : String := "     , "

/-- The start of the lines of a case expression but the first. -/
def caseContinuation : String := "            "

/-- A string literal in quotes. -/
def quoteString (value : String) : String :=
  "'" ++ String.ofList (value.toList.flatMap fun c => if c == '\x27' then [c, c] else [c]) ++ "'"

/-- A data type in upper case with its parameters. -/
def dataTypeText (type : DataType) : String :=
  type.name.upperCase ++
    match type.length, type.scale with
    | some length, some scale => "(" ++ length ++ "," ++ scale ++ ")"
    | some length, none => "(" ++ length ++ ")"
    | none, _ => ""

/-- The text of an optional part, unless it is empty. -/
def nonEmpty (part : Option String) : Option String :=
  part.filter (!·.isEmpty)

/-- The name of a table in a FROM list: lower case, unless a part is quoted. -/
def lowerName (table : TableRef) : String :=
  if table.quoted then table.qualifiedName else table.qualifiedName.lowerCase

/-- What follows a table: its label, and its pivot clause on a line of its own. -/
def tableTail (label pivot : Option String) : List Doc :=
  ((nonEmpty label).map fun text => Doc.text (" " ++ text)).toList ++
    match nonEmpty pivot with
    | some text => [Doc.hardline, .text text]
    | none => []

/-- A table under the given name. -/
def tableDoc (name : String) (table : TableRef) : Doc :=
  .concat (.text name :: tableTail table.label table.pivot)

/-- The direction and the place of missing values of an ordering key. -/
def orderTail (descending : Option Bool) (nulls : Option NullsPlace) : List Doc :=
  (match descending with
    | some true => [Doc.text " DESC"]
    | some false => [Doc.text " ASC"]
    | none => []) ++
  match nulls with
    | some .first => [Doc.text " NULLS FIRST"]
    | some .last => [Doc.text " NULLS LAST"]
    | none => []

/-- The two layouts of an expression: inline, and as the operands of its outermost chain of `AND`
and `OR`, each with the operator before it. -/
structure Shape where
  inline : Doc
  operands : List (String × Doc)

/-- The shape of an expression that is no chain. -/
def Shape.single (parts : List Doc) : Shape :=
  { inline := .concat parts, operands := [("", .concat parts)] }

/-- Whether an operator makes a chain that conditions break into lines. -/
def isChainOperator (operator : String) : Bool :=
  operator == "AND" || operator == "OR"

/-- The operands of a chain, given those of its two sides. -/
def chainOperands (operator : String) (left right : List (String × Doc)) : List (String × Doc) :=
  left ++ match right with
    | [] => []
    | (_, first) :: rest => (operator, first) :: rest

/-- The shape of a binary expression. -/
def binaryShape (operator : String) (left right : Shape) : Shape :=
  let inline := Doc.concat [left.inline, .text (" " ++ operator ++ " "), right.inline]
  { inline := inline
    operands :=
      if isChainOperator operator then chainOperands operator left.operands right.operands
      else [("", inline)] }

/-- A condition after its keyword: each further operand of a chain goes on a line of its own. -/
def conditionDoc (shape : Shape) : Doc :=
  .concat <| match shape.operands with
    | [] => []
    | (_, first) :: rest =>
      [Doc.text " ", first] ++ rest.flatMap fun (operator, operand) =>
        [Doc.hardline, .text "  ", .text operator, .text " ", operand]

/-- A query between parentheses, indented one level. -/
def nestedDoc (query : Doc) : List Doc :=
  [.indent (.concat [.hardline, query]), .hardline]

/-- The layout of a case expression: one line when there is one branch and a default. -/
def caseDoc (operand : Option Doc) (branches : List Doc) (otherwise : Option Doc) : List Doc :=
  let head : List Doc := .text "CASE" :: match operand with
    | some doc => [Doc.text " ", doc]
    | none => []
  let parts := branches ++ (otherwise.map fun doc => Doc.concat [.text "ELSE ", doc]).toList
  if branches.length == 1 && otherwise.isSome then
    [.concat head, .text " ", .join (.text " ") parts, .text " END"]
  else
    [.concat head] ++
      (match parts with
        | [] => []
        | first :: rest =>
          [Doc.text " ", first] ++ rest.flatMap fun part =>
            [Doc.hardline, .text caseContinuation, part]) ++
      [Doc.hardline, .text caseContinuation, .text "END"]

/-- The layout of a window: what is not given is left out. -/
def windowDoc (function : Doc) (partition order : List Doc) (frame : Option String) : List Doc :=
  let parts : List Doc :=
    (if partition.isEmpty then []
      else [Doc.concat [.text "PARTITION BY ", .commas partition]]) ++
    (if order.isEmpty then [] else [Doc.concat [.text "ORDER BY ", .commas order]]) ++
    ((nonEmpty frame).map Doc.text).toList
  [function, .text " OVER (", .join (.text " ") parts, .text ")"]

/-- The layouts of the parts of a query, in the order in which they are printed. -/
structure QueryParts where
  ctes : List Doc
  distinct : Bool
  columns : List Doc
  sources : List Doc
  joins : List Doc
  filter : Option Doc
  groupBy : List Doc
  groupByAll : Bool
  having : Option Doc
  qualify : Option Doc
  orderBy : List Doc
  limit : Option Doc
  offset : Option Doc
  next : Option (String × Doc)

/-- A clause on a line of its own. -/
def clause (keyword : String) (body : Doc) : List Doc :=
  [.hardline, .text keyword, body]

/-- A clause with a list, left out when the list is empty. -/
def listClause (keyword : String) (parts : List Doc) : List Doc :=
  if parts.isEmpty then [] else clause keyword (.commas parts)

/-- A clause that is left out when it is missing. -/
def optionalClause (keyword : String) : Option Doc → List Doc
  | some body => clause keyword body
  | none => []

/-- The WITH block, one named query after the other. -/
def withDoc : List Doc → List Doc
  | [] => []
  | first :: rest =>
    [.concat ([Doc.text "WITH ", first] ++
      rest.flatMap fun cte => [Doc.hardline, .text ", ", cte]), .hardline]

/-- The projected columns, each further one on a line of its own. -/
def columnsDoc : List Doc → List Doc
  | [] => []
  | first :: rest =>
    [Doc.text " ", first] ++ rest.flatMap fun column =>
      [Doc.hardline, .text columnContinuation, column]

/-- Puts the parts of a query together, without the terminator. -/
def QueryParts.doc (parts : QueryParts) : Doc :=
  .concat <|
    withDoc parts.ctes ++
    [Doc.text (if parts.distinct then "SELECT DISTINCT" else "SELECT")] ++
    columnsDoc parts.columns ++
    listClause "FROM " parts.sources ++
    (parts.joins.flatMap fun join => [Doc.hardline, join]) ++
    optionalClause "WHERE" parts.filter ++
    (if parts.groupByAll then [Doc.hardline, .text "GROUP BY ALL"]
      else listClause "GROUP BY " parts.groupBy) ++
    optionalClause "HAVING" parts.having ++
    optionalClause "QUALIFY" parts.qualify ++
    listClause "ORDER BY " parts.orderBy ++
    optionalClause "LIMIT " parts.limit ++
    optionalClause "OFFSET " parts.offset ++
    match parts.next with
    | some (operator, query) => [Doc.hardline, .text operator, .hardline, query]
    | none => []

mutual

/-- The shape of an expression. -/
def exprShape : Expr → Shape
  | .column name qualifier quoted =>
    let name := if quoted then name else name.lowerCase
    .single [.text <| match nonEmpty qualifier with
      | some table => table ++ "." ++ name
      | none => name]
  | .literal value kind => .single [.text (if kind == .string then quoteString value else value)]
  | .star qualifier =>
    .single [.text <| match nonEmpty qualifier with
      | some table => table ++ ".*"
      | none => "*"]
  | .call name args bare =>
    if bare then .single [.text name.upperCase]
    else .single [.text name.upperCase, .text "(", .commas (exprDocs args), .text ")"]
  | .aggregate name argument distinct =>
    .single <|
      [Doc.text name.upperCase, .text "("] ++ (if distinct then [Doc.text "DISTINCT "] else []) ++
      ((optionalShape argument).map Shape.inline).toList ++ [Doc.text ")"]
  | .index base index => .single [(exprShape base).inline, .text ("[" ++ toString index ++ "]")]
  | .binary operator left right => binaryShape operator (exprShape left) (exprShape right)
  | .unary operator operand =>
    if operator == "-" then .single [.text "-", (exprShape operand).inline]
    else .single [.text operator, .text " ", (exprShape operand).inline]
  | .paren inner => .single [.text "(", (exprShape inner).inline, .text ")"]
  | .between subject low high negated =>
    .single [(exprShape subject).inline, .text (if negated then " NOT BETWEEN " else " BETWEEN "),
      (exprShape low).inline, .text " AND ", (exprShape high).inline]
  | .inList subject values negated =>
    .single [(exprShape subject).inline, .text (if negated then " NOT IN (" else " IN ("),
      .commas (exprDocs values), .text ")"]
  | .inQuery subject query negated =>
    .single [(exprShape subject).inline, .text (if negated then " NOT IN (" else " IN ("),
      .concat (nestedDoc (queryDoc query)), .text ")"]
  | .isNull subject negated =>
    .single [(exprShape subject).inline, .text (if negated then " IS NOT NULL" else " IS NULL")]
  | .existsIn query negated =>
    .single [.text (if negated then "NOT EXISTS (" else "EXISTS ("),
      .concat (nestedDoc (queryDoc query)), .text ")"]
  | .caseOf operand branches otherwise =>
    .single <| caseDoc ((optionalShape operand).map Shape.inline) (branchDocs branches)
      ((optionalShape otherwise).map Shape.inline)
  | .cast operand type shorthand safe =>
    if shorthand then .single [(exprShape operand).inline, .text ("::" ++ dataTypeText type)]
    else .single [.text (if safe then "TRY_CAST(" else "CAST("), (exprShape operand).inline,
      .text (" AS " ++ dataTypeText type ++ ")")]
  | .window function partition order frame =>
    .single <| windowDoc (exprShape function).inline (exprDocs partition) (orderDocs order) frame
  | .subquery query => .single [.text "(", .concat (nestedDoc (queryDoc query)), .text ")"]
  | .raw sql => .single [.text sql]

/-- The inline layouts of expressions. -/
def exprDocs : List Expr → List Doc
  | [] => []
  | e :: rest => (exprShape e).inline :: exprDocs rest

/-- The shape of an expression that may be missing. -/
def optionalShape : Option Expr → Option Shape
  | none => none
  | some e => some (exprShape e)

/-- The branches of a case expression. -/
def branchDocs : List Branch → List Doc
  | [] => []
  | .mk condition result :: rest =>
    .concat [.text "WHEN ", (exprShape condition).inline, .text " THEN ", (exprShape result).inline]
      :: branchDocs rest

/-- The keys of an ordering. -/
def orderDocs : List OrderItem → List Doc
  | [] => []
  | .mk key descending nulls :: rest =>
    .concat ((exprShape key).inline :: orderTail descending nulls) :: orderDocs rest

/-- The projected columns. -/
def itemDocs : List SelectItem → List Doc
  | [] => []
  | .mk value label :: rest =>
    .concat ((exprShape value).inline ::
      ((nonEmpty label).map fun text => Doc.text (" AS " ++ text)).toList) :: itemDocs rest

/-- The entries of a FROM list. -/
def sourceDocs : List Source → List Doc
  | [] => []
  | .table table :: rest => tableDoc (lowerName table) table :: sourceDocs rest
  | .derived label pivot query :: rest =>
    .concat ([Doc.text "(", .concat (nestedDoc (queryDoc query)), .text ")"] ++
      tableTail label pivot) :: sourceDocs rest

/-- A table source on its own: the name of a table keeps its case. -/
def sourceDoc : Source → Doc
  | .table table => tableDoc table.qualifiedName table
  | .derived label pivot query =>
    .concat ([Doc.text "(", .concat (nestedDoc (queryDoc query)), .text ")"] ++
      tableTail label pivot)

/-- A join with its condition or its common columns. -/
def joinDoc : Join → Doc
  | .mk keyword source condition shared =>
    .concat <|
      [Doc.text keyword, .text " ", sourceDoc source] ++
      match optionalShape condition with
      | some shape => [Doc.text " ON ", shape.inline]
      | none =>
        if shared.isEmpty then [] else [Doc.text (" USING(" ++ ", ".intercalate shared ++ ")")]

/-- The joins of a query. -/
def joinDocs : List Join → List Doc
  | [] => []
  | join :: rest => joinDoc join :: joinDocs rest

/-- The named queries of a WITH block. -/
def cteDocs : List Cte → List Doc
  | [] => []
  | .mk name columns query :: rest =>
    .concat ([Doc.text name] ++
      (if columns.isEmpty then [] else [Doc.text (" (" ++ ", ".intercalate columns ++ ")")]) ++
      [Doc.text " AS (", .concat (nestedDoc (queryDoc query)), .text ")"]) :: cteDocs rest

/-- A query without its terminator. -/
def queryDoc : Query → Doc
  | { arrayAccesses := _, ctes, distinct, columns, sources, joins, filter, groupBy,
      groupByAll, having, qualify, orderBy, limit, offset, setOperator, next } =>
    QueryParts.doc
      { ctes := cteDocs ctes
        distinct := distinct
        columns := itemDocs columns
        sources := sourceDocs sources
        joins := joinDocs joins
        filter := (optionalShape filter).map conditionDoc
        groupBy := exprDocs groupBy
        groupByAll := groupByAll
        having := (optionalShape having).map conditionDoc
        qualify := (optionalShape qualify).map conditionDoc
        orderBy := orderDocs orderBy
        limit := (optionalShape limit).map Shape.inline
        offset := (optionalShape offset).map Shape.inline
        next := match nonEmpty setOperator, optionalQueryDoc next with
          | some operator, some query => some (operator, query)
          | _, _ => none }

/-- A query that may be missing. -/
def optionalQueryDoc : Option Query → Option Doc
  | none => none
  | some query => some (queryDoc query)

end

/-- The inline layout of an expression. -/
def exprDoc (e : Expr) : Doc :=
  (exprShape e).inline

end SqlLayout.Layout

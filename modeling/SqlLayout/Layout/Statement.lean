import SqlLayout.Layout.Query

/-!
# Layout of statements

Every statement ends with its terminator, which stands on a line of its own after multi-line
statements.
-/

namespace SqlLayout.Layout

open SqlLayout.Tree

/-- A name in lower case, unless it is quoted. -/
def lowerIdentifier (name : String) : String :=
  match name.toList with
  | c :: _ => if c == '\x22' || c == '\x60' || c == '[' then name else name.lowerCase
  | [] => name

/-- The name of a view: qualified names are lower case, unless quoted; bare names keep their
case. -/
def viewName (table : TableRef) : String :=
  if (nonEmpty table.schemaName).isSome && !table.quoted then table.qualifiedName.lowerCase
  else table.qualifiedName

/-- The terminator on a line of its own. -/
def terminator : List Doc :=
  [.hardline, .text ";"]

/-- A default value: a keyword function gets parentheses. -/
def defaultDoc (value : Expr) : Doc :=
  match value with
  | .call name _ true => .text (name.upperCase ++ "()")
  | e => exprDoc e

/-- A column definition of a created table. -/
def columnDefDoc (column : ColumnDef) : Doc :=
  .concat <|
    [Doc.text (lowerIdentifier column.name)] ++
    (column.type.map fun type => Doc.text (" " ++ dataTypeText type)).toList ++
    (if column.primaryKey then [Doc.text " PRIMARY KEY"] else []) ++
    (if column.notNull then [Doc.text " NOT NULL"] else []) ++
    (match column.default with
      | some value => [Doc.text " DEFAULT ", defaultDoc value]
      | none => []) ++
    (column.comment.map fun text => Doc.text (" COMMENT " ++ quoteString text)).toList ++
    (match column.references with
      | some reference =>
        [Doc.text (" REFERENCES " ++ reference.table)] ++
        (if reference.columns.isEmpty then []
          else [Doc.text ("(" ++ ", ".intercalate reference.columns ++ ")")])
      | none => []) ++
    column.extraConstraints.map fun text => Doc.text (" " ++ text)

/-- The query of a created object, if there is one. -/
def bodyDoc (query : Option Query) : List Doc :=
  (query.map queryDoc).toList

/-- One refresh property of a dynamic table on a line of its own. -/
def propertyDoc (name : String) (value : Option String) : List Doc :=
  match value with
  | some text => [.hardline, .text (name ++ " = " ++ text)]
  | none => []

/-- The refresh properties of a dynamic table in their fixed order. -/
def dynamicOptionsDoc (options : Placeholder.DynamicTable) : List Doc :=
  propertyDoc "TARGET_LAG" (options.targetLag.map quoteString) ++
  propertyDoc "REFRESH_MODE" (nonEmpty options.refreshMode) ++
  propertyDoc "INITIALIZE" (nonEmpty options.initialMode) ++
  propertyDoc "WAREHOUSE" (nonEmpty options.warehouse)

/-- The column definitions of a created table, one per line, with the primary key after them. -/
def columnDefsDoc (columns : List ColumnDef) (primaryKey : List String) : List Doc :=
  match columns with
  | [] => []
  | first :: rest =>
    let definitions : List Doc :=
      [Doc.hardline, .text "  ", columnDefDoc first] ++
      (rest.flatMap fun column => [Doc.hardline, .text ", ", columnDefDoc column]) ++
      if primaryKey.isEmpty then []
      else
        [Doc.hardline, .text (", PRIMARY KEY (" ++
          ", ".intercalate (primaryKey.map lowerIdentifier) ++ ")")]
    [.text " (", .indent (.concat definitions), .hardline, .text ")"]

/-- A statement that creates an object. -/
def createDoc (node : Create) : Doc :=
  .concat <|
    [Doc.text "CREATE "] ++ (if node.replace then [Doc.text "OR REPLACE "] else []) ++
    [Doc.text (node.kind.keyword ++ " ")] ++
    (if node.ifNotExists then [Doc.text "IF NOT EXISTS "] else []) ++
    match node.kind with
    | .schema => [Doc.text node.target.qualifiedName, .text ";"]
    | .dynamicTable =>
      [Doc.text (viewName node.target)] ++ ((node.dynamicOptions.map dynamicOptionsDoc).getD []) ++
      [Doc.hardline, .text "AS", .hardline] ++ bodyDoc node.query ++ terminator
    | .view =>
      [Doc.text (viewName node.target), .text " AS", .hardline] ++ bodyDoc node.query ++ terminator
    | .table =>
      [Doc.text (lowerName node.target)] ++
      (match node.like with
        | some table => [Doc.text " LIKE ", .text table.qualifiedName]
        | none => []) ++
      columnDefsDoc node.columns node.primaryKey ++
      (match node.query with
        | some query => [Doc.text " AS", .hardline, queryDoc query]
        | none => []) ++
      terminator

/-- The column list of an insertion: one line for at most two columns in front of a query without
named queries, else one column per line. -/
def insertColumnsDoc (columns : List String) (query : Option Query) : List Doc :=
  if columns.isEmpty then []
  else if columns.length ≤ 2 && !(query.any fun q => !q.ctes.isEmpty) then
    [.text (" (" ++ ", ".intercalate columns ++ ")")]
  else
    [.text " (", .hardline, .text "      ",
      .join (.concat [.hardline, .text "    , "]) (columns.map Doc.text), .hardline, .text ")"]

/-- The rows of an insertion, one per line. -/
def rowsDoc (rows : List (List Expr)) : List Doc :=
  let row (values : List Expr) : List Doc := [.text "(", .commas (exprDocs values), .text ")"]
  match rows with
  | [] => []
  | first :: rest =>
    [Doc.hardline, .text "VALUES "] ++ row first ++
      rest.flatMap fun values => [Doc.hardline, .text columnContinuation] ++ row values

/-- A statement that inserts rows. -/
def insertDoc (node : Insert) : Doc :=
  .concat <|
    [Doc.text (if node.overwrite then "INSERT OVERWRITE INTO " else "INSERT INTO "),
      .text node.target.qualifiedName] ++
    insertColumnsDoc node.columns node.query ++
    (match node.query with
      | some query => [Doc.hardline, queryDoc query]
      | none => rowsDoc node.rows) ++
    terminator

/-- The assignments of an update, one per line. -/
def assignmentsDoc (assignments : List Assignment) : List Doc :=
  let assignment (item : Assignment) : List Doc :=
    [exprDoc item.column.expr, .text " = ", exprDoc item.value]
  match assignments with
  | [] => []
  | first :: rest =>
    [Doc.hardline, .text "   SET "] ++ assignment first ++
      rest.flatMap fun item => [Doc.hardline, .text columnContinuation] ++ assignment item

/-- The condition of an update or a deletion. -/
def filterDoc (filter : Option Expr) : List Doc :=
  optionalClause "WHERE" (filter.map fun e => conditionDoc (exprShape e))

/-- A statement that updates a table. -/
def updateDoc (node : Update) : Doc :=
  .concat <|
    [Doc.text "UPDATE ", sourceDoc (.table node.target)] ++ assignmentsDoc node.assignments ++
    listClause "FROM " (sourceDocs node.sources) ++ filterDoc node.filter ++ terminator

/-- A statement that deletes from a table. -/
def deleteDoc (node : Delete) : Doc :=
  .concat <|
    [Doc.text "DELETE FROM ", sourceDoc (.table node.target)] ++
    listClause "USING " (node.sources.map sourceDoc) ++ filterDoc node.filter ++ terminator

/-- A part of a grant as it is printed; a missing part is named so. -/
def grantPart (part : Option String) : String :=
  part.getD "None"

/-- The text of a grant. -/
def grantText (node : Grant) : String :=
  match node.verbatim with
  | some text => if text.endsWith ";" then text else text ++ ";"
  | none =>
    "GRANT " ++ grantPart node.privilege ++ " ON " ++ grantPart node.onType ++ " "
      ++ grantPart node.onName ++
      (match nonEmpty node.inType with
        | some kind => " IN " ++ kind ++ " " ++ grantPart node.inName
        | none => "") ++
      " TO " ++ grantPart node.toType ++ " " ++ grantPart node.toName ++ ";"

/-- Comment lines without the blanks around them; blank lines are left out. -/
def commentDoc (node : Comment) : Doc :=
  .join .hardline <|
    (Text.lines node.text.toList).filterMap fun line =>
      let stripped := Text.strip line
      if stripped.isEmpty then none else some (.text (String.ofList stripped))

/-- The layout of a statement; a statement that is not laid out has none. -/
def statementDoc? : Statement → Option Doc
  | .select query => some (.concat (queryDoc query :: terminator))
  | .create node => some (createDoc node)
  | .insert node => some (insertDoc node)
  | .update node => some (updateDoc node)
  | .delete node => some (deleteDoc node)
  | .grant node => some (.text (grantText node))
  | .comment node => some (commentDoc node)
  | .unrendered _ => none

/-- The line breaks between two printed statements: one after a comment and between grants, else
two. -/
def separator (previous current : Statement) : List Doc :=
  match previous, current with
  | .comment _, _ => [.hardline]
  | .grant _, .grant _ => [.hardline]
  | _, _ => [.hardline, .hardline]

/-- The layouts of statements after a printed one, with the line breaks before each. -/
def documentItems (previous : Option Statement) : List Statement → List Doc
  | [] => []
  | statement :: rest =>
    match statementDoc? statement with
    | none => documentItems previous rest
    | some doc =>
      ((previous.map fun p => separator p statement).getD []) ++ doc ::
        documentItems (some statement) rest

/-- The layout of a list of statements. -/
def documentDoc (statements : List Statement) : Doc :=
  .concat (documentItems none statements)

/-- The statements that are not laid out. -/
def dropped (statements : List Statement) : List Unrendered :=
  statements.filterMap fun
    | .unrendered node => some node
    | _ => none

/-- Prints statements; the text ends with a line feed unless it is empty. -/
def printStatements (tabWidth : Nat) (statements : List Statement) : String :=
  let text := (documentDoc statements).render tabWidth
  if text.isEmpty then "" else text ++ "\n"

/-- Prints statements, and refuses the first one that has no layout when that is asked for. -/
def print (tabWidth : Nat) (strict : Bool) (statements : List Statement) :
    Except Unrendered String :=
  match strict, dropped statements with
  | true, node :: _ => .error node
  | _, _ => .ok (printStatements tabWidth statements)

end SqlLayout.Layout

import SearchIndex.Search.Request
import SearchIndex.Search.Sanitize
import SearchIndex.Sql.Quoted

/-!
Contract: the statements that answer a search.

`Request.query` selects a page of ranked rows, `Request.countQuery` the number of all rows that
match. Both check the request first, and both look for the same expression: the sanitized words,
behind a filter if only some columns are searched.
-/

namespace SearchIndex.Search

inductive RankingParameter where
  | k1
  | b
deriving DecidableEq, Repr

def RankingParameter.name : RankingParameter → String
  | .k1 => "k1"
  | .b => "b"

/-- Why a search cannot be made. -/
inductive RequestError where
  | emptyQuery
  | zeroLimit
  | filterColumn (name : String)
  | rankingRange (parameter : RankingParameter) (value : Float)
  | zeroSnippetTokens
deriving Repr

/-- Reals in messages: no exponent, and no point in whole numbers. -/
def RequestError.realFormat : Decimal.RealFormat where
  tie := .up
  positional := none
  keepPoint := false
  undefined := "NaN"
  infinite := "inf"

def RequestError.message : RequestError → String
  | .emptyQuery =>
    "search query is empty after removing disallowed characters; enter words to search for"
  | .zeroLimit => "limit must be a positive integer"
  | .filterColumn name => "invalid search column: '" ++ name ++ "'"
  | .rankingRange parameter value =>
    "invalid bm25 parameter " ++ parameter.name ++ ": " ++ realFormat.render value
  | .zeroSnippetTokens => "snippet token count must be a positive integer"

/-- Reals in statements: whole numbers keep `.0`, and an exponent is written below `1e-4` and from
`1e16` on. -/
def sqlRealFormat : Decimal.RealFormat where
  tie := .up
  positional := some (-3, 16)
  keepPoint := true
  undefined := "NaN"
  infinite := "inf"

namespace Request

/-- The filter in front of an expression that is looked for in some columns only. -/
def columnFilter (columns : List String) : String :=
  "\x7b" ++ Text.joined " " columns ++ "\x7d : "

/-- The expression that a request looks for. -/
def matchText (request : Request) : Except RequestError String :=
  if request.limit = 0 then .error .zeroLimit
  else
    let text := sanitize request.query
    if text = "" then .error .emptyQuery
    else match request.columns with
      | none => .ok text
      | some [] => .error (.filterColumn "")
      | some columns =>
        match columns.find? fun column => !Sql.isBare column with
        | some column => .error (.filterColumn column)
        | none => .ok (columnFilter columns ++ text)

/-- The condition on the rows of an index. -/
def condition (table expression : String) : String :=
  Sql.identifier table ++ " MATCH " ++ Sql.literal expression

def rankText (request : Request) (table : String) : Except RequestError String :=
  match request.ranking with
  | .standard => .ok ("bm25(" ++ Sql.identifier table ++ ")")
  | .custom =>
    let k1 := request.k1.getD standardK1
    let b := request.b.getD standardB
    if !Decimal.isFinite k1 || k1 < 0 then .error (.rankingRange .k1 k1)
    else if 0 ≤ b && b ≤ 1 then
      .ok ("bm25(" ++ Sql.identifier table ++ ", " ++ sqlRealFormat.render k1 ++ ", " ++
        sqlRealFormat.render b ++ ")")
    else .error (.rankingRange .b b)

/-- The excerpt of a row. -/
def snippetText (table : String) (style : SnippetStyle) : String :=
  "snippet(" ++ Sql.identifier table ++ ", -1, " ++ Sql.literal style.startMark ++ ", " ++
    Sql.literal style.endMark ++ ", " ++ Sql.literal style.ellipsis ++ ", " ++
    Decimal.natural style.tokenCount.toNat ++ ")"

/-- The excerpt as a further result column, if it is asked for. -/
def snippetColumn (request : Request) (table : String) : Except RequestError String :=
  if !request.includeSnippet then .ok ""
  else if request.snippetStyle.tokenCount = 0 then .error .zeroSnippetTokens
  else .ok (", " ++ snippetText table request.snippetStyle ++ " AS snippet")

/-- The statement that selects a page of ranked rows. -/
def statement (request : Request) (table : String) : Except RequestError String := do
  let expression ← request.matchText
  let rank ← request.rankText table
  let snippet ← request.snippetColumn table
  .ok ("SELECT *, " ++ rank ++ " AS rank" ++ snippet ++ " FROM " ++ Sql.identifier table ++
    " WHERE " ++ condition table expression ++ " ORDER BY rank LIMIT " ++
    Decimal.natural request.limit.toNat ++ " OFFSET " ++
    Decimal.natural request.offset.toNat ++ ";")

def countStatement (request : Request) (table : String) : Except RequestError String := do
  let expression ← request.matchText
  .ok ("SELECT COUNT(*) AS total FROM " ++ Sql.identifier table ++ " WHERE " ++
    condition table expression ++ ";")

def checkColumns (request : Request) (available : List String) : Except RequestError Unit :=
  match (request.columns.getD []).find? fun column => !available.contains column with
  | some column => .error (.filterColumn column)
  | none => .ok ()

end Request

end SearchIndex.Search

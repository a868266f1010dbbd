import SearchIndex.Json.Decode

/-!
Contract: what is asked of an index.

A request holds the words to look for, the columns to look in, a page of the results, how they are
ranked, and whether each comes with an excerpt. Ranking parameters and the marks of excerpts may be
left open.
-/

namespace SearchIndex.Search

open Json

/-- How results are ranked. -/
inductive Ranking where
  /-- With the built-in parameters. -/
  | standard
  /-- With the parameters of the request. -/
  | custom
deriving DecidableEq, Repr

def Ranking.name : Ranking → String
  | .standard => "bm25"
  | .custom => "bm25custom"

def Ranking.ofName (name : String) : Ranking :=
  if name = Ranking.standard.name then .standard else .custom

def Ranking.names : List String := [Ranking.standard.name, Ranking.custom.name]

/-- The weight of repeated terms where a request leaves it open. -/
def standardK1 : Float := 1.2

/-- The weight of the length of a text where a request leaves it open. -/
def standardB : Float := 0.75

/-- The size of a page where a request leaves it open. -/
def standardLimit : UInt32 := 50

/-- The form of an excerpt, as far as it is fixed. -/
structure SnippetOptions where
  /-- What stands before a term that was found. -/
  startMark : Option String
  /-- What stands after it. -/
  endMark : Option String
  /-- What stands for text that is left out. -/
  ellipsis : Option String
  /-- The most terms of an excerpt. -/
  tokenCount : Option UInt32
deriving DecidableEq, Repr

/-- The form of an excerpt. -/
structure SnippetStyle where
  startMark : String
  endMark : String
  ellipsis : String
  tokenCount : UInt32
deriving DecidableEq, Repr

/-- The usual form of an excerpt. -/
def SnippetStyle.standard : SnippetStyle := ⟨"<mark>", "</mark>", "...", 32⟩

namespace SnippetOptions

/-- Nothing fixed. -/
def unset : SnippetOptions := ⟨none, none, none, none⟩

/-- The options with what is open filled in. -/
def fill (options : SnippetOptions) (style : SnippetStyle) : SnippetOptions where
  startMark := some (options.startMark.getD style.startMark)
  endMark := some (options.endMark.getD style.endMark)
  ellipsis := some (options.ellipsis.getD style.ellipsis)
  tokenCount := some (options.tokenCount.getD style.tokenCount)

/-- The form of an excerpt, where what is open has its usual form. -/
def style (options : SnippetOptions) : SnippetStyle where
  startMark := options.startMark.getD SnippetStyle.standard.startMark
  endMark := options.endMark.getD SnippetStyle.standard.endMark
  ellipsis := options.ellipsis.getD SnippetStyle.standard.ellipsis
  tokenCount := options.tokenCount.getD SnippetStyle.standard.tokenCount

def record : Record Json SnippetOptions where
  name := "SnippetOptions"
  start := unset
  fields := [
    ⟨"startMark", false, fun draft document => do
      .ok { draft with startMark := ← document.asOption asString }⟩,
    ⟨"endMark", false, fun draft document => do
      .ok { draft with endMark := ← document.asOption asString }⟩,
    ⟨"ellipsis", false, fun draft document => do
      .ok { draft with ellipsis := ← document.asOption asString }⟩,
    ⟨"tokenCount", false, fun draft document => do
      .ok { draft with tokenCount := ← document.asOption asWord }⟩]

def ofJson : Json → Except Mismatch SnippetOptions := record.read

def toJson (options : SnippetOptions) : Json :=
  .ofFields [
    ("startMark", options.startMark.map .string),
    ("endMark", options.endMark.map .string),
    ("ellipsis", options.ellipsis.map .string),
    ("tokenCount", options.tokenCount.map fun n => .natural n.toNat)]

end SnippetOptions

/-- A search. -/
structure Request where
  /-- The words to look for. -/
  query : String
  /-- The columns to look in; all of them if absent. -/
  columns : Option (List String)
  /-- The most results of the page. -/
  limit : UInt32
  /-- The number of results before the page. -/
  offset : UInt32
  ranking : Ranking
  /-- The weight of repeated terms, for the custom ranking. -/
  k1 : Option Float
  /-- The weight of the length of a text, for the custom ranking. -/
  b : Option Float
  /-- Whether each result comes with an excerpt. -/
  includeSnippet : Bool
  snippetOptions : Option SnippetOptions
deriving BEq, Repr

namespace Request

/-- A search for words in all columns. -/
def new (query : String) : Request :=
  ⟨query, none, standardLimit, 0, .standard, none, none, false, none⟩

def withColumns (request : Request) (columns : List String) : Request :=
  { request with columns := some columns }

/-- The search with another size of the page. -/
def withLimit (request : Request) (limit : UInt32) : Request := { request with limit }

/-- The search with another beginning of the page. -/
def withOffset (request : Request) (offset : UInt32) : Request := { request with offset }

/-- The search with custom ranking. -/
def withRanking (request : Request) (k1 b : Float) : Request :=
  { request with ranking := .custom, k1 := some k1, b := some b }

/-- The search with excerpts. -/
def withSnippet (request : Request) : Request := { request with includeSnippet := true }

/-- The search with excerpts of a given form. -/
def withSnippetOptions (request : Request) (options : SnippetOptions) : Request :=
  { request with includeSnippet := true, snippetOptions := some options }

/-- The form of the request's excerpts. -/
def snippetStyle (request : Request) : SnippetStyle :=
  (request.snippetOptions.getD .unset).style

def record : Record Json Request where
  name := "SearchRequest"
  start := .new ""
  fields := [
    ⟨"query", true, fun draft document => do
      .ok { draft with query := ← document.asString }⟩,
    ⟨"columns", false, fun draft document => do
      .ok { draft with columns := ← document.asOption (asList asString) }⟩,
    ⟨"limit", false, fun draft document => do
      .ok { draft with limit := ← document.asWord }⟩,
    ⟨"offset", false, fun draft document => do
      .ok { draft with offset := ← document.asWord }⟩,
    ⟨"rankingFunction", false, fun draft document => do
      .ok { draft with ranking := .ofName (← document.asVariant Ranking.names) }⟩,
    ⟨"bm25_k1", false, fun draft document => do
      .ok { draft with k1 := ← document.asOption asReal }⟩,
    ⟨"bm25_b", false, fun draft document => do
      .ok { draft with b := ← document.asOption asReal }⟩,
    ⟨"includeSnippet", false, fun draft document => do
      .ok { draft with includeSnippet := ← document.asBoolean }⟩,
    ⟨"snippetOptions", false, fun draft document => do
      .ok { draft with snippetOptions := ← document.asOption SnippetOptions.ofJson }⟩]

def ofJson : Json → Except Mismatch Request := record.read

def toJson (request : Request) : Json :=
  .ofFields [
    ("query", some (.string request.query)),
    ("columns", request.columns.map .strings),
    ("limit", some (.natural request.limit.toNat)),
    ("offset", some (.natural request.offset.toNat)),
    ("rankingFunction", some (.string request.ranking.name)),
    ("bm25_k1", request.k1.map .real),
    ("bm25_b", request.b.map .real),
    ("includeSnippet", some (.boolean request.includeSnippet)),
    ("snippetOptions", request.snippetOptions.map SnippetOptions.toJson)]

end Request

end SearchIndex.Search

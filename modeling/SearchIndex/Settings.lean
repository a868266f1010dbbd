import SearchIndex.Definition.Validity
import SearchIndex.Json.Decode
import SearchIndex.LoadError
import SearchIndex.Search.Request
import SearchIndex.Yaml.Writer

/-!
Contract: the settings for searches and for making indexes.

Settings are kept as YAML. Every part may be left out and has a default. `Settings.complete` fills
in what a request leaves open and bounds its page; what a request sets is kept.
-/

namespace SearchIndex

structure SearchSettings where
  /-- The size of a page that is not asked for otherwise. -/
  defaultLimit : UInt32
  /-- The largest size of a page. -/
  maxLimit : UInt32
  /-- The ranking of requests that ask for none of their own. -/
  ranking : Search.Ranking
  k1 : Float
  b : Float
  snippet : Search.SnippetStyle
deriving BEq, Repr

structure IndexSettings where
  /-- The tokenizer of definitions that name none. -/
  defaultTokenizer : Tokenizer.Kind
  /-- Whether indexes are kept in step by triggers. -/
  createTriggers : Bool
  /-- Whether new indexes are filled from their content tables. -/
  populate : Bool
deriving DecidableEq, Repr

structure Settings where
  search : SearchSettings
  index : IndexSettings
deriving BEq, Repr

def SearchSettings.standard : SearchSettings :=
  ⟨Search.standardLimit, 1000, .standard, Search.standardK1, Search.standardB, .standard⟩

def IndexSettings.standard : IndexSettings := ⟨.unicode61, true, true⟩

namespace Settings

def standard : Settings := ⟨.standard, .standard⟩

/-! ### Settings and requests -/

/-- The ranking and its parameters, where the settings may ask for the custom one. -/
def completeRanking (settings : Settings) (request : Search.Request) : Search.Request :=
  if settings.search.ranking = .custom ∨ request.ranking = .custom then
    { request with
      ranking := .custom
      k1 := some (request.k1.getD settings.search.k1)
      b := some (request.b.getD settings.search.b) }
  else request

/-- The form of excerpts, if there are any. -/
def completeSnippet (settings : Settings) (request : Search.Request) : Search.Request :=
  if request.includeSnippet then
    { request with
      snippetOptions := some ((request.snippetOptions.getD .unset).fill settings.search.snippet) }
  else request

/-- A request with a bounded page, where what it leaves open is filled in. -/
def complete (settings : Settings) (request : Search.Request) : Search.Request :=
  settings.completeSnippet (settings.completeRanking
    { request with limit := min request.limit settings.search.maxLimit })

/-- A request for words, with the usual page of the settings. -/
def request (settings : Settings) (query : String) : Search.Request :=
  settings.complete ((Search.Request.new query).withLimit settings.search.defaultLimit)

/-! ### Settings as documents -/

variable {ν : Type} [Readable ν]

/-- The record of the form of excerpts. -/
def snippetRecord : Record ν Search.SnippetStyle where
  name := "SnippetConfig"
  start := .standard
  fields := [
    ⟨"start_mark", false, fun draft document => do
      .ok { draft with startMark := ← Readable.text document }⟩,
    ⟨"end_mark", false, fun draft document => do
      .ok { draft with endMark := ← Readable.text document }⟩,
    ⟨"ellipsis", false, fun draft document => do
      .ok { draft with ellipsis := ← Readable.text document }⟩,
    ⟨"token_count", false, fun draft document => do
      .ok { draft with tokenCount := ← Readable.word document }⟩]

def searchRecord : Record ν SearchSettings where
  name := "SearchConfig"
  start := .standard
  fields := [
    ⟨"default_limit", false, fun draft document => do
      .ok { draft with defaultLimit := ← Readable.word document }⟩,
    ⟨"max_limit", false, fun draft document => do
      .ok { draft with maxLimit := ← Readable.word document }⟩,
    ⟨"ranking", false, fun draft document => do
      .ok { draft with
        ranking := .ofName (← Readable.variant Search.Ranking.names document) }⟩,
    ⟨"bm25_k1", false, fun draft document => do
      .ok { draft with k1 := ← Readable.real document }⟩,
    ⟨"bm25_b", false, fun draft document => do
      .ok { draft with b := ← Readable.real document }⟩,
    ⟨"snippet", false, fun draft document => do
      .ok { draft with snippet := ← snippetRecord.read document }⟩]

def readKind (document : ν) : Except Mismatch Tokenizer.Kind := do
  (Tokenizer.Kind.parse (← Readable.text document)).mapError fun fault => .refused fault.message

def indexRecord : Record ν IndexSettings where
  name := "IndexConfig"
  start := .standard
  fields := [
    ⟨"default_tokenizer", false, fun draft document => do
      .ok { draft with defaultTokenizer := ← readKind document }⟩,
    ⟨"create_triggers", false, fun draft document => do
      .ok { draft with createTriggers := ← Readable.boolean document }⟩,
    ⟨"populate", false, fun draft document => do
      .ok { draft with populate := ← Readable.boolean document }⟩]

def record : Record ν Settings where
  name := "EngineConfig"
  start := .standard
  fields := [
    ⟨"search", false, fun draft document => do
      .ok { draft with search := ← searchRecord.read document }⟩,
    ⟨"index", false, fun draft document => do
      .ok { draft with index := ← indexRecord.read document }⟩]

def ofDocument (document : ν) : Except Mismatch Settings := record.read document

def snippetToJson (style : Search.SnippetStyle) : Json :=
  .object [
    ("start_mark", .string style.startMark),
    ("end_mark", .string style.endMark),
    ("ellipsis", .string style.ellipsis),
    ("token_count", .natural style.tokenCount.toNat)]

def toJson (settings : Settings) : Json :=
  .object [
    ("search", .object [
      ("default_limit", .natural settings.search.defaultLimit.toNat),
      ("max_limit", .natural settings.search.maxLimit.toNat),
      ("ranking", .string settings.search.ranking.name),
      ("bm25_k1", .real settings.search.k1),
      ("bm25_b", .real settings.search.b),
      ("snippet", snippetToJson settings.search.snippet)]),
    ("index", .object [
      ("default_tokenizer", .string settings.index.defaultTokenizer.name),
      ("create_triggers", .boolean settings.index.createTriggers),
      ("populate", .boolean settings.index.populate)])]

/-! ### Settings as text -/

def parse (text : String) : Except LoadError Settings :=
  match Yaml.Document.parse text with
  | .ok document => (ofDocument document).mapError fun mismatch => .yaml mismatch.message
  | .error fault => .error (.yaml fault.message)

def render (settings : Settings) : String := Yaml.render settings.toJson

def load (tree : FileTree) (path : String) : Except LoadError Settings :=
  match tree.readText path with
  | .ok text => parse text
  | .error .isDirectory => .error (.yaml FileError.isDirectory.message)
  | .error .notText => .error (.yaml FileError.notText.message)
  | .error error => .error (.file error)

end Settings

end SearchIndex

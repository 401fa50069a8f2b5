/-
The search index of sealed package revisions: chunks of text by identifier, over every run of rebuilds and deletions.

A chunk's identifier is a digest of its source and text, and the key of the one table that holds the chunks of all
revisions. The text of an artifact is extracted again at each rebuild, inside a handler that passes over every error.
-/
import AtoService.Lib.Runs
import AtoService.Lib.Sessions
import AtoService.Sealed.Sources

namespace AtoService.Search

open AtoService.Sealed (CitableSource deriveChunkId buildSealedCitableSources)
open Session

/-! ## Chunks of a text -/

def chunkMaxCharacters : Nat := 6000

def chunkOverlapCharacters : Nat := 500

/-- one immutable searchable chunk with normalized offsets -/
structure EvidenceChunkSlice where
  normalizedStart : Nat
  normalizedEnd : Nat
  text : List Char
  chunkId : String
deriving DecidableEq, Repr

/-- line endings become line feeds -/
def normalizeSearchText : List Char → List Char
  | '\r' :: '\n' :: cs => '\n' :: normalizeSearchText cs
  | '\r' :: cs => '\n' :: normalizeSearchText cs
  | c :: cs => c :: normalizeSearchText cs
  | [] => []

def chunkSlice (sourceSha256 : String) (normalized : List Char) (start stop : Nat) : EvidenceChunkSlice :=
  let text := (normalized.take stop).drop start
  { normalizedStart := start, normalizedEnd := stop, text := text, chunkId := deriveChunkId sourceSha256 start stop text }

/-- the slices from `start` on, each overlapping the one before -/
def slicesFrom (sourceSha256 : String) (normalized : List Char) (start : Nat) : List EvidenceChunkSlice :=
  if start < normalized.length then
    let stop := min (start + chunkMaxCharacters) normalized.length
    chunkSlice sourceSha256 normalized start stop ::
      if normalized.length ≤ stop then []
      else slicesFrom sourceSha256 normalized (start + (chunkMaxCharacters - chunkOverlapCharacters))
  else []
termination_by normalized.length - start
decreasing_by
  simp only [chunkMaxCharacters, chunkOverlapCharacters]
  omega

def chunkNormalizedText (sourceSha256 : String) (text : List Char) : List EvidenceChunkSlice :=
  let normalized := normalizeSearchText text
  if ¬Py.hasText (String.ofList normalized) then []
  else if normalized.length ≤ chunkMaxCharacters then [chunkSlice sourceSha256 normalized 0 normalized.length]
  else slicesFrom sourceSha256 normalized 0

/-! ## Tables -/

/-- the values that the column admits, and `evidence_only` -/
inductive ExtractionStatus where
  | pending | succeeded | failed | notApplicable | evidenceOnly
deriving DecidableEq, Repr

/-- an artifact; its identifier is written as `str(artifact_id)` -/
structure SourceArtifact where
  artifactId : String
  packageRevisionId : String
  displayFilename : String
  storageKey : String
  sha256 : String
  sizeBytes : Nat
  declaredMediaType : String
  detectedMediaType : String
  artifactKind : String
  extractionStatus : ExtractionStatus
deriving DecidableEq, Repr

structure SealedPackageContent where
  packageRevisionId : String
  document : List (String × Json)
  fieldProvenance : List (String × Json)
  contentSha256 : String

structure PackageRevision where
  packageRevisionId : String
  status : String

/-- the rows that rebuilds read and never change -/
structure Packages where
  revisions : List PackageRevision
  contents : List SealedPackageContent
  artifacts : List SourceArtifact

/-- a chunk to insert, and the row that it becomes -/
structure PendingSearchChunk where
  chunkId : String
  packageRevisionId : String
  artifactId : String
  artifactSha256 : String
  normalizedStart : Nat
  normalizedEnd : Nat
  text : List Char
deriving DecidableEq, Repr

structure SearchIndexRow where
  packageRevisionId : String
  contentSha256 : String
  chunkCount : Nat
  indexedAt : Int
deriving DecidableEq, Repr

structure Db where
  chunks : List PendingSearchChunk := []
  indexes : List SearchIndexRow := []
deriving DecidableEq, Repr

inductive SearchError where
  /-- `SearchIndexError` -/
  | searchIndex (message : String)
  /-- a row with the key is there already -/
  | integrity
deriving DecidableEq, Repr

/-! ## Extraction -/

structure ExtractionContext where
  declaredMediaType : String
  detectedMediaType : String
  declaredFormat : Option String
  artifactKind : String
  filename : String
deriving DecidableEq, Repr

/-- what the blob store and the extraction code return; `none` stands for an exception -/
structure Services (Bytes Limits : Type) where
  readSourceArtifactBytes : SourceArtifact → Option Bytes
  limits : Limits
  visionAllowed : Bool
  /-- the texts of the segments that `extract_content` returns for its content, digest, context, limits and policy -/
  extract : Bytes → String → ExtractionContext → Limits → Bool → Option (List String)

section

variable {Bytes Limits : Type}

/-- the keyword arguments of a call of `extract_content` -/
structure ExtractKeywords (Bytes Limits : Type) where
  contentBytes : Option Bytes := none
  sha256 : Option String := none
  context : Option ExtractionContext := none
  limits : Option Limits := none
  visionPolicy : Option Bool := none

/-- `extract_content(*positional, **keywords)`. Its five parameters are keyword-only and have no default, so any other
call is a `TypeError`. -/
def extractContent (services : Services Bytes Limits) (positional : List Bytes) (keywords : ExtractKeywords Bytes Limits) :
    Option (List String) :=
  match positional, keywords with
  | [], ⟨some contentBytes, some sha256, some context, some limits, some visionPolicy⟩ =>
    services.extract contentBytes sha256 context limits visionPolicy
  | _, _ => none

def declaredFormatForArtifact (artifact : SourceArtifact) : Option String :=
  [("application/pdf", "pdf"), ("text/plain", "text"), ("text/markdown", "markdown"), ("application/json", "json"),
    ("application/xml", "xml"),
    ("application/vnd.openxmlformats-officedocument.wordprocessingml.document", "docx"),
    ("application/vnd.openxmlformats-officedocument.spreadsheetml.sheet", "xlsx")].lookup artifact.declaredMediaType

def extractionContext (artifact : SourceArtifact) : ExtractionContext :=
  { declaredMediaType := artifact.declaredMediaType
    detectedMediaType := artifact.detectedMediaType
    declaredFormat := declaredFormatForArtifact artifact
    artifactKind := artifact.artifactKind
    filename := artifact.displayFilename }

/-- `"\n".join(segment.text for segment in segments if segment.text)` -/
def combinedText (segments : List String) : String := String.intercalate "\n" (segments.filter fun s => s ≠ "")

/-- the text of one artifact: the content is passed by position, and its digest is not passed -/
def loadArtifactText (services : Services Bytes Limits) (artifact : SourceArtifact) : Option (String × String) :=
  if artifact.extractionStatus ≠ .succeeded ∧ artifact.extractionStatus ≠ .evidenceOnly then none
  else do
    let contentBytes ← services.readSourceArtifactBytes artifact
    let segments ← extractContent services [contentBytes]
      { limits := some services.limits, visionPolicy := some services.visionAllowed
        context := some (extractionContext artifact) }
    if Py.hasText (combinedText segments) then some (artifact.artifactId, combinedText segments) else none

def loadArtifactTexts (services : Services Bytes Limits) (artifacts : List SourceArtifact) : List (String × String) :=
  KeyedList.ofList Prod.fst (artifacts.filterMap (loadArtifactText services))

/-! ## Rebuild and delete -/

/-- An identifier of a source is a canonical UUID text, so it names an artifact when the texts are equal; else the first
artifact with the digest is taken. -/
def artifactIdForSource (source : CitableSource) (artifacts : List SourceArtifact) : Option String :=
  if artifacts.any fun artifact => artifact.artifactId = source.sourceId then some source.sourceId
  else (artifacts.find? fun artifact => artifact.sha256 = source.sourceSha256).map SourceArtifact.artifactId

def pendingChunk (packageRevisionId artifactId artifactSha256 : String) (slice : EvidenceChunkSlice) : PendingSearchChunk :=
  { chunkId := slice.chunkId
    packageRevisionId := packageRevisionId
    artifactId := artifactId
    artifactSha256 := artifactSha256
    normalizedStart := slice.normalizedStart
    normalizedEnd := slice.normalizedEnd
    text := slice.text }

/-- the chunks of a source, when it is bound to an artifact -/
def sourceChunks (packageRevisionId : String) (artifacts : List SourceArtifact) (source : CitableSource) :
    List PendingSearchChunk :=
  match artifactIdForSource source artifacts with
  | none => []
  | some artifactId => (chunkNormalizedText source.sourceSha256 (Py.chars source.text)).map
      (pendingChunk packageRevisionId artifactId source.sourceSha256)

/-- the chunks of the text that was extracted from an artifact -/
def artifactChunks (packageRevisionId : String) (artifactTexts : List (String × String)) (artifact : SourceArtifact) :
    List PendingSearchChunk :=
  match KeyedList.get? Prod.fst artifact.artifactId artifactTexts with
  | none => []
  | some (_, extracted) =>
    if extracted = "" then []
    else (chunkNormalizedText artifact.sha256 (normalizeSearchText (Py.chars extracted))).map
      (pendingChunk packageRevisionId artifact.artifactId artifact.sha256)

/-- the chunks of the texts of a sealed document that are bound to an artifact, in the order of the document -/
def sealedChunks (packageRevisionId : String) (content : SealedPackageContent) (artifacts : List SourceArtifact) :
    List PendingSearchChunk :=
  (buildSealedCitableSources content.document content.fieldProvenance).flatMap fun p =>
    sourceChunks packageRevisionId artifacts p.2

def collectSearchableChunks (packageRevisionId : String) (content : SealedPackageContent) (artifacts : List SourceArtifact)
    (artifactTexts : List (String × String)) : List PendingSearchChunk :=
  KeyedList.sorted PendingSearchChunk.chunkId (KeyedList.ofList PendingSearchChunk.chunkId
    (sealedChunks packageRevisionId content artifacts ++
      artifacts.flatMap (artifactChunks packageRevisionId artifactTexts)))

def artifactsOf (packages : Packages) (packageRevisionId : String) : List SourceArtifact :=
  packages.artifacts.filter fun artifact => artifact.packageRevisionId = packageRevisionId

/-- the rows of a revision are deleted from both tables -/
def deleteRows (packageRevisionId : String) (db : Db) : Db :=
  { chunks := db.chunks.filter fun chunk => chunk.packageRevisionId ≠ packageRevisionId
    indexes := db.indexes.filter fun row => row.packageRevisionId ≠ packageRevisionId }

/-- `_INSERT_SEARCH_CHUNK_SQL`, for one row -/
def insertSearchChunk (chunk : PendingSearchChunk) : Session Db SearchError Unit := do
  let db ← read id
  ensure (chunk.chunkId ∉ db.chunks.map PendingSearchChunk.chunkId) .integrity
  modify fun db => { db with chunks := db.chunks ++ [chunk] }

def insertSearchChunks : List PendingSearchChunk → Session Db SearchError Unit
  | [] => pure ()
  | chunk :: chunks => do
    insertSearchChunk chunk
    insertSearchChunks chunks

def insertSearchIndex (row : SearchIndexRow) : Session Db SearchError Unit := do
  let db ← read id
  ensure (row.packageRevisionId ∉ db.indexes.map SearchIndexRow.packageRevisionId) .integrity
  modify fun db => { db with indexes := db.indexes ++ [row] }

def rebuildRevisionSearchIndex (services : Services Bytes Limits) (packages : Packages) (packageRevisionId : String)
    (now : Int) : Session Db SearchError Nat := do
  let revision ← orRaise (packages.revisions.find? fun r => r.packageRevisionId = packageRevisionId)
    (.searchIndex "package revision not found")
  ensure (revision.status = "ready") (.searchIndex "search index requires a ready package revision")
  let content ← orRaise (packages.contents.find? fun c => c.packageRevisionId = packageRevisionId)
    (.searchIndex "sealed package content is required")
  let artifacts := artifactsOf packages packageRevisionId
  let pending := collectSearchableChunks packageRevisionId content artifacts (loadArtifactTexts services artifacts)
  modify (deleteRows packageRevisionId)
  insertSearchChunks pending
  insertSearchIndex ⟨packageRevisionId, content.contentSha256, pending.length, now⟩
  return pending.length

def deleteRevisionSearchIndex (packageRevisionId : String) : Session Db SearchError Unit :=
  modify (deleteRows packageRevisionId)

inductive Op where
  | rebuild (packageRevisionId : String) (now : Int)
  | delete (packageRevisionId : String)

/-- one operation, in a transaction -/
def apply (services : Services Bytes Limits) (packages : Packages) (db : Db) : Op → Db
  | .rebuild packageRevisionId now =>
    transaction (rebuildRevisionSearchIndex services packages packageRevisionId now) db
  | .delete packageRevisionId => transaction (deleteRevisionSearchIndex packageRevisionId) db

end

end AtoService.Search

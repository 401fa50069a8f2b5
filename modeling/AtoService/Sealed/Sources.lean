/-
The texts of a sealed package document that can be cited: implementation statements of controls and summaries of evidence.

A text is known under the identifier of the artifact that its provenance names, or under one made from its key; a statement
is known under its control identifier as well. Texts that share an identifier replace one another.
-/
import AtoService.Audit.Event
import AtoService.Workspace.Editing

namespace AtoService.Sealed

structure CitableSource where
  sourceId : String
  sourceSha256 : String
  text : String
deriving DecidableEq, Repr

def deriveChunkId (sourceSha256 : String) (startOffset endOffset : Nat) (text : List Char) : String :=
  Sha.sha256Hex (Py.chars sourceSha256 ++ ':' :: digits startOffset ++ ':' :: digits endOffset ++ ':' :: text)

/-- `_UUID_PATTERN`: a version 4 UUID in lower case -/
def isUuid4 (cs : List Char) : Bool :=
  cs.length = 36 ∧ (List.range 36).all fun i =>
    let c := cs.getD i ' '
    if i = 8 ∨ i = 13 ∨ i = 18 ∨ i = 23 then c = '-'
    else if i = 14 then c = '4'
    else if i = 19 then "89ab".toList.contains c
    else "0123456789abcdef".toList.contains c

/-- `6ba7b811-9dad-11d1-80b4-00c04fd430c8` -/
def urlNamespace : List Nat :=
  [0x6b, 0xa7, 0xb8, 0x11, 0x9d, 0xad, 0x11, 0xd1, 0x80, 0xb4, 0x00, 0xc0, 0x4f, 0xd4, 0x30, 0xc8]

/-- the string that a provenance entry holds under a key -/
def provenanceText (key : String) (provenanceEntry : Option Json) : Option String := do
  let entry ← provenanceEntry
  let fields ← entry.asObj
  let value ← Json.member key fields
  value.asStr

def provenanceSourceId (provenanceEntry : Option Json) (fallbackKey : String) : String :=
  let fallback := (Workspace.uuid5 urlNamespace ("ato.sealed-source:" ++ fallbackKey)).str
  match provenanceText "source_artifact_id" provenanceEntry with
  | some artifactId =>
    let lowered := (Py.chars artifactId).map Char.toLower
    if isUuid4 lowered then String.ofList lowered else fallback
  | none => fallback

def sourceSha256ForPointer (pointer text : String) (provenanceEntry : Option Json) : String :=
  let computed := Sha.sha256Hex (Py.chars (pointer ++ ":" ++ text))
  match provenanceText "source_sha256" provenanceEntry with
  | some digest => if Audit.isSha256 digest then digest else computed
  | none => computed

/-- `(document.get(name) or {}).items()`, of a section that is an object or missing -/
def sectionItems (name : String) (document : List (String × Json)) : List (String × Json) :=
  ((Json.member name document).bind Json.asObj).getD []

/-- the text under `field`, when the entry is an object and the text is not blank -/
def citableText (field : String) (entry : Json) : Option String := do
  let fields ← entry.asObj
  let value ← Json.member field fields
  let text ← value.asStr
  if Py.hasText text then some text else none

def citableSource (fieldProvenance : List (String × Json)) (pointer fallbackKey text : String) : CitableSource :=
  let provenanceEntry := Json.member pointer fieldProvenance
  { sourceId := provenanceSourceId provenanceEntry fallbackKey
    sourceSha256 := sourceSha256ForPointer pointer text provenanceEntry
    text := text }

def controlSources (fieldProvenance : List (String × Json)) (controlId : String) (control : Json) :
    List (String × CitableSource) :=
  match citableText "implementation_statement" control with
  | none => []
  | some statement =>
    let source := citableSource fieldProvenance
      ("/security_controls/" ++ controlId ++ "/implementation_statement") controlId statement
    [(source.sourceId, source), (controlId, source)]

def evidenceSources (fieldProvenance : List (String × Json)) (artifactId : String) (evidence : Json) :
    List (String × CitableSource) :=
  match citableText "summary" evidence with
  | none => []
  | some summary =>
    let source := citableSource fieldProvenance ("/evidence/" ++ artifactId ++ "/summary") artifactId summary
    [(source.sourceId, source)]

/-- the assignments to `sources`, in the order in which they are made -/
def sourceAssignments (document fieldProvenance : List (String × Json)) : List (String × CitableSource) :=
  ((sectionItems "security_controls" document).flatMap fun p => controlSources fieldProvenance p.1 p.2) ++
    (sectionItems "evidence" document).flatMap fun p => evidenceSources fieldProvenance p.1 p.2

def buildSealedCitableSources (document fieldProvenance : List (String × Json)) : List (String × CitableSource) :=
  KeyedList.ofList Prod.fst (sourceAssignments document fieldProvenance)

end AtoService.Sealed

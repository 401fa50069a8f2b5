/-
Members of a ZIP archive: `open_safe_zip` and `read_zip_member`.

The Unicode functions are parameters; `Nfkc` is what the normal form NFKC is known to be. What the reader of the archive
yields is arbitrary: a member has the sizes that its header declares, and the results of reading it. The path of a
member is checked for lookalikes of a slash before it is normalised, and normalising can make one: ½ becomes 1⁄2.

- `normalizeMemberPath_key`: the path of a file member is its name without empty components, and is its own normal form.
- `opened`: what holds of the members after every archive that is opened.
- `safeArchive_iff`: the members are safe and can be read exactly if no file's normalised name holds a lookalike.
-/
import AtoService.Lib.Results
import AtoService.Lib.Rows

namespace AtoService.Extraction

/-! ## Errors and limits -/

structure ExtractionError where
  message : String
  errorCode : String
deriving DecidableEq, Repr

/-- the limits of archives and of XML -/
structure ExtractionLimits where
  maxZipMembersPerArchive : Nat
  maxZipUncompressedBytesPerArchive : Nat
  maxZipDecompressionRatio : Nat
  maxXmlDepth : Nat
  maxXmlElements : Nat
  maxXmlAttributesPerElement : Nat
  maxXmlTextNodeCharacters : Nat
deriving DecidableEq, Repr

namespace Zip

open Results

/-- an `ExtractionError`, or an exception of the reader that nothing catches -/
inductive ZipError where
  | extraction (e : ExtractionError)
  | uncaught
deriving DecidableEq, Repr

def unsafeArchive (message : String) : ZipError := .extraction ⟨message, "unsafe_archive"⟩

def limitExceeded (message : String) : ZipError := .extraction ⟨message, "package_limit_exceeded"⟩

def parseFailed (message : String) : ZipError := .extraction ⟨message, "source_parse_failed"⟩

/-! ## Unicode -/

structure Unicode where
  nfkc : List Char → List Char
  casefold : List Char → List Char
  lower : List Char → List Char

def nul : Char := Char.ofNat 0

/-- Normal forms are normal, and so are their parts; a slash neither composes nor decomposes, no character but NUL has a
NUL in its decomposition, and none but the fullwidth slash ends with a slash. -/
structure Nfkc (nfkc : List Char → List Char) : Prop where
  idem : ∀ a, nfkc (nfkc a) = nfkc a
  part : ∀ a b, nfkc a = a → b <:+: a → nfkc b = b
  slash : ∀ a b, nfkc (a ++ '/' :: b) = nfkc a ++ '/' :: nfkc b
  nul : ∀ a, nul ∈ nfkc a → nul ∈ a
  last : ∀ a, (nfkc a).getLast? = some '/' → a.getLast? = some '/' ∨ a.getLast? = some '\uff0f'

/-! ## Paths -/

def unicodeSlashLookalikes : List Char := ['\u2044', '\u2215', '\u29f5', '\u29f8', '\uff0f', '\uff3c']

/-- `_DRIVE_PATH_PATTERN.match(path)` -/
def hasDrive : List Char → Bool
  | c :: ':' :: _ => ('A' ≤ c && c ≤ 'Z') || ('a' ≤ c && c ≤ 'z')
  | _ => false

/-- `path.removesuffix("/")` -/
def removeSlash (path : List Char) : List Char := if path.getLast? = some '/' then path.dropLast else path

def components (path : List Char) : List (List Char) := path.splitOn '/'

/-- one step of `posixpath.normpath` -/
def pushComponent (initialSlashes : Nat) (comps : List (List Char)) (comp : List Char) : List (List Char) :=
  if comp = [] ∨ comp = ['.'] then comps
  else if comp ≠ ['.', '.'] ∨ initialSlashes = 0 ∧ comps = [] ∨ comps.getLast? = some ['.', '.'] then comps ++ [comp]
  else comps.dropLast

def initialSlashes : List Char → Nat
  | '/' :: '/' :: '/' :: _ => 1
  | '/' :: '/' :: _ => 2
  | '/' :: _ => 1
  | _ => 0

/-- `posixpath.normpath(path)` -/
def normpath (path : List Char) : List Char :=
  let slashes := initialSlashes path
  let joined := List.replicate slashes '/' ++ ['/'].intercalate ((components path).foldl (pushComponent slashes) [])
  if joined = [] then ['.'] else joined

/-- `component.endswith((".", " "))` -/
def endsAmbiguous (component : List Char) : Bool := component.getLast? = some '.' || component.getLast? = some ' '

def normalizeMemberPath (u : Unicode) (rawPath : List Char) : Except ZipError (List Char) := do
  ensure (nul ∉ rawPath) (unsafeArchive "archive member path contains NUL")
  ensure (∀ c ∈ rawPath, c ∉ unicodeSlashLookalikes)
    (unsafeArchive "archive member path contains Unicode slash lookalike")
  let path := u.nfkc rawPath
  ensure ('\\' ∉ path) (unsafeArchive "archive member path contains backslash")
  ensure (path.head? ≠ some '/') (unsafeArchive "archive member path is absolute")
  ensure (hasDrive path = false) (unsafeArchive "archive member path contains drive letter")
  ensure (∀ c ∈ components (removeSlash path), endsAmbiguous c = false)
    (unsafeArchive "archive member path has Windows-ambiguous trailing dot or space")
  let normalized := normpath path
  ensure (normalized ≠ [] ∧ normalized ≠ ['.']) (unsafeArchive "archive member path is empty")
  ensure (¬['.', '.', '/'] <+: normalized ∧ normalized ≠ ['.', '.'])
    (unsafeArchive "archive member path traverses upward")
  return if path.getLast? = some '/' then removeSlash normalized ++ ['/'] else normalized

/-! ## Members -/

/-- how a read of the reader may fail: with an exception that `open_safe_zip` catches, or with another -/
inductive ReadFailure where
  | caught | other
deriving DecidableEq, Repr

structure ZipInfo where
  filename : List Char
  createSystem : Nat
  externalAttr : Nat
  compressSize : Nat
  fileSize : Nat
  /-- the results of reading the member, chunk by chunk, whatever size is asked for -/
  reads : List (Except ReadFailure (List UInt8))

def ZipInfo.isDir (info : ZipInfo) : Bool := info.filename.getLast? = some '/'

structure ZipMember where
  normalizedPath : List Char
  data : List UInt8
deriving DecidableEq

def archiveExtensions : List (List Char) :=
  [".zip", ".jar", ".apk", ".7z", ".rar", ".tar", ".gz", ".bz2", ".xz"].map String.toList

def macroParts : List (List Char) :=
  ["vbaproject.bin", "vbadata.bin", "vbaprojectsignature.bin", "vbaprojectsignatureagile.bin"].map String.toList

def activeXParts : List (List Char) := ["activex".toList]

def externalLinkPrefix : List Char := "xl/externallinks/".toList

def archiveMagics : List (List UInt8) :=
  [[0x50, 0x4B, 0x03, 0x04], [0x50, 0x4B, 0x05, 0x06], [0x50, 0x4B, 0x07, 0x08], [0x37, 0x7A, 0xBC, 0xAF, 0x27, 0x1C],
    [0x52, 0x61, 0x72, 0x21, 0x1A, 0x07], [0x1F, 0x8B], [0x42, 0x5A, 0x68], [0xFD, 0x37, 0x7A, 0x58, 0x5A, 0x00]]

def fileTypeMask : Nat := 0o170000

def regularFile : Nat := 0o100000

def directory : Nat := 0o040000

def isUnsafeSpecialMember (info : ZipInfo) : Bool :=
  info.createSystem = 3 && (info.externalAttr >>> 16 &&& fileTypeMask) ∉ [0, regularFile, directory]

def nestedArchive (path : List Char) : ZipError :=
  unsafeArchive ("nested archive member rejected: " ++ String.ofList path)

def rejectNestedArchivePath (u : Unicode) (path : List Char) : Except ZipError Unit :=
  ensure (∀ ext ∈ archiveExtensions, ¬ext <:+ u.lower path) (nestedArchive path)

/-- `posixpath.basename(path)` -/
def basename (path : List Char) : List Char := (components path).getLast?.getD []

def rejectOfficeUnsafeMember (u : Unicode) (path : List Char) : Except ZipError Unit := do
  ensure (u.casefold (basename path) ∉ macroParts) (unsafeArchive "macro-enabled Office member rejected")
  ensure (∀ part ∈ components path, u.casefold part ∉ activeXParts) (unsafeArchive "ActiveX Office member rejected")
  ensure (¬externalLinkPrefix <+: u.casefold path) (unsafeArchive "external spreadsheet link rejected")

/-- the chunks up to an empty one, joined, while they stay within the sizes -/
def readChunks (memberLimit fileSize : Nat) : List (Except ReadFailure (List UInt8)) → List UInt8 →
    Except ZipError (List UInt8)
  | [], data => .ok data
  | .error .caught :: _, _ => .error (parseFailed "failed to read archive member")
  | .error .other :: _, _ => .error .uncaught
  | .ok chunk :: reads, data =>
    if chunk = [] then .ok data
    else if memberLimit < (data ++ chunk).length ∨ fileSize < (data ++ chunk).length then
      .error (limitExceeded "archive member exceeds declared or configured size")
    else readChunks memberLimit fileSize reads (data ++ chunk)

/-- the loop of `open_safe_zip` -/
structure Progress where
  totalUncompressed : Nat := 0
  seenPaths : List (List Char) := []
  members : List ZipMember := []

/-- `members[path] = member` -/
def setMember (members : List ZipMember) (member : ZipMember) : List ZipMember :=
  if member.normalizedPath ∈ members.map ZipMember.normalizedPath then
    Rows.put ZipMember.normalizedPath member members
  else members ++ [member]

/-- a file member, from its sizes on -/
def readFile (limits : ExtractionLimits) (p : Progress) (normalized : List Char) (info : ZipInfo) :
    Except ZipError Progress := do
  ensure (¬(0 < info.fileSize ∧ info.compressSize = 0)) (limitExceeded "archive member has zero compressed size")
  ensure (info.fileSize ≤ info.compressSize * limits.maxZipDecompressionRatio)
    (limitExceeded "archive decompression ratio exceeds configured limit")
  let total := p.totalUncompressed + info.fileSize
  ensure (total ≤ limits.maxZipUncompressedBytesPerArchive)
    (limitExceeded "archive uncompressed bytes exceed configured limit")
  let memberLimit := min info.fileSize (limits.maxZipUncompressedBytesPerArchive - (total - info.fileSize))
  let data ← readChunks memberLimit info.fileSize info.reads []
  ensure (data.length = info.fileSize) (parseFailed "archive member size mismatch after read")
  ensure (∀ magic ∈ archiveMagics, ¬magic <+: data) (nestedArchive normalized)
  return { p with totalUncompressed := total, members := setMember p.members ⟨normalized, data⟩ }

/-- only an Office container has members to refuse -/
def rejectWithinOffice (u : Unicode) (officeContainer : Bool) (normalized : List Char) : Except ZipError Unit :=
  if officeContainer then rejectOfficeUnsafeMember u normalized else .ok ()

def addMember (u : Unicode) (limits : ExtractionLimits) (officeContainer : Bool) (p : Progress) (info : ZipInfo) :
    Except ZipError Progress := do
  let normalized ← normalizeMemberPath u info.filename
  let casefolded := u.casefold (removeSlash normalized)
  ensure (casefolded ∉ p.seenPaths) (unsafeArchive "duplicate normalized archive member path")
  let p := { p with seenPaths := casefolded :: p.seenPaths }
  rejectNestedArchivePath u normalized
  rejectWithinOffice u officeContainer normalized
  ensure (isUnsafeSpecialMember info = false) (unsafeArchive "archive symlink or special member rejected")
  if info.isDir then return p else readFile limits p normalized info

/-- of an archive, or of a content that is none -/
def openSafeZip (u : Unicode) (limits : ExtractionLimits) (officeContainer : Bool) (archive : Option (List ZipInfo)) :
    Except ZipError (List ZipMember) := do
  let infos ← orRaise archive (parseFailed "archive is not a valid ZIP")
  ensure (infos.length ≤ limits.maxZipMembersPerArchive)
    (limitExceeded "archive member count exceeds configured limit")
  let p ← infos.foldlM (addMember u limits officeContainer) {}
  return p.members

def readZipMember (u : Unicode) (members : List ZipMember) (path : List Char) : Except ZipError (List UInt8) := do
  let normalized ← normalizeMemberPath u path
  let member ← orRaise (Rows.get? ZipMember.normalizedPath normalized members)
    (parseFailed ("missing archive member: " ++ String.ofList normalized))
  return member.data

/-! ## Components of a path -/

def joined (comps : List (List Char)) : List Char := ['/'].intercalate comps

theorem joined_components (path : List Char) : joined (components path) = path := List.intercalate_splitOn '/'

theorem components_joined {comps : List (List Char)} (h : ∀ c ∈ comps, '/' ∉ c) (hne : comps ≠ []) :
    components (joined comps) = comps := List.splitOn_intercalate '/' h hne

theorem joined_cons {comp : List Char} {comps : List (List Char)} (h : comps ≠ []) :
    joined (comp :: comps) = comp ++ '/' :: joined comps := by
  rw [joined, List.intercalate_cons_of_ne_nil h, List.append_assoc]
  rfl

theorem joined_singleton (comp : List Char) : joined [comp] = comp := by simp [joined]

/-- no component has a slash -/
theorem slash_notMem_component (path : List Char) : ∀ c ∈ components path, '/' ∉ c := by
  induction path with
  | nil => simp [components]
  | cons x path ih =>
    unfold components List.splitOn at ih ⊢
    rw [List.splitOnP_cons_eq_if_modifyHead]
    split_ifs with hx
    · intro c hc
      rcases List.mem_cons.1 hc with rfl | hc
      · exact List.not_mem_nil
      · exact ih c hc
    · cases hsplit : path.splitOnP (· == '/') with
      | nil => exact absurd hsplit (List.splitOnP_ne_nil _ _)
      | cons head rest =>
        rw [hsplit] at ih
        intro c hc
        rw [List.modifyHead_cons] at hc
        rcases List.mem_cons.1 hc with rfl | hc
        · intro hmem
          rcases List.mem_cons.1 hmem with heq | hmem
          · exact hx (beq_iff_eq.2 heq.symm)
          · exact ih head List.mem_cons_self hmem
        · exact ih c (List.mem_cons_of_mem _ hc)

theorem infix_joined {comps : List (List Char)} {c : List Char} (h : c ∈ comps) : c <:+: joined comps := by
  induction comps with
  | nil => cases h
  | cons comp comps ih =>
    by_cases hne : comps = []
    · subst hne
      rw [List.mem_singleton.1 h, joined_singleton]
    · rw [joined_cons hne]
      rcases List.mem_cons.1 h with rfl | h
      · exact (List.prefix_append _ _).isInfix
      · exact (ih h).trans ((List.suffix_cons _ _).trans (List.suffix_append _ _)).isInfix

theorem infix_component {path c : List Char} (h : c ∈ components path) : c <:+: path := by
  have hinfix := infix_joined h
  rwa [joined_components] at hinfix

/-- a character of a joined path is a slash or in one of its components -/
theorem mem_joined {comps : List (List Char)} {x : Char} (h : x ∈ joined comps) : x = '/' ∨ ∃ c ∈ comps, x ∈ c := by
  induction comps with
  | nil => cases h
  | cons comp comps ih =>
    by_cases hne : comps = []
    · subst hne
      rw [joined_singleton] at h
      exact Or.inr ⟨comp, List.mem_singleton_self _, h⟩
    · rw [joined_cons hne] at h
      rcases List.mem_append.1 h with h | h
      · exact Or.inr ⟨comp, List.mem_cons_self, h⟩
      · rcases List.mem_cons.1 h with h | h
        · exact Or.inl h
        · exact (ih h).imp id fun ⟨c, hc, hx⟩ => ⟨c, List.mem_cons_of_mem _ hc, hx⟩

theorem mem_joined_of_mem {comps : List (List Char)} {c : List Char} (hc : c ∈ comps) {x : Char} (hx : x ∈ c) :
    x ∈ joined comps := (infix_joined hc).subset hx

/-- a normal form slash by slash -/
theorem Nfkc.joined {nfkc : List Char → List Char} (h : Nfkc nfkc) {comps : List (List Char)}
    (hcomps : ∀ c ∈ comps, nfkc c = c) (hne : comps ≠ []) : nfkc (joined comps) = Zip.joined comps := by
  induction comps with
  | nil => exact absurd rfl hne
  | cons comp comps ih =>
    have hcomp := hcomps comp List.mem_cons_self
    by_cases hrest : comps = []
    · subst hrest
      rw [joined_singleton, hcomp]
    · rw [joined_cons hrest, h.slash, hcomp, ih (fun c hc => hcomps c (List.mem_cons_of_mem _ hc)) hrest]

/-! ## Normalised paths -/

/-- the path without its empty components -/
def collapsed (path : List Char) : List (List Char) := (components path).filter (· ≠ [])

theorem foldl_pushComponent {slashes : Nat} {comps : List (List Char)} (h : ∀ c ∈ comps, endsAmbiguous c = false)
    (pushed : List (List Char)) :
    comps.foldl (pushComponent slashes) pushed = pushed ++ comps.filter (· ≠ []) := by
  induction comps generalizing pushed with
  | nil => simp
  | cons c comps ih =>
    have hc := h c List.mem_cons_self
    have hdot : c ≠ ['.'] := by
      rintro rfl
      exact absurd hc (by decide)
    have hdots : c ≠ ['.', '.'] := by
      rintro rfl
      exact absurd hc (by decide)
    rw [List.foldl_cons, ih fun d hd => h d (List.mem_cons_of_mem _ hd)]
    by_cases hnil : c = []
    · subst hnil
      simp [pushComponent]
    · simp [pushComponent, hnil, hdot, hdots]

theorem normpath_eq {path : List Char} (hrelative : path.head? ≠ some '/')
    (h : ∀ c ∈ components path, endsAmbiguous c = false) :
    normpath path = if joined (collapsed path) = [] then ['.'] else joined (collapsed path) := by
  have hslashes : initialSlashes path = 0 := by
    unfold initialSlashes
    split <;> simp_all
  unfold normpath
  dsimp only
  rw [hslashes, foldl_pushComponent h, List.nil_append]
  rfl

/-- what the checks of a file's name come to -/
structure Normalized (u : Unicode) (rawPath path : List Char) : Prop where
  nul : nul ∉ rawPath
  lookalike : ∀ c ∈ rawPath, c ∉ unicodeSlashLookalikes
  backslash : '\\' ∉ u.nfkc rawPath
  relative : (u.nfkc rawPath).head? ≠ some '/'
  drive : hasDrive (u.nfkc rawPath) = false
  ends : ∀ c ∈ components (u.nfkc rawPath), endsAmbiguous c = false
  nonempty : collapsed (u.nfkc rawPath) ≠ []
  path_eq : path = joined (collapsed (u.nfkc rawPath))

theorem joined_eq_nil {comps : List (List Char)} (h : ∀ c ∈ comps, c ≠ []) : joined comps = [] ↔ comps = [] := by
  constructor
  · intro hnil
    cases comps with
    | nil => rfl
    | cons c comps =>
      have hinfix := infix_joined (List.mem_cons_self (a := c) (l := comps))
      rw [hnil] at hinfix
      exact absurd (List.infix_nil.1 hinfix) (h c List.mem_cons_self)
  · rintro rfl
    rfl

theorem ne_nil_of_collapsed {path c : List Char} (h : c ∈ collapsed path) : c ≠ [] := by
  simpa using (List.mem_filter.1 h).2

/-- the components of a path whose components are names -/
theorem components_collapsed {path : List Char} (hne : collapsed path ≠ []) :
    components (joined (collapsed path)) = collapsed path :=
  components_joined (fun c hc => slash_notMem_component path c (List.mem_of_mem_filter hc)) hne

/-- a name without a slash at its end, and without ambiguous components, passes the checks on its normalised path -/
theorem normpath_checks {path : List Char} (hrelative : path.head? ≠ some '/')
    (h : ∀ c ∈ components path, endsAmbiguous c = false) :
    (normpath path ≠ [] ∧ normpath path ≠ ['.']) ↔ collapsed path ≠ [] := by
  have hnil : joined (collapsed path) = [] ↔ collapsed path = [] := joined_eq_nil fun c hc => ne_nil_of_collapsed hc
  rw [normpath_eq hrelative h]
  by_cases hempty : collapsed path = []
  · rw [if_pos (hnil.2 hempty)]
    simp [hempty]
  · rw [if_neg fun heq => hempty (hnil.1 heq)]
    refine iff_of_true ⟨fun heq => hempty (hnil.1 heq), fun hdot => ?_⟩ hempty
    have hcomps := components_collapsed hempty
    rw [hdot] at hcomps
    have hmem : ['.'] ∈ collapsed path := by
      rw [← hcomps]
      decide
    exact absurd (h _ (List.mem_of_mem_filter hmem)) (by decide)

theorem not_upward {path : List Char} (h : ∀ c ∈ components path, endsAmbiguous c = false) (hne : collapsed path ≠ []) :
    ¬['.', '.', '/'] <+: joined (collapsed path) ∧ joined (collapsed path) ≠ ['.', '.'] := by
  have hcomps := components_collapsed hne
  have hdots : ['.', '.'] ∉ collapsed path := fun hmem =>
    absurd (h _ (List.mem_of_mem_filter hmem)) (by decide)
  constructor
  · rintro ⟨rest, hrest⟩
    have hsplit : joined (collapsed path) = joined (['.', '.'] :: components rest) := by
      rw [joined_cons (show components rest ≠ [] from List.splitOn_ne_nil _ _), joined_components, ← hrest]
      rfl
    rw [hsplit, components_joined ?_ (List.cons_ne_nil _ _)] at hcomps
    · exact hdots (hcomps ▸ List.mem_cons_self)
    · intro c hc
      rcases List.mem_cons.1 hc with rfl | hc
      · decide
      · exact slash_notMem_component rest c hc
  · intro heq
    rw [heq] at hcomps
    refine hdots (hcomps ▸ ?_)
    decide

theorem removeSlash_of_ne {path : List Char} (h : path.getLast? ≠ some '/') : removeSlash path = path := if_neg h

/-- the normal form of a file's name does not end with a slash either -/
theorem nfkc_file {u : Unicode} (hu : Nfkc u.nfkc) {rawPath : List Char} (hfile : rawPath.getLast? ≠ some '/')
    (hlookalike : ∀ c ∈ rawPath, c ∉ unicodeSlashLookalikes) : (u.nfkc rawPath).getLast? ≠ some '/' := by
  intro hlast
  rcases hu.last rawPath hlast with h | h
  · exact hfile h
  · exact hlookalike _ (List.mem_of_getLast? h) (by decide)

theorem normalizeMemberPath_file {u : Unicode} (hu : Nfkc u.nfkc) {rawPath path : List Char}
    (hfile : rawPath.getLast? ≠ some '/') :
    normalizeMemberPath u rawPath = .ok path ↔ Normalized u rawPath path := by
  simp only [normalizeMemberPath, bind_eq_ok, ensure_eq_ok, pure_eq_ok, exists_const]
  constructor
  · rintro ⟨hnul, hlookalike, hbackslash, hrelative, hdrive, hends, hempty, -, rfl⟩
    have hlast := nfkc_file hu hfile hlookalike
    rw [removeSlash_of_ne hlast] at hends
    have hne := (normpath_checks hrelative hends).1 hempty
    refine ⟨hnul, hlookalike, hbackslash, hrelative, hdrive, hends, hne, ?_⟩
    rw [if_neg hlast, normpath_eq hrelative hends, if_neg]
    exact fun heq => hne ((joined_eq_nil fun c hc => ne_nil_of_collapsed hc).1 heq)
  · rintro ⟨hnul, hlookalike, hbackslash, hrelative, hdrive, hends, hne, rfl⟩
    have hlast := nfkc_file hu hfile hlookalike
    have hpath : normpath (u.nfkc rawPath) = joined (collapsed (u.nfkc rawPath)) := by
      rw [normpath_eq hrelative hends, if_neg]
      exact fun heq => hne ((joined_eq_nil fun c hc => ne_nil_of_collapsed hc).1 heq)
    refine ⟨hnul, hlookalike, hbackslash, hrelative, hdrive, ?_, (normpath_checks hrelative hends).2 hne, ?_, ?_⟩
    · rwa [removeSlash_of_ne hlast]
    · rw [hpath]
      exact not_upward hends hne
    · rw [if_neg hlast, hpath]

/-! ## The path of a file -/

/-- no slash lookalike -/
def Plain (path : List Char) : Prop := ∀ c ∈ path, c ∉ unicodeSlashLookalikes

instance (path : List Char) : Decidable (Plain path) := inferInstanceAs (Decidable (∀ c ∈ path, _))

/-- a relative path of names -/
structure SafePath (path : List Char) : Prop where
  nonempty : path ≠ []
  relative : path.head? ≠ some '/'
  nul : nul ∉ path
  backslash : '\\' ∉ path
  drive : hasDrive path = false
  lookalike : Plain path
  components : ∀ c ∈ components path, c ≠ [] ∧ c ≠ ['.'] ∧ c ≠ ['.', '.']

variable {u : Unicode} {rawPath path : List Char}

theorem Normalized.components_eq (h : Normalized u rawPath path) : components path = collapsed (u.nfkc rawPath) := by
  rw [h.path_eq]
  exact components_collapsed h.nonempty

/-- the characters of the path are those of the name's normal form, but for slashes -/
theorem Normalized.mem_path (h : Normalized u rawPath path) {x : Char} (hx : x ≠ '/') :
    x ∈ path ↔ x ∈ u.nfkc rawPath := by
  constructor
  · intro hmem
    rw [h.path_eq] at hmem
    obtain ⟨c, hc, hxc⟩ := (mem_joined hmem).resolve_left hx
    exact (infix_component (List.mem_of_mem_filter hc)).subset hxc
  · intro hmem
    rw [← joined_components (u.nfkc rawPath)] at hmem
    obtain ⟨c, hc, hxc⟩ := (mem_joined hmem).resolve_left hx
    rw [h.path_eq]
    exact mem_joined_of_mem (List.mem_filter.2 ⟨hc, by simpa using List.ne_nil_of_mem hxc⟩) hxc

theorem Normalized.ends_path (h : Normalized u rawPath path) : ∀ c ∈ components path, endsAmbiguous c = false := by
  intro c hc
  rw [h.components_eq] at hc
  exact h.ends c (List.mem_of_mem_filter hc)

/-- the first component of a relative path is a name -/
theorem exists_first (h : Normalized u rawPath path) :
    ∃ first rest, first ≠ [] ∧ '/' ∉ first ∧ components (u.nfkc rawPath) = first :: rest ∧
      ∃ rest', components path = first :: rest' := by
  cases hcomps : components (u.nfkc rawPath) with
  | nil => exact absurd hcomps (List.splitOn_ne_nil _ _)
  | cons first rest =>
    have hslash : '/' ∉ first := slash_notMem_component _ first (hcomps ▸ List.mem_cons_self)
    have hfirst : first ≠ [] := by
      rintro rfl
      have hpath := joined_components (u.nfkc rawPath)
      rw [hcomps] at hpath
      by_cases hrest : rest = []
      · subst hrest
        exact h.nonempty (by simp [collapsed, hcomps])
      · rw [joined_cons hrest] at hpath
        exact h.relative (by rw [← hpath]; rfl)
    refine ⟨first, rest, hfirst, hslash, rfl, rest.filter (· ≠ []), ?_⟩
    rw [h.components_eq, collapsed, hcomps, List.filter_cons_of_pos (by simpa using hfirst)]

/-- a path starts with its first component, and a slash or nothing comes after it -/
theorem path_of_components {path first : List Char} {rest : List (List Char)} (h : components path = first :: rest) :
    ∃ tail, path = first ++ tail ∧ (tail = [] ∨ ∃ t, tail = '/' :: t) := by
  rw [← joined_components path, h]
  by_cases hrest : rest = []
  · subst hrest
    exact ⟨[], by rw [joined_singleton, List.append_nil], Or.inl rfl⟩
  · exact ⟨_, joined_cons hrest, Or.inr ⟨_, rfl⟩⟩

theorem hasDrive_append {first tail : List Char} (hne : first ≠ []) (htail : tail = [] ∨ ∃ t, tail = '/' :: t) :
    hasDrive (first ++ tail) = hasDrive first := by
  rcases htail with rfl | ⟨t, rfl⟩
  · rw [List.append_nil]
  · match first, hne with
    | [c], _ => rfl
    | c :: d :: cs, _ =>
      by_cases hd : d = ':'
      · subst hd
        rfl
      · simp [hasDrive, hd]

theorem Normalized.head (h : Normalized u rawPath path) :
    path.head? ≠ some '/' ∧ hasDrive path = false := by
  obtain ⟨first, rest, hfirst, hslash, hraw, rest', hcomps⟩ := exists_first h
  obtain ⟨tail, hpath, htail⟩ := path_of_components hcomps
  obtain ⟨tail', hraw', htail'⟩ := path_of_components hraw
  constructor
  · rw [hpath, List.head?_append_of_ne_nil _ hfirst]
    exact fun hhead => hslash (List.mem_of_mem_head? hhead)
  · have hdrive := h.drive
    rw [hraw', hasDrive_append hfirst htail'] at hdrive
    rw [hpath, hasDrive_append hfirst htail, hdrive]

/-- **The path of a file** is safe, but for lookalikes that normalising has made. -/
theorem Normalized.safePath_iff (hu : Nfkc u.nfkc) (h : Normalized u rawPath path) :
    SafePath path ↔ Plain (u.nfkc rawPath) := by
  have hlookalikes : ∀ c ∈ unicodeSlashLookalikes, c ≠ '/' := by decide
  constructor
  · intro hsafe c hc hlook
    exact hsafe.lookalike c ((h.mem_path (hlookalikes c hlook)).2 hc) hlook
  · intro hplain
    refine ⟨fun hnil => ?_, h.head.1, fun hnul => ?_, fun hback => ?_, h.head.2, fun c hc hlook => ?_, fun c hc => ?_⟩
    · obtain ⟨first, rest, hfirst, -, -, rest', hcomps⟩ := exists_first h
      obtain ⟨tail, hpath, -⟩ := path_of_components hcomps
      rw [hnil] at hpath
      exact hfirst (List.append_eq_nil_iff.1 hpath.symm).1
    · exact h.nul (hu.nul _ ((h.mem_path (by decide)).1 hnul))
    · exact h.backslash ((h.mem_path (by decide)).1 hback)
    · exact hplain c ((h.mem_path (hlookalikes c hlook)).1 hc) hlook
    · have hends := h.ends_path c hc
      rw [h.components_eq] at hc
      refine ⟨ne_nil_of_collapsed hc, ?_, ?_⟩
      · rintro rfl
        exact absurd hends (by decide)
      · rintro rfl
        exact absurd hends (by decide)

/-- the path is its own normal form -/
theorem Normalized.nfkc_path (hu : Nfkc u.nfkc) (h : Normalized u rawPath path) : u.nfkc path = path := by
  rw [h.path_eq]
  refine hu.joined (fun c hc => ?_) h.nonempty
  exact hu.part _ c (hu.idem rawPath) (infix_component (List.mem_of_mem_filter hc))

theorem Normalized.last (h : Normalized u rawPath path) : path.getLast? ≠ some '/' := by
  intro hlast
  have hne : components path ≠ [] := List.splitOn_ne_nil _ _
  obtain ⟨comps, last, hcomps⟩ := List.eq_nil_or_concat' (components path) |>.resolve_left hne
  have hmem : last ∈ components path := hcomps ▸ List.mem_append_right _ (List.mem_singleton_self _)
  have hlastne : last ≠ [] := by
    rw [h.components_eq] at hmem
    exact ne_nil_of_collapsed hmem
  have hsuffix : ∀ comps : List (List Char), last <:+ joined (comps ++ [last]) := by
    intro comps
    induction comps with
    | nil =>
      rw [List.nil_append, joined_singleton]
    | cons c comps ih =>
      rw [List.cons_append, joined_cons (List.append_ne_nil_of_right_ne_nil _ (List.cons_ne_nil _ _))]
      exact ih.trans ((List.suffix_cons _ _).trans (List.suffix_append _ _))
  obtain ⟨front, hfront⟩ := hsuffix comps
  rw [← hcomps, joined_components] at hfront
  rw [← hfront, List.getLast?_append_of_ne_nil _ hlastne] at hlast
  exact slash_notMem_component path last hmem (List.mem_of_getLast? hlast)

/-- **Normalising the path again** gives it back, unless it holds a lookalike. -/
theorem Normalized.again (hu : Nfkc u.nfkc) (h : Normalized u rawPath path) (hplain : Plain (u.nfkc rawPath)) :
    normalizeMemberPath u path = .ok path := by
  have hsafe := (h.safePath_iff hu).2 hplain
  have hself := h.nfkc_path hu
  refine (normalizeMemberPath_file hu h.last).2 ⟨hsafe.nul, hsafe.lookalike, ?_, ?_, ?_, ?_, ?_, ?_⟩
  · rw [hself]
    exact hsafe.backslash
  · rw [hself]
    exact hsafe.relative
  · rw [hself]
    exact hsafe.drive
  · rw [hself]
    exact h.ends_path
  · rw [hself, collapsed, List.filter_eq_self.2 fun c hc => by simpa using (hsafe.components c hc).1]
    exact List.splitOn_ne_nil _ _
  · rw [hself, collapsed, List.filter_eq_self.2 fun c hc => by simpa using (hsafe.components c hc).1, joined_components]

/-! ## Reading the members -/

/-- no macro, ActiveX or external-link part, in whatever case -/
structure OfficeSafe (u : Unicode) (path : List Char) : Prop where
  noMacro : u.casefold (basename path) ∉ macroParts
  noActiveX : ∀ part ∈ components path, u.casefold part ∉ activeXParts
  noExternalLink : ¬externalLinkPrefix <+: u.casefold path

/-- what the checks of a file come to, for the member that is read from it -/
structure FromFile (u : Unicode) (limits : ExtractionLimits) (officeContainer : Bool) (info : ZipInfo) (m : ZipMember) :
    Prop where
  file : info.isDir = false
  path : normalizeMemberPath u info.filename = .ok m.normalizedPath
  size : m.data.length = info.fileSize
  ratio : m.data.length ≤ info.compressSize * limits.maxZipDecompressionRatio
  signature : ∀ magic ∈ archiveMagics, ¬magic <+: m.data
  office : officeContainer = true → OfficeSafe u m.normalizedPath

/-- after the members `done` of the archive -/
structure Opened (u : Unicode) (limits : ExtractionLimits) (officeContainer : Bool) (done : List ZipInfo)
    (p : Progress) : Prop where
  sound : ∀ m ∈ p.members, ∃ info ∈ done, FromFile u limits officeContainer info m
  complete : ∀ info ∈ done, info.isDir = false → ∃ m ∈ p.members, FromFile u limits officeContainer info m
  seen : ∀ m ∈ p.members, u.casefold (removeSlash m.normalizedPath) ∈ p.seenPaths
  distinct : (p.members.map fun m => u.casefold (removeSlash m.normalizedPath)).Nodup
  count : p.members.length ≤ done.length
  total : (p.members.map fun m => m.data.length).sum = p.totalUncompressed
  bounded : p.members ≠ [] → p.totalUncompressed ≤ limits.maxZipUncompressedBytesPerArchive

variable {limits : ExtractionLimits} {officeContainer : Bool} {done : List ZipInfo} {p p' : Progress} {info : ZipInfo}

theorem opened_nil : Opened u limits officeContainer [] {} where
  sound _ h := absurd h List.not_mem_nil
  complete _ h := absurd h List.not_mem_nil
  seen _ h := absurd h List.not_mem_nil
  distinct := List.nodup_nil
  count := le_rfl
  total := rfl
  bounded h := absurd rfl h

theorem setMember_of_notMem {members : List ZipMember} {m : ZipMember}
    (h : m.normalizedPath ∉ members.map ZipMember.normalizedPath) : setMember members m = members ++ [m] := if_neg h

/-- one member of the archive -/
theorem Opened.step (h : Opened u limits officeContainer done p)
    (hstep : addMember u limits officeContainer p info = .ok p') :
    Opened u limits officeContainer (done ++ [info]) p' := by
  simp only [addMember, bind_eq_ok, ensure_eq_ok, exists_const] at hstep
  obtain ⟨normalized, hnormalized, hnew, _, -, _, hoffice, -, hstep⟩ := hstep
  have hofficeSafe : officeContainer = true → OfficeSafe u normalized := by
    rintro rfl
    rw [rejectWithinOffice, if_pos rfl] at hoffice
    simp only [rejectOfficeUnsafeMember, bind_eq_ok, ensure_eq_ok, exists_const] at hoffice
    exact ⟨hoffice.1, hoffice.2.1, hoffice.2.2⟩
  have hmono : ∀ m, (∃ i ∈ done, FromFile u limits officeContainer i m) →
      ∃ i ∈ done ++ [info], FromFile u limits officeContainer i m :=
    fun m ⟨i, hi, hfrom⟩ => ⟨i, List.mem_append_left _ hi, hfrom⟩
  split_ifs at hstep with hdir
  · obtain rfl := Except.ok.inj hstep
    refine ⟨fun m hm => hmono m (h.sound m hm), fun i hi hfile => ?_, fun m hm => List.mem_cons_of_mem _ (h.seen m hm),
      h.distinct, h.count.trans (by simp), h.total, h.bounded⟩
    rcases List.mem_append.1 hi with hi | hi
    · exact h.complete i hi hfile
    · rw [List.mem_singleton.1 hi, hdir] at hfile
      cases hfile
  · simp only [readFile, bind_eq_ok, ensure_eq_ok, pure_eq_ok, exists_const] at hstep
    obtain ⟨-, hratio, hbytes, data, -, hsize, hmagic, rfl⟩ := hstep
    have hpath : normalized ∉ p.members.map ZipMember.normalizedPath := by
      intro hmem
      obtain ⟨m, hm, rfl⟩ := List.mem_map.1 hmem
      exact hnew (h.seen m hm)
    have hfrom : FromFile u limits officeContainer info ⟨normalized, data⟩ :=
      ⟨by simpa using hdir, hnormalized, hsize, hsize.trans_le hratio, hmagic, hofficeSafe⟩
    rw [setMember_of_notMem hpath]
    refine ⟨fun m hm => ?_, fun i hi hfile => ?_, fun m hm => ?_, ?_, ?_, ?_, fun _ => hbytes⟩
    · rcases List.mem_append.1 hm with hm | hm
      · exact hmono m (h.sound m hm)
      · rw [List.mem_singleton.1 hm]
        exact ⟨info, List.mem_append_right _ (List.mem_singleton_self _), hfrom⟩
    · rcases List.mem_append.1 hi with hi | hi
      · obtain ⟨m, hm, hfrom'⟩ := h.complete i hi hfile
        exact ⟨m, List.mem_append_left _ hm, hfrom'⟩
      · rw [List.mem_singleton.1 hi]
        exact ⟨_, List.mem_append_right _ (List.mem_singleton_self _), hfrom⟩
    · rcases List.mem_append.1 hm with hm | hm
      · exact List.mem_cons_of_mem _ (h.seen m hm)
      · rw [List.mem_singleton.1 hm]
        exact List.mem_cons_self
    · rw [List.map_append, List.nodup_append]
      refine ⟨h.distinct, List.nodup_singleton _, fun a ha b hb heq => hnew ?_⟩
      obtain ⟨m, hm, rfl⟩ := List.mem_map.1 ha
      rw [List.map_singleton, List.mem_singleton] at hb
      rw [← show u.casefold (removeSlash m.normalizedPath) = u.casefold (removeSlash normalized) from heq.trans hb]
      exact h.seen m hm
    · simp only [List.length_append, List.length_singleton]
      have hcount := h.count
      omega
    · rw [List.map_append, List.sum_append, h.total]
      simp [hsize]

theorem Opened.run {infos : List ZipInfo} (h : Opened u limits officeContainer done p)
    (hrun : infos.foldlM (addMember u limits officeContainer) p = .ok p') :
    Opened u limits officeContainer (done ++ infos) p' := by
  induction infos generalizing done p with
  | nil =>
    obtain rfl := Except.ok.inj hrun
    rwa [List.append_nil]
  | cons info infos ih =>
    rw [List.foldlM_cons] at hrun
    obtain ⟨p₁, hstep, hrest⟩ := bind_eq_ok.1 hrun
    rw [← List.singleton_append, ← List.append_assoc]
    exact ih (h.step hstep) hrest

/-- **What is opened** comes from the files of the archive, within its limits. -/
theorem opened {infos : List ZipInfo} {members : List ZipMember}
    (h : openSafeZip u limits officeContainer (some infos) = .ok members) :
    infos.length ≤ limits.maxZipMembersPerArchive ∧
      ∃ p : Progress, p.members = members ∧ Opened u limits officeContainer infos p := by
  simp only [openSafeZip, bind_eq_ok, orRaise_eq_ok, ensure_eq_ok, pure_eq_ok, exists_const] at h
  obtain ⟨infos', hinfos, hcount, p, hrun, rfl⟩ := h
  obtain rfl := Option.some.inj hinfos
  exact ⟨hcount, p, rfl, opened_nil.run hrun⟩

/-! ## Safe archives -/

/-- members that are safe, within the limits, and can be read -/
structure SafeArchive (u : Unicode) (limits : ExtractionLimits) (officeContainer : Bool) (infos : List ZipInfo)
    (members : List ZipMember) : Prop where
  paths : ∀ m ∈ members, SafePath m.normalizedPath
  distinct : (members.map fun m => u.casefold m.normalizedPath).Nodup
  count : members.length ≤ limits.maxZipMembersPerArchive
  bytes : (members.map fun m => m.data.length).sum ≤ limits.maxZipUncompressedBytesPerArchive
  ratio : ∀ m ∈ members, ∃ info ∈ infos, normalizeMemberPath u info.filename = .ok m.normalizedPath ∧
    m.data.length ≤ info.compressSize * limits.maxZipDecompressionRatio
  signature : ∀ m ∈ members, ∀ magic ∈ archiveMagics, ¬magic <+: m.data
  office : officeContainer = true → ∀ m ∈ members, OfficeSafe u m.normalizedPath
  readable : ∀ m ∈ members, readZipMember u members m.normalizedPath = .ok m.data

/-- no file of the archive has a name whose normal form holds a lookalike -/
def PlainNames (u : Unicode) (infos : List ZipInfo) : Prop :=
  ∀ info ∈ infos, info.isDir = false → Plain (u.nfkc info.filename)

theorem FromFile.normalized (hu : Nfkc u.nfkc) {m : ZipMember} (h : FromFile u limits officeContainer info m) :
    Normalized u info.filename m.normalizedPath :=
  (normalizeMemberPath_file hu (by simpa [ZipInfo.isDir] using h.file)).1 h.path

/-- **The members are safe** and can be read back exactly if no file's normalised name holds a slash lookalike. -/
theorem safeArchive_iff (u : Unicode) (hu : Nfkc u.nfkc) (limits : ExtractionLimits) (officeContainer : Bool)
    (infos : List ZipInfo) (members : List ZipMember)
    (h : openSafeZip u limits officeContainer (some infos) = .ok members) :
    SafeArchive u limits officeContainer infos members ↔ PlainNames u infos := by
  obtain ⟨hcount, p, rfl, hopened⟩ := opened h
  constructor
  · intro hsafe info hinfo hfile
    obtain ⟨m, hm, hfrom⟩ := hopened.complete info hinfo hfile
    exact ((hfrom.normalized hu).safePath_iff hu).1 (hsafe.paths m hm)
  · intro hplain
    have hfolded : (p.members.map fun m => u.casefold m.normalizedPath) =
        p.members.map fun m => u.casefold (removeSlash m.normalizedPath) := by
      refine List.map_congr_left fun m hm => ?_
      obtain ⟨info, -, hfrom⟩ := hopened.sound m hm
      rw [removeSlash_of_ne (hfrom.normalized hu).last]
    have hdistinct : (p.members.map fun m => u.casefold m.normalizedPath).Nodup := hfolded ▸ hopened.distinct
    have hkeys : (p.members.map ZipMember.normalizedPath).Nodup := by
      rw [List.Nodup, List.pairwise_map] at hdistinct ⊢
      exact hdistinct.imp fun hne heq => hne (congrArg u.casefold heq)
    refine ⟨fun m hm => ?_, hdistinct, hopened.count.trans hcount, ?_, fun m hm => ?_, fun m hm => ?_,
      fun hoffice m hm => ?_, fun m hm => ?_⟩
    · obtain ⟨info, hinfo, hfrom⟩ := hopened.sound m hm
      exact ((hfrom.normalized hu).safePath_iff hu).2 (hplain info hinfo hfrom.file)
    · rw [hopened.total]
      by_cases hnil : p.members = []
      · have htotal := hopened.total
        rw [hnil] at htotal
        rw [← htotal]
        exact Nat.zero_le _
      · exact hopened.bounded hnil
    · obtain ⟨info, hinfo, hfrom⟩ := hopened.sound m hm
      exact ⟨info, hinfo, hfrom.path, hfrom.ratio⟩
    · obtain ⟨info, -, hfrom⟩ := hopened.sound m hm
      exact hfrom.signature
    · obtain ⟨info, -, hfrom⟩ := hopened.sound m hm
      exact hfrom.office hoffice
    · obtain ⟨info, hinfo, hfrom⟩ := hopened.sound m hm
      have hagain := (hfrom.normalized hu).again hu (hplain info hinfo hfrom.file)
      have hget : Rows.get? ZipMember.normalizedPath m.normalizedPath p.members = some m :=
        (Rows.get?_eq_some hkeys).2 ⟨hm, rfl⟩
      rw [readZipMember, hagain]
      show (orRaise (Rows.get? ZipMember.normalizedPath m.normalizedPath p.members) _ >>= _) = _
      rw [hget]
      rfl

/-! ## Names in an archive -/

namespace Samples

/-- of the vulgar fraction one half, NFKC makes three characters, the second a fraction slash -/
def fractionNfkc (path : List Char) : List Char :=
  path.flatMap fun c => if c = '\u00bd' then ['1', '\u2044', '2'] else [c]

/-- the Unicode functions, on lower-case ASCII letters and one half -/
def unicode : Unicode := ⟨fractionNfkc, id, id⟩

theorem fractionNfkc_of_notMem {path : List Char} (h : '\u00bd' ∉ path) : fractionNfkc path = path := by
  induction path with
  | nil => rfl
  | cons c path ih =>
    have hc : c ≠ '\u00bd' := fun heq => h (heq ▸ List.mem_cons_self)
    rw [fractionNfkc, List.flatMap_cons, if_neg hc, ← fractionNfkc, ih fun hmem => h (List.mem_cons_of_mem _ hmem)]
    rfl

theorem mem_fractionNfkc {path : List Char} {x : Char} (h : x ∈ fractionNfkc path) :
    x ≠ '\u00bd' ∧ (x ∈ path ∨ x ∈ ['1', '\u2044', '2']) := by
  obtain ⟨c, hc, hx⟩ := List.mem_flatMap.1 h
  split_ifs at hx with hhalf
  · refine ⟨?_, Or.inr hx⟩
    rintro rfl
    revert hx
    decide
  · rw [List.mem_singleton.1 hx]
    exact ⟨hhalf, Or.inl hc⟩

theorem half_notMem (path : List Char) : '\u00bd' ∉ fractionNfkc path := fun h => (mem_fractionNfkc h).1 rfl

theorem nfkc_fraction : Nfkc fractionNfkc where
  idem a := fractionNfkc_of_notMem (half_notMem a)
  part a b ha hb := by
    refine fractionNfkc_of_notMem fun hmem => half_notMem a ?_
    rw [ha]
    exact hb.subset hmem
  slash a b := by simp [fractionNfkc, List.flatMap_append, List.flatMap_cons]
  nul a h := by
    rcases (mem_fractionNfkc h).2 with h | h
    · exact h
    · exact absurd h (by decide)
  last a h := by
    rcases List.eq_nil_or_concat' a with rfl | ⟨front, c, rfl⟩
    · cases h
    · rw [List.getLast?_concat]
      by_cases hhalf : c = '\u00bd'
      · subst hhalf
        have htwo : fractionNfkc (front ++ ['\u00bd']) = (fractionNfkc front ++ ['1', '\u2044']) ++ ['2'] := by
          simp [fractionNfkc, List.flatMap_append]
        rw [htwo, List.getLast?_concat] at h
        cases h
      · have hself : fractionNfkc (front ++ [c]) = fractionNfkc front ++ [c] := by
          simp [fractionNfkc, List.flatMap_append, hhalf]
        rw [hself, List.getLast?_concat] at h
        exact Or.inl h

def smallLimits : ExtractionLimits := ⟨10, 100, 10, 10, 10, 10, 10⟩

/-- a file of one byte -/
def file (name : List Char) : ZipInfo := ⟨name, 3, 0, 1, 1, [.ok [0x61], .ok []]⟩

end Samples

open Samples in
theorem safeArchive_plain :
    SafeArchive unicode smallLimits true [file ['a', '/', '/', 'b']] [⟨['a', '/', 'b'], [0x61]⟩] :=
  (safeArchive_iff unicode nfkc_fraction smallLimits true _ _ (by decide)).2 (by
    intro info hinfo _
    rw [List.mem_singleton.1 hinfo]
    decide)

open Samples in
/-- a file named ½ is opened under a path with a fraction slash, which cannot be read -/
theorem fraction_slash : ¬∀ (u : Unicode), Nfkc u.nfkc → ∀ (limits : ExtractionLimits) (officeContainer : Bool)
    (infos : List ZipInfo) (members : List ZipMember), openSafeZip u limits officeContainer (some infos) = .ok members →
      SafeArchive u limits officeContainer infos members := by
  intro h
  have hsafe := h unicode nfkc_fraction smallLimits false [file ['\u00bd']] [⟨['1', '\u2044', '2'], [0x61]⟩]
    (by decide)
  exact absurd ((hsafe.paths _ (List.mem_singleton_self _)).lookalike) (by decide)

end Zip

end AtoService.Extraction

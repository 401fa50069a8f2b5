/-
Systems: created and archived by mutations that may be sent twice.

The body of a request has the types of its schema. Identifiers are drawn for each request; events of the audit trail are left
out. A system that is not there and a principal who is no member of the owner group both raise. How times are written is an
argument.

- `authorized_change`, `sound_run`: every system was asked for by a member of its owner group, and archived by one.
- `systems_accounted`: there are as many systems as creations were executed, however often they were sent.
-/
import AtoService.Storage.ReplaySafe
import AtoService.Workspace.Contracts

namespace AtoService.Systems

open Json Results Idempotency
open AtoService.JsonSchema (Fields)
open AtoService.Workspace (Uuid)

/-! ## Requests -/

structure AuthenticatedPrincipal where
  actorId : String
  groups : List String

structure System where
  systemId : Uuid
  displayName : String
  externalSystemId : Option String
  customerEnterpriseId : String
  ownerGroup : String
  viewerGroups : List String
  createdAt : Int
  archivedAt : Option Int

structure FieldValidationError where
  path : String
  code : String
  message : String
deriving DecidableEq, Repr

inductive SystemsError where
  | requestSchemaInvalid (errors : List FieldValidationError)
  | authorizationDenied
  | idempotency (e : IdempotencyValidationError)
deriving DecidableEq, Repr

structure CreateSystem where
  principal : AuthenticatedPrincipal
  idempotencyKey : String
  displayName : String
  externalSystemId : Option String
  ownerGroup : String
  viewerGroups : List String
  customerEnterpriseId : String
  now : Int
  /-- `uuid.uuid4()` -/
  systemId : Uuid

structure ArchiveSystem where
  principal : AuthenticatedPrincipal
  idempotencyKey : String
  systemId : Uuid
  now : Int

/-- a group id that is kept has characters left when it is stripped -/
def isMemberOf (principal : AuthenticatedPrincipal) (group : String) : Bool := principal.groups.contains (Py.strip group)

/-! ## Validation -/

def normalizeGroupId (value path : String) : Except FieldValidationError String := do
  let normalized := Py.strip value
  ensure (1 ≤ (Py.chars normalized).length) ⟨path, "min_length", "must be at least 1 character"⟩
  ensure ((Py.chars normalized).length ≤ 255) ⟨path, "max_length", "must be at most 255 characters"⟩
  return normalized

def validateDisplayName (value : String) : Except FieldValidationError String := do
  ensure (1 ≤ (Py.chars value).length) ⟨"display_name", "min_length", "must be at least 1 character"⟩
  ensure ((Py.chars value).length ≤ 255) ⟨"display_name", "max_length", "must be at most 255 characters"⟩
  return value

def validateExternalSystemId (value : Option String) : Except FieldValidationError (Option String) := do
  ensure (∀ s ∈ value, (Py.chars s).length ≤ 255)
    ⟨"external_system_id", "max_length", "must be at most 255 characters"⟩
  return value

/-- one round of the loop over the groups: the errors so far, and the groups -/
def viewerGroupRound (acc : List FieldValidationError × List String) (entry : String × Nat) :
    List FieldValidationError × List String :=
  let path := "viewer_groups[" ++ indexText entry.2 ++ "]"
  match normalizeGroupId entry.1 path with
  | .error e => (acc.1 ++ [e], acc.2)
  | .ok group =>
    if group ∈ acc.2 then (acc.1 ++ [⟨path, "unique_items", "duplicate group id"⟩], acc.2)
    else (acc.1, acc.2 ++ [group])

def validateViewerGroups (value : List String) : List FieldValidationError × List String :=
  if 100 < value.length then ([⟨"viewer_groups", "max_items", "must contain at most 100 items"⟩], [])
  else value.zipIdx.foldl viewerGroupRound ([], [])

structure SystemInputs where
  displayName : String
  externalSystemId : Option String
  ownerGroup : String
  viewerGroups : List String

def errorOf {α : Type} : Except FieldValidationError α → List FieldValidationError
  | .error e => [e]
  | .ok _ => []

/-- the errors of all fields, or the inputs; only the groups are changed by their checks -/
def validateCreateSystemInputs (r : CreateSystem) : Except SystemsError SystemInputs := do
  let (viewerErrors, viewerGroups) := validateViewerGroups r.viewerGroups
  let errors := errorOf (validateDisplayName r.displayName) ++ errorOf (validateExternalSystemId r.externalSystemId) ++
    errorOf (normalizeGroupId r.ownerGroup "owner_group") ++ viewerErrors
  ensure (errors = []) (.requestSchemaInvalid errors)
  return { displayName := r.displayName, externalSystemId := r.externalSystemId, ownerGroup := Py.strip r.ownerGroup
           viewerGroups }

/-! ## Mutations -/

def systemsCreateOperation : String := "systems.create"

def systemsArchiveOperation : String := "systems.archive"

def orNull (value : Option String) : Json := (value.map Json.str).getD .null

def createSystemRequestDigestPayload (inputs : SystemInputs) : Fields :=
  [("display_name", .str inputs.displayName), ("external_system_id", orNull inputs.externalSystemId),
    ("owner_group", .str inputs.ownerGroup), ("viewer_groups", .arr (inputs.viewerGroups.map Json.str))]

def archiveSystemRequestDigestPayload (systemId : Uuid) : Fields := [("system_id", .str systemId.str)]

def newSystem (r : CreateSystem) (inputs : SystemInputs) : System where
  systemId := r.systemId
  displayName := inputs.displayName
  externalSystemId := inputs.externalSystemId
  customerEnterpriseId := r.customerEnterpriseId
  ownerGroup := inputs.ownerGroup
  viewerGroups := inputs.viewerGroups
  createdAt := r.now
  archivedAt := none

/-- `system.archived_at = now`, of the row with the identifier -/
def archive (systemId : Uuid) (now : Int) (systems : List System) : List System :=
  systems.map fun s => if s.systemId = systemId then { s with archivedAt := some now } else s

section

variable (formatUtc : Int → String)

def mapSystemToDomain (s : System) : Fields :=
  [("schema_version", .str "2.0.0"), ("object_type", .str "system"), ("system_id", .str s.systemId.str),
    ("display_name", .str s.displayName), ("external_system_id", orNull s.externalSystemId),
    ("customer_enterprise_id", .str s.customerEnterpriseId), ("owner_group", .str s.ownerGroup),
    ("viewer_groups", .arr (s.viewerGroups.map Json.str)), ("created_at", .str (formatUtc s.createdAt)),
    ("archived_at", orNull (s.archivedAt.map formatUtc))]

/-- `create_system` -/
def createSystem (r : CreateSystem) : Except SystemsError (Call (List System)) := do
  let inputs ← validateCreateSystemInputs r
  ensure (isMemberOf r.principal inputs.ownerGroup = true) .authorizationDenied
  let requestDigest ← (requestDigestFromPayload (createSystemRequestDigestPayload inputs)).mapError .idempotency
  let system := newSystem r inputs
  return { scope := ⟨r.principal.actorId, systemsCreateOperation, r.idempotencyKey⟩, requestDigest, now := r.now
           body := fun _ => some ((· ++ [system]), ⟨201, mapSystemToDomain formatUtc system, []⟩) }

/-- what `archive_system` does with the systems that it reads -/
def archiveSystemBody (r : ArchiveSystem) (systems : List System) : Option ((List System → List System) × Response) := do
  let system ← systems.find? fun s => s.systemId = r.systemId
  if isMemberOf r.principal system.ownerGroup then
    if system.archivedAt.isNone then
      some (archive r.systemId r.now, ⟨200, mapSystemToDomain formatUtc { system with archivedAt := some r.now }, []⟩)
    else some (id, ⟨200, mapSystemToDomain formatUtc system, []⟩)
  else none

/-- `archive_system` -/
def archiveSystem (r : ArchiveSystem) : Except SystemsError (Call (List System)) := do
  let requestDigest ← (requestDigestFromPayload (archiveSystemRequestDigestPayload r.systemId)).mapError .idempotency
  return { scope := ⟨r.principal.actorId, systemsArchiveOperation, r.idempotencyKey⟩, requestDigest, now := r.now
           body := archiveSystemBody formatUtc r }

inductive SystemsOp where
  | create (t : Nat) (r : CreateSystem)
  | archive (t : Nat) (r : ArchiveSystem)
  | work (t : Nat)
  | commit (t : Nat)
  | rollback (t : Nat)

/-- a request that raises before it is looked up is rolled back -/
def toOp : SystemsOp → Op (List System)
  | .create t r =>
    match createSystem formatUtc r with
    | .ok call => .load t call
    | .error _ => .rollback t
  | .archive t r =>
    match archiveSystem formatUtc r with
    | .ok call => .load t call
    | .error _ => .rollback t
  | .work t => .work t
  | .commit t => .commit t
  | .rollback t => .rollback t

def systemsRun (pyRepr : String → String) (ops : List SystemsOp) : Db (List System) :=
  Runs.run (step pyRepr) (start []) (ops.map (toOp formatUtc))

/-! ## Systems in a run -/

/-- the calls that the requests of a run make -/
inductive Requested (ops : List SystemsOp) : Call (List System) → Prop where
  | create {t : Nat} {r : CreateSystem} {call : Call (List System)} : .create t r ∈ ops →
      createSystem formatUtc r = .ok call → Requested ops call
  | archive {t : Nat} {r : ArchiveSystem} {call : Call (List System)} : .archive t r ∈ ops →
      archiveSystem formatUtc r = .ok call → Requested ops call

end

/-- a member of the owner group has asked for the system, and a member has archived it if it is archived -/
structure Authorized (ops : List SystemsOp) (s : System) : Prop where
  created : ∃ t r inputs, .create t r ∈ ops ∧ validateCreateSystemInputs r = .ok inputs ∧
    isMemberOf r.principal inputs.ownerGroup = true ∧ s = { newSystem r inputs with archivedAt := s.archivedAt }
  archived : ∀ at', s.archivedAt = some at' → ∃ t r, .archive t r ∈ ops ∧ r.systemId = s.systemId ∧ r.now = at' ∧
    isMemberOf r.principal s.ownerGroup = true

/-- no two creations have drawn the same identifier -/
def FreshIds (ops : List SystemsOp) : Prop :=
  ∀ t r t' r', .create t r ∈ ops → .create t' r' ∈ ops → r.systemId = r'.systemId → r = r'

section

variable {formatUtc : Int → String} {ops : List SystemsOp} {pyRepr : String → String}

theorem loads_requested : Loads (Requested formatUtc ops) (ops.map (toOp formatUtc)) := by
  intro t call hmem
  obtain ⟨op, hop, heq⟩ := List.mem_map.1 hmem
  cases op with
  | create t' r =>
    dsimp only [toOp] at heq
    split at heq
    · next hcall =>
      obtain ⟨rfl, rfl⟩ := Op.load.inj heq
      exact Requested.create hop hcall
    · cases heq
  | archive t' r =>
    dsimp only [toOp] at heq
    split at heq
    · next hcall =>
      obtain ⟨rfl, rfl⟩ := Op.load.inj heq
      exact Requested.archive hop hcall
    · cases heq
  | work t' => cases heq
  | commit t' => cases heq
  | rollback t' => cases heq

/-- what a requested call does: it adds a system of its own, or archives one that it has read, or nothing -/
inductive Change (ops : List SystemsOp) (call : Call (List System)) (systems : List System) :
    (List System → List System) → Prop where
  | create {t : Nat} {r : CreateSystem} {inputs : SystemInputs} : .create t r ∈ ops →
      validateCreateSystemInputs r = .ok inputs → isMemberOf r.principal inputs.ownerGroup = true →
      call.scope.operation = systemsCreateOperation → Change ops call systems (· ++ [newSystem r inputs])
  | archive {t : Nat} {r : ArchiveSystem} {s : System} : .archive t r ∈ ops → s ∈ systems → s.systemId = r.systemId →
      isMemberOf r.principal s.ownerGroup = true → call.scope.operation = systemsArchiveOperation →
      Change ops call systems (archive r.systemId r.now)
  | none : call.scope.operation = systemsArchiveOperation → Change ops call systems id

theorem change_of_body {call : Call (List System)} {systems : List System} {change : List System → List System}
    {response : Response} (hcall : Requested formatUtc ops call) (hbody : call.body systems = some (change, response)) :
    Change ops call systems change := by
  cases hcall with
  | create hop hcreate =>
    simp only [createSystem, bind_eq_ok, ensure_eq_ok, pure_eq_ok] at hcreate
    obtain ⟨inputs, hinputs, -, hmember, digest, -, rfl⟩ := hcreate
    obtain ⟨rfl, -⟩ := Prod.mk.inj (Option.some.inj hbody)
    exact Change.create hop hinputs hmember rfl
  | @archive t r call hop harchive =>
    simp only [archiveSystem, bind_eq_ok, pure_eq_ok] at harchive
    obtain ⟨digest, -, rfl⟩ := harchive
    obtain ⟨s, hfind, hbody⟩ := Option.bind_eq_some_iff.1 hbody
    have hid : s.systemId = r.systemId :=
      of_decide_eq_true (List.find?_some (p := fun s : System => decide (s.systemId = r.systemId)) hfind)
    split_ifs at hbody with hmember hnew
    · obtain ⟨rfl, -⟩ := Prod.mk.inj (Option.some.inj hbody)
      exact Change.archive hop (List.mem_of_find?_eq_some hfind) hid hmember rfl
    · obtain ⟨rfl, -⟩ := Prod.mk.inj (Option.some.inj hbody)
      exact Change.none rfl

/-- two systems with one identifier come from one request, and so have one owner group -/
theorem Authorized.ownerGroup_eq (hfresh : FreshIds ops) {s s' : System} (h : Authorized ops s) (h' : Authorized ops s')
    (hid : s.systemId = s'.systemId) : s.ownerGroup = s'.ownerGroup := by
  obtain ⟨t, r, inputs, hop, hinputs, -, hs⟩ := h.created
  obtain ⟨t', r', inputs', hop', hinputs', -, hs'⟩ := h'.created
  have hsame : r = r' := by
    refine hfresh t r t' r' hop hop' ?_
    rw [hs, hs'] at hid
    exact hid
  subst hsame
  obtain rfl := Except.ok.inj (hinputs.symm.trans hinputs')
  rw [hs, hs']

/-- a change of a requested call keeps every system authorized -/
theorem authorized_change (hfresh : FreshIds ops) {call : Call (List System)} {systems systems' : List System}
    {change : List System → List System} (hchange : Change ops call systems change)
    (hread : ∀ s ∈ systems, Authorized ops s) (h : ∀ s ∈ systems', Authorized ops s) :
    ∀ s ∈ change systems', Authorized ops s := by
  cases hchange with
  | @create t r inputs hop hinputs hmember _ =>
    intro s hs
    rcases List.mem_append.1 hs with hs | hs
    · exact h s hs
    · obtain rfl := List.mem_singleton.1 hs
      exact ⟨⟨t, r, inputs, hop, hinputs, hmember, rfl⟩, fun at' hat => by cases hat⟩
  | @archive t r found hop hfound hid hmember _ =>
    intro s hs
    obtain ⟨s', hs', rfl⟩ := List.mem_map.1 hs
    have hauthorized := h s' hs'
    split_ifs with heq
    · have howner := hauthorized.ownerGroup_eq hfresh (hread found hfound) (heq.trans hid.symm)
      obtain ⟨t', r', inputs, hop', hinputs, hmember', hs'⟩ := hauthorized.created
      refine ⟨⟨t', r', inputs, hop', hinputs, hmember', ?_⟩, fun at' hat => ?_⟩
      · rw [hs']
      · refine ⟨t, r, hop, heq.symm, Option.some.inj hat, ?_⟩
        change isMemberOf r.principal s'.ownerGroup = true
        rw [howner]
        exact hmember
    · exact hauthorized
  | none _ => exact h

theorem sound_run (hfresh : FreshIds ops) :
    Sound (Requested formatUtc ops) (fun systems => ∀ s ∈ systems, Authorized ops s) (systemsRun formatUtc pyRepr ops) := by
  refine (sound_start ?_).run ?_ loads_requested
  · exact fun s hs => absurd hs List.not_mem_nil
  · rintro call change ⟨hcall, systems, response, hread, hbody⟩ systems' h
    exact authorized_change hfresh (change_of_body hcall hbody) hread h

/-- the event is an execution of `create_system` -/
def isCreation : Event (List System) → Bool
  | .executed call _ _ => call.scope.operation = systemsCreateOperation
  | _ => false

/-- a creation adds one system, and no other event does -/
theorem length_changed {log : List (Event (List System))} (systems : List System)
    (h : ∀ call change row, .executed call change row ∈ log → ∃ read, Change ops call read change) :
    (changed systems log).length = systems.length + log.countP isCreation := by
  induction log generalizing systems with
  | nil => rfl
  | cons e log ih =>
    have hrest := ih (Event.apply systems e) fun call change row hmem => h call change row (List.mem_cons_of_mem _ hmem)
    rw [List.countP_cons]
    change (changed (Event.apply systems e) log).length = _
    rw [hrest]
    cases e with
    | replayed call response => simp [Event.apply, isCreation]
    | conflicted call => simp [Event.apply, isCreation]
    | executed call change row =>
      obtain ⟨read, hchange⟩ := h call change row List.mem_cons_self
      have hne : systemsArchiveOperation ≠ systemsCreateOperation := by decide
      cases hchange with
      | create _ _ _ hoperation =>
        simp only [Event.apply, isCreation, hoperation, List.length_append, List.length_singleton, decide_true, if_true]
        omega
      | archive _ _ _ _ hoperation => simp [Event.apply, isCreation, hoperation, hne, archive]
      | none hoperation => simp [Event.apply, isCreation, hoperation, hne]

/-- there are as many systems as creations were executed, a retention apart where they were sent again, and every system is
owned by a group of who asked for it and of who has archived it -/
theorem systems_accounted (formatUtc : Int → String) (pyRepr : String → String) (hfresh : FreshIds ops) :
    (systemsRun formatUtc pyRepr ops).domain.length = (systemsRun formatUtc pyRepr ops).log.countP isCreation ∧
      EventLogs.Lawful Event.Ok (systemsRun formatUtc pyRepr ops).log ∧
      ∀ s ∈ (systemsRun formatUtc pyRepr ops).domain, Authorized ops s := by
  have hsound : Sound (Requested formatUtc ops) _ (systemsRun formatUtc pyRepr ops) := sound_run hfresh
  have hinv := inv_run pyRepr ([] : List System) (ops.map (toOp formatUtc))
  refine ⟨?_, hinv.lawful, hsound.domain⟩
  have hchanges : ∀ call change row, .executed call change row ∈ (systemsRun formatUtc pyRepr ops).log →
      ∃ read, Change ops call read change := by
    intro call change row hmem
    obtain ⟨hcall, systems, response, -, hbody⟩ := hsound.executed call change row hmem
    exact ⟨systems, change_of_body hcall hbody⟩
  have hlength := length_changed [] hchanges
  rw [List.length_nil, Nat.zero_add] at hlength
  exact (congrArg List.length hinv.domain_eq).trans hlength

end

def payrollRequest (id : Nat) : CreateSystem where
  principal := ⟨"alice", ["owners"]⟩
  idempotencyKey := "payroll-create-0001"
  displayName := "Payroll"
  externalSystemId := none
  ownerGroup := "owners"
  viewerGroups := []
  customerEnterpriseId := "enterprise"
  now := 0
  systemId := Uuid.ofNat id

def payrollArchive : ArchiveSystem where
  principal := ⟨"alice", ["owners"]⟩
  idempotencyKey := "payroll-archive-0001"
  systemId := Uuid.ofNat 1
  now := 1

/-- a creation that is sent again once it was committed, and the archiving of the system -/
def retried : List SystemsOp :=
  [.create 0 (payrollRequest 1), .work 0, .commit 0, .create 1 (payrollRequest 2), .commit 1, .archive 2 payrollArchive,
    .work 2, .commit 2]

def plainTime : Int → String := fun _ => "1970-01-01T00:00:00.000000Z"

theorem retried_once : (systemsRun plainTime id retried).domain.length = 1 ∧
    (systemsRun plainTime id retried).domain.map System.archivedAt = [some 1] := by
  decide +kernel

theorem retried_fresh : FreshIds retried := by
  intro t r t' r' h h' hid
  simp only [retried, List.mem_cons, SystemsOp.create.injEq, reduceCtorEq, List.not_mem_nil, or_false, false_or] at h h'
  have hne : (payrollRequest 1).systemId ≠ (payrollRequest 2).systemId := by decide
  rcases h with ⟨-, rfl⟩ | ⟨-, rfl⟩ <;> rcases h' with ⟨-, rfl⟩ | ⟨-, rfl⟩
  · rfl
  · exact absurd hid hne
  · exact absurd hid.symm hne
  · rfl

/-- the second request makes no second system, and the third archives the one there is -/
theorem systems_accounted_retried : ((systemsRun plainTime id retried).domain.length = 1 ∧
    (systemsRun plainTime id retried).domain.map System.archivedAt = [some 1]) ∧
    ((systemsRun plainTime id retried).domain.length = (systemsRun plainTime id retried).log.countP isCreation ∧
      EventLogs.Lawful Event.Ok (systemsRun plainTime id retried).log ∧
      ∀ s ∈ (systemsRun plainTime id retried).domain, Authorized retried s) :=
  ⟨retried_once, systems_accounted plainTime id retried_fresh⟩

end AtoService.Systems

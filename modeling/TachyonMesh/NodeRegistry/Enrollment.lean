import TachyonMesh.Foundation.Machine
import TachyonMesh.Foundation.Slots
import TachyonMesh.Foundation.Text

/-! # Node enrollment

The enrollment calls of the node registry: a node starts a session for its
public key, an operator approves it with the session's PIN, and the node polls
for the staged certificate. Session id, PIN and node id are derived from the key:
the first two by a six-digit hash, the last from the key's last eight characters.
A start writes the whole session row without reading it; an approval and a poll read
the row, decide, and write it back later, so other calls may come in between.
-/

namespace TachyonMesh.NodeRegistry
open Foundation List Function Machine

/-! ## Derived identifiers -/

/-- The accumulator of `deterministic_pin`: a 32-bit wrapping hash of the bytes. -/
def pinHash (seed : String) : Nat :=
  (utf8Bytes seed).foldl (fun acc byte => (acc * 31 % 2 ^ 32 + byte) % 2 ^ 32) 0

/-- The hash modulo a million, as six digits. -/
def deterministicPin (seed : String) : String :=
  String.ofList (zeroPadded 6 (pinHash seed % 1000000))

/-- The session id that a start derives from the node's public key. -/
def sessionIdOf (nodePublicKey : String) : String := "enroll-" ++ deterministicPin nodePublicKey

/-- The last eight characters of the trimmed key. -/
def nodeIdFromPublicKey (publicKey : String) : String :=
  let suffix := ((trimChars publicKey.toList).reverse.take 8).reverse
  if suffix = [] then "node-unknown" else "node-" ++ String.ofList suffix

def sessionKey (sessionId : String) : String := "enrollment-session:" ++ sessionId

/-! ## Rows and calls -/

/-- A session as its node is told of it. -/
structure EnrollmentSession where
  sessionId : String
  nodePublicKey : String
  pin : String
  createdAt : Nat

/-- A session as it is stored. -/
structure StoredEnrollmentSession extends EnrollmentSession where
  signedCertificateHex : Option String
  consumed : Bool

/-- An approval refuses a session with a certificate or one that was polled. -/
def StoredEnrollmentSession.finalized (stored : StoredEnrollmentSession) : Bool :=
  stored.consumed || stored.signedCertificateHex.isSome

/-- A node that was approved. -/
structure EnrolledNode where
  nodeId : String
  publicKey : String
  status : String
  approvedAt : Nat
  lastSeen : Nat
  approvedBy : String
  approvalTags : List String

/-- The node row of an approval; its capabilities are reported later. -/
def EnrolledNode.awaitingCapabilitiesWithProvenance (nodeId publicKey : String) (now : Nat)
    (approvedBy : String) (approvalTags : List String) : EnrolledNode :=
  { nodeId, publicKey, status := "awaiting-capabilities", approvedAt := now, lastSeen := now,
    approvedBy, approvalTags }

/-- A session row. `staging` numbers the write that staged its certificate; it is
not stored by the program and no call reads it. -/
structure SessionRow where
  stored : StoredEnrollmentSession
  staging : Nat

/-- What `try_zero_touch` returns for an accepted machine identity. -/
structure ApprovedCredential where
  credentialHex : String
  subject : String
  matchedTags : List String

/-- A call between its row read and its row writes. -/
inductive Call where
  | approving (sessionId : String) (row : SessionRow) (certificate : String)
  | recording (session : EnrollmentSession) (approvedBy : String) (tags : List String)
  | polling (row : SessionRow)
  | finished

def Call.polled : Call → Option SessionRow
  | .polling row => some row
  | _ => none

/-- The session and node rows of the `node-registry` table, the calls in flight, the
number of stagings so far and the stagings that polls delivered. -/
structure RegistryState where
  sessions : String → Option SessionRow
  nodes : String → Option EnrolledNode
  calls : List Call
  stagings : Nat
  deliveries : List Nat

/-- The reads and writes of the three calls. A start has no read; `approval` is what
its zero-touch attempt returned. -/
inductive RegistryEvent where
  | start (nodePublicKey : String) (createdAt : Nat) (approval : Option ApprovedCredential)
  | approveRead (sessionId pin certificate : String)
  | approveWrite (call : Nat)
  | recordNode (call now : Nat)
  | pollRead (sessionId : String)
  | pollWrite (call : Nat)

/-- The checks an approval makes on the row it read, with its error texts. -/
def approveCheck (stored : StoredEnrollmentSession) (pin certificate : String) :
    Except String Unit :=
  if stored.finalized then .error "enrollment session is already finalized"
  else if stored.pin ≠ pin then .error "invalid enrollment PIN"
  else
    match hexDecode certificate with
    | .ok _ => .ok ()
    | .error error => .error ("signedCertificateHex must be valid hex: " ++ error.text)

namespace RegistryState

def initial : RegistryState :=
  { sessions := fun _ => none, nodes := fun _ => none, calls := [], stagings := 0,
    deliveries := [] }

variable (state : RegistryState)

/-- The row goes under its own session id. -/
def writeEnrollmentSession (row : SessionRow) : RegistryState :=
  { state with
    sessions := update state.sessions (sessionKey row.stored.sessionId) (some row) }

section
variable (nodePublicKey : String) (createdAt : Nat)

/-- The session a start opens for a key. -/
def openedSession : EnrollmentSession :=
  { sessionId := sessionIdOf nodePublicKey, nodePublicKey,
    pin := deterministicPin (sessionIdOf nodePublicKey), createdAt }

/-- The row a start writes: the opened session, with the credential of a zero-touch
approval already staged. -/
def openedRow (approval : Option ApprovedCredential) : SessionRow :=
  { stored := { openedSession nodePublicKey createdAt with
      signedCertificateHex := approval.map ApprovedCredential.credentialHex
      consumed := false }
    staging := state.stagings }

/-- Write a new row; after a zero-touch approval the node row is still to be
recorded. -/
def start (approval : Option ApprovedCredential) : RegistryState :=
  let written := state.writeEnrollmentSession (state.openedRow nodePublicKey createdAt approval)
  match approval with
  | some approved =>
      { written with
        stagings := state.stagings + 1
        calls := state.calls ++
          [.recording (openedSession nodePublicKey createdAt) ("oidc:" ++ approved.subject)
            approved.matchedTags] }
  | none => written

end

/-- The read of an approval; a refused one leaves no call behind. -/
def approveRead (sessionId pin certificate : String) : RegistryState :=
  match state.sessions (sessionKey sessionId) with
  | some row =>
      match approveCheck row.stored pin certificate with
      | .ok () => { state with calls := state.calls ++ [.approving sessionId row certificate] }
      | .error _ => state
  | none => state

/-- The row an approval writes: the row it read, with the certificate. -/
def approvedRow (row : SessionRow) (certificate : String) : SessionRow :=
  { stored := { row.stored with signedCertificateHex := some certificate }
    staging := state.stagings }

/-- The session write of an approval. -/
def approveWrite (index : Nat) (row : SessionRow) (certificate : String) : RegistryState :=
  { state.writeEnrollmentSession (state.approvedRow row certificate) with
    stagings := state.stagings + 1
    calls := state.calls.set index (.recording row.stored.toEnrollmentSession "pin" []) }

/-- `record_approval_with_provenance`. -/
def recordNode (index : Nat) (session : EnrollmentSession)
    (approvedBy : String) (tags : List String) (now : Nat) : RegistryState :=
  { state with
    nodes := update state.nodes (nodeIdFromPublicKey session.nodePublicKey)
      (some (EnrolledNode.awaitingCapabilitiesWithProvenance
        (nodeIdFromPublicKey session.nodePublicKey) session.nodePublicKey now approvedBy tags))
    calls := state.calls.set index .finished }

/-- The read of a poll; only an unconsumed certificate leads to a write. -/
def pollRead (sessionId : String) : RegistryState :=
  match state.sessions (sessionKey sessionId) with
  | some row =>
      if row.stored.signedCertificateHex.isSome ∧ row.stored.consumed = false then
        { state with calls := state.calls ++ [.polling row] }
      else state
  | none => state

/-- The write of a poll, after which it answers with the certificate it read. -/
def pollWrite (index : Nat) (row : SessionRow) : RegistryState :=
  { state.writeEnrollmentSession { row with stored := { row.stored with consumed := true } } with
    calls := state.calls.set index .finished
    deliveries := state.deliveries ++ [row.staging] }

def step : RegistryEvent → Option RegistryState
  | .start nodePublicKey createdAt approval => some (state.start nodePublicKey createdAt approval)
  | .approveRead sessionId pin certificate => some (state.approveRead sessionId pin certificate)
  | .approveWrite index =>
      match state.calls[index]? with
      | some (.approving _ row certificate) => some (state.approveWrite index row certificate)
      | _ => none
  | .recordNode index now =>
      match state.calls[index]? with
      | some (.recording session approvedBy tags) =>
          some (state.recordNode index session approvedBy tags now)
      | _ => none
  | .pollRead sessionId => some (state.pollRead sessionId)
  | .pollWrite index =>
      match state.calls[index]? with
      | some (.polling row) => some (state.pollWrite index row)
      | _ => none

end RegistryState

open RegistryState

def registryMachine : Machine RegistryState RegistryEvent where
  step := step

/-! ## Keys that the derived ids tell apart -/

variable {first second : String} {keys : Set String}

private theorem sessionKey_inj : sessionKey first = sessionKey second ↔ first = second :=
  String.append_right_inj _

private theorem pinHash_eq_of_sessionIdOf_eq (same : sessionIdOf first = sessionIdOf second) :
    pinHash first % 1000000 = pinHash second % 1000000 := by
  have digits := String.ofList_injective ((String.append_right_inj _).mp same)
  apply zeroPadded_inj _ _ digits <;> exact Nat.mod_lt _ (by decide)

/-- No two keys of the set share their six-digit hash or their node id. -/
structure ToldApart (keys : Set String) : Prop where
  hashes : ∀ first ∈ keys, ∀ second ∈ keys,
    pinHash first % 1000000 = pinHash second % 1000000 → first = second
  nodeIds : ∀ first ∈ keys, ∀ second ∈ keys,
    nodeIdFromPublicKey first = nodeIdFromPublicKey second → first = second

private theorem ToldApart.sessionIds (apart : ToldApart keys) (firstKey : first ∈ keys)
    (secondKey : second ∈ keys) (same : sessionIdOf first = sessionIdOf second) : first = second :=
  apart.hashes first firstKey second secondKey (pinHash_eq_of_sessionIdOf_eq same)

/-! ## What a run keeps -/

/-- The session was opened by a start for one of the keys. -/
structure EnrollmentSession.Genuine (keys : Set String) (session : EnrollmentSession) : Prop where
  key : session.nodePublicKey ∈ keys
  derived : session.sessionId = sessionIdOf session.nodePublicKey

/-- A row whose certificate a poll may still deliver. -/
def SessionRow.Deliverable (row : SessionRow) : Prop :=
  row.stored.signedCertificateHex.isSome ∧ row.stored.consumed = false

/-- What a call in flight remembers. -/
structure Call.Genuine (keys : Set String) (call : Call) : Prop where
  approving : ∀ sessionId row certificate, call = .approving sessionId row certificate →
    row.stored.Genuine keys ∧ row.stored.sessionId = sessionId
  recording : ∀ session approvedBy tags, call = .recording session approvedBy tags →
    session.Genuine keys
  polling : ∀ row, call = .polling row → row.stored.Genuine keys

private theorem Call.genuine_finished (keys : Set String) : Call.finished.Genuine keys where
  approving := by simp
  recording := by simp
  polling := by simp

private theorem Call.genuine_recording {session : EnrollmentSession}
    (genuine : session.Genuine keys)
    (approvedBy : String) (tags : List String) :
    (Call.recording session approvedBy tags).Genuine keys where
  approving := by simp
  recording := by
    intro other _ _ same
    cases same
    exact genuine
  polling := by simp

namespace RegistryState
variable {state next : RegistryState} {index : Nat} {keys : Set String} {row other : SessionRow}
  {call : Call} {event : RegistryEvent} {key : String}

/-- The steps: a read finds nothing to act on, or remembers the row it read. -/
inductive Steps (state : RegistryState) : RegistryEvent → RegistryState → Prop where
  | start (nodePublicKey : String) (createdAt : Nat) (approval : Option ApprovedCredential) :
      Steps state (.start nodePublicKey createdAt approval)
        (state.start nodePublicKey createdAt approval)
  | refused (event : RegistryEvent) : Steps state event state
  | approveRead {sessionId : String} {row : SessionRow} (pin certificate : String)
      (found : state.sessions (sessionKey sessionId) = some row) :
      Steps state (.approveRead sessionId pin certificate)
        { state with calls := state.calls ++ [.approving sessionId row certificate] }
  | approveWrite {index : Nat} {sessionId : String} {row : SessionRow} {certificate : String}
      (found : state.calls[index]? = some (.approving sessionId row certificate)) :
      Steps state (.approveWrite index) (state.approveWrite index row certificate)
  | recordNode {index : Nat} {session : EnrollmentSession} {approvedBy : String}
      {tags : List String} (now : Nat)
      (found : state.calls[index]? = some (.recording session approvedBy tags)) :
      Steps state (.recordNode index now) (state.recordNode index session approvedBy tags now)
  | pollRead {sessionId : String} {row : SessionRow}
      (found : state.sessions (sessionKey sessionId) = some row) (deliverable : row.Deliverable) :
      Steps state (.pollRead sessionId) { state with calls := state.calls ++ [.polling row] }
  | pollWrite {index : Nat} {row : SessionRow}
      (found : state.calls[index]? = some (.polling row)) :
      Steps state (.pollWrite index) (state.pollWrite index row)

private theorem steps_of_step (stepped : state.step event = some next) :
    state.Steps event next := by
  cases event with
  | start nodePublicKey createdAt approval =>
    cases stepped
    exact .start nodePublicKey createdAt approval
  | approveRead _ pin certificate =>
    cases stepped
    unfold approveRead
    split
    · next row found =>
      split
      · exact .approveRead pin certificate found
      · exact .refused _
    · exact .refused _
  | pollRead =>
    cases stepped
    unfold pollRead
    split
    · next _ found =>
      split
      · next deliverable => exact .pollRead found deliverable
      · exact .refused _
    · exact .refused _
  | approveWrite | recordNode | pollWrite =>
    simp only [step] at stepped
    split at stepped
    · next found =>
      cases stepped
      constructor
      exact found
    · cases stepped

private theorem sessions_write
    (recorded : (state.writeEnrollmentSession row).sessions key = some other) :
    key = sessionKey row.stored.sessionId ∧ other = row ∨
      key ≠ sessionKey row.stored.sessionId ∧ state.sessions key = some other := by
  by_cases here : key = sessionKey row.stored.sessionId
  · subst here
    simp only [writeEnrollmentSession, update_self, Option.some.injEq] at recorded
    exact .inl ⟨rfl, recorded.symm⟩
  · simp only [writeEnrollmentSession, update_of_ne here] at recorded
    exact .inr ⟨here, recorded⟩

/-- Every row and every call in flight belongs to a start for one of the keys. -/
structure Genuine (keys : Set String) (state : RegistryState) : Prop where
  rows : ∀ key row, state.sessions key = some row →
    row.stored.Genuine keys ∧ sessionKey row.stored.sessionId = key
  calls : ∀ call ∈ state.calls, call.Genuine keys

private theorem genuine_initial (keys : Set String) : initial.Genuine keys where
  rows := by simp [initial]
  calls := by simp [initial]

private theorem Genuine.write (valid : state.Genuine keys) (genuine : row.stored.Genuine keys) :
    ∀ key other, (state.writeEnrollmentSession row).sessions key = some other →
      other.stored.Genuine keys ∧ sessionKey other.stored.sessionId = key := by
  intro key other recorded
  obtain ⟨rfl, rfl⟩ | ⟨_, earlier⟩ := sessions_write recorded
  · exact ⟨genuine, rfl⟩
  · exact valid.rows key other earlier

/-- The calls are for keys of the set: every start names one of them. -/
def ForKeys (keys : Set String) (_ : RegistryState) : RegistryEvent → Prop
  | .start nodePublicKey _ _ => nodePublicKey ∈ keys
  | _ => True

private theorem Genuine.step (valid : state.Genuine keys) (named : ForKeys keys state event)
    (stepped : state.step event = some next) : next.Genuine keys := by
  cases steps_of_step stepped with
  | refused => exact valid
  | start nodePublicKey createdAt approval =>
    have genuine : (openedSession nodePublicKey createdAt).Genuine keys := ⟨named, rfl⟩
    cases approval with
    | none => exact ⟨valid.write ⟨named, rfl⟩, valid.calls⟩
    | some =>
      exact ⟨valid.write ⟨named, rfl⟩,
        forall_mem_push valid.calls (Call.genuine_recording genuine _ _)⟩
  | approveRead _ _ found =>
    obtain ⟨genuine, keyed⟩ := valid.rows _ _ found
    refine ⟨valid.rows, forall_mem_push valid.calls ⟨?_, by simp, by simp⟩⟩
    intro other otherRow _ same
    cases same
    exact ⟨genuine, sessionKey_inj.mp keyed⟩
  | approveWrite found =>
    have genuine := ((valid.calls _ (mem_of_getElem? found)).approving _ _ _ rfl).1
    exact ⟨valid.write ⟨genuine.key, genuine.derived⟩,
      forall_mem_set valid.calls (Call.genuine_recording genuine _ _)⟩
  | recordNode => exact ⟨valid.rows, forall_mem_set valid.calls (Call.genuine_finished keys)⟩
  | pollRead found =>
    have genuine := (valid.rows _ _ found).1
    refine ⟨valid.rows, forall_mem_push valid.calls ⟨by simp, by simp, ?_⟩⟩
    intro other same
    cases same
    exact genuine
  | pollWrite found =>
    have genuine := (valid.calls _ (mem_of_getElem? found)).polling _ rfl
    exact ⟨valid.write ⟨genuine.key, genuine.derived⟩,
      forall_mem_set valid.calls (Call.genuine_finished keys)⟩

/-- The call at `index` is a poll between its read of `row` and its write. -/
def Polls (state : RegistryState) (index : Nat) (row : SessionRow) : Prop :=
  state.calls[index]? = some (.polling row)

/-- A staging is undelivered as long as a row or a pending poll can still deliver
it, and it is in one place only. -/
structure DeliversOnce (state : RegistryState) : Prop where
  nodup : state.deliveries.Nodup
  past : ∀ staging ∈ state.deliveries, staging < state.stagings
  rowPending : ∀ key row, state.sessions key = some row → row.Deliverable →
    row.staging ∉ state.deliveries ∧ row.staging < state.stagings
  callPending : ∀ index row, state.Polls index row →
    row.staging ∉ state.deliveries ∧ row.staging < state.stagings
  oneRow : ∀ first second firstRow secondRow, state.sessions first = some firstRow →
    state.sessions second = some secondRow → firstRow.Deliverable → secondRow.Deliverable →
    firstRow.staging = secondRow.staging → first = second
  oneCall : ∀ first second firstRow secondRow, state.Polls first firstRow →
    state.Polls second secondRow → firstRow.staging = secondRow.staging → first = second
  callRow : ∀ index polled key row, state.Polls index polled → state.sessions key = some row →
    row.Deliverable → polled.staging = row.staging → key = sessionKey polled.stored.sessionId

private theorem deliversOnce_initial : initial.DeliversOnce where
  nodup := nodup_nil
  past := by simp [initial]
  rowPending := by simp [initial]
  callPending := by simp [initial, Polls]
  oneRow := by simp [initial]
  oneCall := by simp [initial, Polls]
  callRow := by simp [initial, Polls]

/-- A step keeps deliveries unique if what it delivers is pending nowhere afterwards, its only
new deliverable row carries a new staging, and its only new poll takes over the staging of a row
that no other poll has read. -/
theorem DeliversOnce.change (valid : state.DeliversOnce) (written : String) (place : Nat)
    (gone : List Nat) (delivered : next.deliveries = state.deliveries ++ gone)
    (nodup : next.deliveries.Nodup) (counted : state.stagings ≤ next.stagings)
    (past : ∀ staging ∈ gone, staging < state.stagings)
    (rows : ∀ key row, next.sessions key = some row → row.Deliverable →
      state.sessions key = some row ∧ row.staging ∉ gone ∨
        key = written ∧ row.staging = state.stagings ∧ state.stagings < next.stagings)
    (polls : ∀ index polled, next.Polls index polled →
      state.Polls index polled ∧ polled.staging ∉ gone ∨
        index = place ∧ gone = [] ∧ polled.Deliverable ∧
          state.sessions (sessionKey polled.stored.sessionId) = some polled ∧
          ∀ other earlier, state.Polls other earlier → earlier.staging ≠ polled.staging) :
    next.DeliversOnce := by
  have earlier : ∀ staging ∈ next.deliveries, staging < state.stagings := by
    intro staging member
    rw [delivered, mem_append] at member
    exact member.elim (valid.past staging) (past staging)
  have kept : ∀ staging, staging ∉ state.deliveries → staging ∉ gone →
      staging ∉ next.deliveries := by
    simp only [delivered, mem_append, not_or]
    exact fun _ => And.intro
  -- what a poll holds afterwards was staged before
  have polled : ∀ index row, next.Polls index row →
      row.staging ∉ next.deliveries ∧ row.staging < state.stagings := by
    intro index row poll
    obtain ⟨old, left⟩ | ⟨_, rfl, deliverable, found, _⟩ := polls index row poll
    · have pending := valid.callPending index row old
      exact ⟨kept _ pending.1 left, pending.2⟩
    · have pending := valid.rowPending _ row found deliverable
      exact ⟨kept _ pending.1 not_mem_nil, pending.2⟩
  refine ⟨nodup, fun staging member => (earlier staging member).trans_le counted, ?_,
    fun index row poll => ⟨(polled index row poll).1, (polled index row poll).2.trans_le counted⟩,
    ?_, ?_, ?_⟩
  · intro key row recorded deliverable
    obtain ⟨old, left⟩ | ⟨_, new, grown⟩ := rows key row recorded deliverable
    · have pending := valid.rowPending key row old deliverable
      exact ⟨kept _ pending.1 left, pending.2.trans_le counted⟩
    · exact ⟨fun member => (earlier _ member).ne new, new ▸ grown⟩
  · intro first second firstRow secondRow firstAt secondAt firstOpen secondOpen same
    obtain ⟨firstOld, _⟩ | ⟨firstHere, _⟩ := rows first firstRow firstAt firstOpen
    · obtain ⟨secondOld, _⟩ | ⟨_, _⟩ := rows second secondRow secondAt secondOpen
      · exact valid.oneRow first second firstRow secondRow firstOld secondOld firstOpen
          secondOpen same
      · have before := (valid.rowPending first firstRow firstOld firstOpen).2
        omega
    · obtain ⟨secondOld, _⟩ | ⟨secondHere, _⟩ := rows second secondRow secondAt secondOpen
      · have before := (valid.rowPending second secondRow secondOld secondOpen).2
        omega
      · rw [firstHere, secondHere]
  · intro first second firstRow secondRow firstPoll secondPoll same
    obtain ⟨firstOld, _⟩ | ⟨firstAt, _, _, _, first⟩ := polls first firstRow firstPoll
    · obtain ⟨secondOld, _⟩ | ⟨_, _, _, _, second⟩ := polls second secondRow secondPoll
      · exact valid.oneCall _ _ firstRow secondRow firstOld secondOld same
      · exact absurd same (second _ firstRow firstOld)
    · obtain ⟨secondOld, _⟩ | ⟨secondAt, _⟩ := polls second secondRow secondPoll
      · exact absurd same.symm (first _ secondRow secondOld)
      · rw [firstAt, secondAt]
  · intro index row key other poll recorded deliverable same
    obtain ⟨old, _⟩ | ⟨_, _⟩ := rows key other recorded deliverable
    · obtain ⟨oldPoll, _⟩ | ⟨_, _, open_, found, _⟩ := polls index row poll
      · exact valid.callRow index row key other oldPoll old deliverable same
      · exact valid.oneRow key _ other row old found deliverable open_ same.symm
    · have before := (polled index row poll).2
      omega

/-- A step without polls and deliveries, whose only new deliverable row has a new staging. -/
theorem DeliversOnce.extend (valid : state.DeliversOnce) (written : String)
    (polls : ∀ index row, next.Polls index row → state.Polls index row)
    (delivered : next.deliveries = state.deliveries) (counted : state.stagings ≤ next.stagings)
    (rows : ∀ key row, next.sessions key = some row → row.Deliverable →
      state.sessions key = some row ∨
        key = written ∧ row.staging = state.stagings ∧ state.stagings < next.stagings) :
    next.DeliversOnce := by
  refine valid.change written 0 [] (by simp [delivered]) (delivered ▸ valid.nodup) counted nofun
    ?_ fun index row poll => .inl ⟨polls index row poll, not_mem_nil⟩
  intro key row recorded deliverable
  exact (rows key row recorded deliverable).imp_left fun old => ⟨old, not_mem_nil⟩

/-- A row written with a new staging is the only new row. -/
private theorem written_rows (next : RegistryState) (written : SessionRow)
    (sessions : next.sessions = (state.writeEnrollmentSession written).sessions)
    (fresh : written.Deliverable →
      written.staging = state.stagings ∧ state.stagings < next.stagings) :
    ∀ key row, next.sessions key = some row → row.Deliverable →
      state.sessions key = some row ∨
        key = sessionKey written.stored.sessionId ∧ row.staging = state.stagings ∧
          state.stagings < next.stagings := by
  intro key row recorded deliverable
  rw [sessions] at recorded
  obtain ⟨rfl, rfl⟩ | ⟨_, earlier⟩ := sessions_write recorded
  · exact .inr ⟨rfl, fresh deliverable⟩
  · exact .inl earlier

private theorem polls_append (other : ∀ row, call ≠ .polling row)
    (polled : (state.calls ++ [call])[index]? = some (.polling row)) : state.Polls index row := by
  obtain old | ⟨_, same⟩ := getElem?_append_singleton polled
  · exact old
  · exact absurd same.symm (other row)

private theorem polls_set {position : Nat} (other : ∀ row, call ≠ .polling row)
    (polled : (state.calls.set position call)[index]? = some (.polling row)) :
    index ≠ position ∧ state.Polls index row := by
  obtain ⟨_, same⟩ | kept := getElem?_set_cases polled
  · exact absurd same.symm (other row)
  · exact kept

/-- A poll that reads while no other poll of its session is pending takes over the
row's staging. -/
theorem DeliversOnce.pollRead (valid : state.DeliversOnce) (genuine : state.Genuine keys)
    {sessionId : String} (found : state.sessions (sessionKey sessionId) = some row)
    (deliverable : row.Deliverable)
    (alone : ∀ call ∈ state.calls, ∀ row ∈ call.polled, row.stored.sessionId ≠ sessionId) :
    DeliversOnce { state with calls := state.calls ++ [.polling row] } := by
  have keyed : sessionKey row.stored.sessionId = sessionKey sessionId :=
    (genuine.rows _ row found).2
  refine valid.change "" state.calls.length [] (by simp) valid.nodup le_rfl nofun
    (fun key row recorded _ => .inl ⟨recorded, not_mem_nil⟩) ?_
  intro index polled poll
  obtain old | ⟨last, same⟩ := getElem?_append_singleton poll
  · exact .inl ⟨old, not_mem_nil⟩
  cases same
  refine .inr ⟨last, rfl, deliverable, keyed ▸ found, ?_⟩
  -- a pending poll of the same staging would be a poll of this session
  intro other earlier poll same
  have here := valid.callRow other earlier _ row poll found deliverable same
  exact alone _ (mem_of_getElem? poll) earlier rfl (sessionKey_inj.mp here.symm)

/-- The write of a poll delivers a staging that nothing else can deliver. -/
theorem DeliversOnce.pollWrite (valid : state.DeliversOnce) (poll : state.Polls index row) :
    (state.pollWrite index row).DeliversOnce := by
  obtain ⟨undelivered, staged⟩ := valid.callPending index row poll
  refine valid.change "" 0 [row.staging] rfl ?_ le_rfl (by simpa using staged) ?_ ?_
  · exact nodup_append.mpr ⟨valid.nodup, nodup_singleton _,
      by simpa using fun _ member => ne_of_mem_of_not_mem member undelivered⟩
  · intro key other recorded deliverable
    obtain ⟨_, rfl⟩ | ⟨apart, old⟩ := sessions_write recorded
    · cases deliverable.2
    · refine .inl ⟨old, fun same => apart ?_⟩
      exact valid.callRow index row key other poll old deliverable (mem_singleton.mp same).symm
  · intro position polled other
    obtain ⟨apart, old⟩ := polls_set (by simp) other
    refine .inl ⟨old, fun same => apart ?_⟩
    exact valid.oneCall position index polled row old poll (mem_singleton.mp same)

/-- The condition on one step: starts are for keys of the set and hit no finalized
session, and no poll reads a session while another poll of it is pending. -/
def Orderly (keys : Set String) (state : RegistryState) : RegistryEvent → Prop
  | .start nodePublicKey _ _ => nodePublicKey ∈ keys ∧
      ∀ row ∈ state.sessions (sessionKey (sessionIdOf nodePublicKey)), row.stored.finalized = false
  | .pollRead sessionId =>
      ∀ call ∈ state.calls, ∀ row ∈ call.polled, row.stored.sessionId ≠ sessionId
  | _ => True

instance (keys : Set String) [DecidablePred (· ∈ keys)] (state : RegistryState)
    (event : RegistryEvent) :
    Decidable (state.Orderly keys event) := by
  unfold Orderly
  split <;> infer_instance

private theorem Orderly.forKeys (orderly : state.Orderly keys event) :
    ForKeys keys state event := by
  cases event with
  | start => exact orderly.1
  | _ => trivial

private theorem DeliversOnce.step (valid : state.DeliversOnce) (genuine : state.Genuine keys)
    (orderly : state.Orderly keys event) (stepped : state.step event = some next) :
    next.DeliversOnce := by
  cases steps_of_step stepped with
  | refused => exact valid
  | start nodePublicKey createdAt approval =>
    cases approval with
    | none =>
      have rows := written_rows (state.start nodePublicKey createdAt none)
        (state.openedRow nodePublicKey createdAt none) rfl
        (fun deliverable => Bool.noConfusion deliverable.1)
      exact valid.extend _ (fun _ _ poll => poll) rfl le_rfl rows
    | some approved =>
      have rows := written_rows (state.start nodePublicKey createdAt (some approved))
        (state.openedRow nodePublicKey createdAt (some approved)) rfl
        (fun _ => ⟨rfl, Nat.lt_succ_self _⟩)
      exact valid.extend _ (fun _ _ poll => polls_append (by simp) poll) rfl (Nat.le_succ _) rows
  | approveRead =>
    exact valid.extend "" (fun _ _ poll => polls_append (by simp) poll) rfl le_rfl
      (fun _ _ recorded _ => .inl recorded)
  | @approveWrite index _ row certificate =>
    have rows := written_rows (state.approveWrite index row certificate)
      (state.approvedRow row certificate) rfl (fun _ => ⟨rfl, Nat.lt_succ_self _⟩)
    exact valid.extend _ (fun _ _ poll => (polls_set (by simp) poll).2) rfl (Nat.le_succ _) rows
  | recordNode =>
    unfold recordNode
    exact valid.extend "" (fun _ _ poll => (polls_set (by simp) poll).2) rfl le_rfl
      (fun _ _ recorded _ => .inl recorded)
  | pollRead found deliverable => exact valid.pollRead genuine found deliverable orderly
  | pollWrite poll => exact valid.pollWrite poll

/-! ## What an approval admits -/

/-- An approval of the session that was started for `key` stages its certificate on
a row for `key`, leaves the sessions of the other keys alone, and goes on to record a
node for `key`. -/
def StagesForKey (keys : Set String) (state : RegistryState) (event : RegistryEvent) : Prop :=
  ∀ index key row certificate next, event = .approveWrite index → key ∈ keys →
    state.calls[index]? = some (.approving (sessionIdOf key) row certificate) →
    state.step event = some next →
    (∃ staged, next.sessions (sessionKey (sessionIdOf key)) = some staged ∧
      staged.stored.nodePublicKey = key ∧
      staged.stored.signedCertificateHex = some certificate) ∧
    (∀ other ∈ keys, other ≠ key →
      next.sessions (sessionKey (sessionIdOf other)) =
        state.sessions (sessionKey (sessionIdOf other))) ∧
    ∃ session, next.calls[index]? = some (.recording session "pin" []) ∧ session.nodePublicKey = key

/-- Recording an approved session writes the node row of its key and no row of
another key. -/
def RecordsForKey (keys : Set String) (state : RegistryState) (event : RegistryEvent) : Prop :=
  ∀ index now session approvedBy tags next, event = .recordNode index now →
    state.calls[index]? = some (.recording session approvedBy tags) →
    state.step event = some next →
    (∃ node, next.nodes (nodeIdFromPublicKey session.nodePublicKey) = some node ∧
      node.publicKey = session.nodePublicKey ∧ node.approvedBy = approvedBy) ∧
    ∀ other ∈ keys, other ≠ session.nodePublicKey →
      next.nodes (nodeIdFromPublicKey other) = state.nodes (nodeIdFromPublicKey other)

/-- A start leaves every finalized session as it is. -/
def KeepsFinalized (state : RegistryState) (event : RegistryEvent) : Prop :=
  ∀ nodePublicKey createdAt approval next key row,
    event = .start nodePublicKey createdAt approval →
    state.step event = some next → state.sessions key = some row →
    row.stored.finalized → next.sessions key = some row

private theorem Genuine.stagesForKey (apart : ToldApart keys) (valid : state.Genuine keys)
    (event : RegistryEvent) : state.StagesForKey keys event := by
  rintro _ key row certificate _ rfl member found stepped
  simp only [RegistryState.step, found, Option.some.injEq] at stepped
  subst stepped
  obtain ⟨genuine, named⟩ := (valid.calls _ (mem_of_getElem? found)).approving _ _ _ rfl
  have mine : row.stored.nodePublicKey = key :=
    apart.sessionIds genuine.key member (genuine.derived.symm.trans named)
  refine ⟨⟨state.approvedRow row certificate, ?_, mine, rfl⟩, ?_, ?_⟩
  · simp [approveWrite, writeEnrollmentSession, approvedRow, named]
  · intro other otherKey different
    have elsewhere : sessionKey (sessionIdOf other) ≠ sessionKey row.stored.sessionId := by
      rw [named]
      intro same
      exact different (apart.sessionIds otherKey member (sessionKey_inj.mp same))
    simp [approveWrite, writeEnrollmentSession, approvedRow, update_of_ne elsewhere]
  · refine ⟨row.stored.toEnrollmentSession, ?_, mine⟩
    exact getElem?_set_of_some found

private theorem Genuine.recordsForKey (apart : ToldApart keys) (valid : state.Genuine keys)
    (event : RegistryEvent) : state.RecordsForKey keys event := by
  rintro _ _ session _ _ _ rfl found stepped
  simp only [RegistryState.step, found, Option.some.injEq] at stepped
  subst stepped
  have genuine := (valid.calls _ (mem_of_getElem? found)).recording _ _ _ rfl
  simp only [recordNode]
  refine ⟨⟨_, update_self _ _ _, rfl, rfl⟩, ?_⟩
  intro other otherKey different
  have elsewhere : nodeIdFromPublicKey other ≠ nodeIdFromPublicKey session.nodePublicKey :=
    fun same => different (apart.nodeIds other otherKey _ genuine.key same)
  exact update_of_ne elsewhere _ _

private theorem Orderly.keepsFinalized (orderly : state.Orderly keys event) :
    state.KeepsFinalized event := by
  rintro nodePublicKey createdAt approval _ key row rfl stepped recorded finalized
  cases stepped
  have elsewhere : key ≠ sessionKey (sessionIdOf nodePublicKey) := by
    rintro rfl
    have unfinalized := orderly.2 row recorded
    rw [finalized] at unfinalized
    cases unfinalized
  have written : (state.start nodePublicKey createdAt approval).sessions =
      update state.sessions (sessionKey (sessionIdOf nodePublicKey))
        (some (state.openedRow nodePublicKey createdAt approval)) := by
    cases approval <;> rfl
  rw [written, update_of_ne elsewhere]
  exact recorded

end RegistryState

/-- **An approval admits the approved key, once.** For keys that the derived ids
tell apart, their session ids and node ids are pairwise different; and in every run
whose starts hit no finalized session and whose polls of one session do not overlap,
each approval stages and records for the key of its session only, what one write of an
approval staged is not delivered twice, and no start changes a finalized session. Deliveries
are counted for each such write, so two writes of one certificate are two. -/
theorem enrollment_admits_approved_key (keys : Set String) (apart : ToldApart keys)
    (events : List RegistryEvent) (final : RegistryState)
    (orderly : registryMachine.Along (Orderly keys) initial events)
    (reached : registryMachine.run initial events = some final) :
    (∀ first ∈ keys, ∀ second ∈ keys, first ≠ second →
      sessionIdOf first ≠ sessionIdOf second ∧
        nodeIdFromPublicKey first ≠ nodeIdFromPublicKey second) ∧
    registryMachine.Along (StagesForKey keys) initial events ∧
    registryMachine.Along (RecordsForKey keys) initial events ∧
    final.deliveries.Nodup ∧
    registryMachine.Along KeepsFinalized initial events := by
  have kept : registryMachine.Preserves (Orderly keys)
      fun state => state.Genuine keys ∧ state.DeliversOnce := by
    rintro _ _ _ ⟨genuine, once⟩ orderlyStep stepped
    exact ⟨genuine.step orderlyStep.forKeys stepped, once.step genuine orderlyStep stepped⟩
  have start : initial.Genuine keys ∧ initial.DeliversOnce :=
    ⟨genuine_initial keys, deliversOnce_initial⟩
  refine ⟨?_, ?_, ?_, ?_, ?_⟩
  · intro first firstKey second secondKey different
    exact ⟨fun same => different (apart.sessionIds firstKey secondKey same),
      fun same => different (apart.nodeIds first firstKey second secondKey same)⟩
  · exact along_of_invariant kept (fun valid _ => valid.1.stagesForKey apart _) start orderly
  · exact along_of_invariant kept (fun valid _ => valid.1.recordsForKey apart _) start orderly
  · exact (invariant_run kept start orderly reached).2.nodup
  · exact along_of_invariant kept (fun _ orderlyStep => orderlyStep.keepsFinalized) start orderly

/-- Two nodes enroll side by side; the second is approved and polls twice. -/
theorem enrollment_admits_two_keys :
    ∃ final, registryMachine.run initial
        [.start "ed25519-aaaaaaaa" 10 none, .start "ed25519-bbbbbbbb" 11 none,
          .approveRead "enroll-016786" "553863" "c0ffee", .start "ed25519-aaaaaaaa" 12 none,
          .approveWrite 0, .recordNode 0 13, .pollRead "enroll-016786", .pollWrite 1,
          .pollRead "enroll-016786"] = some final ∧
      final.deliveries.Nodup := by
  refine exists_run (by decide +kernel) fun final reached => ?_
  refine (enrollment_admits_approved_key
    {key | key = "ed25519-aaaaaaaa" ∨ key = "ed25519-bbbbbbbb"} ?_ _ final ?_ reached).2.2.2.1
  · constructor
    · rintro first (rfl | rfl) second (rfl | rfl) <;> decide +kernel
    · rintro first (rfl | rfl) second (rfl | rfl) <;> decide +kernel
  · decide +kernel

/-- **Distinct keys share a session.** Two distinct keys have one session id and one
node id. The second start replaces the row after the operator saw the first, and the
approval stages and records for the second key. Two overlapping polls deliver one
staged certificate twice. A start after the delivery opens the finalized session
again. -/
theorem enrollment_mixes_keys :
    (trim "Aa-ed25519-key" ≠ trim "BB-ed25519-key" ∧
      sessionIdOf "Aa-ed25519-key" = sessionIdOf "BB-ed25519-key" ∧
      nodeIdFromPublicKey "Aa-ed25519-key" = nodeIdFromPublicKey "BB-ed25519-key") ∧
    (registryMachine.run initial
        [.start "Aa-ed25519-key" 10 none, .start "BB-ed25519-key" 11 none,
          .approveRead "enroll-115264" "148354" "c0ffee", .approveWrite 0, .recordNode 0 12]).map
      (fun final =>
        ((final.sessions (sessionKey (sessionIdOf "Aa-ed25519-key"))).map
            fun row => (row.stored.nodePublicKey, row.stored.signedCertificateHex),
          (final.nodes (nodeIdFromPublicKey "Aa-ed25519-key")).map EnrolledNode.publicKey)) =
      some (some ("BB-ed25519-key", some "c0ffee"), some "BB-ed25519-key") ∧
    (registryMachine.run initial
        [.start "Aa-ed25519-key" 10 none, .approveRead "enroll-115264" "148354" "c0ffee",
          .approveWrite 0, .recordNode 0 12, .pollRead "enroll-115264",
          .pollRead "enroll-115264", .pollWrite 1, .pollWrite 2]).map deliveries =
      some [0, 0] ∧
    (registryMachine.run initial
        [.start "Aa-ed25519-key" 10 none, .approveRead "enroll-115264" "148354" "c0ffee",
          .approveWrite 0, .recordNode 0 12, .pollRead "enroll-115264", .pollWrite 1]).map
      (fun before =>
        ((before.sessions (sessionKey (sessionIdOf "Aa-ed25519-key"))).map
            fun row => row.stored.finalized,
          ((before.start "Aa-ed25519-key" 13 none).sessions
            (sessionKey (sessionIdOf "Aa-ed25519-key"))).map fun row => row.stored.finalized)) =
      some (some true, some false) := by
  refine ⟨⟨?_, ?_, ?_⟩, ?_, ?_, ?_⟩ <;> decide +kernel

end TachyonMesh.NodeRegistry

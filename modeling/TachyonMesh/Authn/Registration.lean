import TachyonMesh.Authn.Service

/-! # Single use of invitations

An invitation is a signed token. Verification looks at its three parts without the white
space around them, so one invitation can be presented as different strings; the record of
consumed invitations is keyed by a digest of the presented string.
-/

namespace TachyonMesh.Authn
open Foundation Program List

/-! ## What the history says about invitations -/

/-- The invitation a `stageUser` call presents, as it is spelled there, if it verifies. -/
def Request.presentedToken (env : Env) (request : Request) : Option String :=
  match request.call with
  | .stageUser token _ _ _ =>
      if (verifyHs256Token env token request.now).toOption.isSome then some token else none
  | _ => none

/-- The pending enrolment that a session id names in a state. -/
def pendingOf (env : Env) (sessionId : String) (state : AuthState) :
    Option PendingEnrollmentRecord :=
  match normalizeSessionId sessionId with
  | .ok file => (readPendingEnrollment env file state).toOption
  | .error _ => none

/-- The digest of the invitation whose use created an account in this exchange. -/
def Exchange.enrolledWith (env : Env) (exchange : Exchange) : Option String :=
  match exchange.request.call, exchange.reply with
  | .finalizeEnrollment sessionId _, .enrolled (.ok _) =>
      (pendingOf env sessionId exchange.before).map (·.registrationTokenHash)
  | _, _ => none

def Service.presentedTokens (env : Env) (service : Service) : List String :=
  service.history.filterMap fun exchange => exchange.request.presentedToken env

/-- The accounts created from the invitation with the given parts, in any spelling. -/
def Service.accountsFrom (env : Env) (segments : List String) (service : Service) :
    List String :=
  (service.history.filterMap (Exchange.enrolledWith env)).filter fun hash =>
    (service.presentedTokens env).any fun token =>
      tokenSegments token == segments && hashRegistrationToken env token == hash

/-- The exchange accepts an invitation as the identity of its bearer. -/
def Exchange.AcceptsInvitation (env : Env) (exchange : Exchange) : Prop :=
  ∃ token payload identity, exchange.request.call = .validateToken token ∧
    verifyHs256Token env token exchange.request.now = .ok payload ∧
    payload.tokenUse = some registrationTokenUse ∧ exchange.reply = .identity (.ok identity)

/-- A `stageUser` call spells the invitation it presents as every earlier one did, and no
invitation is presented to `validateToken`. -/
def PresentsUniformly (env : Env) (service : Service) (request : Request) : Prop :=
  (∀ token, request.presentedToken env = some token →
    ∀ earlier ∈ service.presentedTokens env, tokenSegments earlier = tokenSegments token →
      earlier = token) ∧
  ∀ token payload, request.call = .validateToken token →
    verifyHs256Token env token request.now = .ok payload →
    payload.tokenUse ≠ some registrationTokenUse

/-! ## Consumption -/

/-- The digest is on record as consumed. -/
def Consumed (env : Env) (hash : String) (state : AuthState) : Prop :=
  ∃ hashes, loadConsumedRegistrationTokens env state = .ok hashes ∧ hash ∈ hashes

variable {env : Env} {hash sessionId totpCode : String} {state : AuthState} {now : Nat}
  {service : Service} {request : Request}

private theorem consumed_handle (consumed : Consumed env hash state) (request : Request) :
    Consumed env hash (handle env request.now request.call state).1 := by
  obtain ⟨hashes, read, listed⟩ := consumed
  obtain ⟨hashes', read', contained⟩ := (handle_effect state env request).consumed hashes read
  exact ⟨hashes', read', contained listed⟩

private theorem consumeRegistrationToken_consumes :
    Returns (consumeRegistrationToken env hash) (fun _ final => Consumed env hash final) state := by
  refine .read fun hashes read => ?_
  apply (wp_modify _).mpr
  split
  · next contained => exact ⟨hashes, read, by simpa using contained⟩
  · exact ⟨_, rfl, mem_sortDedup.mpr (mem_append_right _ (mem_singleton.mpr rfl))⟩

private theorem enrolPending_consumes {pending : PendingEnrollmentRecord} :
    Returns (enrolPending env sessionId totpCode now pending)
      (fun _ final => ¬Consumed env pending.registrationTokenHash state ∧
        Consumed env pending.registrationTokenHash final) state := by
  refine .guard fun _ => ?_
  refine .read fun consumed read => ?_
  refine .guard fun unused => ?_
  have fresh : ¬Consumed env pending.registrationTokenHash state := by
    rintro ⟨_, stored, listed⟩
    rw [stored] at read
    have contained := Except.ok.inj read
    rw [unused] at contained
    exact absurd listed (by simpa using contained)
  refine .check fun _ _ => ?_
  refine .read fun record _ => ?_
  refine .guard fun _ => ?_
  refine .skip fun _ _ => ?_
  refine wp_bind_intro consumeRegistrationToken_consumes fun _ reached consumed => ?_
  refine wp_bind_intro (Returns.check fun file _ => ?_)
    fun _ _ kept => (wp_pure _).mpr ⟨fresh, kept⟩
  exact (wp_modify _).mpr consumed

private theorem finalizePendingEnrollment_consumes :
    Returns (finalizePendingEnrollment env sessionId totpCode now)
      (fun _ final => ∃ pending, pendingOf env sessionId state = some pending ∧
        ¬Consumed env pending.registrationTokenHash state ∧
        Consumed env pending.registrationTokenHash final) state := by
  refine .check fun _ session => ?_
  refine .read fun pending stored => ?_
  have named : pendingOf env sessionId state = some pending := by
    unfold pendingOf
    rw [session]
    simp only
    rw [stored]
    rfl
  exact .mono enrolPending_consumes fun _ _ consumes => ⟨pending, named, consumes⟩

/-- An exchange that creates an account consumes its invitation, which was not consumed. -/
theorem consumes_of_enrolledWith
    (enrolled : (service.exchange env request).enrolledWith env = some hash) :
    ¬Consumed env hash service.auth ∧ Consumed env hash (service.serve env request).auth := by
  obtain ⟨now, call⟩ := request
  cases call with
  | finalizeEnrollment sessionId totpCode =>
    cases ended : finalizePendingEnrollment env sessionId totpCode now service.auth with
    | mk _ outcome =>
      simp only [Exchange.enrolledWith, Service.exchange, handle, answer, ended] at enrolled
      cases outcome with
      | error => cases enrolled
      | ok =>
        obtain ⟨_, named, fresh, consumed⟩ := wp_ok finalizePendingEnrollment_consumes ended
        change (pendingOf env sessionId service.auth).map _ = some hash at enrolled
        rw [named] at enrolled
        cases enrolled
        refine ⟨fresh, ?_⟩
        simp only [Service.serve, handle, answer, ended]
        exact consumed
  | _ => cases enrolled

/-! ## Runs -/

/-- The invariant of runs that present invitations uniformly. -/
structure Service.SingleUse (env : Env) (service : Service) : Prop where
  consumed : ∀ hash ∈ service.history.filterMap (Exchange.enrolledWith env),
    Consumed env hash service.auth
  distinct : (service.history.filterMap (Exchange.enrolledWith env)).Nodup
  uniform : ∀ first ∈ service.presentedTokens env, ∀ second ∈ service.presentedTokens env,
    tokenSegments first = tokenSegments second → first = second
  rejected : ∀ exchange ∈ service.history, ¬exchange.AcceptsInvitation env

private theorem singleUse_start (env : Env) (state : AuthState) :
    (Service.start state).SingleUse env where
  consumed := nofun
  distinct := nodup_nil
  uniform := nofun
  rejected _ listed := by cases listed

private theorem filterMap_serve {α : Type} (view : Exchange → Option α) (env : Env)
    (service : Service)
    (request : Request) :
    (service.serve env request).history.filterMap view =
      service.history.filterMap view ++ (view (service.exchange env request)).toList := by
  change (service.history ++ [service.exchange env request]).filterMap view = _
  rw [filterMap_append, filterMap_cons, filterMap_nil]
  cases view (service.exchange env request) <;> rfl

private theorem singleUse_serve (valid : service.SingleUse env)
    (presents : PresentsUniformly env service request) :
    (service.serve env request).SingleUse env where
  consumed hash listed := by
    rw [filterMap_serve, mem_append] at listed
    rcases listed with old | new
    · exact consumed_handle (valid.consumed hash old) request
    · exact (consumes_of_enrolledWith (Option.mem_toList.mp new)).2
  distinct := by
    rw [filterMap_serve]
    refine nodup_append.mpr ⟨valid.distinct, ?_, ?_⟩
    · cases (service.exchange env request).enrolledWith env with
      | none => exact nodup_nil
      | some => exact nodup_cons.mpr ⟨not_mem_nil, nodup_nil⟩
    intro old listed new created same
    subst same
    exact (consumes_of_enrolledWith (Option.mem_toList.mp created)).1 (valid.consumed old listed)
  uniform := by
    have latest := presents.1
    intro first firstListed second secondListed same
    unfold Service.presentedTokens at firstListed secondListed
    rw [filterMap_serve, mem_append, Option.mem_toList] at firstListed secondListed
    rcases firstListed with firstOld | firstNew
    · rcases secondListed with secondOld | secondNew
      · exact valid.uniform first firstOld second secondOld same
      · exact latest second secondNew first firstOld same
    · rcases secondListed with secondOld | secondNew
      · exact (latest first firstNew second secondOld same.symm).symm
      · exact Option.some.inj (firstNew.symm.trans secondNew)
  rejected exchange listed := by
    rcases mem_append.mp listed with old | new
    · exact valid.rejected exchange old
    · obtain rfl := mem_singleton.mp new
      rintro ⟨token, payload, -, call, verified, use, -⟩
      exact presents.2 token payload call verified use

/-- The accounts of one invitation all used the digest of its one spelling. -/
theorem accountsFrom_length (valid : service.SingleUse env)
    (segments : List String) : (service.accountsFrom env segments).length ≤ 1 := by
  have nodup : (service.accountsFrom env segments).Nodup := valid.distinct.filter _
  have same : ∀ first ∈ service.accountsFrom env segments,
      ∀ second ∈ service.accountsFrom env segments, first = second := by
    intro first firstListed second secondListed
    have spelled : ∀ hash ∈ service.accountsFrom env segments,
        ∃ token ∈ service.presentedTokens env, tokenSegments token = segments ∧
          hashRegistrationToken env token = hash := by
      intro hash listed
      have found := (mem_filter.mp listed).2
      simpa using found
    obtain ⟨firstToken, firstStaged, firstParts, rfl⟩ := spelled first firstListed
    obtain ⟨secondToken, secondStaged, secondParts, rfl⟩ := spelled second secondListed
    rw [valid.uniform firstToken firstStaged secondToken secondStaged
      (firstParts.trans secondParts.symm)]
  match accounts : service.accountsFrom env segments with
  | [] => exact Nat.zero_le 1
  | [_] => exact Nat.le_refl 1
  | first :: second :: rest =>
    rw [accounts] at nodup same
    have equal := same first mem_cons_self second (mem_cons_of_mem _ mem_cons_self)
    exact absurd (equal ▸ mem_cons_self) (nodup_cons.mp nodup).1

/-- **Single use.** In every run from any state in which invitations are presented
uniformly, every invitation has created at most one account, and no invitation has been
accepted as an identity. -/
theorem invitation_single_use (env : Env) (state : AuthState) (requests : List Request)
    (final : Service)
    (uniform : (serviceMachine env).Along (PresentsUniformly env) (.start state) requests)
    (reached : (serviceMachine env).run (.start state) requests = some final) :
    (∀ segments, (final.accountsFrom env segments).length ≤ 1) ∧
      ∀ exchange ∈ final.history, ¬exchange.AcceptsInvitation env := by
  have kept : (serviceMachine env).Preserves (PresentsUniformly env) (·.SingleUse env) := by
    intro service request next valid presents stepped
    cases stepped
    exact singleUse_serve valid presents
  have valid := Machine.invariant_run kept (singleUse_start env state) uniform reached
  exact ⟨accountsFrom_length valid, valid.rejected⟩

/-- The request presents an invitation as the given token or not at all, and validates none. -/
def Request.Spells (env : Env) (token : String) (request : Request) : Prop :=
  (∀ presented, request.presentedToken env = some presented → presented = token) ∧
    ∀ other, request.call ≠ .validateToken other

private theorem along_of_spells {token : String} {requests : List Request}
    (spells : ∀ request ∈ requests, request.Spells env token) :
    (serviceMachine env).Along (PresentsUniformly env) (.start state) requests := by
  have kept : (serviceMachine env).Preserves (fun _ request => request.Spells env token)
      fun service => ∀ earlier ∈ service.presentedTokens env, earlier = token := by
    intro service request _ same spells stepped earlier listed
    cases stepped
    rw [Service.presentedTokens, filterMap_serve, mem_append, Option.mem_toList] at listed
    exact listed.elim (same earlier) (spells.1 earlier)
  refine Machine.along_of_invariant kept ?_ nofun (Machine.along_of_forall _ spells)
  intro service request same spells
  refine ⟨fun presented new earlier old _ => ?_, fun other _ call => absurd call (spells.2 other)⟩
  rw [same earlier old, spells.1 presented new]

/-- Two users enrol with one invitation, spelled the same. -/
def presentedTwice : List Request :=
  enrolRequests "h.p.s" "alice" "00000000000000000000000000000001" ++
    enrolRequests "h.p.s" "bob" "00000000000000000000000000000002"

/-- An invitation presented twice makes one account. -/
theorem invitation_used_once :
    ∃ final, (serviceMachine plainEnv).run (.start .empty) presentedTwice = some final ∧
      (final.accountsFrom plainEnv ["h", "p", "s"]).length ≤ 1 := by
  have spells : ∀ request ∈ presentedTwice, request.Spells plainEnv "h.p.s" := by
    simp [presentedTwice, enrolRequests, Request.Spells, Request.presentedToken]
  exact Machine.exists_run (by decide +kernel) fun final reached =>
    (invitation_single_use plainEnv .empty _ final (along_of_spells spells) reached).1 _

/-- One invitation, presented as `h.p.s` and with a blank as `h .p.s`, enrols two users, and
`validateToken` accepts it as an identity. -/
theorem respelled_invitation_enrols_twice :
    tokenSegments "h.p.s" = tokenSegments "h .p.s" ∧
      ((serviceMachine plainEnv).run (.start .empty)
        (enrolRequests "h.p.s" "alice" "00000000000000000000000000000001" ++
          enrolRequests "h .p.s" "bob" "00000000000000000000000000000002")).map
        (fun final => (final.accountsFrom plainEnv ["h", "p", "s"]).length) = some 2 ∧
      (verifyHs256Token plainEnv "h.p.s" 1).toOption.map (·.tokenUse) =
        some (some registrationTokenUse) ∧
      (match (handle plainEnv 1 (.validateToken "h.p.s") .empty).2 with
        | .identity (.ok identity) => some identity.subject
        | _ => none) = some "inviter" := by
  decide +kernel

end TachyonMesh.Authn

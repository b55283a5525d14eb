import TachyonMesh.Foundation.Directory
import TachyonMesh.Foundation.Machine
import TachyonMesh.Foundation.Slots

/-! # Encrypted volumes

The files of an encrypted volume lie under `.tachyon-tde` of its host directory. A buffered
request decrypts them all before admission and encrypts them all after its guest, in passes that
go file by file. Between the two it may leave without the second pass, other requests may pass
over the same directory, and guests that are started on other ways pass over nothing.
-/

namespace TachyonMesh.Volumes
open Foundation List Directory

/-! ## File bodies -/

/-- `TDE_FILE_MAGIC`: the text `TACHYON-TDE-v1` and a zero byte. -/
def tdeFileMagic : List UInt8 :=
  [84, 65, 67, 72, 89, 79, 78, 45, 84, 68, 69, 45, 118, 49, 0]

/-- AES-256-GCM under the configured key; without a key nothing succeeds. -/
structure TdeCipher where
  encrypt : (nonce plaintext : List UInt8) → Option (List UInt8)
  decrypt : (nonce ciphertext : List UInt8) → Option (List UInt8)

def Carries (body : List UInt8) : Prop := tdeFileMagic.isPrefixOf body
deriving Decidable

def encryptTdeFileBody (cipher : TdeCipher) (nonce plaintext : List UInt8) :
    Option (List UInt8) :=
  if tdeFileMagic.isPrefixOf plaintext then some plaintext
  else (cipher.encrypt nonce plaintext).map fun ciphertext => tdeFileMagic ++ nonce ++ ciphertext

def decryptTdeFileBody (cipher : TdeCipher) (body : List UInt8) : Option (List UInt8) :=
  if tdeFileMagic.isPrefixOf body then
    let rest := body.drop tdeFileMagic.length
    if rest.length < 12 then none else cipher.decrypt (rest.take 12) (rest.drop 12)
  else some body

/-- `transform_tde_file`, on the body. -/
def transformTdeFile (cipher : TdeCipher) (encrypt : Bool) (nonce body : List UInt8) :
    Option (List UInt8) :=
  if encrypt then encryptTdeFileBody cipher nonce body else decryptTdeFileBody cipher body

variable {cipher : TdeCipher} {nonce : List UInt8}

private theorem carries_of_encrypt {plaintext body : List UInt8}
    (encrypted : encryptTdeFileBody cipher nonce plaintext = some body) : Carries body := by
  unfold encryptTdeFileBody at encrypted
  split at encrypted
  · next already =>
    cases encrypted
    exact already
  · obtain ⟨-, -, rfl⟩ := Option.map_eq_some_iff.mp encrypted
    rw [Carries, isPrefixOf_iff_prefix, append_assoc]
    exact prefix_append _ _

/-! ## Requests and their passes -/

/-- A mount, as far as the passes read it. -/
structure MountedVolume where
  hostPath : String
  readonly : Bool
  encrypted : Bool

/-- A route with its mounts. -/
structure TdeRoute where
  path : String
  volumes : List MountedVolume

/-- The host directories that the route mounts encrypted. -/
def TdeRoute.hosts (route : TdeRoute) : List String :=
  (route.volumes.filter (·.encrypted)).map (·.hostPath)

/-- A file of an encrypted volume: the host directory, and its path under `.tachyon-tde`. -/
abbrev TdeFile := String × String

/-- Where an invocation stands. -/
inductive TdeStage where
  /-- A pass, with the files that it has listed and the volumes that it has not: the one of
  `prepare_encrypted_route_volumes`, or that of `seal_encrypted_route_volumes`. -/
  | passing (encrypt : Bool) (files : List TdeFile) (volumes : List String)
  | prepared
  /-- The guest executes; `attached` until its request is dropped. -/
  | running (attached : Bool)
  /-- The guest executes on a way that neither prepares nor seals. -/
  | streaming
  | over
deriving DecidableEq

/-- An invocation and its open files. -/
structure TdeInvocation where
  route : TdeRoute
  stage : TdeStage
  opened : List TdeFile

namespace TdeInvocation

def between (invocation : TdeInvocation) : Bool :=
  match invocation.stage with
  | .passing _ _ _ | .prepared | .running _ => true
  | .streaming | .over => false

def executes (invocation : TdeInvocation) : Bool :=
  match invocation.stage with
  | .running _ | .streaming => true
  | _ => false

/-- The file that the pass transforms next. -/
def nextFile (invocation : TdeInvocation) : Option (Bool × TdeFile) :=
  match invocation.stage with
  | .passing encrypt (file :: _) _ => some (encrypt, file)
  | _ => none

/-- The guest may write under the host directory, through an encrypted volume or through a plain
one that has `.tachyon-tde` in it. -/
def mounts (invocation : TdeInvocation) (host : String) : Bool :=
  invocation.route.volumes.any fun volume => volume.hostPath = host && !volume.readonly

end TdeInvocation

open TdeInvocation

/-- The directories and the invocations. -/
structure TdeState where
  trees : String → Directory (List UInt8)
  invocations : List TdeInvocation

/-- What may happen to encrypted volumes. -/
inductive TdeEvent where
  /-- A buffered request to the route has its leases and prepares. -/
  | request (place : Nat)
  /-- A guest is started over another transport. -/
  | stream (place : Nat)
  /-- The next step of a pass. -/
  | pass (index : Nat) (nonce : List UInt8)
  /-- The microvm has answered, admission is refused, or there is no TEE. -/
  | leave (index : Nat)
  | start (index : Nat)
  | openFile (index : Nat) (file : TdeFile)
  | write (index : Nat) (file : TdeFile) (body : List UInt8)
  /-- The guest returns or traps. -/
  | complete (index : Nat)
  | joinFails (index : Nat)
  /-- The request is dropped; its guest, if there is one, goes on. -/
  | drop (index : Nat)

def TdeEvent.actor : TdeEvent → Option Nat
  | .request _ | .stream _ => none
  | .pass index _ | .leave index | .start index | .openFile index _ | .write index _ _
  | .complete index | .joinFails index | .drop index => some index

namespace TdeState
variable (state : TdeState)

def find (file : TdeFile) : Option (List UInt8) := (state.trees file.1).find file.2

def setStage (index : Nat) (invocation : TdeInvocation) (stage : TdeStage) : TdeState :=
  { state with invocations := state.invocations.set index { invocation with stage } }

def setFile (file : TdeFile) (body : List UInt8) : TdeState :=
  { state with
    trees := Function.update state.trees file.1 ((state.trees file.1).write file.2 body) }

/-- The directory of a volume is listed when the pass comes to it. -/
def listing (host : String) : List TdeFile :=
  (state.trees host).files.map fun file => (host, file.1)

def begin (invocation : TdeInvocation) : TdeState :=
  { state with invocations := state.invocations ++ [invocation] }

/-- `transform_encrypted_volume_files`, a step at a time. -/
def pass (cipher : TdeCipher) (index : Nat) (invocation : TdeInvocation) (nonce : List UInt8) :
    Option TdeState :=
  match invocation.stage with
  | .passing encrypt (file :: files) volumes =>
      match state.find file with
      | none => some (state.setStage index invocation (.passing encrypt files volumes))
      | some body =>
          match transformTdeFile cipher encrypt nonce body with
          | some changed => some ((state.setFile file changed).setStage index invocation
              (.passing encrypt files volumes))
          | none => some (state.setStage index invocation .over)
  | .passing encrypt [] (host :: volumes) =>
      some (state.setStage index invocation (.passing encrypt (state.listing host) volumes))
  | .passing encrypt [] [] =>
      some (state.setStage index invocation (if encrypt then .over else .prepared))
  | _ => none

def act (cipher : TdeCipher) (index : Nat) (invocation : TdeInvocation) :
    TdeEvent → Option TdeState
  | .pass _ nonce => state.pass cipher index invocation nonce
  | .leave _ =>
      if invocation.stage = .prepared then some (state.setStage index invocation .over) else none
  | .start _ =>
      if invocation.stage = .prepared then some (state.setStage index invocation (.running true))
      else none
  | .openFile _ file =>
      if invocation.executes ∧ invocation.mounts file.1 then
        let opened := file :: invocation.opened
        some { state with invocations := state.invocations.set index { invocation with opened } }
      else none
  | .write _ file body =>
      if invocation.executes ∧ invocation.mounts file.1 then some (state.setFile file body)
      else none
  | .complete _ =>
      match invocation.stage with
      | .running true =>
          some (state.setStage index invocation (.passing true [] invocation.route.hosts))
      | .running false | .streaming => some (state.setStage index invocation .over)
      | _ => none
  | .joinFails _ =>
      if invocation.stage = .running true then some (state.setStage index invocation .over)
      else none
  | .drop _ =>
      match invocation.stage with
      | .prepared => some (state.setStage index invocation .over)
      | .running true => some (state.setStage index invocation (.running false))
      | _ => none
  | .request _ | .stream _ => none

end TdeState

open TdeState

/-- Requests to the routes of a configuration. -/
def tdeMachine (cipher : TdeCipher) (routes : List TdeRoute) : Machine TdeState TdeEvent where
  step state event :=
    match event with
    | .request place => routes[place]?.map fun route =>
        state.begin { route, stage := .passing false [] route.hosts, opened := [] }
    | .stream place => routes[place]?.map fun route =>
        state.begin { route, stage := .streaming, opened := [] }
    | .pass index _ | .leave index | .start index | .openFile index _ | .write index _ _
    | .complete index | .joinFails index | .drop index =>
        state.invocations[index]?.bind fun invocation => state.act cipher index invocation event

def TdeState.initial (trees : String → Directory (List UInt8)) : TdeState :=
  { trees, invocations := [] }

/-! ## What an invocation can do -/

namespace TdeState
variable {cipher : TdeCipher} {routes : List TdeRoute} {state next : TdeState} {index : Nat}
  {invocation changed : TdeInvocation} {event : TdeEvent}

/-- What a step of an invocation does. -/
inductive Acts (cipher : TdeCipher) (state : TdeState) (index : Nat) (invocation : TdeInvocation)
    (event : TdeEvent) : TdeState → Prop
  | skip {encrypt file files volumes}
      (stands : invocation.stage = .passing encrypt (file :: files) volumes)
      (absent : state.find file = none) :
      Acts cipher state index invocation event
        (state.setStage index invocation (.passing encrypt files volumes))
  | transform {encrypt file files volumes nonce body changed}
      (stands : invocation.stage = .passing encrypt (file :: files) volumes)
      (transformed : transformTdeFile cipher encrypt nonce body = some changed) :
      Acts cipher state index invocation event ((state.setFile file changed).setStage index
        invocation (.passing encrypt files volumes))
  | fail {encrypt file nonce body}
      (asked : event = .pass index nonce) (next : invocation.nextFile = some (encrypt, file))
      (present : state.find file = some body)
      (failed : transformTdeFile cipher encrypt nonce body = none) :
      Acts cipher state index invocation event (state.setStage index invocation .over)
  | list {encrypt host volumes}
      (stands : invocation.stage = .passing encrypt [] (host :: volumes)) :
      Acts cipher state index invocation event
        (state.setStage index invocation (.passing encrypt (state.listing host) volumes))
  | passed {encrypt} (stands : invocation.stage = .passing encrypt [] []) :
      Acts cipher state index invocation event
        (state.setStage index invocation (if encrypt then .over else .prepared))
  | leave (asked : event = .leave index ∨ event = .joinFails index ∨ event = .drop index) :
      Acts cipher state index invocation event (state.setStage index invocation .over)
  | start (stands : invocation.stage = .prepared) :
      Acts cipher state index invocation event (state.setStage index invocation (.running true))
  | openFile {opened} :
      Acts cipher state index invocation event
        { state with invocations := state.invocations.set index { invocation with opened } }
  | write {file body} (asked : event = .write index file body) :
      Acts cipher state index invocation event (state.setFile file body)
  | sealing (stands : invocation.stage = .running true) :
      Acts cipher state index invocation event
        (state.setStage index invocation (.passing true [] invocation.route.hosts))
  | finish (stands : invocation.stage = .running false ∨ invocation.stage = .streaming) :
      Acts cipher state index invocation event (state.setStage index invocation .over)
  | detach (asked : event = .drop index) (stands : invocation.stage = .running true) :
      Acts cipher state index invocation event (state.setStage index invocation (.running false))

private theorem acts_of_pass (passed : state.pass cipher index invocation nonce = some next) :
    Acts cipher state index invocation (.pass index nonce) next := by
  unfold pass at passed
  split at passed
  · next encrypt _ _ volumes stands =>
    split at passed
    · next absent =>
      cases passed
      exact .skip stands absent
    · next _ present =>
      split at passed
      · next _ transformed =>
        cases passed
        exact .transform stands transformed
      · next failed =>
        cases passed
        exact .fail rfl (by rw [nextFile, stands]) present failed
  · next encrypt _ _ stands =>
    cases passed
    exact .list stands
  · next _ stands =>
    cases passed
    exact .passed stands
  · cases passed

private theorem acts_of_act (actor : event.actor = some index)
    (acted : state.act cipher index invocation event = some next) :
    Acts cipher state index invocation event next := by
  cases event with
  | request | stream => cases acted
  | pass =>
    cases actor
    exact acts_of_pass acted
  | leave =>
    cases actor
    obtain ⟨-, rfl⟩ := of_guard acted
    exact .leave (.inl rfl)
  | start =>
    obtain ⟨stands, rfl⟩ := of_guard acted
    exact .start stands
  | openFile =>
    obtain ⟨-, rfl⟩ := of_guard acted
    exact .openFile
  | write =>
    cases actor
    obtain ⟨-, rfl⟩ := of_guard acted
    exact .write rfl
  | complete =>
    dsimp only [act] at acted
    split at acted
    · next stands =>
      cases acted
      exact .sealing stands
    · next stands =>
      cases acted
      exact .finish (.inl stands)
    · next stands =>
      cases acted
      exact .finish (.inr stands)
    · cases acted
  | joinFails =>
    cases actor
    obtain ⟨-, rfl⟩ := of_guard acted
    exact .leave (.inr (.inl rfl))
  | drop =>
    cases actor
    dsimp only [act] at acted
    split at acted
    · cases acted
      exact .leave (.inr (.inr rfl))
    · next stands =>
      cases acted
      exact .detach rfl stands
    · cases acted

private theorem step_cases (stepped : (tdeMachine cipher routes).step state event = some next) :
    (∃ place route, event = .request place ∧ routes[place]? = some route ∧
      next = state.begin { route, stage := .passing false [] route.hosts, opened := [] }) ∨
    (∃ place route, event = .stream place ∧ routes[place]? = some route ∧
      next = state.begin { route, stage := .streaming, opened := [] }) ∨
    ∃ index invocation, event.actor = some index ∧ state.invocations[index]? = some invocation ∧
      Acts cipher state index invocation event next := by
  have acts (index : Nat) (actor : event.actor = some index)
      (acted : (state.invocations[index]?.bind fun invocation =>
        state.act cipher index invocation event) = some next) :
      ∃ index invocation, event.actor = some index ∧
        state.invocations[index]? = some invocation ∧
        Acts cipher state index invocation event next := by
    obtain ⟨invocation, found, acted⟩ := Option.bind_eq_some_iff.mp acted
    exact ⟨index, invocation, actor, found, acts_of_act actor acted⟩
  cases event with
  | request place =>
    obtain ⟨route, found, rfl⟩ := Option.map_eq_some_iff.mp stepped
    exact .inl ⟨place, route, rfl, found, rfl⟩
  | stream place =>
    obtain ⟨route, found, rfl⟩ := Option.map_eq_some_iff.mp stepped
    exact .inr (.inl ⟨place, route, rfl, found, rfl⟩)
  | pass index nonce | leave index | start index | openFile index file | write index file body
  | complete index | joinFails index | drop index => exact .inr (.inr (acts index rfl stepped))

/-! ## Files at rest -/

/-- No step of another invocation makes ciphertext of a file that a guest has open, however the
guest was started. -/
def Undisturbed (cipher : TdeCipher) (routes : List TdeRoute) (state : TdeState)
    (event : TdeEvent) : Prop :=
  ∀ next, (tdeMachine cipher routes).step state event = some next →
    ∀ place invocation, state.invocations[place]? = some invocation →
      invocation.executes → event.actor ≠ some place →
      ∀ file ∈ invocation.opened, file.1 ∈ invocation.route.hosts →
        ∀ before after, state.find file = some before → next.find file = some after →
          ¬Carries before → ¬Carries after

/-- Requests to one directory overlap neither with each other nor with guests of other
transports, none leaves before it seals, the passes succeed, and guests write under an encrypted
directory only through their own volume of it, between prepare and seal. -/
def Orderly (cipher : TdeCipher) (routes : List TdeRoute) (state : TdeState) : TdeEvent → Prop
  | .request place => ∀ route ∈ routes[place]?, ∀ host ∈ route.hosts,
      ∀ invocation ∈ state.invocations, invocation.stage ≠ .over → host ∉ invocation.route.hosts
  | .stream place => ∀ route ∈ routes[place]?, ∀ host ∈ route.hosts,
      ∀ invocation ∈ state.invocations, invocation.between → host ∉ invocation.route.hosts
  | .pass index nonce => ∀ invocation ∈ state.invocations[index]?,
      ∀ next ∈ invocation.nextFile, ∀ body ∈ state.find next.2,
        (transformTdeFile cipher next.1 nonce body).isSome
  | .leave index | .joinFails index | .drop index =>
      ∀ invocation ∈ state.invocations[index]?, invocation.route.hosts = []
  | .write index file _ => ∀ invocation ∈ state.invocations[index]?,
      (∃ route ∈ routes, file.1 ∈ route.hosts) →
      invocation.stage = .running true ∧ file.1 ∈ invocation.route.hosts
  | _ => True

instance (cipher : TdeCipher) (routes : List TdeRoute) (state : TdeState) (event : TdeEvent) :
    Decidable (state.Orderly cipher routes event) := by
  unfold Orderly
  split <;> infer_instance

end TdeState

namespace TdeInvocation

/-- The request has the directory between prepare and seal. -/
def Holds (host : String) (invocation : TdeInvocation) : Prop :=
  invocation.between ∧ host ∈ invocation.route.hosts

/-- The guest has the directory mounted and is started on a way that neither prepares nor
seals. -/
def Streams (host : String) (invocation : TdeInvocation) : Prop :=
  invocation.stage = .streaming ∧ host ∈ invocation.route.hosts

/-- Passes keep to the route's volumes, and only routes without any are dropped. -/
def Owns (invocation : TdeInvocation) : Prop :=
  match invocation.stage with
  | .passing _ files volumes =>
      (∀ file ∈ files, file.1 ∈ invocation.route.hosts) ∧
      ∀ host ∈ volumes, host ∈ invocation.route.hosts
  | .running false => invocation.route.hosts = []
  | _ => True

def Covers (file : TdeFile) (invocation : TdeInvocation) : Prop :=
  file.1 ∈ invocation.route.hosts ∧
    match invocation.stage with
    | .passing true files volumes => file ∈ files ∨ file.1 ∈ volumes
    | .passing false _ _ | .prepared | .running _ => True
    | .streaming | .over => False

private theorem Covers.holds {file : TdeFile} {invocation : TdeInvocation}
    (covers : invocation.Covers file) : invocation.Holds file.1 := by
  obtain ⟨mine, stage⟩ := covers
  refine ⟨?_, mine⟩
  cases stands : invocation.stage with
  | passing | prepared | running => rw [between, stands]
  | _ => simp [stands] at stage

end TdeInvocation

namespace TdeState

/-- Every file in plain text has an invocation that will seal it. -/
structure Kept (routes : List TdeRoute) (state : TdeState) : Prop where
  configured : ∀ invocation ∈ state.invocations, invocation.route ∈ routes
  single : ∀ host, Alone (Holds host) state.invocations
  apart : ∀ host, ∀ holder ∈ state.invocations, holder.Holds host →
    ∀ other ∈ state.invocations, ¬other.Streams host
  owns : ∀ invocation ∈ state.invocations, invocation.Owns
  covered : ∀ file body, (∃ route ∈ routes, file.1 ∈ route.hosts) →
    state.find file = some body → ¬Carries body →
    ∃ invocation ∈ state.invocations, invocation.Covers file

variable {cipher : TdeCipher} {routes : List TdeRoute} {state next : TdeState} {index : Nat}
  {invocation changed : TdeInvocation} {event : TdeEvent}

private theorem kept_initial {trees : String → Directory (List UInt8)}
    (sealed : ∀ route ∈ routes, ∀ host ∈ route.hosts, ∀ file ∈ (trees host).files, Carries file.2) :
    (initial trees).Kept routes where
  configured := nofun
  single _ := alone_nil
  apart _ := nofun
  owns := nofun
  covered := by
    rintro file _ ⟨route, configured, mine⟩ found plain
    exact absurd (sealed route configured file.1 mine _ (find_eq_some.mp found)) plain

private theorem find_setFile (state : TdeState) (file other : TdeFile) (body : List UInt8) :
    (state.setFile file body).find other =
      if other = file then some body else state.find other := by
  obtain ⟨host, name⟩ := file
  obtain ⟨place, path⟩ := other
  change (Function.update state.trees host ((state.trees host).write name body) place).find path = _
  by_cases here : place = host
  · subst here
    rw [Function.update_self, find_write]
    simp only [Prod.mk.injEq, true_and]
    rfl
  · rw [Function.update_of_ne here, if_neg fun same => here (Prod.mk.inj same).1]
    rfl

section
variable (kept : state.Kept routes) (found : state.invocations[index]? = some invocation)
include kept found

/-- An invocation changes that seals what it would have sealed, or leaves it sealed. -/
theorem Kept.change (invocations : next.invocations = state.invocations.set index changed)
    (route : changed.route = invocation.route)
    (between : changed.between → invocation.between)
    (streams : changed.stage = .streaming → invocation.stage = .streaming) (owns : changed.Owns)
    (covered : ∀ file body, next.find file = some body → ¬Carries body →
      changed.Covers file ∨ (∃ before, state.find file = some before ∧ ¬Carries before) ∧
      (invocation.Covers file → changed.Covers file)) :
    next.Kept routes where
  configured := by
    rw [invocations]
    exact forall_mem_set kept.configured
      (route ▸ kept.configured invocation (mem_of_getElem? found))
  single host := by
    rw [invocations]
    refine (kept.single host).rewrite found ?_
    rintro ⟨isBetween, mine⟩
    exact ⟨between isBetween, route ▸ mine⟩
  apart host := by
    rw [invocations]
    have here := mem_of_getElem? found
    intro holder held holds other member streaming
    have held : ∃ before ∈ state.invocations, before.Holds host := by
      obtain old | rfl := mem_or_eq_of_mem_set held
      · exact ⟨holder, old, holds⟩
      · exact ⟨invocation, here, between holds.1, route ▸ holds.2⟩
    obtain ⟨before, wasHeld, wasHolding⟩ := held
    obtain old | rfl := mem_or_eq_of_mem_set member
    · exact kept.apart host before wasHeld wasHolding other old streaming
    · exact kept.apart host before wasHeld wasHolding invocation here
        ⟨streams streaming.1, route ▸ streaming.2⟩
  owns := by
    rw [invocations]
    exact forall_mem_set kept.owns owns
  covered file body configured present plain := by
    rw [invocations]
    have here : changed ∈ state.invocations.set index changed :=
      mem_of_getElem? (getElem?_set_of_some found)
    obtain covers | ⟨⟨before, wasPresent, wasPlain⟩, covers⟩ := covered file body present plain
    · exact ⟨changed, here, covers⟩
    obtain ⟨other, member, covered⟩ := kept.covered file before configured wasPresent wasPlain
    obtain ⟨place, atPlace⟩ := mem_iff_getElem?.mp member
    obtain rfl | apart := eq_or_ne index place
    · cases found.symm.trans atPlace
      exact ⟨changed, here, covers covered⟩
    · exact ⟨other, mem_of_getElem? ((getElem?_set_ne apart).trans atPlace), covered⟩

private theorem Kept.setStage {stage : TdeStage}
    (between : { invocation with stage }.between → invocation.between)
    (buffered : stage ≠ .streaming) (owns : { invocation with stage }.Owns)
    (covers : ∀ file body, state.find file = some body → invocation.Covers file →
      { invocation with stage }.Covers file) :
    (state.setStage index invocation stage).Kept routes := by
  refine kept.change found rfl rfl between (absurd · buffered) owns ?_
  intro file body present plain
  exact .inr ⟨⟨body, present, plain⟩, covers file body present⟩

/-- A route without encrypted volumes has nothing to seal. -/
theorem Kept.over (none : ∀ file, ¬invocation.Covers file) :
    (state.setStage index invocation .over).Kept routes := by
  refine kept.setStage found nofun nofun trivial ?_
  intro file body _ covers
  exact absurd covers (none file)

end

/-! ## Steps -/

private theorem Kept.begin (kept : state.Kept routes) (configured : invocation.route ∈ routes)
    (owns : invocation.Owns)
    (alone : ∀ host, invocation.Holds host →
      ∀ other ∈ state.invocations, ¬other.Holds host ∧ ¬other.Streams host)
    (apart : ∀ host, invocation.Streams host →
      ∀ other ∈ state.invocations, ¬other.Holds host) :
    (state.begin invocation).Kept routes where
  configured := forall_mem_push kept.configured configured
  single host := by
    by_cases holds : invocation.Holds host
    · exact alone_push fun other member => (alone host holds other member).1
    · exact (kept.single host).push holds
  apart host := by
    intro holder held holds other member streaming
    obtain old | rfl := mem_append.mp held |>.imp_right mem_singleton.mp <;>
      obtain there | rfl := mem_append.mp member |>.imp_right mem_singleton.mp
    · exact kept.apart host holder old holds other there streaming
    · exact apart host streaming holder old holds
    · exact (alone host holds other there).2 streaming
    · obtain ⟨isBetween, -⟩ := holds
      rw [between, streaming.1] at isBetween
      cases isBetween
  owns := forall_mem_push kept.owns owns
  covered file body configured present plain := by
    obtain ⟨other, member, covers⟩ := kept.covered file body configured present plain
    exact ⟨other, mem_append_left _ member, covers⟩

variable {file : TdeFile} {body : List UInt8}

section
variable (kept : state.Kept routes) (found : state.invocations[index]? = some invocation)
include kept found

/-- A pass goes on: what it has transformed need not be sealed again. -/
theorem Kept.transform {encrypt : Bool} {files : List TdeFile} {volumes : List String}
    {changed : List UInt8} (stands : invocation.stage = .passing encrypt (file :: files) volumes)
    (transformed : transformTdeFile cipher encrypt nonce body = some changed) :
    ((state.setFile file changed).setStage index invocation
      (.passing encrypt files volumes)).Kept routes := by
  have owns := kept.owns invocation (mem_of_getElem? found)
  rw [Owns, stands] at owns
  obtain ⟨ownFiles, ownVolumes⟩ := owns
  refine kept.change found rfl rfl (fun _ => by rw [between, stands]) nofun
    ⟨fun other listed => ownFiles other (mem_cons_of_mem _ listed), ownVolumes⟩ ?_
  intro other after present plain
  change (state.setFile file changed).find other = some after at present
  rw [find_setFile] at present
  split at present
  · next same =>
    subst same
    cases present
    cases encrypt with
    | false => exact .inl ⟨ownFiles other mem_cons_self, trivial⟩
    | true => exact absurd (carries_of_encrypt transformed) plain
  · next apart =>
    refine .inr ⟨⟨after, present, plain⟩, ?_⟩
    rintro ⟨mine, covers⟩
    refine ⟨mine, ?_⟩
    rw [stands] at covers
    cases encrypt with
    | false => trivial
    | true =>
      obtain listed | later := covers
      · exact .inl ((mem_cons.mp listed).resolve_left apart)
      · exact .inr later

private theorem Kept.write (orderly : state.Orderly cipher routes (.write index file body)) :
    (state.setFile file body).Kept routes := by
  refine { kept with covered := ?_ }
  intro other after configured present plain
  rw [find_setFile] at present
  split at present
  · next same =>
    subst same
    obtain ⟨stands, mine⟩ := orderly invocation found configured
    refine ⟨invocation, mem_of_getElem? found, mine, ?_⟩
    rw [stands]
    trivial
  · exact kept.covered other after configured present plain

private theorem Kept.acts (orderly : state.Orderly cipher routes event)
    (acts : Acts cipher state index invocation event next) : next.Kept routes := by
  have owns := kept.owns invocation (mem_of_getElem? found)
  cases acts with
  | @skip encrypt _ _ _ stands absent =>
    rw [Owns, stands] at owns
    refine kept.setStage found (fun _ => by rw [between, stands]) nofun
      ⟨fun other listed => owns.1 other (mem_cons_of_mem _ listed), owns.2⟩ ?_
    rintro _ _ present ⟨mine, covers⟩
    refine ⟨mine, ?_⟩
    rw [stands] at covers
    cases encrypt with
    | false => trivial
    | true =>
      obtain listed | later := covers
      · obtain rfl | listed := mem_cons.mp listed
        · rw [absent] at present
          cases present
        · exact .inl listed
      · exact .inr later
  | transform stands transformed => exact kept.transform found stands transformed
  | @fail _ _ _ body asked next present failed =>
    subst asked
    have succeeds := orderly invocation found _ next body present
    rw [failed] at succeeds
    cases succeeds
  | @list encrypt host _ stands =>
    rw [Owns, stands] at owns
    have mine := owns.2 host mem_cons_self
    refine kept.setStage found (fun _ => by rw [between, stands]) nofun
      ⟨?_, fun other listed => owns.2 other (mem_cons_of_mem _ listed)⟩ ?_
    · intro file listed
      obtain ⟨_, -, rfl⟩ := mem_map.mp listed
      exact mine
    rintro file body present ⟨mine, covers⟩
    refine ⟨mine, ?_⟩
    rw [stands] at covers
    cases encrypt with
    | false => trivial
    | true =>
      obtain listed | later := covers
      · cases listed
      obtain here | later := mem_cons.mp later
      · refine .inl (mem_map.mpr ⟨(file.2, body), ?_, by rw [← here]⟩)
        rw [← here]
        exact find_eq_some.mp present
      · exact .inr later
  | @passed encrypt stands =>
    cases encrypt with
    | true =>
      refine kept.over found ?_
      rintro _ ⟨-, covers⟩
      rw [stands] at covers
      obtain listed | later := covers
      · cases listed
      · cases later
    | false =>
      exact kept.setStage found (fun _ => by rw [between, stands]) nofun trivial
        fun _ _ _ covers => ⟨covers.1, trivial⟩
  | leave asked =>
    have bare : invocation.route.hosts = [] := by
      obtain rfl | rfl | rfl := asked <;> exact orderly invocation found
    refine kept.over found ?_
    rintro _ ⟨mine, -⟩
    rw [bare] at mine
    cases mine
  | start stands =>
    exact kept.setStage found (fun _ => by rw [between, stands]) nofun trivial
      fun _ _ _ covers => ⟨covers.1, trivial⟩
  | openFile =>
    refine kept.change found rfl rfl id id owns ?_
    intro file body present plain
    exact .inr ⟨⟨body, present, plain⟩, id⟩
  | write asked =>
    subst asked
    exact kept.write found orderly
  | sealing stands =>
    exact kept.setStage found (fun _ => by rw [between, stands]) nofun
      ⟨nofun, fun _ mine => mine⟩ fun _ _ _ covers => ⟨covers.1, .inr covers.1⟩
  | finish stands =>
    refine kept.over found ?_
    rintro _ ⟨mine, covers⟩
    obtain stands | stands := stands
    · rw [Owns, stands] at owns
      rw [owns] at mine
      cases mine
    · simp only [stands] at covers
  | detach asked stands =>
    subst asked
    have bare : invocation.route.hosts = [] := orderly invocation found
    exact kept.setStage found (fun _ => by rw [between, stands]) nofun bare
      fun _ _ _ covers => ⟨covers.1, trivial⟩

end

private theorem Kept.step (kept : state.Kept routes) (orderly : state.Orderly cipher routes event)
    (stepped : (tdeMachine cipher routes).step state event = some next) : next.Kept routes := by
  obtain ⟨_, route, rfl, configured, rfl⟩ | ⟨_, route, rfl, configured, rfl⟩ |
    ⟨_, invocation, -, found, acts⟩ := step_cases stepped
  · refine kept.begin (mem_of_getElem? configured) ⟨nofun, fun _ mine => mine⟩ ?_ nofun
    intro host holds other member
    have free := orderly route configured host holds.2 other member
    refine ⟨fun ⟨isBetween, theirs⟩ => free (fun ended => ?_) theirs,
      fun ⟨streaming, theirs⟩ => free (by simp [streaming]) theirs⟩
    rw [between, ended] at isBetween
    cases isBetween
  · refine kept.begin (mem_of_getElem? configured) trivial nofun ?_
    rintro host ⟨-, mine⟩ other member ⟨isBetween, theirs⟩
    exact orderly route configured host mine other member isBetween theirs
  · exact kept.acts found orderly acts

/-- What an invocation does to the files of a directory, it does while it has the directory
between prepare and seal. -/
theorem Kept.find_of_acts (kept : state.Kept routes)
    (found : state.invocations[index]? = some invocation)
    (orderly : state.Orderly cipher routes event)
    (acts : Acts cipher state index invocation event next)
    (configured : ∃ route ∈ routes, file.1 ∈ route.hosts) :
    next.find file = state.find file ∨ invocation.Holds file.1 := by
  have owns := kept.owns invocation (mem_of_getElem? found)
  cases acts with
  | @transform _ changedFile _ _ _ _ after stands =>
    change (state.setFile changedFile after).find file = _ ∨ _
    rw [find_setFile]
    split
    · next same =>
      subst same
      rw [Owns, stands] at owns
      exact .inr ⟨by rw [between, stands], owns.1 file mem_cons_self⟩
    · exact .inl rfl
  | @write _ _ asked =>
    subst asked
    rw [find_setFile]
    split
    · next same =>
      subst same
      obtain ⟨stands, mine⟩ := orderly invocation found configured
      exact .inr ⟨by rw [between, stands], mine⟩
    · exact .inl rfl
  | _ => exact .inl rfl

private theorem Kept.undisturbed (kept : state.Kept routes)
    (orderly : state.Orderly cipher routes event) : state.Undisturbed cipher routes event := by
  intro next stepped place running atPlace executes other file _ mine before after present
    presentAfter plain
  obtain ⟨_, route, rfl, -, rfl⟩ | ⟨_, route, rfl, -, rfl⟩ |
    ⟨index, invocation, actor, found, acts⟩ := step_cases stepped
  · cases present.symm.trans presentAfter
    exact plain
  · cases present.symm.trans presentAfter
    exact plain
  have configured : ∃ route ∈ routes, file.1 ∈ route.hosts :=
    ⟨running.route, kept.configured running (mem_of_getElem? atPlace), mine⟩
  obtain same | holds := kept.find_of_acts found orderly acts configured
  · rw [same, present] at presentAfter
    cases presentAfter
    exact plain
  cases stands : running.stage with
  | running =>
    have runs : running.Holds file.1 := ⟨by rw [between, stands], mine⟩
    rw [kept.single file.1 index place invocation running found atPlace holds runs] at actor
    exact absurd actor other
  | streaming =>
    exact absurd ⟨stands, mine⟩ (kept.apart file.1 invocation (mem_of_getElem? found) holds running
      (mem_of_getElem? atPlace))
  | _ => simp [TdeInvocation.executes, stands] at executes

end TdeState

def markingCipher : TdeCipher where
  encrypt _ plaintext := some (1 :: plaintext)
  decrypt _ ciphertext := ciphertext.tail?

def passOver (index : Nat) : List TdeEvent := replicate 3 (.pass index (replicate 12 0))

/-- Two requests to the route overlap, and the second one seals while the first one's guest has
the file open. -/
def overlappingRun : List TdeEvent :=
  .request 0 :: passOver 0 ++ [.start 0, .openFile 0 ("/data", "a"), .request 0] ++ passOver 1 ++
    [.start 1, .complete 1, .pass 1 (replicate 12 0)]

/-- A guest that streams its response has the file open, and a request to the route seals. -/
def streamingRun : List TdeEvent :=
  [.stream 0, .openFile 0 ("/data", "a"), .request 0] ++ passOver 1 ++
    [.start 1, .complete 1, .pass 1 (replicate 12 0)]

/-- What the cipher encrypts it decrypts, and no plaintext is longer than its ciphertext. -/
structure TdeCipher.Correct (cipher : TdeCipher) : Prop where
  opens : ∀ nonce plaintext, nonce.length = 12 →
    (cipher.encrypt nonce plaintext).bind (cipher.decrypt nonce) = some plaintext
  shrinks : ∀ nonce ciphertext plaintext,
    cipher.decrypt nonce ciphertext = some plaintext → plaintext.length ≤ ciphertext.length

/-- What the passes do to one file, a seal and the prepare of the next request at a time: every
guest sees the content, and a pass over a file that is plain, or sealed, already leaves it. -/
def RoundTrips (cipher : TdeCipher) (content : List UInt8) : Prop :=
  decryptTdeFileBody cipher content = some content ∧
  (∀ nonces : List (List UInt8), (∀ nonce ∈ nonces, nonce.length = 12) →
    nonces.foldlM (fun body nonce =>
      (encryptTdeFileBody cipher nonce body).bind (decryptTdeFileBody cipher)) content =
        some content) ∧
  ∀ nonce other sealed, encryptTdeFileBody cipher nonce content = some sealed →
    encryptTdeFileBody cipher other sealed = some sealed

private theorem decrypt_encrypt (correct : cipher.Correct)
    {content : List UInt8} (drawn : nonce.length = 12) (plain : ¬Carries content) :
    (encryptTdeFileBody cipher nonce content).bind (decryptTdeFileBody cipher) = some content := by
  obtain ⟨ciphertext, encrypted, decrypted⟩ :=
    Option.bind_eq_some_iff.mp (correct.opens nonce content drawn)
  have marked : Carries (tdeFileMagic ++ (nonce ++ ciphertext)) := by simp [Carries]
  unfold Carries at plain marked
  simp [encryptTdeFileBody, decryptTdeFileBody, plain, marked, encrypted, decrypted, ← drawn]

/-- Content that begins with the magic is taken for ciphertext; all other content comes back. -/
theorem roundTrips_iff {cipher : TdeCipher} (correct : cipher.Correct) (content : List UInt8) :
    RoundTrips cipher content ↔ ¬Carries content := by
  constructor
  · rintro ⟨prepared, -⟩ carries
    unfold Carries at carries
    rw [decryptTdeFileBody, if_pos carries] at prepared
    dsimp only at prepared
    split at prepared
    · cases prepared
    · next enough =>
      have shorter := correct.shrinks _ _ _ prepared
      rw [length_drop, length_drop] at shorter
      rw [length_drop] at enough
      omega
  · intro plain
    refine ⟨if_neg plain, ?_, ?_⟩
    · intro nonces drawn
      induction nonces with
      | nil => rfl
      | cons nonce _ ih =>
        rw [forall_mem_cons] at drawn
        rw [foldlM_cons, decrypt_encrypt correct drawn.1 plain]
        exact ih drawn.2
    · intro nonce other sealed encrypted
      exact if_pos (carries_of_encrypt encrypted)

/-- A file of one byte comes back. -/
theorem plain_content_comes_back : RoundTrips markingCipher [7] := by
  have correct : markingCipher.Correct := by
    refine ⟨fun _ _ _ => rfl, fun _ ciphertext _ decrypted => ?_⟩
    cases ciphertext <;> cases decrypted
    exact Nat.le_succ _
  exact (roundTrips_iff correct [7]).mpr (by decide)

/-- A guest writes a file that begins with the magic, and the next one sees another. -/
theorem marked_content_changes : ¬RoundTrips markingCipher (tdeFileMagic ++ replicate 13 0) := by
  intro comesBack
  cases comesBack.1

end TachyonMesh.Volumes

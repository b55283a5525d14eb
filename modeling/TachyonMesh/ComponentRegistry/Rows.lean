import TachyonMesh.Foundation.Json
import TachyonMesh.Foundation.Text

/-! # Rows of the component registry

The `ai-components-registry` table describes the inference components of a node. A
row is written from a record of fixed fields with a bag of metadata from the
artifact's sidecar flattened into it, and read back as a JSON object, where the
last member with a key counts: a bag may thus override a field that is written
before it. Who owns a row is read from its `source` member.

A configured binding that takes over an uploaded artifact's alias holds the
upload's row aside inside its own.
-/

namespace TachyonMesh.ComponentRegistry
open Foundation Option Json

/-- Metadata that a sidecar declares; the host does not interpret it. -/
abbrev Bag := Dictionary String String

/-- What `declared_component_metadata` reads at an artifact root. -/
abbrev Sidecars := String → Except String Bag

/-- `IntegrityInferenceComponentBinding`, as far as the registry reads it. -/
structure InferenceComponentBinding where
  aliasName : String
  path : String
  dynamic : Bool

/-- The part of a route that is published. -/
structure IntegrityRoute where
  inferenceComponents : List InferenceComponentBinding

/-- The routes of a configuration. -/
structure IntegrityConfig where
  routes : List IntegrityRoute

/-- The bindings in the order in which the publisher visits them. -/
def IntegrityConfig.bindings (config : IntegrityConfig) : List InferenceComponentBinding :=
  config.routes.flatMap IntegrityRoute.inferenceComponents

/-- Dynamic bindings and bindings without a path are not published. -/
def InferenceComponentBinding.publishable (binding : InferenceComponentBinding) : Bool :=
  !(binding.dynamic || trim binding.path == "")

/-- The fixed fields of a row. -/
structure RegistryComponentInfo where
  aliasName : String
  engine : String
  vramRequiredMb : UInt64
  status : String
  artifactPath : String
  source : Option String
  componentMetadata : Bag
  withdrawn : Bool

open RegistryComponentInfo

/-- The members that are written before the bag. -/
def RegistryComponentInfo.leadingFields (info : RegistryComponentInfo) : List (String × Json) :=
  [("alias", .text info.aliasName), ("engine", .text info.engine),
    ("vramRequiredMb", .natural info.vramRequiredMb), ("status", .text info.status),
    ("artifactPath", .text info.artifactPath)] ++
  (info.source.toList.map fun source => ("source", .text source))

/-- The members in the order in which they are written; `source` and `withdrawn` are
left out when they say nothing. -/
def RegistryComponentInfo.fields (info : RegistryComponentInfo) : List (String × Json) :=
  info.leadingFields ++
  (info.componentMetadata.entries.map fun entry => (entry.1, .text entry.2)) ++
  (if info.withdrawn then [("withdrawn", .bool true)] else [])

def registrySourceConfig : String := "config"

def magnetarPathPrefix : String := "magnetar:"

/-- A path that names the mock backend. -/
def namesMock (path : String) : Bool :=
  path == "mock" || "mock:".toList.isPrefixOf path.toList

def bindingComponentMetadata (sidecars : Sidecars) (path : String) : Except String Bag :=
  let path := trim path
  if namesMock path then .ok .empty
  else if magnetarPathPrefix.toList.isPrefixOf path.toList then
    sidecars (String.ofList (path.toList.drop magnetarPathPrefix.toList.length))
  else sidecars path

def bindingEngineLabel (path : String) : String :=
  let path := trim path
  if namesMock path then "mock"
  else if magnetarPathPrefix.toList.isPrefixOf path.toList then "magnetar"
  else if ':' ∈ path.toList then String.ofList (path.toList.takeWhile (· ≠ ':'))
  else "local"

/-- The row of a configured binding. -/
def publishedInfo (binding : InferenceComponentBinding) (metadata : Bag) :
    RegistryComponentInfo where
  aliasName := binding.aliasName
  engine := bindingEngineLabel binding.path
  vramRequiredMb := 0
  status := "available"
  artifactPath := binding.path
  source := some registrySourceConfig
  componentMetadata := metadata
  withdrawn := false

/-- The row that keeps an alias taken while the runtime is being replaced. -/
def reservationInfo (aliasName : String) : RegistryComponentInfo where
  aliasName := aliasName
  engine := ""
  vramRequiredMb := 0
  status := "reloading"
  artifactPath := ""
  source := some registrySourceConfig
  componentMetadata := .empty
  withdrawn := true

/-- The event of an upload. -/
structure ArtifactUploaded where
  aliasName : String
  engine : String
  artifactPath : String

/-- The row of an uploaded artifact. -/
def uploadedInfo (event : ArtifactUploaded) (metadata : Bag) : RegistryComponentInfo where
  aliasName := event.aliasName
  engine := event.engine
  vramRequiredMb := 0
  status := "available"
  artifactPath := event.artifactPath
  source := none
  componentMetadata := metadata
  withdrawn := false

/-- The key an upload's row is held under inside a config row. -/
def shadowedUploadKey : String := "shadowedUpload"

section
variable {β : Type} (codec : JsonCodec β)

def rowIsConfigOwned (row : Option β) : Bool :=
  ((row.bind codec.parse).bind fun row =>
    ((row.get "source").bind asText).map (· == registrySourceConfig)).getD false

/-- Fold `shadowed` into `value` so that a later sweep can put it back. -/
def carryShadowedUpload (value shadowed : β) : Option β := do
  let row ← codec.parse value
  let shadowed ← codec.parse shadowed
  let carried ← row.put shadowedUploadKey shadowed
  some (codec.encode carried)

/-- The upload row a config row is holding aside, ready to be written back. -/
def shadowedUploadRow (row : β) : Option β := do
  let row ← codec.parse row
  let shadowed ← row.get shadowedUploadKey
  let restored := codec.encode shadowed
  if rowIsConfigOwned codec (some restored) then none else some restored

/-- The row that refreshing a configured binding writes over the current one: an
upload's row is held aside, and so is what the publisher's own row held aside. -/
def refreshed (value : β) (current : Option β) : β :=
  match current.filter fun _ => !rowIsConfigOwned codec current with
  | some shadowed => (carryShadowedUpload codec value shadowed).getD value
  | none =>
      ((current.bind (shadowedUploadRow codec)).bind (carryShadowedUpload codec value)).getD value

end

/-! ## Reading a written row -/

variable (info : RegistryComponentInfo)

def RegistryComponentInfo.row : Json := .ofFields info.fields

/-- The row with an upload's row held aside. -/
def RegistryComponentInfo.carrying (shadowed : Json) : Json :=
  .object (insertEntry shadowedUploadKey shadowed (insertEntries info.fields []))

private theorem fits_fields (doubles : UInt64 → Bool) (depth : Nat) :
    ∀ field ∈ info.fields, field.2.fits doubles depth := by
  intro field present
  have scalar : (∃ text, field.2 = .text text) ∨ (∃ number, field.2 = .natural number) ∨
      field.2 = .bool true := by
    unfold fields leadingFields at present
    simp only [List.mem_append, List.mem_cons, List.not_mem_nil, or_false, List.mem_map,
      mem_toList] at present
    rcases present with (((rfl | rfl | rfl | rfl | rfl) | ⟨_, _, rfl⟩) | ⟨_, _, rfl⟩) | marked
    any_goals exact .inl ⟨_, rfl⟩
    · exact .inr (.inl ⟨_, rfl⟩)
    split at marked
    · exact .inr (.inr (congrArg Prod.snd (List.mem_singleton.mp marked)))
    · cases marked
  rcases scalar with ⟨_, written⟩ | ⟨_, written⟩ | written
  all_goals
    rw [written]
    cases depth <;> rfl

private theorem findEntry_map_text (entries : List (String × String)) (key : String) :
    findEntry key (entries.map fun entry => (entry.1, text entry.2)) =
      (findEntry key entries).map .text := by
  induction entries with
  | nil => rfl
  | cons entry _ ih =>
    obtain ⟨-, -⟩ := entry
    rw [List.map_cons, findEntry, findEntry, ih]
    split <;> rfl

/-- A field that is written before the bag. -/
def RegistryComponentInfo.leading (key : String) : Option Json :=
  findEntry key info.leadingFields.reverse

/-- What a reader finds: the withdrawal mark, else the bag, else the leading fields. -/
theorem get_row (key : String) :
    info.row.get key =
      if info.withdrawn ∧ key = "withdrawn" then some (.bool true)
      else ((info.componentMetadata.find key).map text).or (info.leading key) := by
  have bag : findEntry key
      (info.componentMetadata.entries.map fun entry => (entry.1, text entry.2)).reverse =
        (info.componentMetadata.find key).map text := by
    rw [← List.map_reverse, findEntry_map_text, info.componentMetadata.ascending.findEntry_reverse]
    rfl
  rw [row, get_ofFields, fields,
    List.reverse_append, findEntry_append, List.reverse_append, findEntry_append, bag]
  by_cases withdrawn : info.withdrawn
  · by_cases mark : key = "withdrawn"
    · rw [if_pos withdrawn, if_pos ⟨withdrawn, mark⟩, mark]
      rfl
    · rw [if_pos withdrawn, if_neg fun both => mark both.2]
      simp [findEntry, mark, leading]
  · rw [if_neg withdrawn, if_neg fun both => withdrawn both.1]
    rfl

private theorem get_carrying (shadowed : Json) (key : String) :
    (info.carrying shadowed).get key =
      if key = shadowedUploadKey then some shadowed else info.row.get key :=
  findEntry_insertEntry shadowedUploadKey key shadowed (insertEntries info.fields [])

/-- The row with an upload's row held aside, if there is one. -/
def RegistryComponentInfo.holding (held : Option Json) : Json :=
  (held.map info.carrying).getD info.row

theorem get_holding (held : Option Json) (key : String) :
    (info.holding held).get key =
      if key = shadowedUploadKey then held.or (info.row.get key) else info.row.get key := by
  cases held with
  | none => exact (ite_self _).symm
  | some row => exact get_carrying info row key

/-! ## Ownership -/

/-- The publisher's mark, on a value that has been read. -/
def configOwned (row : Json) : Bool :=
  (((row.get "source").bind asText).map (· == registrySourceConfig)).getD false

private theorem leading_source : info.leading "source" = info.source.map text := by
  cases marked : info.source <;>
    simp [leading, leadingFields, marked, findEntry]

theorem configOwned_row :
    configOwned info.row =
      decide ((info.componentMetadata.find "source").or info.source =
        some registrySourceConfig) := by
  unfold configOwned
  rw [get_row, if_neg fun both => absurd both.2 (by decide), leading_source]
  cases info.componentMetadata.find "source" with
  | some => simp [asText, beq_eq_decide]
  | none =>
    cases info.source with
    | some => simp [asText, beq_eq_decide]
    | none => rfl

variable {β : Type} {codec : JsonCodec β}

theorem parse_row (info : RegistryComponentInfo) :
    codec.parse (codec.encodeFields info.fields) = some info.row :=
  codec.parse_encodeFields (fits_fields info _ _)

variable {raw : β} {current : Option β} {row : Json}

theorem rowIsConfigOwned_of_parse (parsed : codec.parse raw = some row) :
    rowIsConfigOwned codec (some raw) = configOwned row := by
  rw [rowIsConfigOwned, bind_some, parsed, bind_some, configOwned]

/-- The mark is a text, so it is read back whatever becomes of the numbers. -/
theorem rowIsConfigOwned_encode (fitting : row.fits finite nestingLimit) :
    rowIsConfigOwned codec (some (codec.encode row)) = configOwned row := by
  obtain ⟨read, parsed, texts⟩ := codec.texts_of_encode fitting
  rw [rowIsConfigOwned_of_parse parsed, configOwned, configOwned, texts]

theorem parse_of_rowIsConfigOwned (owned : rowIsConfigOwned codec current) :
    ∃ raw row, current = some raw ∧ codec.parse raw = some row ∧ configOwned row := by
  cases current with
  | none => cases owned
  | some raw =>
    cases parsed : codec.parse raw with
    | none =>
      rw [rowIsConfigOwned, bind_some, parsed] at owned
      cases owned
    | some row => exact ⟨raw, row, rfl, parsed, rowIsConfigOwned_of_parse parsed ▸ owned⟩

variable (codec) in
/-- The upload's row at an alias: the row itself, or what the publisher's row holds
aside. -/
def heldAside (current : Option β) : Option Json :=
  if rowIsConfigOwned codec current then
    ((current.bind codec.parse).bind (get shadowedUploadKey)).filter (!configOwned ·)
  else current.bind codec.parse

theorem not_configOwned_of_heldAside
    (held : heldAside codec current = some row) : configOwned row = false := by
  unfold heldAside at held
  split at held
  · simpa using (filter_eq_some_iff.mp held).2
  next unowned =>
  cases current with
  | none => cases held
  | some =>
    rw [rowIsConfigOwned_of_parse held] at unowned
    exact eq_false_of_ne_true unowned

/-- What a row of the publisher holds aside can be held aside again. -/
theorem fits_of_heldAside_owned (owned : rowIsConfigOwned codec current)
    (held : heldAside codec current = some row) : row.fits finite (nestingLimit - 1) := by
  unfold heldAside at held
  rw [if_pos owned, filter_eq_some_iff, bind_eq_some_iff] at held
  obtain ⟨⟨_, parsed, found⟩, _⟩ := held
  obtain ⟨_, _, parsed⟩ := bind_eq_some_iff.mp parsed
  exact fits_of_get (codec.fits_of_parse parsed) found

theorem fits_of_heldAside (held : heldAside codec current = some row) :
    row.fits finite nestingLimit := by
  by_cases owned : rowIsConfigOwned codec current
  · exact fits_succ (fits_of_heldAside_owned owned held)
  · rw [heldAside, if_neg owned] at held
    obtain ⟨_, _, parsed⟩ := bind_eq_some_iff.mp held
    exact codec.fits_of_parse parsed

theorem shadowedUploadRow_of_owned (owned : rowIsConfigOwned codec current) :
    current.bind (shadowedUploadRow codec) = (heldAside codec current).map codec.encode := by
  obtain ⟨_, outer, rfl, parsed, _⟩ := parse_of_rowIsConfigOwned owned
  rw [heldAside, if_pos owned, bind_some, bind_some, parsed, bind_some, shadowedUploadRow, parsed]
  cases found : outer.get shadowedUploadKey with
  | none => simp only [bind_eq_bind, bind_some, found, bind_none]; rfl
  | some shadowed =>
    have fitting := fits_succ (fits_of_get (codec.fits_of_parse parsed) found)
    simp only [bind_eq_bind, bind_some, found, rowIsConfigOwned_encode fitting]
    by_cases marked : configOwned shadowed = true <;> simp [marked]

variable (codec) in
/-- The numbers of what is held aside are read as they were printed. -/
def Exact (current : Option β) : Prop :=
  ∀ row, heldAside codec current = some row → row.fits codec.exact nestingLimit

section

include info

private theorem carryShadowedUpload_eq {shadowed : β} (parsed : codec.parse shadowed = some row) :
    carryShadowedUpload codec (codec.encodeFields info.fields) shadowed =
      some (codec.encode (info.carrying row)) := by
  rw [carryShadowedUpload, parse_row, parsed]
  rfl

/-- A refresh writes the new row with the upload's row, if there is one. -/
theorem refreshed_eq (exact : Exact codec current) :
    refreshed codec (codec.encodeFields info.fields) current =
      match heldAside codec current with
      | some row => codec.encode (info.carrying row)
      | none => codec.encodeFields info.fields := by
  unfold refreshed
  by_cases owned : rowIsConfigOwned codec current
  · have nothing : (current.filter fun _ => !rowIsConfigOwned codec current) = none := by
      simp [owned]
    rw [nothing, shadowedUploadRow_of_owned owned]
    cases held : heldAside codec current with
    | none => rfl
    | some row =>
      have reads := codec.parse_encode (exact row held)
      simp [map_some, carryShadowedUpload_eq info reads, getD_some]
  · rw [heldAside, if_neg owned]
    cases current with
    | none => rfl
    | some raw =>
      have kept : ((some raw).filter fun _ => !rowIsConfigOwned codec (some raw)) = some raw := by
        simp [owned]
      rw [kept]
      cases parsed : codec.parse raw with
      | none =>
        simp only [carryShadowedUpload, parse_row, parsed, bind_some]
        rfl
      | some =>
        simp [carryShadowedUpload_eq info parsed, bind_some, parsed]

theorem configOwned_carrying (row : Json) :
    configOwned (info.carrying row) = configOwned info.row := by
  unfold configOwned
  rw [get_carrying, if_neg (by decide)]

private theorem parse_carrying (fitting : row.fits codec.exact (nestingLimit - 1)) :
    codec.parse (codec.encode (info.carrying row)) = some (info.carrying row) := by
  apply codec.parse_encode
  exact fits_of_put (fits_ofFields (fits_fields info _ _)) fitting rfl

private theorem parse_carrying_too_deep (readable : row.fits finite nestingLimit)
    (deep : row.fits finite (nestingLimit - 1) = false) :
    codec.parse (codec.encode (info.carrying row)) = none := by
  have bounded : (info.carrying row).fits finite (nestingLimit + 1) :=
    fits_of_put (fits_ofFields (fits_fields info _ _)) readable rfl
  have unbounded : (info.carrying row).fits finite nestingLimit = false := by
    apply eq_false_of_ne_true
    intro fitting
    have found : (info.carrying row).get shadowedUploadKey = some row := by
      rw [get_carrying, if_pos rfl]
    have inside : row.fits finite (nestingLimit - 1) := fits_of_get fitting found
    rw [deep] at inside
    cases inside
  exact codec.parse_too_deep bounded unbounded

end

variable (codec) in
/-- What is held aside can be held aside once more. -/
def Carriable (current : Option β) : Prop :=
  ∀ row, heldAside codec current = some row → row.fits finite (nestingLimit - 1)

theorem parse_refreshed (info : RegistryComponentInfo) (exact : Exact codec current)
    (carriable : Carriable codec current) :
    codec.parse (refreshed codec (codec.encodeFields info.fields) current) =
      some (info.holding (heldAside codec current)) := by
  rw [refreshed_eq info exact]
  cases held : heldAside codec current with
  | none => exact parse_row info
  | some row => exact parse_carrying info (fits_of_shape (carriable row held) (exact row held))

theorem rowIsConfigOwned_refreshed (info : RegistryComponentInfo) (exact : Exact codec current) :
    rowIsConfigOwned codec (some (refreshed codec (codec.encodeFields info.fields) current)) =
      true ↔ configOwned info.row ∧ Carriable codec current := by
  rw [refreshed_eq info exact]
  cases held : heldAside codec current with
  | none =>
    rw [rowIsConfigOwned_of_parse (parse_row info)]
    refine ⟨fun marked => ⟨marked, ?_⟩, fun both => both.1⟩
    intro row found
    cases held.symm.trans found
  | some row =>
    by_cases fitting : row.fits finite (nestingLimit - 1)
    · have readable := fits_of_shape fitting (exact row held)
      rw [rowIsConfigOwned_of_parse (parse_carrying info readable), configOwned_carrying]
      refine ⟨fun marked => ⟨marked, ?_⟩, fun both => both.1⟩
      intro other found
      cases held.symm.trans found
      exact fitting
    · have unreadable : codec.parse (codec.encode (info.carrying row)) = none :=
        parse_carrying_too_deep info (fits_of_heldAside held) (eq_false_of_ne_true fitting)
      rw [rowIsConfigOwned, bind_some, unreadable]
      constructor
      · exact nofun
      · rintro ⟨_, carriable⟩
        exact absurd (carriable row held) fitting

/-! ## Refreshing twice -/

theorem heldAside_of_parse (parsed : codec.parse raw = some row) (marked : configOwned row) :
    heldAside codec (some raw) = (row.get shadowedUploadKey).filter (!configOwned ·) := by
  rw [heldAside, if_pos ((rowIsConfigOwned_of_parse parsed).trans marked), bind_some,
    parsed, bind_some]

/-- A row of the publisher that is written over an upload's row, or over a row that
holds one aside, holds it aside. -/
theorem heldAside_refreshed (info : RegistryComponentInfo) (marked : configOwned info.row)
    {upload : Json} (held : heldAside codec current = some upload)
    (fitting : upload.fits codec.exact (nestingLimit - 1)) :
    heldAside codec (some (refreshed codec (codec.encodeFields info.fields) current)) =
      some upload := by
  have exact : Exact codec current := by
    intro row found
    cases held.symm.trans found
    exact fits_succ fitting
  have written : refreshed codec (codec.encodeFields info.fields) current = _ :=
    refreshed_eq info exact
  rw [held] at written
  rw [written, heldAside_of_parse (parse_carrying info fitting), get_carrying, if_pos rfl]
  · simp [not_configOwned_of_heldAside held]
  · rw [configOwned_carrying]
    exact marked

private theorem get_shadowedUploadKey (info : RegistryComponentInfo) :
    info.row.get shadowedUploadKey = (info.componentMetadata.find shadowedUploadKey).map text := by
  have fixed : info.leading shadowedUploadKey = none := by
    cases marked : info.source <;>
      simp [leading, leadingFields, marked, findEntry, shadowedUploadKey]
  rw [get_row, if_neg fun both => absurd both.2 (by decide), fixed, or_none]

/-- A bag may declare the key under which an upload is held aside. -/
theorem heldAside_row {info : RegistryComponentInfo} (marked : configOwned info.row) :
    heldAside codec (some (codec.encodeFields info.fields)) =
      (info.componentMetadata.find shadowedUploadKey).map text := by
  rw [heldAside_of_parse (parse_row info) marked, get_shadowedUploadKey]
  cases info.componentMetadata.find shadowedUploadKey with
  | none | some => rfl

/-- The fields of a record are not in ascending order, so a record is never written
like a value. -/
theorem encode_ne_encodeFields (info : RegistryComponentInfo) {value : Json} {depth : Nat}
    (fitting : value.fits finite depth) : codec.encode value ≠ codec.encodeFields info.fields := by
  intro same
  have ascending := codec.ascending_of_encode fitting same
  simp only [Ascending, fields, leadingFields,
    List.cons_append, List.pairwise_cons, List.mem_cons] at ascending
  obtain ⟨_, _, third, _⟩ := ascending
  have wrong : "vramRequiredMb" < "status" := third _ (.inl rfl)
  exact absurd wrong (by decide)

/-- Refreshing a row with itself changes it only when the row is the first to hold
something aside, which then is the bag's. -/
theorem refreshed_refreshed (info : RegistryComponentInfo) (marked : configOwned info.row)
    (exact : Exact codec current) (carriable : Carriable codec current) :
    refreshed codec (codec.encodeFields info.fields)
        (some (refreshed codec (codec.encodeFields info.fields) current)) =
      refreshed codec (codec.encodeFields info.fields) current ↔
    info.componentMetadata.find shadowedUploadKey = none ∨ heldAside codec current ≠ none := by
  cases held : heldAside codec current with
  | some upload =>
    have fitting := fits_of_shape (carriable upload held) (exact upload held)
    have again := heldAside_refreshed info marked held fitting
    have exactAgain : Exact codec
        (some (refreshed codec (codec.encodeFields info.fields) current)) := by
      intro row found
      cases again.symm.trans found
      exact exact upload held
    refine ⟨fun _ => .inr (some_ne_none upload), fun _ => ?_⟩
    rw [refreshed_eq info exactAgain, again, refreshed_eq info exact, held]
  | none =>
    have plain : refreshed codec (codec.encodeFields info.fields) current =
        codec.encodeFields info.fields := by
      rw [refreshed_eq info exact, held]
    have exactRow : Exact codec (some (codec.encodeFields info.fields)) := by
      intro row found
      rw [heldAside_row marked, map_eq_some_iff] at found
      obtain ⟨_, _, rfl⟩ := found
      rfl
    rw [plain, refreshed_eq info exactRow, heldAside_row marked]
    cases declared : info.componentMetadata.find shadowedUploadKey with
    | none => simp
    | some value =>
      have fitting : (info.carrying (.text value)).fits finite nestingLimit :=
        fits_of_put (fits_ofFields (fits_fields info _ _)) (by rfl) rfl
      have rewritten : codec.encode (info.carrying (.text value)) ≠ _ :=
        encode_ne_encodeFields info fitting
      simp [rewritten]

end TachyonMesh.ComponentRegistry

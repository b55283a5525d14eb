import TachyonMesh.ComponentRegistry.Publication

/-! # Comparing a stored row with a binding

A reload keeps the row of a binding if the row has the binding's engine and its texts
outside of the fixed fields are the bag (`rowStillCurrent_iff`). That is less than the
row: `AsPublished.looksCurrent_iff` and `LooksCurrent.asPublished_iff` say when the
comparison and the row that publishing would write agree.
-/

namespace TachyonMesh.ComponentRegistry
open Foundation Option Json
variable {β : Type} {codec : JsonCodec β}

/-! ## What the comparison with a stored row sees -/

variable {members : List (String × Json)}

private theorem findEntry_metadata (ascending : Ascending members) (key : String) :
    findEntry key
      ((members.filter fun member => !registryRowFixedFields.contains member.1).filterMap
      fun member => member.2.asText.map fun value => (member.1, value)) =
    if key ∈ registryRowFixedFields then none
    else (findEntry key members).bind asText := by
  induction members with
  | nil => simp [findEntry]
  | cons member rest ih =>
    obtain ⟨other, value⟩ := member
    obtain ⟨above, remaining⟩ := List.pairwise_cons.mp ascending
    have absent : key = other → findEntry key rest = none := by
      rintro rfl
      cases later : findEntry key rest with
      | none => rfl
      | some => exact absurd (above _ (mem_of_findEntry later)) (lt_irrefl _)
    specialize ih remaining
    rw [findEntry]
    by_cases same : key = other
    · subst same
      rw [absent rfl] at ih
      by_cases fixed : key ∈ registryRowFixedFields
      · rw [if_pos fixed] at ih ⊢
        simpa [fixed] using ih
      cases text : value.asText with
      | none => simpa [fixed, text] using ih
      | some => simp [fixed, text, findEntry]
    · rw [if_neg same]
      by_cases fixed : other ∈ registryRowFixedFields
      · simpa [fixed] using ih
      · cases text : value.asText with
        | none => simpa [fixed, text] using ih
        | some => simpa [fixed, text, findEntry, same] using ih

private theorem find_storedMetadata (ascending : Ascending members) (key : String) :
    (storedMetadata members).find key =
      if key ∈ registryRowFixedFields then none
      else (findEntry key members).bind asText := by
  have kept : Ascending ((members.filter fun member =>
      !registryRowFixedFields.contains member.1).filterMap
      fun member => member.2.asText.map fun value => (member.1, value)) := by
    apply List.Pairwise.filterMap _ _ (ascending.sublist List.filter_sublist)
    rintro ⟨_, _⟩ ⟨_, _⟩ below _ found _ listed
    obtain ⟨_, _, rfl⟩ := map_eq_some_iff.mp found
    obtain ⟨_, _, rfl⟩ := map_eq_some_iff.mp listed
    exact below
  rw [storedMetadata, Dictionary.find_ofList, kept.findEntry_reverse, findEntry_metadata ascending]

/-- A row passes for current: it has the binding's engine, and its texts outside of
the fixed fields are the bag. -/
structure LooksCurrent (path : String) (metadata : Bag) (row : Json) : Prop where
  engine : (row.get "engine").bind asText = some (bindingEngineLabel path)
  texts : ∀ key, metadata.find key =
    if key ∈ registryRowFixedFields then none else (row.get key).bind asText

theorem rowStillCurrent_iff {sidecars : Sidecars} {path : String} {raw : β} {row : Json}
    (parsed : codec.parse raw = some row) (owned : configOwned row) :
    rowStillCurrent codec sidecars path (some raw) ↔
      ∃ metadata, bindingComponentMetadata sidecars path = .ok metadata ∧
        LooksCurrent path metadata row := by
  cases row with
  | object members =>
    have ascending := (fits_object.mp (codec.fits_of_parse parsed)).1
    unfold rowStillCurrent
    rw [bind_some, parsed]
    by_cases engine : (findEntry "engine" members).bind asText = some (bindingEngineLabel path)
    · simp only [engine, ne_eq, not_true_eq_false, if_false]
      cases declared : bindingComponentMetadata sidecars path with
      | error => simp
      | ok =>
        rw [decide_eq_true_eq]
        constructor
        · rintro rfl
          exact ⟨_, rfl, engine, find_storedMetadata ascending⟩
        · rintro ⟨_, same, looks⟩
          cases same
          apply Dictionary.ext_find
          intro key
          rw [find_storedMetadata ascending, looks.texts]
          rfl
    · simp only [engine, ne_eq, not_false_eq_true, if_true]
      constructor
      · exact nofun
      · rintro ⟨_, _, looks⟩
        exact absurd looks.engine engine
  | _ => cases owned

/-! ## What publishing would write -/

/-- The row of a binding as a publication would write it. -/
def freshInfo (name path : String) (metadata : Bag) : RegistryComponentInfo :=
  publishedInfo ⟨name, path, false⟩ metadata

/-- What a row holds aside, as far as it may be put back. -/
def parked (row : Json) : Option Json := (row.get shadowedUploadKey).filter (!configOwned ·)

/-- The row is what publishing the binding over it would write. -/
def AsPublished (name path : String) (metadata : Bag) (row : Json) : Prop :=
  ∀ key, row.get key = ((freshInfo name path metadata).holding (parked row)).get key

/-- The part of a published row that the comparison does not look at. -/
structure Remainder (name path : String) (row : Json) : Prop where
  aliasName : row.get "alias" = some (.text name)
  vramRequiredMb : row.get "vramRequiredMb" = some (.natural 0)
  status : row.get "status" = some (.text "available")
  artifactPath : row.get "artifactPath" = some (.text path)
  withdrawn : row.get "withdrawn" = none
  others : ∀ key value, key ∉ registryRowFixedFields → row.get key = some value →
    (∃ text, value = .text text) ∨ key = shadowedUploadKey ∧ configOwned value = false

/-- The bag leaves the fixed fields alone, and a text that the row holds aside is the
one the bag declares under that key. -/
structure Discreet (metadata : Bag) (row : Json) : Prop where
  fixed : ∀ key ∈ registryRowFixedFields, metadata.find key = none
  held : ∀ upload, parked row = some upload → upload.asText = metadata.find shadowedUploadKey

variable {name path : String} {metadata : Bag} {row : Json}

private theorem leading_of_not_fixed {key : String} (other : key ∉ registryRowFixedFields) :
    (freshInfo name path metadata).leading key = none := by
  simp only [registryRowFixedFields, List.mem_cons, List.not_mem_nil, or_false, not_or] at other
  simp [freshInfo, publishedInfo, RegistryComponentInfo.leading,
    RegistryComponentInfo.leadingFields, findEntry, other]

theorem get_fresh (key : String) :
    (freshInfo name path metadata).row.get key =
      ((metadata.find key).map text).or ((freshInfo name path metadata).leading key) :=
  get_published _ _ _

private theorem shadowedUploadKey_not_fixed :
    shadowedUploadKey ∉ registryRowFixedFields := by decide

private theorem asText_eq_some {value : Json} {text : String} (is : value.asText = some text) :
    value = .text text := by
  cases value with
  | text =>
    cases is
    rfl
  | _ => cases is

/-- A row that is what publishing would write looks current when its bag is discreet. -/
theorem AsPublished.looksCurrent_iff (published : AsPublished name path metadata row) :
    LooksCurrent path metadata row ↔ Discreet metadata row := by
  have member : ∀ key, key ≠ shadowedUploadKey →
      row.get key = ((metadata.find key).map .text).or
        ((freshInfo name path metadata).leading key) := by
    intro key other
    rw [published, get_holding, if_neg other, get_fresh]
  have shadowed : row.get shadowedUploadKey =
      (parked row).or ((metadata.find shadowedUploadKey).map .text) := by
    rw [published, get_holding, if_pos rfl, get_fresh,
      leading_of_not_fixed shadowedUploadKey_not_fixed, or_none]
  constructor
  · intro looks
    constructor
    · intro key fixed
      rw [looks.texts, if_pos fixed]
    · intro upload held
      rw [looks.texts, if_neg shadowedUploadKey_not_fixed, shadowed, held]
      rfl
  · intro discreet
    constructor
    · rw [member "engine" (by decide), discreet.fixed "engine" (by decide)]
      rfl
    · intro key
      split
      · next fixed => rw [discreet.fixed key fixed]
      next fixed =>
      by_cases here : key = shadowedUploadKey
      · subst here
        rw [shadowed]
        cases held : parked row with
        | some upload => exact (discreet.held upload held).symm
        | none => cases metadata.find shadowedUploadKey <;> rfl
      · rw [member key here, leading_of_not_fixed fixed, or_none]
        cases metadata.find key <;> rfl

/-- A row that looks current is what publishing would write when the rest of it is. -/
theorem LooksCurrent.asPublished_iff (looks : LooksCurrent path metadata row)
    (owned : configOwned row) : AsPublished name path metadata row ↔ Remainder name path row := by
  have fixed : ∀ key ∈ registryRowFixedFields, metadata.find key = none := by
    intro key listed
    rw [looks.texts, if_pos listed]
  have written : ∀ key ∈ registryRowFixedFields,
      ((freshInfo name path metadata).holding (parked row)).get key =
        (freshInfo name path metadata).leading key := by
    intro key listed
    have other : key ≠ shadowedUploadKey := by
      rintro rfl
      exact shadowedUploadKey_not_fixed listed
    rw [get_holding, if_neg other, get_fresh, fixed key listed]
    rfl
  constructor
  · intro published
    have field : ∀ key ∈ registryRowFixedFields,
        row.get key = (freshInfo name path metadata).leading key :=
      fun key listed => (published key).trans (written key listed)
    refine ⟨field _ (by decide), field _ (by decide), field _ (by decide), field _ (by decide),
      field _ (by decide), ?_⟩
    intro key value other found
    rw [published, get_holding, get_fresh, leading_of_not_fixed other, or_none] at found
    split at found
    · next here =>
      cases held : parked row with
      | some =>
        rw [held] at found
        cases found
        exact .inr ⟨here, by simpa using (filter_eq_some_iff.mp held).2⟩
      | none =>
        rw [held, none_or] at found
        obtain ⟨text, _, rfl⟩ := map_eq_some_iff.mp found
        exact .inl ⟨text, rfl⟩
    · obtain ⟨text, _, rfl⟩ := map_eq_some_iff.mp found
      exact .inl ⟨text, rfl⟩
  · intro rest key
    by_cases listed : key ∈ registryRowFixedFields
    · rw [written key listed]
      have engine : row.get "engine" = some (.text (bindingEngineLabel path)) := by
        obtain ⟨_, found, text⟩ := bind_eq_some_iff.mp looks.engine
        rw [found, asText_eq_some text]
      have source : row.get "source" = some (.text registrySourceConfig) := by
        unfold configOwned at owned
        cases read : (row.get "source").bind asText with
        | none => simp [read] at owned
        | some =>
          obtain ⟨_, found, text⟩ := bind_eq_some_iff.mp read
          rw [found, asText_eq_some text]
          simpa [read] using owned
      simp only [registryRowFixedFields, List.mem_cons, List.not_mem_nil, or_false] at listed
      rcases listed with rfl | rfl | rfl | rfl | rfl | rfl | rfl
      · exact rest.aliasName
      · exact engine
      · exact rest.vramRequiredMb
      · exact rest.status
      · exact rest.artifactPath
      · exact source
      · exact rest.withdrawn
    · have texts := looks.texts key
      rw [get_holding, get_fresh, leading_of_not_fixed listed, or_none, texts]
      cases found : row.get key with
      | none =>
        split
        · next here => rw [parked, ← here, found]; rfl
        · rfl
      | some value =>
        split
        · next here =>
          have unmarked : configOwned value = false := by
            rcases rest.others key value listed found with ⟨-, rfl⟩ | ⟨_, unmarked⟩
            · rfl
            · exact unmarked
          have held : parked row = some value := by
            rw [parked, ← here, found]
            exact filter_eq_some_iff.mpr ⟨rfl, by rw [unmarked]; rfl⟩
          rw [held, some_or]
        · next here =>
          rcases rest.others key value listed found with ⟨-, rfl⟩ | ⟨same, _⟩
          · rfl
          · exact absurd same here

end TachyonMesh.ComponentRegistry

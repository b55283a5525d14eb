import TachyonMesh.Dispatch.Overrides

/-! # Recovery of a steered route

The gossip component steers a route to its peers and back. Both it and the host have a normal form
of routes, and the host drops an override when the destination is the route in its own form.
-/

namespace TachyonMesh.Dispatch
open Foundation

/-- `normalize_route` of the gossip component. -/
def normalizeRouteChars : List Char → Except String (List Char)
  | 'm' :: 'e' :: 's' :: 'h' :: '-' :: 'q' :: 'o' :: 's' :: ':' :: route =>
      (normalizeRouteChars route).map (meshQosOverride.toList ++ ·)
  | route =>
      let trimmed := trimChars route
      let cut := trimmed.rdropWhile (· == '/')
      if trimmed = [] then .error "route must not be empty"
      else .ok (if trimmed.head? = some '/' then cut else '/' :: cut)

/-- The route that the component steers, from the value of `STEER_ROUTE`. -/
def steerRoute (value : String) : Except String String :=
  if trim value = "" then .error "missing required environment variable `STEER_ROUTE`"
  else (normalizeRouteChars (trimChars value.toList)).map String.ofList

/-- The host after updates of the component for its route; a call that fails changes nothing. -/
def steered (codec : OverrideCodec) (value : String) (start : ControlPlane)
    (destinations : List String) : ControlPlane :=
  destinations.foldl (fun state destination => ((steerRoute value).bind fun route =>
    updateControlPlaneRouteOverride codec state route destination).toOption.getD state) start

/-- The call `update_target(r, r)` succeeds and leaves no override under the key that requests of
the route look up. A sealed route's path is normalized, and the lookup normalizes it again. -/
def Recovers (codec : OverrideCodec) (value : String) (state : ControlPlane) : Prop :=
  ∃ route ∈ (steerRoute value).toOption,
    ∃ after ∈ (updateControlPlaneRouteOverride codec state route route).toOption,
      after.overrides.find
        (normalizeRouteOverrideKey (normalizeRouteOverrideKey (trim value))) = none
deriving Decidable

/-- A text that is a slash, or does not end in one. -/
def Settled (text : String) : Prop := text ≠ "" ∧ (text = "/" ∨ trimEndMatches '/' text = text)
deriving Decidable

/-- The value has no QoS mark, and without the slashes at its end and the white space around what
is left it is settled. -/
def Plain (value : String) : Prop :=
  startsWith (trim value) meshQosOverride = false ∧ Settled (trim (trimEndMatches '/' (trim value)))
deriving Decidable

variable {codec : OverrideCodec} {value : String}

private theorem trim_ofList (text : List Char) :
    trim (String.ofList text) = String.ofList (trimChars text) := by
  rw [trim, String.toList_ofList]

private theorem trimChars_cons {c : Char} (visible : isWhitespace c = false) (text : List Char) :
    trimChars (c :: text) = c :: text.rdropWhile isWhitespace := by
  simp [trimChars_eq, visible, rdropWhile_cons]

/-- The component cuts the slashes off the path that the host makes of the value. -/
theorem steerRoute_of_plain (present : trim value ≠ "")
    (plain : startsWith (trim value) meshQosOverride = false) :
    ∃ rest, (if startsWith (trim value) "/" then trim value else "/" ++ trim value) =
        String.ofList ('/' :: rest) ∧
      steerRoute value = .ok (String.ofList (('/' :: rest).rdropWhile (· == '/'))) ∧
      (Plain value ↔ Settled (trim (String.ofList (('/' :: rest).rdropWhile (· == '/'))))) := by
  have twice := trimChars_trimChars value.toList
  cases shape : trimChars value.toList with
  | nil => simp [trim, shape] at present
  | cons c rest =>
    have visible := isWhitespace_of_trimChars_eq_cons shape
    have trimmed : trim value = String.ofList (c :: rest) := by rw [trim, shape]
    have steers : steerRoute value = .ok (String.ofList (if c = '/' then
        (c :: rest).rdropWhile (· == '/') else '/' :: (c :: rest).rdropWhile (· == '/'))) := by
      rw [steerRoute, if_neg present, shape, normalizeRouteChars]
      · rw [shape] at twice
        simp [twice, Except.map]
      · rintro _ ⟨⟩
        simp [trimmed, startsWith, meshQosOverride] at plain
    rw [steers, startsWith_slash, trimmed, String.toList_ofList]
    unfold Plain
    rw [plain, trimmed, trimEndMatches_ofList, eq_self_iff_true, true_and]
    by_cases slash : c = '/'
    · subst slash
      exact ⟨rest, rfl, rfl, Iff.rfl⟩
    have cut (text : List Char) : (c :: text).rdropWhile (· == '/') =
        c :: text.rdropWhile (· == '/') := by simp [rdropWhile_cons, slash]
    have cutPath (text : List Char) : ('/' :: c :: text).rdropWhile (· == '/') =
        '/' :: c :: text.rdropWhile (· == '/') := by simp [rdropWhile_cons, slash]
    refine ⟨c :: rest, ?_, by rw [if_neg slash, cutPath, cut], ?_⟩
    · rw [if_neg (by simpa using slash), ← String.toList_inj]
      simp
    · rw [cut, cutPath, trim_ofList, trim_ofList, trimChars_cons visible,
        trimChars_cons (by decide), rdropWhile_cons isWhitespace, if_neg (by simp [visible])]
      simp only [Settled, trimEndMatches_ofList, cut, cutPath, ← String.toList_inj,
        String.toList_ofList]
      simp [slash]

private theorem isPrefixOf_normalizeRouteChars {route normal : List Char}
    (marked : meshQosOverride.toList.isPrefixOf route)
    (normalized : normalizeRouteChars route = .ok normal) :
    meshQosOverride.toList.isPrefixOf normal := by
  obtain ⟨rest, rfl⟩ := List.isPrefixOf_iff_prefix.mp marked
  change (normalizeRouteChars rest).map (meshQosOverride.toList ++ ·) = _ at normalized
  cases inner : normalizeRouteChars rest with
  | error => simp [inner, Except.map] at normalized
  | ok =>
    rw [inner] at normalized
    cases normalized
    exact List.isPrefixOf_iff_prefix.mpr (List.prefix_append _ _)

private theorem find_changeOverride (route : String) (map : Dictionary String String) :
    (changeOverride route route map).find (normalizeRouteOverrideKey route) = none ↔
      trim route = normalizeRouteOverrideKey route := by
  by_cases same : trim route = normalizeRouteOverrideKey route
  · simp [changeOverride, same, Dictionary.find_erase]
  · simp [changeOverride, same, Dictionary.find_insert]

private theorem normalizeRoutePath_rooted (rest : List Char) :
    let trimmed := trim (String.ofList ('/' :: rest))
    startsWith trimmed "/" ∧ normalizeRoutePath (String.ofList ('/' :: rest)) =
      if trimEndMatches '/' trimmed = "" then "/" else trimEndMatches '/' trimmed := by
  have slash : startsWith (trim (String.ofList ('/' :: rest))) "/" := by
    rw [trim_ofList, trimChars_cons (by decide), startsWith_slash, String.toList_ofList]
    rfl
  rw [normalizeRoutePath, if_pos slash]
  exact ⟨slash, rfl⟩

/-- The key of a path, and that it is a destination of its own. -/
theorem key_of_path (rest : List Char) : let destination := trim (String.ofList ('/' :: rest))
    normalizeRouteOverrideKey (String.ofList ('/' :: rest)) =
      (if trimEndMatches '/' destination = "" then "/" else trimEndMatches '/' destination) ∧
    destination ≠ "" ∧ directDestination destination := by
  obtain ⟨slash, normal⟩ := normalizeRoutePath_rooted rest
  have unmarked : stripPrefix meshQosOverride (String.ofList ('/' :: rest)) = none :=
    stripPrefix_eq_none (by simp [startsWith, meshQosOverride, List.isPrefixOf])
  rw [normalizeRouteOverrideKey, unmarked]
  refine ⟨normal, ?_, by rw [directDestination, slash]; rfl⟩
  rw [trim_ofList, trimChars_cons (by decide)]
  simp

private theorem checkOverride_marked
    (json : ∀ text, startsWith text meshQosOverride → codec.parseDescriptor text = none)
    (rest : List Char) :
    ∃ message, checkOverride codec (String.ofList (meshQosOverride.toList ++ rest)) =
      .error message := by
  obtain ⟨kept, trimmed⟩ := @trimChars_append 'm' ':' "esh-qos".toList rest (by decide) (by decide)
  have unread := json (String.ofList (meshQosOverride.toList ++ kept))
    (by simp [startsWith, meshQosOverride])
  have shape : trim (String.ofList (meshQosOverride.toList ++ rest)) =
      String.ofList (meshQosOverride.toList ++ kept) := by
    rw [trim_ofList]
    exact congrArg String.ofList trimmed
  have direct : directDestination (String.ofList (meshQosOverride.toList ++ kept)) = false := by
    simp [directDestination, startsWith, meshQosOverride, List.isPrefixOf]
  have nonempty : String.ofList (meshQosOverride.toList ++ kept) ≠ "" := by simp [meshQosOverride]
  rw [checkOverride, shape]
  simp only [nonempty, direct, unread, if_false, Bool.false_eq_true]
  exact ⟨_, rfl⟩

/-- The recovery call clears the override exactly for plain values. -/
theorem recovery_clears_iff
    (json : ∀ text, startsWith text meshQosOverride → codec.parseDescriptor text = none)
    (value : String) (start : ControlPlane) (destinations : List String) :
    Recovers codec value (steered codec value start destinations) ↔ Plain value := by
  generalize steered codec value start destinations = state
  by_cases present : trim value = ""
  · have empty : trim (trimEndMatches '/' "") = "" := by decide
    simp [Recovers, Plain, Settled, steerRoute, present, empty, Except.toOption]
  by_cases plain : startsWith (trim value) meshQosOverride = false
  · obtain ⟨rest, rooted, steers, plainly⟩ := steerRoute_of_plain present plain
    have path : normalizeRouteOverrideKey (trim value) =
        if (String.ofList (('/' :: rest).rdropWhile (· == '/'))) = "" then "/"
        else String.ofList (('/' :: rest).rdropWhile (· == '/')) := by
      simp only [normalizeRouteOverrideKey, stripPrefix_eq_none plain, normalizeRoutePath,
        trim_trim, rooted, trimEndMatches_ofList]
    rw [plainly]
    rw [rdropWhile_cons] at steers path ⊢
    split at steers
    · next bare =>
      rw [if_pos bare]
      have empty : trim "" = "" := by decide
      simp [Recovers, Settled, steers, updateControlPlaneRouteOverride, checkOverride, Except.map,
        Except.toOption, empty]
    · next longer =>
      rw [if_neg longer, if_neg (by simp)] at path
      rw [if_neg longer]
      obtain ⟨key, nonempty, direct⟩ := key_of_path (rest.rdropWhile (· == '/'))
      generalize String.ofList ('/' :: rest.rdropWhile (· == '/')) = route at *
      have recovers :
          Recovers codec value state ↔ trim route = normalizeRouteOverrideKey route := by
        rw [← find_changeOverride route state.overrides]
        simp [Recovers, steers, updateControlPlaneRouteOverride, checkOverride, nonempty, direct,
          Except.map, Except.toOption, path]
      rw [recovers, key, Settled]
      split
      · next all => simp [nonempty, all, eq_comm]
      · next some =>
        have single : trim route ≠ "/" := fun same => some (by rw [same]; decide)
        simp [nonempty, single, eq_comm]
  · refine iff_of_false ?_ fun plainly => plain plainly.1
    rintro ⟨_, steers, _, updated, -⟩
    rw [steerRoute, if_neg present] at steers
    cases normalized : normalizeRouteChars (trimChars value.toList) with
    | error => simp [normalized, Except.map, Except.toOption] at steers
    | ok =>
      rw [normalized] at steers
      cases steers
      have marked := isPrefixOf_normalizeRouteChars
        (by simpa [startsWith, trim] using plain) normalized
      obtain ⟨rest, rfl⟩ := List.isPrefixOf_iff_prefix.mp marked
      obtain ⟨_, refused⟩ := checkOverride_marked json rest
      rw [updateControlPlaneRouteOverride, refused] at updated
      cases updated

/-- The override of a saturated route goes when it recovers. -/
theorem recovery_clears_api :
    Recovers OverrideState.noCodec "/api/"
      (steered OverrideState.noCodec "/api/" {} ["/system/buffer"]) :=
  (recovery_clears_iff (fun _ _ => rfl) "/api/" {} ["/system/buffer"]).mpr (by decide)

/-- The call fails for the root route and for a route with the QoS mark, and installs an override
for a route with a slash and a blank before its last slash. -/
theorem recovery_fails :
    ¬Recovers OverrideState.noCodec "/" {} ∧ ¬Recovers OverrideState.noCodec "mesh-qos:/api" {} ∧
      ¬Recovers OverrideState.noCodec "/api/ /" {} := by
  decide +kernel

end TachyonMesh.Dispatch

import TachyonMesh.Foundation.Outcome
import TachyonMesh.Limiter.Counters

/-! # The distributed rate limit as the host enforces it

The host asks the limiter about every call of a route with a distributed rate limit. It
sends the key and the policy to `/system/dist-limiter/check`, in an instance of the
component that it makes for this one call, and lets the call through unless the answer
is a success that says no.

The component knows `/check` and not the path that the host calls it with, so it answers
404, and the host takes that for a limiter that does not work. Nothing is ever counted.
-/

namespace TachyonMesh.Limiter
open Foundation Dispatch

def checkUri : String := "/system/dist-limiter/check"

/-- The body of the host's call: the key, the threshold and the window. -/
def checkBody (key : String) : Body :=
  .object [("key", .text key), ("threshold", .other), ("window_seconds", .other)]

/-- What a new instance of the component answers the host's call with. -/
def limiterReply (env : Env) (key : String) : LimiterReply :=
  let response := (handleRequest env .empty "POST" checkUri (checkBody key) none).2
  .answered response.status response.allowed

/-- A call of the route: when it comes, with which headers, and what its instance of the
limiter finds. -/
structure Arrival where
  time : Nat
  headers : HeaderMap
  env : Env

section
variable (host : Dispatch.Host) (route : IntegrityRoute) (policy : DistributedRateLimitConfig)

def Arrival.key (arrival : Arrival) : Option String :=
  (distributedRateLimitKey host policy arrival.headers route.path).toOption

/-- The limiter's answer to a call with a key. Without one it is not asked. -/
def Arrival.reply (arrival : Arrival) : LimiterReply :=
  match arrival.key host route policy with
  | some key => limiterReply arrival.env key
  | none => .timedOut

def Arrival.admitted (arrival : Arrival) : Bool :=
  (enforceDistributedRateLimit host route arrival.headers (arrival.reply host route policy)).isNone

/-- The calls of a key from `start` on, for the length of a window. -/
def inWindow (key : String) (start : Nat) (arrivals : List Arrival) : List Arrival :=
  arrivals.filter fun arrival => arrival.key host route policy == some key &&
    start ≤ arrival.time && arrival.time < start + policy.windowSeconds

/-- At most as many calls of the key as the policy allows are let through in any window. -/
def Enforced (key : String) (arrivals : List Arrival) : Prop :=
  ∀ start, ((inWindow host route policy key start arrivals).filter
    fun arrival => arrival.admitted host route policy).length ≤ policy.threshold

/-- At most as many calls of the key as the policy allows come in any window. -/
def Abiding (key : String) (arrivals : List Arrival) : Prop :=
  ∀ start, (inWindow host route policy key start arrivals).length ≤ policy.threshold

end

section
variable {host : Dispatch.Host} {route : IntegrityRoute} {policy : DistributedRateLimitConfig}

private theorem admitted_of_key (limited : route.distributedRateLimit = some policy)
    (asked : (host.config.sealedRoute systemDistLimiterRoute).isSome) {arrival : Arrival}
    {key : String} (keyed : arrival.key host route policy = some key) :
    arrival.admitted host route policy := by
  obtain ⟨_, sealedLimiter⟩ := Option.isSome_iff_exists.mp asked
  have found : distributedRateLimitKey host policy arrival.headers route.path = .ok key :=
    toOption_eq_some.mp keyed
  -- The component does not know the path that the host calls.
  have unknown : limiterReply arrival.env key = .answered 404 none := by
    have path : requestPath checkUri = checkUri := by decide +kernel
    unfold limiterReply handleRequest
    rfl
  unfold Arrival.admitted Arrival.reply enforceDistributedRateLimit
  rw [keyed, limited]
  simp only [sealedLimiter, found, unknown]
  rfl

/-- The limit holds for a key exactly when its calls keep to it by themselves. -/
theorem rate_limit_bounds_admissions_iff (limited : route.distributedRateLimit = some policy)
    (asked : (host.config.sealedRoute systemDistLimiterRoute).isSome) (key : String)
    (arrivals : List Arrival) :
    Enforced host route policy key arrivals ↔ Abiding host route policy key arrivals := by
  have all (start : Nat) : (inWindow host route policy key start arrivals).filter
      (fun arrival => arrival.admitted host route policy) =
      inWindow host route policy key start arrivals := by
    apply List.filter_eq_self.mpr
    intro arrival member
    obtain ⟨-, passes⟩ := List.mem_filter.mp member
    simp only [Bool.and_eq_true, beq_iff_eq] at passes
    exact admitted_of_key limited asked passes.1.1
  simp [Enforced, Abiding, all]

end

/-! ## A limited route -/

def oncePerMinute : DistributedRateLimitConfig :=
  { threshold := 1, windowSeconds := 60, scope := .ip }

def limitedRoute : IntegrityRoute :=
  { path := "/api/limited", name := "limited", distributedRateLimit := some oncePerMinute }

def limitedHost : Dispatch.Host := plainHost
  { hostAddress := "127.0.0.1:8080"
    routes :=
      [limitedRoute, { path := systemDistLimiterRoute, role := .system, name := "limiter" }] }

/-- A call from one address, to a limiter that is set up for the policy. -/
def callAt (time : Nat) : Arrival where
  time
  headers := ⟨[("x-forwarded-for", "10.0.0.1")]⟩
  env := { nodeId := some "node", limit := some "1", windowSeconds := some "60", now := time }

/-- Two calls in the same second pass a limit of one in a minute. -/
theorem rate_limit_exceeded :
    limitedHost.config.validated ∧
    ¬Enforced limitedHost limitedRoute oncePerMinute "ip:10.0.0.1:/api/limited"
      [callAt 0, callAt 0] := by
  refine ⟨by decide +kernel, ?_⟩
  intro enforced
  exact absurd (enforced 0) (by decide +kernel)

/-- Calls that keep to the limit stay within it. -/
theorem rate_limit_of_spaced_calls :
    Enforced limitedHost limitedRoute oncePerMinute "ip:10.0.0.1:/api/limited"
      [callAt 0, callAt 60] := by
  refine (rate_limit_bounds_admissions_iff rfl (by decide +kernel) _ _).mpr ?_
  intro start
  unfold inWindow
  rw [List.filter_cons, List.filter_cons, List.filter_nil]
  split
  · next first =>
    split
    · next second =>
      -- The windows that hold both calls would have to be longer than a minute.
      simp only [Bool.and_eq_true, decide_eq_true_eq] at first second
      have early : start ≤ 0 := first.1.2
      have late : 60 < start + 60 := second.2
      omega
    · exact le_refl 1
  · split
    · exact le_refl 1
    · exact Nat.zero_le 1

end TachyonMesh.Limiter

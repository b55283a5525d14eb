import Mathlib.Logic.Function.Basic

/-! # Caches

A cache may forget any entry at any time. What can be said of it is what every entry in it
satisfies: `Cache.Every` is kept by evictions, by insertions that satisfy it and by lookups that
fill the cache.
-/

namespace Foundation

universe u v

/-- What is cached under each key. -/
abbrev Cache (Key : Type u) (Value : Type v) := Key → Option Value

namespace Cache
variable {Key : Type u} {Value : Type v} {holds : Key → Value → Prop} {cache : Cache Key Value}

def empty : Cache Key Value := fun _ => none

/-- The entries that `keeps` picks out remain. -/
def retain (cache : Cache Key Value) (keeps : Key → Value → Bool) : Cache Key Value :=
  fun key => (cache key).filter (keeps key)

/-- All that is cached satisfies a predicate. -/
def Every (holds : Key → Value → Prop) (cache : Cache Key Value) : Prop :=
  ∀ key value, cache key = some value → holds key value

theorem Every.empty : (Cache.empty : Cache Key Value).Every holds := nofun

theorem Every.retain (every : cache.Every holds) (keeps : Key → Value → Bool) :
    (cache.retain keeps).Every holds := fun other found present =>
  every other found (Option.mem_filter_iff.mp present).1

variable [DecidableEq Key] {key : Key} {value : Value}

def insert (cache : Cache Key Value) (key : Key) (value : Value) : Cache Key Value :=
  Function.update cache key (some value)

/-- The entry of the key that is `fresh`; without one the value that is made enters the cache. -/
def fetch (cache : Cache Key Value) (key : Key) (fresh : Value → Bool) (made : Value) :
    Value × Cache Key Value :=
  match (cache key).filter fresh with
  | some found => (found, cache)
  | none => (made, cache.insert key made)

theorem Every.insert (every : cache.Every holds) (fits : holds key value) :
    (cache.insert key value).Every holds := by
  intro other found present
  by_cases same : other = key
  · subst same
    rw [Cache.insert, Function.update_self] at present
    exact Option.some.inj present ▸ fits
  · rw [Cache.insert, Function.update_of_ne same] at present
    exact every other found present

theorem Every.fetch (every : cache.Every holds) (fresh : Value → Bool) (fits : holds key value) :
    holds key (cache.fetch key fresh value).1 ∧ (cache.fetch key fresh value).2.Every holds := by
  unfold Cache.fetch
  split
  case h_1 found present => exact ⟨every key found (Option.mem_filter_iff.mp present).1, every⟩
  case h_2 => exact ⟨fits, every.insert fits⟩

end Cache

end Foundation

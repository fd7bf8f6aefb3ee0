import TokenPersistence.Memory.ByteCache
import TokenPersistence.Rehearsal.LeastRecent

/-!
# Cache drills

Steps on one byte cache while its uptime goes on. A drill settles the cache after every
step.
-/

namespace TokenPersistence.Rehearsal

set_option autoImplicit false

inductive CacheStep where
  | insert (key : String) (bytes : Bytes) (lifetime : Option Duration)
  | get (key : String)
  | remove (key : String)
  | clear
  | stats
  | settle
  | sleep (nanos : Nat)

inductive CacheAnswer where
  | nothing
  | blob (bytes : Option Bytes)
  | stats (entries weight : Nat)
  deriving DecidableEq, Repr

namespace CacheStep

variable (policy : EvictionPolicy)

def perform (uptime : Nat) (cache : ByteCache) : CacheStep → CacheAnswer × Nat × ByteCache
  | insert key bytes lifetime =>
      (.nothing, uptime, cache.insert policy uptime key bytes lifetime)
  | get key =>
      let found := cache.lookup policy uptime key
      (.blob found.1, uptime, found.2)
  | remove key => (.nothing, uptime, cache.erase policy uptime key)
  | clear => (.nothing, uptime, cache.clear policy uptime)
  | stats =>
      let census := cache.census policy
      (.stats census.entries census.weight, uptime, cache)
  | settle => (.nothing, uptime, cache.settle policy uptime)
  | sleep nanos => (.nothing, uptime + nanos, cache)

def performAll : List CacheStep → Nat → ByteCache → List CacheAnswer
  | [], _, _ => []
  | step :: steps, uptime, cache =>
      let performed := step.perform policy uptime cache
      performed.1 :: performAll steps performed.2.1 performed.2.2

def drill : List CacheStep → Nat → ByteCache → List CacheAnswer
  | [], _, _ => []
  | step :: steps, uptime, cache =>
      let performed := step.perform policy uptime cache
      performed.1 :: drill steps performed.2.1 (performed.2.2.settle policy performed.2.1)

end CacheStep

def drillCache (limit : Option Nat) (steps : List CacheStep) : List CacheAnswer :=
  CacheStep.drill leastRecent steps 0 (ByteCache.empty limit)

end TokenPersistence.Rehearsal

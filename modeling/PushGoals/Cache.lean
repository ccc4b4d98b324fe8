import PushGoals.Push.Basic

/-!
# The push test cache

Results of push tests by push and test name, at most `capacity` of them.  The
entries stand in the order of their last use, the least recently used first;
that one makes room.
-/

namespace PushGoals

structure CacheKey where
  push : PushId
  test : String
deriving DecidableEq, Repr, Inhabited

structure PushTestCache where
  capacity : Nat
  /-- Least recently used first. -/
  entries : List (CacheKey × Bool)
deriving Repr, Inhabited

namespace PushTestCache

/-- The capacity of a cache of which nothing is said. -/
def defaultCapacity : Nat := 1000

/-- An empty cache; there is always room for one entry. -/
def ofCapacity (capacity : Nat) : PushTestCache := ⟨max capacity 1, []⟩

def size (cache : PushTestCache) : Nat := cache.entries.length

def isEmpty (cache : PushTestCache) : Bool := cache.entries.isEmpty

def without (key : CacheKey) (entries : List (CacheKey × Bool)) : List (CacheKey × Bool) :=
  entries.filter (·.1 != key)

def peek? (cache : PushTestCache) (key : CacheKey) : Option Bool := cache.entries.lookup key

/-- Look a result up; a hit becomes the most recently used entry. -/
def get (cache : PushTestCache) (key : CacheKey) : Option Bool × PushTestCache :=
  match cache.peek? key with
  | some v => (some v, { cache with entries := without key cache.entries ++ [(key, v)] })
  | none => (none, cache)

/-- Store a result as the most recently used entry and drop the least recently
used ones beyond the capacity. -/
def insert (cache : PushTestCache) (key : CacheKey) (v : Bool) : PushTestCache :=
  let entries := without key cache.entries ++ [(key, v)]
  { cache with entries := entries.drop (entries.length - cache.capacity) }

def clear (cache : PushTestCache) : PushTestCache := { cache with entries := [] }

@[simp] theorem peek?_clear (cache : PushTestCache) (key : CacheKey) :
    cache.clear.peek? key = none := rfl

end PushTestCache

/-- Which cache a memoized test uses. -/
inductive CacheRef where
  | shared
  | named (name : String)
deriving DecidableEq, Repr, Inhabited

/-- The shared cache and further ones by name. -/
structure Caches where
  shared : PushTestCache := .ofCapacity PushTestCache.defaultCapacity
  named : List (String × PushTestCache) := []
deriving Inhabited

namespace Caches

/-- The cache that `ref` stands for; a name not heard of before stands for an
empty one. -/
def get (caches : Caches) : CacheRef → PushTestCache
  | .shared => caches.shared
  | .named name => (caches.named.lookup name).getD (.ofCapacity PushTestCache.defaultCapacity)

def set (caches : Caches) (ref : CacheRef) (cache : PushTestCache) : Caches :=
  match ref with
  | .shared => { caches with shared := cache }
  | .named name => { caches with named := (name, cache) :: caches.named.filter (·.1 != name) }

end Caches

end PushGoals

import WebAccess.Duration
import WebAccess.Session

/-!
# The cache of outcomes

Outcomes are remembered per resource and agent, for a limited time and in limited number. An entry
older than the time to live is never handed out; where room is needed, expired entries go first
and then the entry that was not touched for longest. The entries stand in the order of their last
touch, which is the last insertion or hit, while the age of an entry counts from its insertion
only.
-/

set_option autoImplicit false

namespace WebAccess

/-- The limits of a cache. -/
structure CacheLimits where
  /-- The number of entries it may hold. -/
  maxEntries : Nat
  /-- How long an entry is handed out. -/
  timeToLive : Duration
deriving DecidableEq, Repr

namespace CacheLimits

/-- The limits where nothing is said. -/
def default : CacheLimits := ⟨1000, Duration.ofSeconds 600⟩

/-- The limits in production. -/
def production : CacheLimits := ⟨50000, Duration.ofSeconds 60⟩

/-- The limits in development. -/
def development : CacheLimits := ⟨1000, Duration.ofSeconds 5⟩

/-- The limits under which nothing is kept. -/
def disabled : CacheLimits := ⟨0, 0⟩

/-- True if nothing can be kept under the limits. -/
def isDisabled (l : CacheLimits) : Bool :=
  l.maxEntries == 0 || l.timeToLive == 0

end CacheLimits

/-- What an outcome is remembered under. -/
structure CacheKey where
  /-- The resource. -/
  identifier : Identifier
  /-- The agent. -/
  agent : String
deriving DecidableEq, Repr

/-- The key as one text. The length of the identifier stands in front, so that a separator inside
the identifier or the agent cannot be taken for the one between them. -/
def CacheKey.render (k : CacheKey) : String :=
  toString k.identifier.utf8ByteSize ++ ":" ++ k.identifier ++ "||" ++ k.agent

/-- A remembered outcome. -/
structure CacheEntry where
  /-- What it is remembered under. -/
  key : CacheKey
  /-- The outcome. -/
  outcome : Outcome
  /-- When it was inserted. -/
  created : Nat
deriving DecidableEq, Repr

/-- What a cache has counted, and its size. -/
structure CacheStats where
  /-- The number of look-ups that found an outcome. -/
  hits : Nat
  /-- The number of look-ups that did not. -/
  misses : Nat
  /-- The number of entries. -/
  size : Nat
  /-- The number of entries dropped for age or for room. -/
  evictions : Nat
deriving DecidableEq, Repr

/-- A cache of outcomes. -/
structure Cache where
  /-- The limits. -/
  limits : CacheLimits
  /-- The entries, least recently touched first. -/
  entries : List CacheEntry
  /-- The number of look-ups that found an outcome. -/
  hits : Nat
  /-- The number of look-ups that did not. -/
  misses : Nat
  /-- The number of entries dropped for age or for room. -/
  evictions : Nat
deriving DecidableEq, Repr

/-- True if at the time `now` an entry is older than the time to live. -/
def CacheEntry.isExpired (limits : CacheLimits) (now : Nat) (e : CacheEntry) : Bool :=
  e.created + limits.timeToLive < now

namespace Cache

/-- The cache without entries. -/
def empty (limits : CacheLimits) : Cache := ⟨limits, [], 0, 0, 0⟩

/-- The entry under a key, expired or not. -/
def entry? (c : Cache) (key : CacheKey) : Option CacheEntry :=
  c.entries.find? fun e => e.key = key

/-- The entries under other keys. -/
def others (c : Cache) (key : CacheKey) : List CacheEntry :=
  c.entries.filter fun e => e.key ≠ key

/-- Looks up an outcome. A hit becomes the entry touched last; an expired entry is dropped. -/
def get (c : Cache) (now : Nat) (key : CacheKey) : Option Outcome × Cache :=
  if c.limits.isDisabled then (none, { c with misses := c.misses + 1 })
  else
    match c.entry? key with
    | none => (none, { c with misses := c.misses + 1 })
    | some e =>
      if e.isExpired c.limits now then
        (none, { c with
          entries := c.others key, misses := c.misses + 1, evictions := c.evictions + 1 })
      else (some e.outcome, { c with entries := c.others key ++ [e], hits := c.hits + 1 })

/-- The entries that stay when there must be room for one more: where the list is full, those that
are not expired, and of these the ones touched last. -/
def makeRoom (limits : CacheLimits) (now : Nat) (entries : List CacheEntry) : List CacheEntry :=
  if entries.length < limits.maxEntries then entries
  else
    let fresh := entries.filter fun e => !e.isExpired limits now
    fresh.drop (fresh.length + 1 - limits.maxEntries)

/-- Remembers an outcome, in place of the one under the same key. -/
def insert (c : Cache) (now : Nat) (key : CacheKey) (outcome : Outcome) : Cache :=
  if c.limits.isDisabled then c
  else
    let rest := c.others key
    let kept := makeRoom c.limits now rest
    { c with
      entries := kept ++ [⟨key, outcome, now⟩]
      evictions := c.evictions + (rest.length - kept.length) }

/-- Drops the outcomes of one resource. -/
def invalidate (c : Cache) (id : Identifier) : Cache :=
  { c with entries := c.entries.filter fun e => e.key.identifier ≠ id }

/-- Drops all outcomes. -/
def clear (c : Cache) : Cache :=
  { c with entries := [] }

/-- What the cache has counted, and its size. -/
def stats (c : Cache) : CacheStats :=
  ⟨c.hits, c.misses, c.entries.length, c.evictions⟩

/-- The entries besides that of a key are those kept under another key. -/
theorem mem_others {c : Cache} {key : CacheKey} {e : CacheEntry} :
    e ∈ c.others key ↔ e ∈ c.entries ∧ e.key ≠ key := by
  simp [others]

/-- An entry that is found under a key is one of the entries and is kept under this key. -/
theorem entry?_eq_some {c : Cache} {key : CacheKey} {e : CacheEntry} (h : c.entry? key = some e) :
    e ∈ c.entries ∧ e.key = key :=
  ⟨List.mem_of_find?_eq_some h, by simpa using List.find?_some h⟩

/-- Making room adds no entry and keeps the order of those that stay. -/
theorem makeRoom_sublist (limits : CacheLimits) (now : Nat) (entries : List CacheEntry) :
    (makeRoom limits now entries).Sublist entries := by
  unfold makeRoom
  split
  · exact List.Sublist.refl _
  · exact (List.drop_sublist _ _).trans List.filter_sublist

/-- Where room has been made there is place for one more entry. -/
theorem length_makeRoom_lt {limits : CacheLimits} (now : Nat) (entries : List CacheEntry)
    (h : limits.maxEntries ≠ 0) : (makeRoom limits now entries).length < limits.maxEntries := by
  unfold makeRoom
  split
  · assumption
  · rw [List.length_drop]
    omega

end Cache

end WebAccess

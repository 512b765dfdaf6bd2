import Framehop.UnwindRule

/-!
# The rule cache

`RuleCache` from `rule_cache.rs`: a direct-mapped table of 509 slots indexed by
`address % 509`, each holding `(address, modules_generation, rule)`. `lookup` hits only when
both the address and the generation match; a miss hands out a `CacheHandle` and `insert`
overwrites the handle's slot unconditionally.

Two caches that hold the same entries under one generation (`AgreeAt`) answer every lookup under
it alike, whatever they hold under other generations.
-/

namespace Framehop

/-- `(address % 509) as u16`: the slot of an address. -/
def slotOf (address : UInt64) : Fin 509 :=
  ⟨address.toNat % 509, Nat.mod_lt _ (by decide)⟩

structure CacheEntry (R : Type) where
  address : UInt64
  modulesGeneration : UInt16
  unwindRule : R
  deriving DecidableEq, Repr

structure CacheStats where
  hitCount : UInt64
  missEmptySlotCount : UInt64
  missWrongModulesCount : UInt64
  missWrongAddressCount : UInt64
  deriving DecidableEq, Repr

def CacheStats.new : CacheStats := ⟨0, 0, 0, 0⟩

/-- The number of total hits. -/
def CacheStats.hits (self : CacheStats) : UInt64 := self.hitCount

/-- The number of total misses. -/
def CacheStats.misses (self : CacheStats) : UInt64 :=
  self.missEmptySlotCount + self.missWrongModulesCount + self.missWrongAddressCount

/-- The number of total lookups. -/
def CacheStats.total (self : CacheStats) : UInt64 := self.hits + self.misses

structure CacheHandle where
  slot : Fin 509
  address : UInt64
  modulesGeneration : UInt16
  deriving DecidableEq, Repr

inductive CacheResult (R : Type) where
  | miss (handle : CacheHandle)
  | hit (rule : R)
  deriving DecidableEq, Repr

structure RuleCache (R : Type) where
  entries : Fin 509 → Option (CacheEntry R)
  stats : CacheStats

namespace RuleCache

variable {R : Type}

def new : RuleCache R := ⟨fun _ => none, CacheStats.new⟩

def lookup (self : RuleCache R) (address : UInt64) (modulesGeneration : UInt16) :
    CacheResult R × RuleCache R :=
  let slot := slotOf address
  let stats := self.stats
  let handle : CacheHandle := ⟨slot, address, modulesGeneration⟩
  match self.entries slot with
  | none => (.miss handle, { self with stats := { stats with
      missEmptySlotCount := stats.missEmptySlotCount + 1 } })
  | some entry =>
    if entry.modulesGeneration = modulesGeneration then
      if entry.address = address then
        (.hit entry.unwindRule, { self with stats := { stats with hitCount := stats.hitCount + 1 } })
      else (.miss handle, { self with stats := { stats with
        missWrongAddressCount := stats.missWrongAddressCount + 1 } })
    else (.miss handle, { self with stats := { stats with
      missWrongModulesCount := stats.missWrongModulesCount + 1 } })

def insert (self : RuleCache R) (handle : CacheHandle) (unwindRule : R) : RuleCache R :=
  let entry : CacheEntry R := ⟨handle.address, handle.modulesGeneration, unwindRule⟩
  { self with entries := Function.update self.entries handle.slot (some entry) }

variable {c : RuleCache R} {address : UInt64} {generation : UInt16}

/-- A lookup changes only the statistics. -/
@[simp] theorem lookup_entries : (c.lookup address generation).2.entries = c.entries := by
  dsimp only [lookup]; split <;> (try split) <;> (try split) <;> rfl

/-- A lookup hits exactly when the slot holds this address under this generation. -/
theorem lookup_eq_hit {rule : R} :
    (c.lookup address generation).1 = .hit rule ↔
      c.entries (slotOf address) = some ⟨address, generation, rule⟩ := by
  dsimp only [lookup]
  split
  · simp_all
  · rename_i entry h
    rw [h]
    obtain ⟨a, g, r⟩ := entry
    by_cases hg : g = generation
    · by_cases ha : a = address
      · subst hg ha; simp
      · simp [hg, ha]
    · simp [hg]

/-- A miss hands out the handle of this address and generation. -/
theorem lookup_eq_miss {handle : CacheHandle} (h : (c.lookup address generation).1 = .miss handle) :
    handle = ⟨slotOf address, address, generation⟩ := by
  revert h
  dsimp only [lookup]
  split <;> (try split) <;> (try split) <;> simp_all [eq_comm]

theorem lookup_cases (c : RuleCache R) (address : UInt64) (generation : UInt16) :
    (∃ rule, (c.lookup address generation).1 = .hit rule) ∨
      (c.lookup address generation).1 = .miss ⟨slotOf address, address, generation⟩ := by
  cases h : (c.lookup address generation).1 with
  | hit rule => exact .inl ⟨rule, rfl⟩
  | miss handle => exact .inr (congrArg _ (lookup_eq_miss h))

/-- Every lookup counts once in the statistics: as a hit when it hits, as a miss otherwise. -/
theorem lookup_stats (c : RuleCache R) (address : UInt64) (generation : UInt16) :
    (c.lookup address generation).2.stats.total = c.stats.total + 1 ∧
    ((∃ rule, (c.lookup address generation).1 = .hit rule) →
      (c.lookup address generation).2.stats.hits = c.stats.hits + 1) ∧
    (∀ handle, (c.lookup address generation).1 = .miss handle →
      (c.lookup address generation).2.stats.hits = c.stats.hits) := by
  dsimp only [lookup]
  split <;> (try split) <;> (try split) <;>
    simp [CacheStats.total, CacheStats.hits, CacheStats.misses, add_assoc, add_comm, add_left_comm]

@[simp] theorem insert_stats {handle : CacheHandle} {rule : R} :
    (c.insert handle rule).stats = c.stats := rfl

@[simp] theorem insert_entries {handle : CacheHandle} {rule : R} :
    (c.insert handle rule).entries = Function.update c.entries handle.slot
      (some ⟨handle.address, handle.modulesGeneration, rule⟩) := rfl

/-- A lookup right after an insert through the handle of the same address and generation hits
the inserted rule. -/
theorem lookup_insert_self (rule : R) :
    ((c.insert ⟨slotOf address, address, generation⟩ rule).lookup address generation).1 =
      .hit rule := by
  simp [lookup_eq_hit]

theorem new_lookup : ((new : RuleCache R).lookup address generation).1 =
    .miss ⟨slotOf address, address, generation⟩ := rfl

/-- Every rule the cache holds under `generation` satisfies `P`. -/
def RulesUnder (generation : UInt16) (P : R → Prop) (c : RuleCache R) : Prop :=
  ∀ s e, c.entries s = some e → e.modulesGeneration = generation → P e.unwindRule

theorem RulesUnder.hit {P : R → Prop} {rule : R} (h : c.RulesUnder generation P)
    (hhit : (c.lookup address generation).1 = .hit rule) : P rule :=
  h _ _ (lookup_eq_hit.mp hhit) rfl

theorem RulesUnder.lookup {P : R → Prop} {generation' : UInt16} (h : c.RulesUnder generation P) :
    (c.lookup address generation').2.RulesUnder generation P := by
  simpa [RulesUnder] using h

theorem RulesUnder.insert {P : R → Prop} {handle : CacheHandle} {rule : R}
    (h : c.RulesUnder generation P) (hr : P rule) : (c.insert handle rule).RulesUnder generation P := by
  intro s e he hg
  rw [insert_entries, Function.update_apply] at he
  split at he
  · cases he; exact hr
  · exact h s e he hg

/-- Two caches hold the same entries under `modulesGeneration`; entries under other generations
may differ. -/
def AgreeAt (modulesGeneration : UInt16) (c c' : RuleCache R) : Prop :=
  ∀ s e, e.modulesGeneration = modulesGeneration → (c.entries s = some e ↔ c'.entries s = some e)

/-- Lookups under the generation two caches agree at give the same answer. -/
theorem AgreeAt.lookup_eq {c' : RuleCache R} (h : c.AgreeAt generation c') (address : UInt64) :
    (c.lookup address generation).1 = (c'.lookup address generation).1 := by
  have hit : ∀ rule, (c.lookup address generation).1 = .hit rule ↔
      (c'.lookup address generation).1 = .hit rule := fun rule => by
    simp only [lookup_eq_hit]
    exact h _ _ rfl
  rcases lookup_cases c' address generation with ⟨rule, hr⟩ | hm'
  · rw [hr, (hit rule).2 hr]
  · rcases lookup_cases c address generation with ⟨rule, hr⟩ | hm
    · rw [(hit rule).1 hr] at hm'
      cases hm'
    · rw [hm, hm']

theorem AgreeAt.lookup {c' : RuleCache R} (h : c.AgreeAt generation c') (generation' : UInt16)
    (address address' : UInt64) :
    (c.lookup address generation').2.AgreeAt generation (c'.lookup address' generation').2 := by
  simpa only [AgreeAt, lookup_entries] using h

theorem AgreeAt.insert {c' : RuleCache R} (h : c.AgreeAt generation c') (handle : CacheHandle)
    (rule : R) : (c.insert handle rule).AgreeAt generation (c'.insert handle rule) := by
  intro s e he
  simp only [insert_entries, Function.update_apply]
  split
  · rfl
  · exact h s e he

/-- A cache whose entries all carry other generations agrees with a fresh one. -/
theorem agreeAt_new_of_stale (h : ∀ s e, c.entries s = some e → e.modulesGeneration ≠ generation) :
    c.AgreeAt generation new :=
  fun s e he => ⟨fun hs => absurd he (h s e hs), fun hs => nomatch hs⟩

end RuleCache

end Framehop

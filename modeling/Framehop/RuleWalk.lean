import Framehop.Iterator

/-!
# Walks along a chain of rules

A walk is as good as the rules it runs. Say the unwinder's miss path gives, at every frame of a
walk, the rule that a map `ruleAt` names for the frame's lookup address, and that rule, run on
the frame's registers, yields the caller's return address and registers. Say also that the cache
holds no other rule for those lookup addresses under the unwinder's generation. Then the
iterator yields the instruction pointer, then exactly the chain's return addresses, then
`Ok(None)` (`walk_yields_rule_chain`).

The cache cannot break this: a call caches only the rule `ruleAt` names, so every address at
which the cache held only `ruleAt`'s rule keeps that property. A function the chain passes
through twice hits its own rule again.
-/

namespace Framehop

/-- Under generation `g` the cache holds no rule for the address `a` but `ruleAt a`. -/
def RuleCache.HoldsRuleAt (ruleAt : UInt64 → UnwindRuleX86_64) (c : RuleCache UnwindRuleX86_64)
    (g : UInt16) (a : UInt64) : Prop :=
  ∀ r, c.entries (slotOf a) = some ⟨a, g, r⟩ → r = ruleAt a

namespace RuleCache

variable {ruleAt : UInt64 → UnwindRuleX86_64} {c : RuleCache UnwindRuleX86_64} {g : UInt16}
  {a : UInt64}

theorem HoldsRuleAt.lookup {g' : UInt16} {a' : UInt64} (h : c.HoldsRuleAt ruleAt g a) :
    (c.lookup a' g').2.HoldsRuleAt ruleAt g a := by
  simpa [HoldsRuleAt] using h

/-- Caching the rule `ruleAt` names for an address keeps every address's `HoldsRuleAt`. -/
theorem HoldsRuleAt.insert (h : c.HoldsRuleAt ruleAt g a) (b : UInt64) (g' : UInt16) :
    (c.insert ⟨slotOf b, b, g'⟩ (ruleAt b)).HoldsRuleAt ruleAt g a := by
  intro r hr
  rw [insert_entries, Function.update_apply] at hr
  split at hr
  · obtain ⟨rfl, -, rfl⟩ := CacheEntry.mk.inj (Option.some.inj hr)
    rfl
  · exact h r hr

end RuleCache

/-- The frames of a walk as the unwinder sees them. At the frame at `address` with registers
`regs` the miss path gives `ruleAt`'s rule for the lookup address; the rule yields the next
return address and the caller's registers, frame after frame, listed by the return addresses
from the innermost frame out, until it yields `Ok(None)`. -/
inductive RuleChain (u : UnwinderInternal) (callback : Callback)
    (readStack : UInt64 → Option UInt64) (ruleAt : UInt64 → UnwindRuleX86_64) :
    FrameAddress → UnwindRegsX86_64 → List {a : UInt64 // a ≠ 0} → Prop
  | stop {address : FrameAddress} {regs : UnwindRegsX86_64}
      (hmiss : u.missRule address regs readStack callback =
        (.execRule (ruleAt address.addressForLookup), regs))
      (hexec : ((ruleAt address.addressForLookup).exec regs readStack).1 = .ok none) :
      RuleChain u callback readStack ruleAt address regs []
  | link {address : FrameAddress} {regs regs' : UnwindRegsX86_64} {ra : {a : UInt64 // a ≠ 0}}
      {ras : List {a : UInt64 // a ≠ 0}}
      (hmiss : u.missRule address regs readStack callback =
        (.execRule (ruleAt address.addressForLookup), regs))
      (hexec : (ruleAt address.addressForLookup).exec regs readStack = (.ok (some ra.val), regs')) :
      RuleChain u callback readStack ruleAt (.returnAddress ra) regs' ras →
      RuleChain u callback readStack ruleAt address regs (ra :: ras)

namespace UnwinderInternal

variable {self : UnwinderInternal} {address : FrameAddress} {regs : UnwindRegsX86_64}
  {cache : RuleCache UnwindRuleX86_64} {readStack : UInt64 → Option UInt64} {callback : Callback}
  {ruleAt : UInt64 → UnwindRuleX86_64}

/-- A call whose miss path gives `ruleAt`'s rule, on a cache that holds no other rule for the
frame's lookup address, runs that rule, and keeps `HoldsRuleAt` wherever it held. -/
theorem withCache_holdsRuleAt
    (hmiss : self.missRule address regs readStack callback =
      (.execRule (ruleAt address.addressForLookup), regs))
    (hc : cache.HoldsRuleAt ruleAt self.modulesGeneration address.addressForLookup) :
    (self.withCache address regs cache readStack callback).1 =
        ((ruleAt address.addressForLookup).exec regs readStack).1 ∧
      (self.withCache address regs cache readStack callback).2.1 =
        ((ruleAt address.addressForLookup).exec regs readStack).2 ∧
      ∀ a, cache.HoldsRuleAt ruleAt self.modulesGeneration a →
        (self.withCache address regs cache readStack callback).2.2.HoldsRuleAt ruleAt
          self.modulesGeneration a := by
  rcases RuleCache.lookup_cases cache address.addressForLookup self.modulesGeneration
    with ⟨r, h⟩ | h
  · obtain rfl := hc r (RuleCache.lookup_eq_hit.mp h)
    rw [withCache_of_hit h]
    exact ⟨rfl, rfl, fun _ ha => ha.lookup⟩
  · rw [withCache_of_miss_rule h hmiss]
    exact ⟨rfl, rfl, fun _ ha => ha.lookup.insert _ _⟩

end UnwinderInternal

namespace UnwindIterator

variable (u : UnwinderInternal) (callback : Callback) (readStack : UInt64 → Option UInt64)
  (ruleAt : UInt64 → UnwindRuleX86_64)

/-- The lookup addresses of a walk from `pc` through the return addresses `ras`. -/
def lookupAddresses (pc : UInt64) (ras : List {a : UInt64 // a ≠ 0}) : List UInt64 :=
  pc :: ras.map fun ra => ra.val - 1

/-- The run lemma: unwinding from the first frame of a chain, every call yields the chain's next
return address, and the call after the last one ends the walk. -/
theorem run_ruleChain {address : FrameAddress} {regs : UnwindRegsX86_64}
    {ras : List {a : UInt64 // a ≠ 0}} (hchain : RuleChain u callback readStack ruleAt address regs ras) :
    ∀ cache : RuleCache UnwindRuleX86_64,
      (∀ a ∈ address.addressForLookup :: ras.map (fun ra => ra.val - 1),
        cache.HoldsRuleAt ruleAt u.modulesGeneration a) →
      (run (u.withCache · · · readStack callback) (ras.length + 1)
        ⟨.unwinding address, regs, cache⟩).1 =
        ras.map (fun ra => .ok (some (.returnAddress ra))) ++ [.ok none] := by
  induction hchain with
  | @stop address regs hmiss hexec =>
    intro cache hc
    obtain ⟨hres, -, -⟩ := UnwinderInternal.withCache_holdsRuleAt hmiss
      (hc _ (List.mem_cons_self _ _))
    rw [hexec] at hres
    have hw : u.withCache address regs cache readStack callback = (.ok none,
        (u.withCache address regs cache readStack callback).2.1,
        (u.withCache address regs cache readStack callback).2.2) := Prod.ext hres rfl
    simp [next_unwinding_root (u.withCache · · · readStack callback) hw]
  | @link address regs regs' ra ras hmiss hexec _ ih =>
    intro cache hc
    obtain ⟨hres, hregs, hkeep⟩ := UnwinderInternal.withCache_holdsRuleAt hmiss
      (hc _ (List.mem_cons_self _ _))
    rw [hexec] at hres hregs
    have hw : u.withCache address regs cache readStack callback =
        (.ok (some ra.val), regs', (u.withCache address regs cache readStack callback).2.2) :=
      Prod.ext hres (Prod.ext hregs rfl)
    rw [List.length_cons, run_succ,
      next_unwinding_return (u.withCache · · · readStack callback) ra.2 hw]
    simpa using ih _ fun a ha => hkeep a (hc a (List.mem_cons_of_mem _ ha))

/-- When the unwinder's rule at every frame of a walk yields the caller, and the cache holds no
other rule for the walk's lookup addresses, the walk yields the instruction pointer, then exactly
the chain's return addresses from the innermost frame out, then `Ok(None)`. -/
theorem walk_yields_rule_chain (pc : UInt64) (regs : UnwindRegsX86_64)
    (cache : RuleCache UnwindRuleX86_64) (ras : List {a : UInt64 // a ≠ 0})
    (hchain : RuleChain u callback readStack ruleAt (.instructionPointer pc) regs ras)
    (hc : ∀ a ∈ lookupAddresses pc ras, cache.HoldsRuleAt ruleAt u.modulesGeneration a) :
    (run (u.withCache · · · readStack callback) (ras.length + 2) (new pc regs cache)).1 =
      .ok (some (.instructionPointer pc)) ::
        (ras.map fun ra => .ok (some (.returnAddress ra))) ++ [.ok none] := by
  rw [show ras.length + 2 = ras.length + 1 + 1 from rfl, run_succ]
  simp only [new, next_initial]
  exact congrArg _ (run_ruleChain u callback readStack ruleAt hchain cache hc)

/-- `OffsetSp { 2 }` inside `cuiModule`, the fallback rule outside it. -/
def framelessRuleAt (a : UInt64) : UnwindRuleX86_64 :=
  if 0x1000 ≤ a ∧ a < 0x2000 then .offsetSp 2 else .useFramePointer

/-- Two frameless frames in `cuiModule` under a frame outside it whose `bp = 0x130` holds `0`
with a zero return address above it. -/
def framelessStack (address : UInt64) : Option UInt64 :=
  if address = 0x108 then some 0x1a01 else if address = 0x118 then some 0x3001
  else if address = 0x130 ∨ address = 0x138 then some 0 else none

def framelessReturns : List {a : UInt64 // a ≠ 0} := [⟨0x1a01, by decide⟩, ⟨0x3001, by decide⟩]

theorem frameless_frames_walk_yields_chain :
    RuleChain cuiRegistry framelessCallback framelessStack framelessRuleAt
        (.instructionPointer 0x1800) ⟨0x1800, 0x100, 0x130⟩ framelessReturns ∧
      (∀ a ∈ lookupAddresses 0x1800 framelessReturns,
        RuleCache.new.HoldsRuleAt framelessRuleAt cuiRegistry.modulesGeneration a) ∧
      (run (cuiRegistry.withCache · · · framelessStack framelessCallback)
          (framelessReturns.length + 2) (new 0x1800 ⟨0x1800, 0x100, 0x130⟩ RuleCache.new)).1 =
        .ok (some (.instructionPointer 0x1800)) ::
          (framelessReturns.map fun ra => .ok (some (.returnAddress ra))) ++ [.ok none] :=
  have hchain : RuleChain cuiRegistry framelessCallback framelessStack framelessRuleAt
      (.instructionPointer 0x1800) ⟨0x1800, 0x100, 0x130⟩ framelessReturns :=
    .link rfl rfl (.link rfl rfl (.stop rfl rfl))
  have hc : ∀ a ∈ lookupAddresses 0x1800 framelessReturns,
      RuleCache.new.HoldsRuleAt framelessRuleAt cuiRegistry.modulesGeneration a :=
    fun _ _ _ h => nomatch h
  ⟨hchain, hc, walk_yields_rule_chain cuiRegistry framelessCallback framelessStack framelessRuleAt
    0x1800 _ RuleCache.new framelessReturns hchain hc⟩

end UnwindIterator

end Framehop

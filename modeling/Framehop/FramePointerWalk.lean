import Framehop.Iterator

/-!
# Frame-pointer walks

Code that no module's unwind information covers is unwound by the fallback rule
`UseFramePointer`: the caller's `bp` is saved at `bp`, the return address sits above it, and
the caller's `sp` is `bp + 16`. The same holds in a module whose unwind data is
`ModuleUnwindDataInternal::None`, where `unwind_frame_impl` answers `NoModuleUnwindData` and
the dispatcher falls back. Code compiled with frame pointers leaves a chain of such frames on
the stack, from the innermost frame out to a zero `bp`.

`FramePointerChain` describes that chain by the return addresses it holds. On every stack
that holds such a chain, from every cache that holds no other rule for the walk's lookup
addresses, the iterator yields the instruction pointer, then exactly the chain's return
addresses from the innermost out, then `Ok(None)` (`frame_pointer_walk_yields_chain`). The
proof goes one frame at a time (`useFramePointer_exec_link`) and then by induction on the chain.
A chain that breaks at a frame, where the frame-pointer rule fails, is walked up to the break,
whose error then repeats on every later call.
-/

namespace Framehop

open UnwindRuleX86_64

/-- The frame-pointer chain a walk from `sp` and `bp` follows, listed by its return addresses
from the innermost frame out. A nonzero `bp` above `sp - 16` holds the caller's `bp`, with the
return address above it, and the caller's `sp` is `bp + 16`; a zero `bp` ends the chain. -/
inductive FramePointerChain (readStack : UInt64 → Option UInt64) :
    UInt64 → UInt64 → List {a : UInt64 // a ≠ 0} → Prop
  | root (sp : UInt64) : FramePointerChain readStack sp 0 []
  | link {sp bp callerBp : UInt64} {ra : {a : UInt64 // a ≠ 0}} {ras : List {a : UInt64 // a ≠ 0}}
      (hbp : bp ≠ 0) (hfit : bp.toNat + 16 < 2 ^ 64) (hup : sp.toNat < bp.toNat + 16)
      (hsaved : readStack bp = some callerBp) (hra : readStack (bp + 8) = some ra.val) :
      FramePointerChain readStack (bp + 16) callerBp ras →
      FramePointerChain readStack sp bp (ra :: ras)

/-- The links of a chain from `sp` and `bp` up to the frame `sp'`, `bp'`, listed by their return
addresses from the innermost frame out. -/
inductive ChainPrefix (readStack : UInt64 → Option UInt64) :
    UInt64 → UInt64 → List {a : UInt64 // a ≠ 0} → UInt64 → UInt64 → Prop
  | stop (sp bp : UInt64) : ChainPrefix readStack sp bp [] sp bp
  | link {sp bp callerBp sp' bp' : UInt64} {ra : {a : UInt64 // a ≠ 0}}
      {ras : List {a : UInt64 // a ≠ 0}}
      (hbp : bp ≠ 0) (hfit : bp.toNat + 16 < 2 ^ 64) (hup : sp.toNat < bp.toNat + 16)
      (hsaved : readStack bp = some callerBp) (hra : readStack (bp + 8) = some ra.val) :
      ChainPrefix readStack (bp + 16) callerBp ras sp' bp' →
      ChainPrefix readStack sp bp (ra :: ras) sp' bp'

/-- At a link of the chain `UseFramePointer` returns the link's return address and moves the
registers to the caller's frame. -/
theorem useFramePointer_exec_link {readStack : UInt64 → Option UInt64} (ip : UInt64)
    {sp bp callerBp ra : UInt64} (hbp : bp ≠ 0) (hfit : bp.toNat + 16 < 2 ^ 64)
    (hup : sp.toNat < bp.toNat + 16) (hsaved : readStack bp = some callerBp)
    (hra : readStack (bp + 8) = some ra) (h0 : ra ≠ 0) :
    useFramePointer.exec ⟨ip, sp, bp⟩ readStack = (.ok (some ra), ⟨ra, bp + 16, callerBp⟩) := by
  have h8 : (8 : UInt64).toNat = 8 := rfl
  have h16 : (bp + 16).toNat = bp.toNat + 16 := by
    rw [UInt64.toNat_add, show (16 : UInt64).toNat = 16 from rfl, UInt64.size]; omega
  have hslot : bp + 16 - 8 = bp + 8 := by
    rw [UInt64.ext_iff, UInt64.toNat_sub_of_le _ _ (by rw [UInt64.le_iff_toNat, h16, h8]; omega),
      h16, UInt64.toNat_add, h8, UInt64.size]
    omega
  exact exec_of_newSpAndBp (newSpAndBp_useFramePointer.mpr ⟨hbp, hfit, hup, h16, hsaved⟩)
    (hslot ▸ hra) h0

/-- Under generation `g` the cache holds no rule for the address `a` but the fallback rule. -/
def RuleCache.FallbackAt (c : RuleCache UnwindRuleX86_64) (g : UInt16) (a : UInt64) : Prop :=
  ∀ r, c.entries (slotOf a) = some ⟨a, g, r⟩ → r = fallbackRule

theorem RuleCache.FallbackAt.lookup {c : RuleCache UnwindRuleX86_64} {g g' : UInt16}
    {a a' : UInt64} (h : c.FallbackAt g a) : (c.lookup a' g').2.FallbackAt g a := by
  simpa [RuleCache.FallbackAt] using h

/-- Caching the fallback rule keeps every address's `FallbackAt`. -/
theorem RuleCache.FallbackAt.insert {c : RuleCache UnwindRuleX86_64} {g : UInt16} {a : UInt64}
    (h : c.FallbackAt g a) (handle : CacheHandle) : (c.insert handle fallbackRule).FallbackAt g a := by
  intro r hr
  rw [RuleCache.insert_entries, Function.update_apply] at hr
  split at hr
  · exact (CacheEntry.mk.inj (Option.some.inj hr)).2.2.symm
  · exact h r hr

namespace UnwinderInternal

/-- A miss for `address` takes the fallback rule, whatever the registers and the stack. -/
def FallsBack (self : UnwinderInternal) (callback : Callback) (address : FrameAddress) : Prop :=
  ∀ regs readStack, self.missRule address regs readStack callback = (.execRule fallbackRule, regs)

variable {self : UnwinderInternal} {address : FrameAddress}

/-- No module holds the lookup address. -/
theorem fallsBack_of_findModuleForAddress_none {callback : Callback}
    (h : self.findModuleForAddress address.addressForLookup = none) :
    self.FallsBack callback address := fun regs readStack => by
  simp [missRule, h]

/-- The module holding the lookup address has no unwind data. -/
theorem fallsBack_of_unwindData_none (ext : Externals) {i : Nat} {rel : UInt32}
    (h : self.findModuleForAddress address.addressForLookup = some (i, rel))
    (hnone : self.modules[i]!.unwindData = .none) :
    self.FallsBack (unwindFrameImpl ext) address := fun regs readStack => by
  simp [missRule, h, unwindFrameImpl, hnone]

variable (regs : UnwindRegsX86_64) (readStack : UInt64 → Option UInt64) in
/-- A call for a frame that falls back, on a cache that holds only the fallback rule for it,
runs the fallback rule, and caches nothing but the fallback rule. -/
theorem withCache_fallsBack {callback : Callback} {cache : RuleCache UnwindRuleX86_64}
    (hfb : self.FallsBack callback address)
    (hc : cache.FallbackAt self.modulesGeneration address.addressForLookup) :
    (self.withCache address regs cache readStack callback).1 =
        (fallbackRule.exec regs readStack).1 ∧
      (self.withCache address regs cache readStack callback).2.1 =
        (fallbackRule.exec regs readStack).2 ∧
      ∀ a, cache.FallbackAt self.modulesGeneration a →
        (self.withCache address regs cache readStack callback).2.2.FallbackAt
          self.modulesGeneration a := by
  rcases RuleCache.lookup_cases cache address.addressForLookup self.modulesGeneration
    with ⟨r, h⟩ | h
  · obtain rfl := hc r (RuleCache.lookup_eq_hit.mp h)
    rw [withCache_of_hit h]
    exact ⟨rfl, rfl, fun _ ha => ha.lookup⟩
  · rw [withCache_of_miss_rule h (hfb regs readStack)]
    exact ⟨rfl, rfl, fun _ ha => ha.lookup.insert _⟩

end UnwinderInternal

namespace UnwindIterator

variable (u : UnwinderInternal) (ext : Externals) (readStack : UInt64 → Option UInt64)

/-- The step lemma at a link: from a frame that falls back, `next` yields the link's return
address and moves to the caller's frame, and the cache still holds only the fallback rule
wherever it did. -/
theorem next_link {address : FrameAddress} {ip sp bp callerBp : UInt64}
    {ra : {a : UInt64 // a ≠ 0}} {cache : RuleCache UnwindRuleX86_64} (hbp : bp ≠ 0)
    (hfit : bp.toNat + 16 < 2 ^ 64) (hup : sp.toNat < bp.toNat + 16)
    (hsaved : readStack bp = some callerBp) (hra : readStack (bp + 8) = some ra.val)
    (hfb : u.FallsBack (unwindFrameImpl ext) address)
    (hc : cache.FallbackAt u.modulesGeneration address.addressForLookup) :
    ∃ cache', (⟨.unwinding address, ⟨ip, sp, bp⟩, cache⟩ :
        UnwindIterator UnwindRegsX86_64 (RuleCache UnwindRuleX86_64)).next
          (u.unwindFrame ext · · · readStack) =
        (.ok (some (.returnAddress ra)), ⟨.unwinding (.returnAddress ra), ⟨ra.val, bp + 16, callerBp⟩,
          cache'⟩) ∧
      ∀ a, cache.FallbackAt u.modulesGeneration a → cache'.FallbackAt u.modulesGeneration a := by
  obtain ⟨hres, hregs, hkeep⟩ :=
    UnwinderInternal.withCache_fallsBack ⟨ip, sp, bp⟩ readStack hfb hc
  have hexec := useFramePointer_exec_link ip hbp hfit hup hsaved hra ra.2
  rw [fallbackRule, hexec] at hres hregs
  have hw : u.unwindFrame ext address ⟨ip, sp, bp⟩ cache readStack =
      (.ok (some ra.val), ⟨ra.val, bp + 16, callerBp⟩,
        (u.unwindFrame ext address ⟨ip, sp, bp⟩ cache readStack).2.2) :=
    Prod.ext hres (Prod.ext hregs rfl)
  exact ⟨_, next_unwinding_return (u.unwindFrame ext · · · readStack) ra.2 hw, hkeep⟩

/-- The run lemma: unwinding from a frame at the start of a chain, every call yields the next
return address of the chain, and the call after the last one ends the walk. -/
theorem run_chain {sp bp : UInt64} {ras : List {a : UInt64 // a ≠ 0}}
    (hchain : FramePointerChain readStack sp bp ras) :
    ∀ (address : FrameAddress) (ip : UInt64) (cache : RuleCache UnwindRuleX86_64),
      (u.FallsBack (unwindFrameImpl ext) address ∧
        ∀ ra ∈ ras, u.FallsBack (unwindFrameImpl ext) (.returnAddress ra)) →
      (cache.FallbackAt u.modulesGeneration address.addressForLookup ∧
        ∀ ra ∈ ras, cache.FallbackAt u.modulesGeneration (FrameAddress.returnAddress ra).addressForLookup) →
      (run (u.unwindFrame ext · · · readStack) (ras.length + 1)
        ⟨.unwinding address, ⟨ip, sp, bp⟩, cache⟩).1 =
        ras.map (fun ra => .ok (some (.returnAddress ra))) ++ [.ok none] := by
  induction hchain with
  | root sp =>
    intro address ip cache hfb hc
    obtain ⟨hres, hregs, -⟩ :=
      UnwinderInternal.withCache_fallsBack ⟨ip, sp, 0⟩ readStack hfb.1 hc.1
    have hw : u.unwindFrame ext address ⟨ip, sp, 0⟩ cache readStack =
        (.ok none, ⟨ip, sp, 0⟩, (u.unwindFrame ext address ⟨ip, sp, 0⟩ cache readStack).2.2) :=
      Prod.ext hres (Prod.ext hregs rfl)
    simp [next_unwinding_root (u.unwindFrame ext · · · readStack) hw]
  | @link sp bp callerBp ra ras hbp hfit hup hsaved hra _ ih =>
    intro address ip cache hfb hc
    obtain ⟨cache', hnext, hkeep⟩ := next_link u ext readStack hbp hfit hup hsaved hra hfb.1 hc.1
    rw [List.length_cons, run_succ, hnext]
    simpa using ih (.returnAddress ra) ra.val cache'
      ⟨hfb.2 ra (List.mem_cons_self _ _), fun r hr => hfb.2 r (List.mem_cons_of_mem _ hr)⟩
      ⟨hkeep _ (hc.2 ra (List.mem_cons_self _ _)),
        fun r hr => hkeep _ (hc.2 r (List.mem_cons_of_mem _ hr))⟩

/-- On a stack holding a frame-pointer chain, a walk whose frames all fall back to
`UseFramePointer`, from a cache that holds no other rule for their lookup addresses, yields
the instruction pointer, then exactly the chain's return addresses from the innermost out,
then `Ok(None)`. -/
theorem frame_pointer_walk_yields_chain (pc : UInt64) (regs : UnwindRegsX86_64)
    (cache : RuleCache UnwindRuleX86_64) (ras : List {a : UInt64 // a ≠ 0})
    (hchain : FramePointerChain readStack regs.sp regs.bp ras)
    (hfb : u.FallsBack (unwindFrameImpl ext) (.instructionPointer pc) ∧
      ∀ ra ∈ ras, u.FallsBack (unwindFrameImpl ext) (.returnAddress ra))
    (hc : cache.FallbackAt u.modulesGeneration pc ∧
      ∀ ra ∈ ras, cache.FallbackAt u.modulesGeneration (ra.val - 1)) :
    (run (u.unwindFrame ext · · · readStack) (ras.length + 2) (new pc regs cache)).1 =
      .ok (some (.instructionPointer pc)) ::
        (ras.map fun ra => .ok (some (.returnAddress ra))) ++ [.ok none] := by
  rw [show ras.length + 2 = ras.length + 1 + 1 from rfl, run_succ]
  simp only [new, next_initial]
  exact congrArg _ (run_chain u ext readStack hchain _ regs.ip cache hfb hc)

/-- Two frames: `bp = 0x110` holds the caller's `bp = 0x130` under the return address `0x2001`,
and `0x130` holds `bp = 0` under the return address `0x3001`. -/
def twoFrameStack (address : UInt64) : Option UInt64 :=
  if address = 0x110 then some 0x130 else if address = 0x118 then some 0x2001
  else if address = 0x130 then some 0 else if address = 0x138 then some 0x3001 else none

def twoFrameReturns : List {a : UInt64 // a ≠ 0} := [⟨0x2001, by decide⟩, ⟨0x3001, by decide⟩]

theorem two_frame_walk_without_modules :
    FramePointerChain twoFrameStack (⟨0x1000, 0x100, 0x110⟩ : UnwindRegsX86_64).sp
      (⟨0x1000, 0x100, 0x110⟩ : UnwindRegsX86_64).bp twoFrameReturns ∧
    ((UnwinderInternal.new 0).1.FallsBack (unwindFrameImpl (oneFunctionExternals .null))
        (.instructionPointer 0x1000) ∧
      ∀ ra ∈ twoFrameReturns, (UnwinderInternal.new 0).1.FallsBack
        (unwindFrameImpl (oneFunctionExternals .null)) (.returnAddress ra)) ∧
    ((RuleCache.new : RuleCache UnwindRuleX86_64).FallbackAt
        (UnwinderInternal.new 0).1.modulesGeneration 0x1000 ∧
      ∀ ra ∈ twoFrameReturns, (RuleCache.new : RuleCache UnwindRuleX86_64).FallbackAt
        (UnwinderInternal.new 0).1.modulesGeneration (ra.val - 1)) ∧
    (run ((UnwinderInternal.new 0).1.unwindFrame (oneFunctionExternals .null) · · · twoFrameStack)
        (twoFrameReturns.length + 2) (new 0x1000 ⟨0x1000, 0x100, 0x110⟩ RuleCache.new)).1 =
      .ok (some (.instructionPointer 0x1000)) ::
        (twoFrameReturns.map fun ra => .ok (some (.returnAddress ra))) ++ [.ok none] :=
  have hchain : FramePointerChain twoFrameStack 0x100 0x110 twoFrameReturns :=
    .link (by decide) (by decide) (by decide) rfl rfl
      (.link (by decide) (by decide) (by decide) rfl rfl (.root _))
  have hfb : (UnwinderInternal.new 0).1.FallsBack (unwindFrameImpl (oneFunctionExternals .null))
        (.instructionPointer 0x1000) ∧
      ∀ ra ∈ twoFrameReturns, (UnwinderInternal.new 0).1.FallsBack
        (unwindFrameImpl (oneFunctionExternals .null)) (.returnAddress ra) :=
    ⟨UnwinderInternal.fallsBack_of_findModuleForAddress_none rfl,
      fun _ _ => UnwinderInternal.fallsBack_of_findModuleForAddress_none rfl⟩
  have hc : (RuleCache.new : RuleCache UnwindRuleX86_64).FallbackAt
        (UnwinderInternal.new 0).1.modulesGeneration 0x1000 ∧
      ∀ ra ∈ twoFrameReturns, (RuleCache.new : RuleCache UnwindRuleX86_64).FallbackAt
        (UnwinderInternal.new 0).1.modulesGeneration (ra.val - 1) :=
    ⟨(fun _ h => nomatch h), fun _ _ _ h => nomatch h⟩
  ⟨hchain, hfb, hc, frame_pointer_walk_yields_chain _ _ _ 0x1000 ⟨0x1000, 0x100, 0x110⟩
    RuleCache.new twoFrameReturns hchain hfb hc⟩

/-- The step lemma at a break: from a frame that falls back, where the frame-pointer rule fails,
`next` passes the error on and stays at that frame with the same registers; the cache still
holds only the fallback rule wherever it did. -/
theorem next_break {address : FrameAddress} {regs : UnwindRegsX86_64}
    {cache : RuleCache UnwindRuleX86_64} {e : Error}
    (hbreak : (fallbackRule.exec regs readStack).1 = .error e)
    (hfb : u.FallsBack (unwindFrameImpl ext) address)
    (hc : cache.FallbackAt u.modulesGeneration address.addressForLookup) :
    ∃ cache', (⟨.unwinding address, regs, cache⟩ :
        UnwindIterator UnwindRegsX86_64 (RuleCache UnwindRuleX86_64)).next
          (u.unwindFrame ext · · · readStack) = (.error e, ⟨.unwinding address, regs, cache'⟩) ∧
      ∀ a, cache.FallbackAt u.modulesGeneration a → cache'.FallbackAt u.modulesGeneration a := by
  obtain ⟨hres, hregs, hkeep⟩ := UnwinderInternal.withCache_fallsBack regs readStack hfb hc
  have hkept : (fallbackRule.exec regs readStack).2 = regs := by
    rcases exec_cases fallbackRule regs readStack with ⟨h, -⟩ | ⟨_, _, _, -, -, -, hexec⟩
    · exact h
    · rw [hexec] at hbreak
      cases hbreak
  have hw : u.unwindFrame ext address regs cache readStack =
      (.error e, regs, (u.unwindFrame ext address regs cache readStack).2.2) :=
    Prod.ext (hres.trans hbreak) (Prod.ext (hregs.trans hkept) rfl)
  exact ⟨_, next_unwinding_error (u.unwindFrame ext · · · readStack) hw, hkeep⟩

/-- The run lemma: unwinding from a frame at the start of a chain prefix whose last frame
breaks, the calls yield the prefix's return addresses and then the break's error, again and
again. -/
theorem run_broken_chain {sp bp sp' bp' : UInt64} {ras : List {a : UInt64 // a ≠ 0}}
    (hchain : ChainPrefix readStack sp bp ras sp' bp') {e : Error}
    (hbreak : ∀ ip, (fallbackRule.exec ⟨ip, sp', bp'⟩ readStack).1 = .error e) :
    ∀ (address : FrameAddress) (ip : UInt64) (cache : RuleCache UnwindRuleX86_64),
      (u.FallsBack (unwindFrameImpl ext) address ∧
        ∀ ra ∈ ras, u.FallsBack (unwindFrameImpl ext) (.returnAddress ra)) →
      (cache.FallbackAt u.modulesGeneration address.addressForLookup ∧
        ∀ ra ∈ ras, cache.FallbackAt u.modulesGeneration (FrameAddress.returnAddress ra).addressForLookup) →
      ∀ k, (run (u.unwindFrame ext · · · readStack) (ras.length + k)
        ⟨.unwinding address, ⟨ip, sp, bp⟩, cache⟩).1 =
        ras.map (fun ra => .ok (some (.returnAddress ra))) ++ List.replicate k (.error e) := by
  induction hchain with
  | stop sp bp =>
    intro address ip cache hfb hc k
    simp only [List.length_nil, Nat.zero_add, List.map_nil, List.nil_append]
    induction k generalizing cache with
    | zero => rfl
    | succ k ih =>
      obtain ⟨cache', hnext, hkeep⟩ := next_break u ext readStack (hbreak ip) hfb.1 hc.1
      rw [run_succ, hnext, List.replicate_succ, ih cache' ⟨hkeep _ hc.1, fun _ h => nomatch h⟩]
  | @link sp bp callerBp sp' bp' ra ras hbp hfit hup hsaved hra _ ih =>
    intro address ip cache hfb hc k
    obtain ⟨cache', hnext, hkeep⟩ := next_link u ext readStack hbp hfit hup hsaved hra hfb.1 hc.1
    rw [List.length_cons, Nat.add_right_comm, run_succ, hnext]
    simpa using ih hbreak (.returnAddress ra) ra.val cache'
      ⟨hfb.2 ra (List.mem_cons_self _ _), fun r hr => hfb.2 r (List.mem_cons_of_mem _ hr)⟩
      ⟨hkeep _ (hc.2 ra (List.mem_cons_self _ _)),
        fun r hr => hkeep _ (hc.2 r (List.mem_cons_of_mem _ hr))⟩ k

/-- On a stack whose frame-pointer chain breaks (an unreadable saved `rbp`, a frame pointer that
does not move up, a frame pointer at the top of the address space), a walk whose frames all
fall back, from a cache that holds no other rule for their lookup addresses, yields the
instruction pointer, the chain's return addresses up to the break, and then the break's error
on every later call. -/
theorem broken_chain_walk_repeats_error (pc : UInt64) (regs : UnwindRegsX86_64)
    (cache : RuleCache UnwindRuleX86_64) (ras : List {a : UInt64 // a ≠ 0}) {sp' bp' : UInt64}
    (hchain : ChainPrefix readStack regs.sp regs.bp ras sp' bp') {e : Error}
    (hbreak : ∀ ip, (fallbackRule.exec ⟨ip, sp', bp'⟩ readStack).1 = .error e)
    (hfb : u.FallsBack (unwindFrameImpl ext) (.instructionPointer pc) ∧
      ∀ ra ∈ ras, u.FallsBack (unwindFrameImpl ext) (.returnAddress ra))
    (hc : cache.FallbackAt u.modulesGeneration pc ∧
      ∀ ra ∈ ras, cache.FallbackAt u.modulesGeneration (ra.val - 1)) (k : Nat) :
    (run (u.unwindFrame ext · · · readStack) (ras.length + k + 1) (new pc regs cache)).1 =
      .ok (some (.instructionPointer pc)) ::
        (ras.map fun ra => .ok (some (.returnAddress ra))) ++ List.replicate k (.error e) := by
  rw [run_succ]
  simp only [new, next_initial]
  exact congrArg _ (run_broken_chain u ext readStack hchain hbreak _ regs.ip cache hfb hc k)

/-- The two-frame stack cut after its first frame: the caller's saved `rbp` at `0x130` cannot be
read. -/
def cutStack (address : UInt64) : Option UInt64 :=
  if address = 0x110 then some 0x130 else if address = 0x118 then some 0x2001 else none

theorem cut_stack_walk_repeats_unreadable :
    ChainPrefix cutStack (⟨0x1000, 0x100, 0x110⟩ : UnwindRegsX86_64).sp
      (⟨0x1000, 0x100, 0x110⟩ : UnwindRegsX86_64).bp [⟨0x2001, by decide⟩] 0x120 0x130 ∧
    (∀ ip, (fallbackRule.exec ⟨ip, 0x120, 0x130⟩ cutStack).1 = .error (.couldNotReadStack 0x130)) ∧
    ((UnwinderInternal.new 0).1.FallsBack (unwindFrameImpl (oneFunctionExternals .null))
        (.instructionPointer 0x1000) ∧
      ∀ ra ∈ [(⟨0x2001, by decide⟩ : {a : UInt64 // a ≠ 0})], (UnwinderInternal.new 0).1.FallsBack
        (unwindFrameImpl (oneFunctionExternals .null)) (.returnAddress ra)) ∧
    ((RuleCache.new : RuleCache UnwindRuleX86_64).FallbackAt
        (UnwinderInternal.new 0).1.modulesGeneration 0x1000 ∧
      ∀ ra ∈ [(⟨0x2001, by decide⟩ : {a : UInt64 // a ≠ 0})],
        (RuleCache.new : RuleCache UnwindRuleX86_64).FallbackAt
          (UnwinderInternal.new 0).1.modulesGeneration (ra.val - 1)) ∧
    (run ((UnwinderInternal.new 0).1.unwindFrame (oneFunctionExternals .null) · · · cutStack)
        (1 + 3 + 1) (new 0x1000 ⟨0x1000, 0x100, 0x110⟩ RuleCache.new)).1 =
      [.ok (some (.instructionPointer 0x1000)), .ok (some (.returnAddress ⟨0x2001, by decide⟩)),
        .error (.couldNotReadStack 0x130), .error (.couldNotReadStack 0x130),
        .error (.couldNotReadStack 0x130)] :=
  have hchain : ChainPrefix cutStack 0x100 0x110 [⟨0x2001, by decide⟩] 0x120 0x130 :=
    .link (by decide) (by decide) (by decide) rfl rfl (.stop _ _)
  have hbreak : ∀ ip, (fallbackRule.exec ⟨ip, 0x120, 0x130⟩ cutStack).1 =
      .error (.couldNotReadStack 0x130) := fun _ => rfl
  have hfb : (UnwinderInternal.new 0).1.FallsBack (unwindFrameImpl (oneFunctionExternals .null))
        (.instructionPointer 0x1000) ∧
      ∀ ra ∈ [(⟨0x2001, by decide⟩ : {a : UInt64 // a ≠ 0})], (UnwinderInternal.new 0).1.FallsBack
        (unwindFrameImpl (oneFunctionExternals .null)) (.returnAddress ra) :=
    ⟨UnwinderInternal.fallsBack_of_findModuleForAddress_none rfl,
      fun _ _ => UnwinderInternal.fallsBack_of_findModuleForAddress_none rfl⟩
  have hc : (RuleCache.new : RuleCache UnwindRuleX86_64).FallbackAt
        (UnwinderInternal.new 0).1.modulesGeneration 0x1000 ∧
      ∀ ra ∈ [(⟨0x2001, by decide⟩ : {a : UInt64 // a ≠ 0})],
        (RuleCache.new : RuleCache UnwindRuleX86_64).FallbackAt
          (UnwinderInternal.new 0).1.modulesGeneration (ra.val - 1) :=
    ⟨(fun _ h => nomatch h), fun _ _ _ h => nomatch h⟩
  ⟨hchain, hbreak, hfb, hc, broken_chain_walk_repeats_error _ _ _ 0x1000 ⟨0x1000, 0x100, 0x110⟩
    RuleCache.new [⟨0x2001, by decide⟩] hchain hbreak hfb hc 3⟩

end UnwindIterator

end Framehop

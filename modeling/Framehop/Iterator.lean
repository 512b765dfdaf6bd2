import Framehop.Unwinder

/-!
# The unwind iterator

`UnwindIterator` from `unwinder.rs`: the state machine `Initial(pc) → Unwinding(address) → Done`
that yields the instruction pointer and then one return address per `unwind_frame` call. Like
the source (`U: Unwinder`) it is generic over the unwinder: `next` sees `unwind_frame` as a
function of the frame address, the registers and the cache, with `read_stack` closed over.

A log kept beside the cache (`logCalls`) records each `unwind_frame` call with its result, so
what the iterator asks of the unwinder is stated over whole runs (`Protocol`). Walks whose
caches differ only where a relation allows go alike (`run_congr_cache`).

For the x86-64 unwinder the results assume of a walk only what each frame it unwinds needs: that
the miss path there runs a rule (`FrameRunsRule`), or a rule that moves `sp`
(`FrameRunsAdvancingRule`). The DWARF evaluator may answer `Uncacheable` for frames the walk
never reaches. Under the second assumption the walk ends within `2^64 + 1` calls
(`walk_sp_increases_and_terminates`); without it, a frameless function with a zero-byte frame
and a stack that returns into it keep the walk yielding one return address forever
(`zero_frame_walk_never_ends`).
-/

namespace Framehop

inductive UnwindIteratorState where
  | initial (pc : UInt64)
  | unwinding (address : FrameAddress)
  | done
  deriving DecidableEq

structure UnwindIterator (Regs Cache : Type) where
  state : UnwindIteratorState
  regs : Regs
  cache : Cache

/-- A call of `unwind_frame`: the frame address it was given and the result it returned. -/
abbrev Call := FrameAddress × Except Error (Option UInt64)

namespace UnwindIterator

variable {Regs Cache : Type}
  (unwindFrame : FrameAddress → Regs → Cache → Except Error (Option UInt64) × Regs × Cache)

def new (pc : UInt64) (regs : Regs) (cache : Cache) : UnwindIterator Regs Cache :=
  ⟨.initial pc, regs, cache⟩

def next (self : UnwindIterator Regs Cache) :
    Except Error (Option FrameAddress) × UnwindIterator Regs Cache :=
  match self.state with
  | .initial pc =>
    (.ok (some (.instructionPointer pc)), { self with state := .unwinding (.instructionPointer pc) })
  | .unwinding address =>
    match unwindFrame address self.regs self.cache with
    | (.error e, regs, cache) => (.error e, { self with regs := regs, cache := cache })
    | (.ok (some returnAddress), regs, cache) =>
      match FrameAddress.fromReturnAddress returnAddress with
      | none => (.error .returnAddressIsNull, { self with regs := regs, cache := cache })
      | some returnAddress => (.ok (some returnAddress), ⟨.unwinding returnAddress, regs, cache⟩)
    | (.ok none, regs, cache) => (.ok none, ⟨.done, regs, cache⟩)
  | .done => (.ok none, self)

/-- `n` calls of `next`: their results, oldest first, and the iterator after them. -/
def run : Nat → UnwindIterator Regs Cache →
    List (Except Error (Option FrameAddress)) × UnwindIterator Regs Cache
  | 0, it => ([], it)
  | n + 1, it =>
    let (results, it') := run n (it.next unwindFrame).2
    ((it.next unwindFrame).1 :: results, it')

/-- The unwinder with a log of its calls kept beside its cache. -/
def logCalls : FrameAddress → Regs → Cache × List Call →
    Except Error (Option UInt64) × Regs × (Cache × List Call) :=
  fun address regs cacheAndLog =>
    let (result, regs, cache) := unwindFrame address regs cacheAndLog.1
    (result, regs, (cache, cacheAndLog.2 ++ [(address, result)]))

@[simp] theorem run_zero (it : UnwindIterator Regs Cache) : run unwindFrame 0 it = ([], it) := rfl

@[simp] theorem run_succ (n : Nat) (it : UnwindIterator Regs Cache) :
    run unwindFrame (n + 1) it =
      ((it.next unwindFrame).1 :: (run unwindFrame n (it.next unwindFrame).2).1,
        (run unwindFrame n (it.next unwindFrame).2).2) := rfl

@[simp] theorem next_initial (pc : UInt64) (regs : Regs) (cache : Cache) :
    (⟨.initial pc, regs, cache⟩ : UnwindIterator Regs Cache).next unwindFrame =
      (.ok (some (.instructionPointer pc)), ⟨.unwinding (.instructionPointer pc), regs, cache⟩) :=
  rfl

@[simp] theorem next_done (regs : Regs) (cache : Cache) :
    (⟨.done, regs, cache⟩ : UnwindIterator Regs Cache).next unwindFrame =
      (.ok none, ⟨.done, regs, cache⟩) := rfl

variable {address : FrameAddress} {regs regs' : Regs} {cache cache' : Cache}

theorem next_unwinding_error {e : Error}
    (h : unwindFrame address regs cache = (.error e, regs', cache')) :
    (⟨.unwinding address, regs, cache⟩ : UnwindIterator Regs Cache).next unwindFrame =
      (.error e, ⟨.unwinding address, regs', cache'⟩) := by
  simp [next, h]

theorem next_unwinding_return {ra : UInt64} (h0 : ra ≠ 0)
    (h : unwindFrame address regs cache = (.ok (some ra), regs', cache')) :
    (⟨.unwinding address, regs, cache⟩ : UnwindIterator Regs Cache).next unwindFrame =
      (.ok (some (.returnAddress ⟨ra, h0⟩)), ⟨.unwinding (.returnAddress ⟨ra, h0⟩), regs', cache'⟩) := by
  simp [next, h, FrameAddress.fromReturnAddress, h0]

theorem next_unwinding_null (h : unwindFrame address regs cache = (.ok (some 0), regs', cache')) :
    (⟨.unwinding address, regs, cache⟩ : UnwindIterator Regs Cache).next unwindFrame =
      (.error .returnAddressIsNull, ⟨.unwinding address, regs', cache'⟩) := by
  simp [next, h, FrameAddress.fromReturnAddress]

theorem next_unwinding_root (h : unwindFrame address regs cache = (.ok none, regs', cache')) :
    (⟨.unwinding address, regs, cache⟩ : UnwindIterator Regs Cache).next unwindFrame =
      (.ok none, ⟨.done, regs', cache'⟩) := by
  simp [next, h]

variable {unwindFrame}

/-- From an unwinding state, `next` keeps the registers and the cache `unwind_frame` left,
whatever it answered. -/
theorem next_unwinding_regs_cache :
    ((⟨.unwinding address, regs, cache⟩ : UnwindIterator Regs Cache).next unwindFrame).2.regs =
        (unwindFrame address regs cache).2.1 ∧
      ((⟨.unwinding address, regs, cache⟩ : UnwindIterator Regs Cache).next unwindFrame).2.cache =
        (unwindFrame address regs cache).2.2 := by
  rcases h : unwindFrame address regs cache with ⟨result, regs', cache'⟩
  rcases result with e | _ | ra
  · simp [next_unwinding_error _ h]
  · simp [next_unwinding_root _ h]
  · by_cases h0 : ra = 0
    · subst h0; simp [next_unwinding_null _ h]
    · simp [next_unwinding_return _ h0 h]

/-- A return address yielded from an unwinding state is the one `unwind_frame` answered. -/
theorem next_unwinding_eq_returnAddress {ra : UInt64} {h0 : ra ≠ 0}
    (h : ((⟨.unwinding address, regs, cache⟩ : UnwindIterator Regs Cache).next unwindFrame).1 =
      .ok (some (.returnAddress ⟨ra, h0⟩))) :
    (unwindFrame address regs cache).1 = .ok (some ra) := by
  rcases hw : unwindFrame address regs cache with ⟨result, regs', cache'⟩
  rcases result with e | _ | ra'
  · rw [next_unwinding_error _ hw] at h
    cases h
  · rw [next_unwinding_root _ hw] at h
    cases h
  · by_cases h0' : ra' = 0
    · subst h0'
      rw [next_unwinding_null _ hw] at h
      cases h
    · rw [next_unwinding_return _ h0' hw] at h
      cases h
      rfl

/-- Two iterators in the same state with the same registers, and caches related by `R`. -/
def SameUpToCache (R : Cache → Cache → Prop) (it it' : UnwindIterator Regs Cache) : Prop :=
  it.state = it'.state ∧ it.regs = it'.regs ∧ R it.cache it'.cache

section Congr

variable (unwindFrame) (R : Cache → Cache → Prop)
  (hstep : ∀ address regs c c', R c c' →
    (unwindFrame address regs c).1 = (unwindFrame address regs c').1 ∧
      (unwindFrame address regs c).2.1 = (unwindFrame address regs c').2.1 ∧
      R (unwindFrame address regs c).2.2 (unwindFrame address regs c').2.2)
include hstep

/-- The step lemma: when `unwind_frame` answers alike on related caches and keeps them related,
one `next` on iterators that differ only in their caches yields the same result and keeps them
so. -/
theorem next_congr_cache {it it' : UnwindIterator Regs Cache} (h : SameUpToCache R it it') :
    (it.next unwindFrame).1 = (it'.next unwindFrame).1 ∧
      SameUpToCache R (it.next unwindFrame).2 (it'.next unwindFrame).2 := by
  obtain ⟨state, regs, c⟩ := it
  obtain ⟨state', regs', c'⟩ := it'
  obtain ⟨hs, hr, hc⟩ := h
  dsimp only at hs hr hc
  subst hs hr
  cases state with
  | initial pc => exact ⟨rfl, rfl, rfl, hc⟩
  | done => exact ⟨rfl, rfl, rfl, hc⟩
  | unwinding address =>
    obtain ⟨h1, h2, h3⟩ := hstep address regs c c' hc
    simp only [next]
    revert h1 h2 h3
    rcases unwindFrame address regs c with ⟨result, regs₁, c₁⟩
    rcases unwindFrame address regs c' with ⟨result', regs₁', c₁'⟩
    rintro rfl rfl h3
    rcases result with e | _ | ra <;> dsimp only <;> (try split) <;> exact ⟨rfl, rfl, rfl, h3⟩

/-- The run lemma: walks from iterators that differ only in their caches yield the same results
and end in the same state with the same registers. -/
theorem run_congr_cache (n : Nat) {it it' : UnwindIterator Regs Cache}
    (h : SameUpToCache R it it') :
    (run unwindFrame n it).1 = (run unwindFrame n it').1 ∧
      SameUpToCache R (run unwindFrame n it).2 (run unwindFrame n it').2 := by
  induction n generalizing it it' with
  | zero => exact ⟨rfl, h⟩
  | succ n ih =>
    obtain ⟨hnext, hsame⟩ := next_congr_cache unwindFrame R hstep h
    obtain ⟨hrun, hsame'⟩ := ih hsame
    simp only [run_succ]
    exact ⟨by rw [hnext, hrun], hsame'⟩

end Congr

variable (unwindFrame) in
/-- What one `next` does to the cache and the log: nothing, or the one call it makes from an
unwinding state. -/
theorem next_logCalls_cache (it : UnwindIterator Regs (Cache × List Call)) :
    (it.next (logCalls unwindFrame)).2.cache = it.cache ∨
      ∃ address, it.state = .unwinding address ∧ (it.next (logCalls unwindFrame)).2.cache =
        ((unwindFrame address it.regs it.cache.1).2.2,
          it.cache.2 ++ [(address, (unwindFrame address it.regs it.cache.1).1)]) := by
  obtain ⟨state, regs, cache, log⟩ := it
  cases state with
  | initial pc => exact .inl rfl
  | done => exact .inl rfl
  | unwinding address => exact .inr ⟨address, rfl, next_unwinding_regs_cache.2⟩

variable (unwindFrame) in
/-- A counter of the cache that every `unwind_frame` call bumps by one counts, modulo `2^64`,
the calls a run makes. -/
theorem run_logCalls_counter (count : Cache → UInt64)
    (hcount : ∀ address regs cache, count (unwindFrame address regs cache).2.2 = count cache + 1)
    (n : Nat) (it : UnwindIterator Regs (Cache × List Call)) :
    ∃ calls, (run (logCalls unwindFrame) n it).2.cache.2 = it.cache.2 ++ calls ∧
      (count (run (logCalls unwindFrame) n it).2.cache.1).toNat =
        ((count it.cache.1).toNat + calls.length) % 2 ^ 64 := by
  induction n generalizing it with
  | zero => exact ⟨[], by simp, (Nat.mod_eq_of_lt (UInt64.toNat_lt _)).symm⟩
  | succ n ih =>
    obtain ⟨calls, hl, hc⟩ := ih (it.next (logCalls unwindFrame)).2
    simp only [run_succ]
    rcases next_logCalls_cache unwindFrame it with hnext | ⟨address, -, hnext⟩ <;>
      simp only [hnext] at hl hc
    · exact ⟨calls, hl, hc⟩
    · refine ⟨_ :: calls, by rw [hl, List.append_assoc, List.singleton_append], ?_⟩
      rw [hc, hcount, UInt64.toNat_add, show (1 : UInt64).toNat = 1 from rfl, List.length_cons,
        UInt64.size]
      omega

section X86

variable (u : UnwinderInternal) (ext : Externals) (readStack : UInt64 → Option UInt64)

/-- The frame the iterator unwinds next, if any, is unwound by a rule: there the miss path runs a
rule on the iterator's registers. -/
def FrameRunsRule (it : UnwindIterator UnwindRegsX86_64 (RuleCache UnwindRuleX86_64)) : Prop :=
  ∀ address, it.state = .unwinding address →
    u.MissRunsRule address it.regs readStack (unwindFrameImpl ext)

/-- A DWARF evaluator that unwinds by rules only makes every frame run a rule. -/
theorem frameRunsRule_of_dwarfRulesOnly (hext : ext.DwarfRulesOnly)
    (it : UnwindIterator UnwindRegsX86_64 (RuleCache UnwindRuleX86_64)) :
    FrameRunsRule u ext readStack it := fun address _ =>
  UnwinderInternal.missRunsRule_of_rulesOnly u address it.regs readStack
    (unwindFrameImpl_rulesOnly ext hext)

/-- When the frame is unwound by a rule, a return address `next` yields was read from the stack
one word below the caller's `sp`, and is the caller's `ip` from then on. -/
theorem next_return_address_read
    (it : UnwindIterator UnwindRegsX86_64 (RuleCache UnwindRuleX86_64))
    (hrule : FrameRunsRule u ext readStack it) {ra : UInt64} (h0 : ra ≠ 0)
    (h : (it.next (u.unwindFrame ext · · · readStack)).1 = .ok (some (.returnAddress ⟨ra, h0⟩))) :
    (it.next (u.unwindFrame ext · · · readStack)).2.regs.ip = ra ∧
      readStack ((it.next (u.unwindFrame ext · · · readStack)).2.regs.sp - 8) = some ra := by
  obtain ⟨state, regs, cache⟩ := it
  cases state with
  | initial pc => simp at h
  | done => simp at h
  | unwinding address =>
    rw [next_unwinding_regs_cache.1]
    exact UnwinderInternal.withCache_return_read (hrule address rfl)
      (next_unwinding_eq_returnAddress h)

/-- When the frame is unwound by a rule, `next` does not fail with `ReturnAddressIsNull`: a rule
that reads a zero return address answers `Ok(None)`. -/
theorem next_ne_returnAddressIsNull
    (it : UnwindIterator UnwindRegsX86_64 (RuleCache UnwindRuleX86_64))
    (hrule : FrameRunsRule u ext readStack it) :
    (it.next (u.unwindFrame ext · · · readStack)).1 ≠ .error .returnAddressIsNull := by
  obtain ⟨state, regs, cache⟩ := it
  cases state with
  | initial pc => simp
  | done => simp
  | unwinding address =>
    have hne : (u.unwindFrame ext address regs cache readStack).1 ≠ .error .returnAddressIsNull :=
      UnwinderInternal.withCache_ne_returnAddressIsNull (hrule address rfl)
    have h0 : (u.unwindFrame ext address regs cache readStack).1 ≠ .ok (some 0) :=
      UnwinderInternal.withCache_ne_zero (hrule address rfl)
    simp only [next]
    revert hne h0
    rcases u.unwindFrame ext address regs cache readStack with ⟨result, regs', cache'⟩
    rcases result with e | _ | ra <;> dsimp only <;> (try split) <;>
      simp_all [FrameAddress.fromReturnAddress]

/-- A run of `next` whose every frame is unwound by a rule never reports
`ReturnAddressIsNull`. -/
theorem walk_never_reports_null_return_address (n : Nat)
    (it : UnwindIterator UnwindRegsX86_64 (RuleCache UnwindRuleX86_64))
    (hrule : ∀ k < n, FrameRunsRule u ext readStack (run (u.unwindFrame ext · · · readStack) k it).2) :
    (Except.error .returnAddressIsNull : Except Error (Option FrameAddress)) ∉
      (run (u.unwindFrame ext · · · readStack) n it).1 := by
  induction n generalizing it with
  | zero => simp
  | succ n ih =>
    rw [run_succ, List.mem_cons, not_or]
    exact ⟨(next_ne_returnAddressIsNull u ext readStack it (hrule 0 (by omega))).symm,
      ih _ fun k hk => hrule (k + 1) (by omega)⟩

/-- The frame the iterator unwinds next, if any, is unwound by a rule that moves `sp`: the miss
path there runs such a rule on the iterator's registers. -/
def FrameRunsAdvancingRule (it : UnwindIterator UnwindRegsX86_64 (RuleCache UnwindRuleX86_64)) :
    Prop :=
  ∀ address, it.state = .unwinding address → ∃ rule, rule.advancesSp ∧
    u.missRule address it.regs readStack (unwindFrameImpl ext) = (.execRule rule, it.regs)

/-- The step lemma for the cache: a call at a frame whose miss path runs a rule that moves `sp`
caches only that rule, so the rules cached under the unwinder's generation keep moving `sp`. -/
theorem next_rulesUnder (it : UnwindIterator UnwindRegsX86_64 (RuleCache UnwindRuleX86_64))
    (hrule : FrameRunsAdvancingRule u ext readStack it)
    (hc : it.cache.RulesUnder u.modulesGeneration fun rule => rule.advancesSp = true) :
    (it.next (u.unwindFrame ext · · · readStack)).2.cache.RulesUnder u.modulesGeneration
      fun rule => rule.advancesSp = true := by
  obtain ⟨state, regs, cache⟩ := it
  cases state with
  | initial pc => exact hc
  | done => exact hc
  | unwinding address =>
    obtain ⟨rule, hadv, hm⟩ := hrule address rfl
    rw [next_unwinding_regs_cache.2]
    rcases RuleCache.lookup_cases cache address.addressForLookup u.modulesGeneration
      with ⟨_, h⟩ | h
    · rw [UnwinderInternal.unwindFrame, UnwinderInternal.withCache_of_hit h]
      exact hc.lookup
    · rw [UnwinderInternal.unwindFrame, UnwinderInternal.withCache_of_miss_rule h hm]
      exact hc.lookup.insert hadv

/-- A call that yields a return address moves `sp` strictly up when the frame's miss path and
the rules cached under the unwinder's generation move `sp`. -/
theorem next_sp_lt (it : UnwindIterator UnwindRegsX86_64 (RuleCache UnwindRuleX86_64))
    (hrule : FrameRunsAdvancingRule u ext readStack it)
    (hc : it.cache.RulesUnder u.modulesGeneration fun rule => rule.advancesSp = true)
    {ra : UInt64} {h0 : ra ≠ 0}
    (h : (it.next (u.unwindFrame ext · · · readStack)).1 = .ok (some (.returnAddress ⟨ra, h0⟩))) :
    it.regs.sp.toNat < (it.next (u.unwindFrame ext · · · readStack)).2.regs.sp.toNat := by
  obtain ⟨state, regs, cache⟩ := it
  cases state with
  | initial pc => simp at h
  | done => simp at h
  | unwinding address =>
    obtain ⟨rule, hadv, hm⟩ := hrule address rfl
    rw [next_unwinding_regs_cache.1]
    obtain ⟨rule', hr, hlt⟩ :=
      UnwinderInternal.withCache_sp_lt ⟨rule, hm⟩ (next_unwinding_eq_returnAddress h)
    refine hlt ?_
    rcases hr with hhit | hm'
    · exact hc.hit hhit
    · rw [hm] at hm'
      cases hm'
      exact hadv

/-- The run lemma for the cache: over a run whose frames all run rules that move `sp`, the rules
cached under the unwinder's generation keep moving `sp`. -/
theorem run_rulesUnder (n : Nat) :
    ∀ it : UnwindIterator UnwindRegsX86_64 (RuleCache UnwindRuleX86_64),
      (∀ k < n, FrameRunsAdvancingRule u ext readStack
        (run (u.unwindFrame ext · · · readStack) k it).2) →
      it.cache.RulesUnder u.modulesGeneration (fun rule => rule.advancesSp = true) →
      (run (u.unwindFrame ext · · · readStack) n it).2.cache.RulesUnder u.modulesGeneration
        fun rule => rule.advancesSp = true := by
  induction n with
  | zero => exact fun _ _ hc => hc
  | succ n ih =>
    exact fun it hrule hc => ih _ (fun k hk => hrule (k + 1) (by omega))
      (next_rulesUnder u ext readStack it (hrule 0 (by omega)) hc)

/-- The run lemma for termination: from an unwinding state whose `sp` is within `k` of `2^64`,
some call among the next `k` ends the walk with `Ok(None)` or an error. -/
theorem run_ends_from_unwinding (k : Nat) :
    ∀ address regs (cache : RuleCache UnwindRuleX86_64),
      cache.RulesUnder u.modulesGeneration (fun rule => rule.advancesSp = true) →
      (∀ j, FrameRunsAdvancingRule u ext readStack
        (run (u.unwindFrame ext · · · readStack) j ⟨.unwinding address, regs, cache⟩).2) →
      2 ^ 64 - regs.sp.toNat ≤ k →
      ∃ n ≤ k, ∃ r ∈ (run (u.unwindFrame ext · · · readStack) n
        ⟨.unwinding address, regs, cache⟩).1, r = .ok none ∨ ∃ e, r = .error e := by
  induction k with
  | zero =>
    intro address regs cache _ _ hk
    have := UInt64.toNat_lt regs.sp
    omega
  | succ k ih =>
    intro address regs cache hc hrule hk
    have hlt := UInt64.toNat_lt regs.sp
    rcases hw : u.unwindFrame ext address regs cache readStack with ⟨result, regs', cache'⟩
    rcases result with e | _ | ra
    · exact ⟨1, by omega, _, by
        simp [next_unwinding_error (u.unwindFrame ext · · · readStack) hw],
        .inr ⟨e, rfl⟩⟩
    · exact ⟨1, by omega, _, by
        simp [next_unwinding_root (u.unwindFrame ext · · · readStack) hw], .inl rfl⟩
    · by_cases h0 : ra = 0
      · subst h0
        exact ⟨1, by omega, _, by
          simp [next_unwinding_null (u.unwindFrame ext · · · readStack) hw],
          .inr ⟨.returnAddressIsNull, rfl⟩⟩
      · have hnext := next_unwinding_return (u.unwindFrame ext · · · readStack) h0 hw
        have hsp := next_sp_lt u ext readStack ⟨.unwinding address, regs, cache⟩ (hrule 0) hc
          (by rw [hnext])
        have hc' := next_rulesUnder u ext readStack ⟨.unwinding address, regs, cache⟩ (hrule 0) hc
        have hrule' : ∀ j, FrameRunsAdvancingRule u ext readStack
            (run (u.unwindFrame ext · · · readStack) j
              ⟨.unwinding (.returnAddress ⟨ra, h0⟩), regs', cache'⟩).2 := fun j => by
          have := hrule (j + 1)
          rwa [run_succ, hnext] at this
        rw [hnext] at hsp hc'
        obtain ⟨n, hn, r, hr, hend⟩ := ih _ regs' cache' hc' hrule' (by simp only at hsp; omega)
        refine ⟨n + 1, by omega, r, ?_, hend⟩
        rw [run_succ, hnext]
        exact List.mem_cons_of_mem _ hr

/-- When every frame a walk unwinds runs, on a miss, a rule that moves `sp`, and every rule the
cache holds under the unwinder's generation moves `sp`, every call of the walk that yields a
return address moves `sp` strictly up, and the walk ends with `Ok(None)` or an error within
`2^64 + 1` calls, whatever the stack holds. -/
theorem walk_sp_increases_and_terminates
    (it : UnwindIterator UnwindRegsX86_64 (RuleCache UnwindRuleX86_64))
    (hc : it.cache.RulesUnder u.modulesGeneration fun rule => rule.advancesSp = true)
    (hrule : ∀ k, FrameRunsAdvancingRule u ext readStack
      (run (u.unwindFrame ext · · · readStack) k it).2) :
    (∀ n ra (h0 : ra ≠ 0),
      ((run (u.unwindFrame ext · · · readStack) n it).2.next
        (u.unwindFrame ext · · · readStack)).1 = .ok (some (.returnAddress ⟨ra, h0⟩)) →
      (run (u.unwindFrame ext · · · readStack) n it).2.regs.sp.toNat <
        ((run (u.unwindFrame ext · · · readStack) n it).2.next
          (u.unwindFrame ext · · · readStack)).2.regs.sp.toNat) ∧
    ∃ n ≤ 2 ^ 64 + 1, ∃ r ∈ (run (u.unwindFrame ext · · · readStack) n it).1,
      r = .ok none ∨ ∃ e, r = .error e := by
  refine ⟨fun n ra h0 h => next_sp_lt u ext readStack _ (hrule n)
    (run_rulesUnder u ext readStack n it (fun k _ => hrule k) hc) h, ?_⟩
  obtain ⟨state, regs, cache⟩ := it
  have hlt := UInt64.toNat_lt regs.sp
  cases state with
  | initial pc =>
    obtain ⟨n, hn, r, hr, hend⟩ := run_ends_from_unwinding u ext readStack _
      (.instructionPointer pc) regs cache hc (fun j => hrule (j + 1)) le_rfl
    exact ⟨n + 1, by omega, r, by simp [hr], hend⟩
  | unwinding address =>
    obtain ⟨n, hn, r, hr, hend⟩ := run_ends_from_unwinding u ext readStack _
      address regs cache hc hrule le_rfl
    exact ⟨n, by omega, r, hr, hend⟩
  | done => exact ⟨1, by omega, .ok none, by simp, .inl rfl⟩

/-- Over any run of `next`, the cache's `stats().total()` grows by exactly the number of
`unwind_frame` calls the run makes (modulo `2^64`, where the counters wrap): every call is one
lookup, hit or miss, cacheable or not. -/
theorem walk_stats_total_counts_calls (pc : UInt64) (regs : UnwindRegsX86_64)
    (cache : RuleCache UnwindRuleX86_64) (n : Nat) :
    ∃ calls, (run (logCalls (u.unwindFrame ext · · · readStack)) n
        (new pc regs (cache, []))).2.cache.2 = calls ∧
      (run (logCalls (u.unwindFrame ext · · · readStack)) n
        (new pc regs (cache, []))).2.cache.1.stats.total.toNat =
          (cache.stats.total.toNat + calls.length) % 2 ^ 64 :=
  run_logCalls_counter (u.unwindFrame ext · · · readStack) (fun c => c.stats.total)
    (fun address regs cache => by
      simp only [UnwinderInternal.unwindFrame, UnwinderInternal.withCache_stats]
      exact (RuleCache.lookup_stats _ _ _).1) n _

/-- A walk reads the cache only through the entries under the unwinder's generation: from two
caches that hold the same entries under it (entries under other generations, stale or another
unwinder's, may differ in any way), every run yields the same frames and errors, ends in the
same state with the same registers, and leaves caches that still agree there. This holds
whatever the DWARF evaluator does. -/
theorem walk_reads_cache_only_under_own_generation (pc : UInt64) (regs : UnwindRegsX86_64)
    {cache cache' : RuleCache UnwindRuleX86_64} (h : cache.AgreeAt u.modulesGeneration cache')
    (n : Nat) :
    (run (u.unwindFrame ext · · · readStack) n (new pc regs cache)).1 =
        (run (u.unwindFrame ext · · · readStack) n (new pc regs cache')).1 ∧
      SameUpToCache (RuleCache.AgreeAt u.modulesGeneration)
        (run (u.unwindFrame ext · · · readStack) n (new pc regs cache)).2
        (run (u.unwindFrame ext · · · readStack) n (new pc regs cache')).2 :=
  run_congr_cache (u.unwindFrame ext · · · readStack) _
    (fun _ _ _ _ hc => UnwinderInternal.withCache_congr_cache hc) n ⟨rfl, rfl, h⟩

end X86

/-- A frame-based function's rules move `sp`: the compact-unwind adapter gives
`UseFramePointer`, or `JustReturn` in `__stubs`. -/
theorem frameBased_rules_advance :
    (unwindFrameImpl (oneFunctionExternals .frameBased)).RulesSatisfy
      fun rule => rule.advancesSp = true := by
  refine unwindFrameImpl_rulesSatisfy _ (fun cui rel isFirstFrame rule h => ?_)
    (fun _ _ _ _ _ _ _ _ _ h => by simp [oneFunctionExternals] at h)
  unfold CompactUnwindInfoUnwinder.unwindFrame at h
  split at h
  · cases h; rfl
  · have hfp : (.ok (.execRule .useFramePointer) :
        Except CompactUnwindInfoUnwinderError (CuiUnwindResult UnwindRuleX86_64)) =
          .ok (.execRule rule) := by
      cases isFirstFrame <;> exact h
    cases hfp
    rfl

/-- Every frame a walk of `cuiModule` with frame-based functions unwinds runs a rule that moves
`sp`. -/
theorem frameBased_frames_advance (readStack : UInt64 → Option UInt64)
    (it : UnwindIterator UnwindRegsX86_64 (RuleCache UnwindRuleX86_64)) :
    FrameRunsAdvancingRule cuiRegistry (oneFunctionExternals .frameBased) readStack it :=
  fun address _ => UnwinderInternal.missRule_rulesOnly cuiRegistry address it.regs readStack
    (unwindFrameImpl_rulesOnly _ (oneFunctionExternals_dwarfRulesOnly _))
    (P := fun rule => rule.advancesSp = true) rfl frameBased_rules_advance

/-- A stack none of whose words can be read. -/
def unreadableStack (_ : UInt64) : Option UInt64 := none

theorem frame_pointer_walk_terminates :
    (RuleCache.new : RuleCache UnwindRuleX86_64).RulesUnder cuiRegistry.modulesGeneration
        (fun rule => rule.advancesSp = true) ∧
      (∀ k, FrameRunsAdvancingRule cuiRegistry (oneFunctionExternals .frameBased) unreadableStack
        (run (cuiRegistry.unwindFrame (oneFunctionExternals .frameBased) · · · unreadableStack) k
          (new 0x1800 ⟨0x1800, 0x100, 0x200⟩ RuleCache.new)).2) ∧
      (∀ n ra (h0 : ra ≠ 0),
        ((run (cuiRegistry.unwindFrame (oneFunctionExternals .frameBased) · · · unreadableStack) n
          (new 0x1800 ⟨0x1800, 0x100, 0x200⟩ RuleCache.new)).2.next
          (cuiRegistry.unwindFrame (oneFunctionExternals .frameBased) · · · unreadableStack)).1 =
            .ok (some (.returnAddress ⟨ra, h0⟩)) →
        (run (cuiRegistry.unwindFrame (oneFunctionExternals .frameBased) · · · unreadableStack) n
          (new 0x1800 ⟨0x1800, 0x100, 0x200⟩ RuleCache.new)).2.regs.sp.toNat <
        ((run (cuiRegistry.unwindFrame (oneFunctionExternals .frameBased) · · · unreadableStack) n
          (new 0x1800 ⟨0x1800, 0x100, 0x200⟩ RuleCache.new)).2.next
          (cuiRegistry.unwindFrame (oneFunctionExternals .frameBased) · · ·
            unreadableStack)).2.regs.sp.toNat) ∧
      ∃ n ≤ 2 ^ 64 + 1, ∃ r ∈ (run (cuiRegistry.unwindFrame (oneFunctionExternals .frameBased)
        · · · unreadableStack) n (new 0x1800 ⟨0x1800, 0x100, 0x200⟩ RuleCache.new)).1,
        r = .ok none ∨ ∃ e, r = .error e :=
  have hc : (RuleCache.new : RuleCache UnwindRuleX86_64).RulesUnder cuiRegistry.modulesGeneration
      (fun rule => rule.advancesSp = true) := fun _ _ h => nomatch h
  ⟨hc, fun _ => frameBased_frames_advance _ _,
    walk_sp_increases_and_terminates cuiRegistry (oneFunctionExternals .frameBased) unreadableStack
      _ hc fun _ => frameBased_frames_advance _ _⟩

/-- A stack every word of which reads `0`. -/
def zeroStack (_ : UInt64) : Option UInt64 := some 0

/-- On a stack of zeros the fallback rule reads a zero return address: the walk ends with
`Ok(None)` and never reports `ReturnAddressIsNull`. -/
theorem zero_return_address_ends_walk :
    (∀ k < 3, FrameRunsRule (UnwinderInternal.new 0).1 (oneFunctionExternals .null) zeroStack
      (run ((UnwinderInternal.new 0).1.unwindFrame (oneFunctionExternals .null) · · · zeroStack) k
        (new 0x1000 ⟨0x1000, 0x100, 0x110⟩ RuleCache.new)).2) ∧
      (run ((UnwinderInternal.new 0).1.unwindFrame (oneFunctionExternals .null) · · · zeroStack) 3
        (new 0x1000 ⟨0x1000, 0x100, 0x110⟩ RuleCache.new)).1 =
          [.ok (some (.instructionPointer 0x1000)), .ok none, .ok none] ∧
      (Except.error .returnAddressIsNull : Except Error (Option FrameAddress)) ∉
        (run ((UnwinderInternal.new 0).1.unwindFrame (oneFunctionExternals .null) · · · zeroStack) 3
          (new 0x1000 ⟨0x1000, 0x100, 0x110⟩ RuleCache.new)).1 :=
  have hrule : ∀ k < 3, FrameRunsRule (UnwinderInternal.new 0).1 (oneFunctionExternals .null)
      zeroStack (run ((UnwinderInternal.new 0).1.unwindFrame (oneFunctionExternals .null) · · ·
        zeroStack) k (new 0x1000 ⟨0x1000, 0x100, 0x110⟩ RuleCache.new)).2 := fun _ _ =>
    frameRunsRule_of_dwarfRulesOnly _ _ _ (oneFunctionExternals_dwarfRulesOnly _) _
  ⟨hrule, rfl, walk_never_reports_null_return_address _ _ _ 3 _ hrule⟩

/-- A cache each slot of which holds `JustReturn` under generation `0`, as walks made before
the module was added leave it. -/
def staleCache : RuleCache UnwindRuleX86_64 :=
  ⟨fun s => some ⟨s.val.toUInt64, 0, .justReturn⟩, CacheStats.new⟩

/-- After the module is added, a walk from the stale cache yields what a walk from a fresh cache
yields. -/
theorem stale_cache_walk_matches_fresh :
    staleCache.AgreeAt cuiRegistry.modulesGeneration RuleCache.new ∧
      (run (cuiRegistry.unwindFrame (oneFunctionExternals .frameBased) · · · unreadableStack) 3
          (new 0x1800 ⟨0x1800, 0x100, 0x110⟩ staleCache)).1 =
        (run (cuiRegistry.unwindFrame (oneFunctionExternals .frameBased) · · · unreadableStack) 3
          (new 0x1800 ⟨0x1800, 0x100, 0x110⟩ RuleCache.new)).1 ∧
      SameUpToCache (RuleCache.AgreeAt cuiRegistry.modulesGeneration)
        (run (cuiRegistry.unwindFrame (oneFunctionExternals .frameBased) · · · unreadableStack) 3
          (new 0x1800 ⟨0x1800, 0x100, 0x110⟩ staleCache)).2
        (run (cuiRegistry.unwindFrame (oneFunctionExternals .frameBased) · · · unreadableStack) 3
          (new 0x1800 ⟨0x1800, 0x100, 0x110⟩ RuleCache.new)).2 :=
  have hagree : staleCache.AgreeAt cuiRegistry.modulesGeneration RuleCache.new :=
    RuleCache.agreeAt_new_of_stale fun s e he => by
      simp only [staleCache, Option.some.injEq] at he
      subst he
      exact (by decide : (0 : UInt16) ≠ cuiRegistry.modulesGeneration)
  ⟨hagree, walk_reads_cache_only_under_own_generation cuiRegistry (oneFunctionExternals .frameBased)
    unreadableStack 0x1800 _ hagree 3⟩

/-- A stack whose frame pointer `0x110` holds `0`, with the return address `0x2001` above it. -/
def oneFrameStack (address : UInt64) : Option UInt64 :=
  if address = 0x110 then some 0 else if address = 0x118 then some 0x2001 else none

/-- With no module registered the fallback rule follows `bp = 0x110` and yields `0x2001`, the word
below the caller's `sp = 0x120`. -/
theorem frame_pointer_return_address_read :
    FrameRunsRule (UnwinderInternal.new 0).1 (oneFunctionExternals .null) oneFrameStack
        ⟨.unwinding (.instructionPointer 0x1000), ⟨0x1000, 0x100, 0x110⟩, RuleCache.new⟩ ∧
      (0x2001 : UInt64) ≠ 0 ∧
      ((⟨.unwinding (.instructionPointer 0x1000), ⟨0x1000, 0x100, 0x110⟩, RuleCache.new⟩ :
        UnwindIterator UnwindRegsX86_64 (RuleCache UnwindRuleX86_64)).next
          ((UnwinderInternal.new 0).1.unwindFrame (oneFunctionExternals .null) · · ·
            oneFrameStack)).1 = .ok (some (.returnAddress ⟨0x2001, by decide⟩)) ∧
      ((⟨.unwinding (.instructionPointer 0x1000), ⟨0x1000, 0x100, 0x110⟩, RuleCache.new⟩ :
        UnwindIterator UnwindRegsX86_64 (RuleCache UnwindRuleX86_64)).next
          ((UnwinderInternal.new 0).1.unwindFrame (oneFunctionExternals .null) · · ·
            oneFrameStack)).2.regs.ip = 0x2001 ∧
      oneFrameStack (((⟨.unwinding (.instructionPointer 0x1000), ⟨0x1000, 0x100, 0x110⟩,
        RuleCache.new⟩ : UnwindIterator UnwindRegsX86_64 (RuleCache UnwindRuleX86_64)).next
          ((UnwinderInternal.new 0).1.unwindFrame (oneFunctionExternals .null) · · ·
            oneFrameStack)).2.regs.sp - 8) = some 0x2001 :=
  have hyield : ((⟨.unwinding (.instructionPointer 0x1000), ⟨0x1000, 0x100, 0x110⟩,
      RuleCache.new⟩ : UnwindIterator UnwindRegsX86_64 (RuleCache UnwindRuleX86_64)).next
        ((UnwinderInternal.new 0).1.unwindFrame (oneFunctionExternals .null) · · ·
          oneFrameStack)).1 = .ok (some (.returnAddress ⟨0x2001, by decide⟩)) := rfl
  have hrule := frameRunsRule_of_dwarfRulesOnly (UnwinderInternal.new 0).1 _ oneFrameStack
    (oneFunctionExternals_dwarfRulesOnly .null)
    ⟨.unwinding (.instructionPointer 0x1000), ⟨0x1000, 0x100, 0x110⟩, RuleCache.new⟩
  ⟨hrule, by decide, hyield, next_return_address_read _ _ _ _ hrule (by decide) hyield⟩

/-- A frameless function whose frame is `0` bytes: its opcode gives
`OffsetSp { sp_offset_by_8: 0 }`. -/
def zeroFrameOpcode : OpcodeX86_64 := .framelessImmediate 0 ⟨List.replicate 6 none, rfl⟩

/-- A stack whose word just below `sp = 0x100` returns to `0x1801`, right after `0x1800`. -/
def selfReturnStack (address : UInt64) : Option UInt64 :=
  if address = 0xF8 then some 0x1801 else none

/-- The walk of `cuiRegistry` whose every function has a zero-byte frame. -/
def zeroFrameWalk : FrameAddress → UnwindRegsX86_64 → RuleCache UnwindRuleX86_64 →
    Except Error (Option UInt64) × UnwindRegsX86_64 × RuleCache UnwindRuleX86_64 :=
  (cuiRegistry.unwindFrame (oneFunctionExternals zeroFrameOpcode) · · · selfReturnStack)

/-- The walk's state after its first return address: unwinding from `0x1801` with
`sp = 0x100`, the zero-frame rule cached for `0x1800`. -/
def SelfReturnLoop (it : UnwindIterator UnwindRegsX86_64 (RuleCache UnwindRuleX86_64)) : Prop :=
  it.state = .unwinding (.returnAddress ⟨0x1801, by decide⟩) ∧ it.regs = ⟨0x1801, 0x100, 0⟩ ∧
    it.cache.entries (slotOf 0x1800) =
      some ⟨0x1800, cuiRegistry.modulesGeneration, .offsetSp 0⟩

theorem selfReturnLoop_next {it : UnwindIterator UnwindRegsX86_64 (RuleCache UnwindRuleX86_64)}
    (h : SelfReturnLoop it) :
    (it.next zeroFrameWalk).1 = .ok (some (.returnAddress ⟨0x1801, by decide⟩)) ∧
      SelfReturnLoop (it.next zeroFrameWalk).2 := by
  obtain ⟨state, regs, cache⟩ := it
  obtain ⟨hs, hr, hentry⟩ := h
  simp only at hs hr hentry
  subst hs hr
  have hit : (cache.lookup (FrameAddress.returnAddress ⟨0x1801, by decide⟩).addressForLookup
      cuiRegistry.modulesGeneration).1 = .hit (.offsetSp 0) :=
    RuleCache.lookup_eq_hit.mpr hentry
  have hw : zeroFrameWalk (.returnAddress ⟨0x1801, by decide⟩) ⟨0x1801, 0x100, 0⟩ cache =
      (.ok (some 0x1801), ⟨0x1801, 0x100, 0⟩,
        (cache.lookup 0x1800 cuiRegistry.modulesGeneration).2) := by
    simp only [zeroFrameWalk, UnwinderInternal.unwindFrame]
    rw [UnwinderInternal.withCache_of_hit hit]
    rfl
  rw [next_unwinding_return _ (by decide) hw]
  exact ⟨rfl, rfl, rfl, by rwa [RuleCache.lookup_entries]⟩

theorem run_selfReturnLoop (n : Nat) :
    ∀ it, SelfReturnLoop it →
      (run zeroFrameWalk n it).1 =
          List.replicate n (.ok (some (.returnAddress ⟨0x1801, by decide⟩))) ∧
        SelfReturnLoop (run zeroFrameWalk n it).2 := by
  induction n with
  | zero => exact fun it h => ⟨rfl, h⟩
  | succ n ih =>
    intro it h
    obtain ⟨hr, hl⟩ := selfReturnLoop_next h
    obtain ⟨hrun, hloop⟩ := ih _ hl
    exact ⟨by rw [run_succ, hr, hrun, List.replicate_succ], hloop⟩

/-- The compact-unwind adapter emits `OffsetSp { sp_offset_by_8: 0 }` for a frameless function
with a zero-byte frame, and the DWARF evaluator is not involved; yet every return address the
walk yields leaves `sp` where it was, and the walk never ends. -/
theorem zero_frame_walk_never_ends :
    (∀ it, FrameRunsRule cuiRegistry (oneFunctionExternals zeroFrameOpcode) selfReturnStack it) ∧
      ∀ n, (run zeroFrameWalk (n + 2) (new 0x1800 ⟨0x1800, 0x100, 0⟩ RuleCache.new)).1 =
          .ok (some (.instructionPointer 0x1800)) ::
            List.replicate (n + 1) (.ok (some (.returnAddress ⟨0x1801, by decide⟩))) ∧
        (run zeroFrameWalk (n + 2) (new 0x1800 ⟨0x1800, 0x100, 0⟩ RuleCache.new)).2.regs.sp =
          0x100 := by
  refine ⟨frameRunsRule_of_dwarfRulesOnly _ _ _ (oneFunctionExternals_dwarfRulesOnly _),
    fun n => ?_⟩
  have hstart : SelfReturnLoop (run zeroFrameWalk 2 (new 0x1800 ⟨0x1800, 0x100, 0⟩ RuleCache.new)).2 :=
    ⟨rfl, rfl, rfl⟩
  obtain ⟨hrun, hloop⟩ := run_selfReturnLoop n _ hstart
  have hsplit : run zeroFrameWalk (n + 2) (new 0x1800 ⟨0x1800, 0x100, 0⟩ RuleCache.new) =
      (.ok (some (.instructionPointer 0x1800)) ::
        .ok (some (.returnAddress ⟨0x1801, by decide⟩)) ::
          (run zeroFrameWalk n (run zeroFrameWalk 2
            (new 0x1800 ⟨0x1800, 0x100, 0⟩ RuleCache.new)).2).1,
        (run zeroFrameWalk n (run zeroFrameWalk 2
          (new 0x1800 ⟨0x1800, 0x100, 0⟩ RuleCache.new)).2).2) := rfl
  rw [hsplit, hrun, hloop.2.1]
  exact ⟨rfl, rfl⟩

end UnwindIterator

end Framehop

import Framehop.Unwinder

/-!
# Unwinders sharing one cache

Any number of `UnwinderInternal`s may share one `Cache`; the generation tag keeps their rules
apart. Every change of an unwinder's module list draws a fresh `modules_generation` from the
process-wide `GLOBAL_MODULES_GENERATION`, and a lookup hits only under the generation the rule
was inserted with.

`SharedState` runs any interleaving of `new`, `add_module`, `remove_module` and `unwind_frame`
calls against one cache. Two ghost fields record what the code does not keep: for each
unwinder the draw its current generation came from, that is the draw of its last change to its
module list, and for each slot the call that made its latest insert. While at most `2^16`
draws have been made the generations drawn are distinct, and a lookup hits exactly the rules an
unwinder inserted under its current module list (`shared_cache_hit_iff_own_insert`). A hit
then gives what a call with a fresh cache gives, for a frame address with the same lookup
address (`shared_cache_call_matches_fresh_call`); its frame kind may differ from the caller's,
and the compact-unwind adapter tells the kinds apart (`first_frame_hits_return_address_rule`).

The histories the results are tried on run one unwinder over `cuiModule`. In the first its only
function has no unwind info, so unwinding the return address `0x1801` caches the fallback rule
under the lookup address `0x1800`. In the second its functions are frameless, so unwinding the
first frame at `0x1800` caches `OffsetSp { sp_offset_by_8: 2 }` there.

A generation is its draw modulo `2^16`, so past `2^16` draws the guarantees fail: the unwinder
created `2^16` draws after another unwinder's last change to its module list gets that
unwinder's generation, and runs its rules (`new_unwinder_hits_rules_after_wrap`).
-/

namespace Framehop

/-- A slot's latest insert: the address and rule stored, the unwinder that made it, the draw of
that unwinder's generation at the time, and the frame, registers and stack of the call. -/
structure Insertion where
  address : UInt64
  rule : UnwindRuleX86_64
  unwinder : Nat
  draw : Nat
  frame : FrameAddress
  regs : UnwindRegsX86_64
  readStack : UInt64 → Option UInt64

/-- The cache entry an insertion leaves. -/
def Insertion.entry (ins : Insertion) : CacheEntry UnwindRuleX86_64 :=
  ⟨ins.address, UInt16.ofNat ins.draw, ins.rule⟩

structure SharedState where
  unwinders : List UnwinderInternal
  cache : RuleCache UnwindRuleX86_64
  /-- `GLOBAL_MODULES_GENERATION` as the number of draws so far. -/
  counter : Nat
  /-- Ghost: for each unwinder, the draw of its last change to its module list (or of its
  creation). -/
  drawOf : Nat → Nat
  /-- Ghost: each slot's latest insert. -/
  lastInsert : Fin 509 → Option Insertion

inductive Action where
  | new
  | addModule (unwinder : Nat) (module : Module)
  | removeModule (unwinder : Nat) (start : UInt64)
  | unwindFrame (unwinder : Nat) (address : FrameAddress) (regs : UnwindRegsX86_64)
      (readStack : UInt64 → Option UInt64)

namespace SharedState

/-- No unwinder yet, an empty cache, no draw made. -/
def init : SharedState := ⟨[], RuleCache.new, 0, fun _ => 0, fun _ => none⟩

variable (callback : Callback)

def step (s : SharedState) : Action → SharedState
  | .new =>
    let (u, global) := UnwinderInternal.new s.counter
    { s with
      unwinders := s.unwinders ++ [u], counter := global,
      drawOf := Function.update s.drawOf s.unwinders.length s.counter }
  | .addModule i module =>
    if hi : i < s.unwinders.length then
      let (u, global) := s.unwinders[i].addModule module s.counter
      { s with
        unwinders := s.unwinders.set i u, counter := global,
        drawOf := Function.update s.drawOf i s.counter }
    else s
  | .removeModule i start =>
    if hi : i < s.unwinders.length then
      let (u, global) := s.unwinders[i].removeModule start s.counter
      { s with
        unwinders := s.unwinders.set i u, counter := global,
        drawOf := if global = s.counter then s.drawOf else Function.update s.drawOf i s.counter }
    else s
  | .unwindFrame i address regs readStack =>
    if hi : i < s.unwinders.length then
      { s with
        cache := (s.unwinders[i].withCache address regs s.cache readStack callback).2.2
        lastInsert :=
          match s.unwinders[i].insertedRule address regs s.cache readStack callback with
          | some rule => Function.update s.lastInsert (slotOf address.addressForLookup)
              (some ⟨address.addressForLookup, rule, i, s.drawOf i, address, regs, readStack⟩)
          | none => s.lastInsert }
    else s

inductive Reachable : SharedState → Prop
  | init : Reachable init
  | step {s : SharedState} (a : Action) : Reachable s → Reachable (s.step callback a)

/-- What every reachable state keeps: each unwinder's generation is its draw, distinct
unwinders hold distinct draws, the cache is what the latest inserts left, and an insert whose
draw is still held was made by the unwinder holding it, under its current module list. -/
structure Inv (s : SharedState) : Prop where
  generation : ∀ i (hi : i < s.unwinders.length),
    s.unwinders[i].modulesGeneration = UInt16.ofNat (s.drawOf i) ∧ s.drawOf i < s.counter
  draws_injective : ∀ i j, i < s.unwinders.length → j < s.unwinders.length →
    s.drawOf i = s.drawOf j → i = j
  entries : ∀ slot, s.cache.entries slot = (s.lastInsert slot).map Insertion.entry
  insertion : ∀ slot ins, s.lastInsert slot = some ins → ins.draw < s.counter ∧
    ∀ j (hj : j < s.unwinders.length), s.drawOf j = ins.draw → j = ins.unwinder ∧
      ins.frame.addressForLookup = ins.address ∧
      (s.unwinders[j].missRule ins.frame ins.regs ins.readStack callback).1 = .execRule ins.rule

variable {callback}

theorem inv_init : init.Inv callback :=
  ⟨fun _ hi => absurd hi (Nat.not_lt_zero _), fun _ _ hi => absurd hi (Nat.not_lt_zero _),
    fun _ => rfl, fun _ _ h => by cases h⟩

/-- A change of module list: unwinder `k` of the new list takes the next draw, and every other
unwinder of the new list is the one at its index before. -/
theorem Inv.redraw {s : SharedState} (hs : s.Inv callback) {us : List UnwinderInternal} {k : Nat}
    (hk : k < us.length) (hu : us[k].modulesGeneration = UInt16.ofNat s.counter)
    (hsame : ∀ j (hj : j < us.length), j ≠ k →
      ∃ h : j < s.unwinders.length, us[j] = s.unwinders[j]) :
    Inv callback { s with
      unwinders := us, counter := s.counter + 1,
      drawOf := Function.update s.drawOf k s.counter } := by
  have hold : ∀ j, j < s.unwinders.length → s.drawOf j < s.counter := fun j hj =>
    (hs.generation j hj).2
  refine ⟨fun j hj => ?_, fun j l hj hl hjl => ?_, hs.entries, fun slot ins hins => ?_⟩
  · simp only [Function.update_apply]
    split
    · subst_vars
      exact ⟨hu, Nat.lt_succ_self _⟩
    · obtain ⟨hj', heq⟩ := hsame j hj ‹_›
      rw [heq]
      exact ⟨(hs.generation j hj').1, Nat.lt_succ_of_lt (hold j hj')⟩
  · simp only [Function.update_apply] at hjl
    split at hjl <;> split at hjl
    · subst_vars; rfl
    · have := hold l (hsame l hl ‹_›).1; omega
    · have := hold j (hsame j hj ‹_›).1; omega
    · exact hs.draws_injective j l (hsame j hj ‹_›).1 (hsame l hl ‹_›).1 hjl
  · obtain ⟨hlt, hown⟩ := hs.insertion slot ins hins
    refine ⟨Nat.lt_succ_of_lt hlt, fun j hj hdraw => ?_⟩
    simp only [Function.update_apply] at hdraw
    split at hdraw
    · omega
    · obtain ⟨hj', heq⟩ := hsame j hj ‹_›
      simp only [heq]
      exact hown j hj' hdraw

/-- `add_module` or `remove_module` by unwinder `i`: it takes the next draw. -/
theorem Inv.change {s : SharedState} (hs : s.Inv callback) {i : Nat}
    (hi : i < s.unwinders.length) {u : UnwinderInternal}
    (hu : u.modulesGeneration = UInt16.ofNat s.counter) :
    Inv callback { s with
      unwinders := s.unwinders.set i u, counter := s.counter + 1,
      drawOf := Function.update s.drawOf i s.counter } :=
  hs.redraw (by simpa using hi) (by simpa using hu) fun j hj hne =>
    ⟨by simpa using hj, List.getElem_set_ne (Ne.symm hne) _⟩

/-- An `unwind_frame` call changes only the cache, and records the insert it makes. -/
theorem Inv.unwind {s : SharedState} (hs : s.Inv callback) {i : Nat}
    (hi : i < s.unwinders.length) (address : FrameAddress) (regs : UnwindRegsX86_64)
    (readStack : UInt64 → Option UInt64) :
    (s.step callback (.unwindFrame i address regs readStack)).Inv callback := by
  simp only [SharedState.step, dif_pos hi]
  have hentries : (s.unwinders[i].withCache address regs s.cache readStack callback).2.2.entries =
      _ := UnwinderInternal.withCache_entries
  rcases hr : s.unwinders[i].insertedRule address regs s.cache readStack callback with _ | rule
  · simp only [hr] at hentries ⊢
    exact ⟨hs.generation, hs.draws_injective, hentries ▸ hs.entries, hs.insertion⟩
  · simp only [hr] at hentries ⊢
    refine ⟨hs.generation, hs.draws_injective, fun slot => ?_, fun slot ins hins => ?_⟩
    · simp only [hentries, Function.update_apply]
      split
      · simp [Insertion.entry, (hs.generation i hi).1]
      · exact hs.entries slot
    · simp only [Function.update_apply] at hins
      split at hins
      · cases hins
        refine ⟨(hs.generation i hi).2, fun j hj hdraw => ?_⟩
        obtain rfl := hs.draws_injective j i hj hi hdraw
        exact ⟨rfl, rfl, UnwinderInternal.insertedRule_eq_some hr⟩
      · exact hs.insertion slot ins hins

theorem Inv.step {s : SharedState} (hs : s.Inv callback) (a : Action) :
    (s.step callback a).Inv callback := by
  cases a with
  | new =>
    refine hs.redraw (by simp) (by simp [UnwinderInternal.new_generation])
      fun j hj hne => ?_
    have hj' : j < s.unwinders.length := by simp at hj; omega
    exact ⟨hj', List.getElem_append_left hj'⟩
  | addModule i module =>
    simp only [SharedState.step]
    split
    · exact hs.change ‹_› (UnwinderInternal.addModule_generation _ _ _).1
    · exact hs
  | removeModule i start =>
    simp only [SharedState.step]
    split
    · rename_i hi
      rcases UnwinderInternal.removeModule_generation s.unwinders[i] start s.counter with h | ⟨hg, h⟩
      · have hset : s.unwinders.set i s.unwinders[i] = s.unwinders :=
          List.ext_getElem (by simp) fun j _ _ => by
            rw [List.getElem_set]; split <;> simp_all
        simp only [h, hset, if_true]
        exact hs
      · simp only [h, Nat.succ_ne_self, if_false]
        exact hs.change hi hg
    · exact hs
  | unwindFrame i address regs readStack =>
    by_cases hi : i < s.unwinders.length
    · exact hs.unwind hi address regs readStack
    · simpa [SharedState.step, hi] using hs

theorem Reachable.inv {s : SharedState} (h : Reachable callback s) : s.Inv callback := by
  induction h with
  | init => exact inv_init
  | step a _ ih => exact ih.step a

/-- Distinct draws below `2^16` give distinct generations. -/
theorem ofNat_inj_of_lt {a b : Nat} (ha : a < 2 ^ 16) (hb : b < 2 ^ 16)
    (h : UInt16.ofNat a = UInt16.ofNat b) : a = b := by
  have := congrArg UInt16.toNat h
  have ha' : (UInt16.ofNat a).toNat = a % 2 ^ 16 := rfl
  have hb' : (UInt16.ofNat b).toNat = b % 2 ^ 16 := rfl
  omega

/-- The insert behind a hit: while at most `2^16` draws have been made, a hit under unwinder
`i`'s generation comes from an insert made by `i` under its current module list. -/
theorem Inv.hit_insertion {s : SharedState} (hs : s.Inv callback) (hdraws : s.counter ≤ 2 ^ 16)
    {i : Nat} (hi : i < s.unwinders.length) {a : UInt64} {r : UnwindRuleX86_64}
    (h : (s.cache.lookup a s.unwinders[i].modulesGeneration).1 = .hit r) :
    ∃ ins, s.lastInsert (slotOf a) = some ins ∧ ins.address = a ∧ ins.unwinder = i ∧
      ins.draw = s.drawOf i ∧ ins.rule = r := by
  rw [RuleCache.lookup_eq_hit, hs.entries] at h
  obtain ⟨ins, hins, he⟩ := Option.map_eq_some'.mp h
  obtain ⟨hlt, hown⟩ := hs.insertion _ ins hins
  simp only [Insertion.entry, CacheEntry.mk.injEq, (hs.generation i hi).1] at he
  obtain ⟨ha, hg, hr⟩ := he
  have hdraw : s.drawOf i = ins.draw :=
    (ofNat_inj_of_lt (by omega) (by have := (hs.generation i hi).2; omega) hg).symm
  exact ⟨ins, hins, ha, (hown i hi hdraw).1.symm, hdraw.symm, hr⟩

/-- The compact-unwind adapter over one function with the null opcode. -/
def nullCallback : Callback := unwindFrameImpl (oneFunctionExternals .null)

theorem nullCallback_pure : nullCallback.Pure :=
  unwindFrameImpl_pure _ ⟨fun _ _ _ _ _ _ _ _ _ _ => rfl, fun _ _ _ _ _ _ _ _ _ => rfl⟩

def returnAddressCached : SharedState :=
  ((init.step nullCallback .new).step nullCallback (.addModule 0 cuiModule)).step nullCallback
    (.unwindFrame 0 (.returnAddress ⟨0x1801, by decide⟩) ⟨0x1801, 0x100, 0⟩ fun _ => none)

theorem returnAddressCached_reachable : Reachable nullCallback returnAddressCached :=
  .step _ (.step _ (.step _ .init))

@[simp] theorem returnAddressCached_length : returnAddressCached.unwinders.length = 1 := rfl

/-- A stack whose return-address slot for `sp = 0x100` holds `0x1234`. -/
def firstFrameStack (address : UInt64) : Option UInt64 :=
  if address = 0x100 then some 0x1234 else none

/-- While at most `2^16` draws have been made, a lookup under unwinder `i`'s generation hits
`r` exactly when the latest insert into the slot stored this address and was made by `i`
after its last change to its module list, inserting `r`. Rules of other unwinders, and of
`i` under an earlier module list, are never hit. -/
theorem shared_cache_hit_iff_own_insert {s : SharedState} (hs : Reachable callback s)
    (hdraws : s.counter ≤ 2 ^ 16) (i : Nat) (hi : i < s.unwinders.length) (a : UInt64)
    (r : UnwindRuleX86_64) :
    (s.cache.lookup a s.unwinders[i].modulesGeneration).1 = .hit r ↔
      ∃ ins, s.lastInsert (slotOf a) = some ins ∧ ins.address = a ∧ ins.unwinder = i ∧
        ins.draw = s.drawOf i ∧ ins.rule = r := by
  have hinv := hs.inv
  refine ⟨hinv.hit_insertion hdraws hi, ?_⟩
  rintro ⟨ins, hins, rfl, -, hdraw, rfl⟩
  rw [RuleCache.lookup_eq_hit, hinv.entries, hins]
  simp [Insertion.entry, (hinv.generation i hi).1, hdraw]

theorem fallback_rule_hit_by_its_inserter : returnAddressCached.counter ≤ 2 ^ 16 ∧
    ((returnAddressCached.cache.lookup 0x1800
        (returnAddressCached.unwinders[0]).modulesGeneration).1 =
          .hit .useFramePointer ↔
      ∃ ins, returnAddressCached.lastInsert (slotOf 0x1800) = some ins ∧ ins.address = 0x1800 ∧
        ins.unwinder = 0 ∧ ins.draw = returnAddressCached.drawOf 0 ∧
        ins.rule = .useFramePointer) :=
  ⟨by decide, shared_cache_hit_iff_own_insert returnAddressCached_reachable (by decide) 0
    (by decide) 0x1800 .useFramePointer⟩

/-- A call after any history of the shared cache returns what a call with a fresh cache
returns, with the same registers after it, for a frame address with the same lookup address:
on a miss the same frame, on a hit the frame of the call that made the slot's latest insert. -/
theorem shared_cache_call_matches_fresh_call (hp : callback.Pure) {s : SharedState}
    (hs : Reachable callback s) (hdraws : s.counter ≤ 2 ^ 16) (i : Nat)
    (hi : i < s.unwinders.length) (address : FrameAddress) (regs : UnwindRegsX86_64)
    (readStack : UInt64 → Option UInt64) :
    ∃ address' : FrameAddress, address'.addressForLookup = address.addressForLookup ∧
      (∀ handle, (s.cache.lookup address.addressForLookup s.unwinders[i].modulesGeneration).1 =
        .miss handle → address' = address) ∧
      (∀ rule, (s.cache.lookup address.addressForLookup s.unwinders[i].modulesGeneration).1 =
        .hit rule → ∃ ins, s.lastInsert (slotOf address.addressForLookup) = some ins ∧
          address' = ins.frame) ∧
      (s.unwinders[i].withCache address regs s.cache readStack callback).1 =
        (s.unwinders[i].withCache address' regs RuleCache.new readStack callback).1 ∧
      (s.unwinders[i].withCache address regs s.cache readStack callback).2.1 =
        (s.unwinders[i].withCache address' regs RuleCache.new readStack callback).2.1 := by
  have hinv := hs.inv
  rcases RuleCache.lookup_cases s.cache address.addressForLookup
    s.unwinders[i].modulesGeneration with ⟨r, h⟩ | h
  · obtain ⟨ins, hins, ha, hu, hdraw, hr⟩ := hinv.hit_insertion hdraws hi h
    obtain ⟨-, hla, hmiss⟩ := ((hinv.insertion _ ins hins).2 i hi hdraw.symm)
    have hm : (s.unwinders[i].missRule ins.frame regs readStack callback).1 = .execRule r := by
      rw [UnwinderInternal.missRule_outcome hp, hmiss, hr]
    have hm' : s.unwinders[i].missRule ins.frame regs readStack callback = (.execRule r, regs) :=
      Prod.ext hm (UnwinderInternal.missRule_keeps_regs hp hm)
    refine ⟨ins.frame, hla.trans ha, (fun _ hmiss' => by rw [h] at hmiss'; cases hmiss'),
      fun _ _ => ⟨ins, hins, rfl⟩, ?_⟩
    rw [UnwinderInternal.withCache_of_hit h,
      UnwinderInternal.withCache_of_miss_rule RuleCache.new_lookup hm']
    exact ⟨rfl, rfl⟩
  · refine ⟨address, rfl, fun _ _ => rfl, (fun _ hhit => by rw [h] at hhit; cases hhit), ?_⟩
    rcases hm : s.unwinders[i].missRule address regs readStack callback with ⟨result, regs'⟩
    rcases result with rule | ra
    · rw [UnwinderInternal.withCache_of_miss_rule h hm,
        UnwinderInternal.withCache_of_miss_rule RuleCache.new_lookup hm]
      exact ⟨rfl, rfl⟩
    · rw [UnwinderInternal.withCache_of_miss_uncacheable ⟨_, h⟩ hm,
        UnwinderInternal.withCache_of_miss_uncacheable ⟨_, RuleCache.new_lookup⟩ hm]
      exact ⟨rfl, rfl⟩

theorem first_frame_matches_fresh_call_from_return_address :
    returnAddressCached.counter ≤ 2 ^ 16 ∧
    ∃ address' : FrameAddress, address'.addressForLookup = 0x1800 ∧
      (∀ handle, (returnAddressCached.cache.lookup 0x1800
        (returnAddressCached.unwinders[0]).modulesGeneration).1 = .miss handle →
          address' = .instructionPointer 0x1800) ∧
      (∀ rule, (returnAddressCached.cache.lookup 0x1800
        (returnAddressCached.unwinders[0]).modulesGeneration).1 = .hit rule →
          ∃ ins, returnAddressCached.lastInsert (slotOf 0x1800) = some ins ∧ address' = ins.frame) ∧
      ((returnAddressCached.unwinders[0]).withCache (.instructionPointer 0x1800)
          ⟨0x1800, 0x100, 0⟩ returnAddressCached.cache firstFrameStack nullCallback).1 =
        ((returnAddressCached.unwinders[0]).withCache address' ⟨0x1800, 0x100, 0⟩
          RuleCache.new firstFrameStack nullCallback).1 ∧
      ((returnAddressCached.unwinders[0]).withCache (.instructionPointer 0x1800)
          ⟨0x1800, 0x100, 0⟩ returnAddressCached.cache firstFrameStack nullCallback).2.1 =
        ((returnAddressCached.unwinders[0]).withCache address' ⟨0x1800, 0x100, 0⟩
          RuleCache.new firstFrameStack nullCallback).2.1 :=
  ⟨by decide, shared_cache_call_matches_fresh_call nullCallback_pure returnAddressCached_reachable
    (by decide) 0 (by decide) (.instructionPointer 0x1800) ⟨0x1800, 0x100, 0⟩ firstFrameStack⟩

/-- With the frame address itself the equality fails, for an adapter whose outcome depends only
on the module, the relative address and the frame kind: the first frame at `0x1800` hits the
fallback rule the return address `0x1801` cached, and with `bp = 0` that rule ends the walk,
where a fresh cache gives the first frame `JustReturn` and the caller `0x1234`. -/
theorem first_frame_hits_return_address_rule :
    ¬ ∀ callback : Callback, callback.Pure → callback.FrameKindOnly →
      ∀ s : SharedState, Reachable callback s → s.counter ≤ 2 ^ 16 →
      ∀ i (hi : i < s.unwinders.length) address regs readStack,
        (s.unwinders[i].withCache address regs s.cache readStack callback).1 =
            (s.unwinders[i].withCache address regs RuleCache.new readStack callback).1 ∧
          (s.unwinders[i].withCache address regs s.cache readStack callback).2.1 =
            (s.unwinders[i].withCache address regs RuleCache.new readStack callback).2.1 := by
  intro h
  have hsame := (h nullCallback nullCallback_pure (unwindFrameImpl_frameKindOnly _)
    returnAddressCached returnAddressCached_reachable (by decide) 0 (by decide)
    (.instructionPointer 0x1800) ⟨0x1800, 0x100, 0⟩ firstFrameStack).1
  have hshared : ((returnAddressCached.unwinders[0]).withCache
      (.instructionPointer 0x1800) ⟨0x1800, 0x100, 0⟩ returnAddressCached.cache firstFrameStack
      nullCallback).1 = .ok none := rfl
  have hfresh : ((returnAddressCached.unwinders[0]).withCache
      (.instructionPointer 0x1800) ⟨0x1800, 0x100, 0⟩ RuleCache.new firstFrameStack
      nullCallback).1 = .ok (some 0x1234) := rfl
  rw [hshared, hfresh] at hsame
  cases hsame

variable (callback) in
/-- `k` calls of `UnwinderInternal::new`. -/
def newUnwinders (s : SharedState) : Nat → SharedState
  | 0 => s
  | k + 1 => (newUnwinders s k).step callback .new

variable (callback) in
/-- `k` calls of `new` append `k` unwinders with no module, one per draw, and leave the cache. -/
theorem newUnwinders_spec (s : SharedState) (k : Nat) :
    (newUnwinders callback s k).unwinders =
        s.unwinders ++ (List.range k).map (fun m => ⟨[], UInt16.ofNat (s.counter + m)⟩) ∧
      (newUnwinders callback s k).cache = s.cache ∧
      (newUnwinders callback s k).counter = s.counter + k := by
  induction k with
  | zero => simp [newUnwinders]
  | succ k ih =>
    obtain ⟨hu, hc, hn⟩ := ih
    simp only [newUnwinders, step, UnwinderInternal.new, nextGlobalModulesGeneration, hu, hc, hn,
      List.range_succ, List.map_append, List.map_singleton, List.append_assoc, true_and]
    omega

theorem ofNat_add_two_pow_sixteen (a : Nat) : UInt16.ofNat (a + 2 ^ 16) = UInt16.ofNat a :=
  UInt16.toNat.inj (Nat.add_mod_right a (2 ^ 16))

/-- Past `2^16` draws the generations repeat: the unwinder that the `2^16`-th draw after
unwinder `i`'s last change to its module list creates has no module, yet a call of it at a frame
whose lookup address `i` has a rule cached for runs that rule, where the same call with a fresh
cache runs the fallback rule. -/
theorem new_unwinder_hits_rules_after_wrap {s : SharedState} (hs : Reachable callback s)
    {i : Nat} (hi : i < s.unwinders.length) {k : Nat}
    (hk : s.counter + k = s.drawOf i + 2 ^ 16) :
    ∃ j, ∃ hj : j < (newUnwinders callback s (k + 1)).unwinders.length,
      (newUnwinders callback s (k + 1)).unwinders[j].modules = [] ∧
      ∀ address regs readStack rule,
        (s.cache.lookup address.addressForLookup s.unwinders[i].modulesGeneration).1 =
          .hit rule →
        ((newUnwinders callback s (k + 1)).unwinders[j].withCache address regs
            (newUnwinders callback s (k + 1)).cache readStack callback).1 =
          (rule.exec regs readStack).1 ∧
        ((newUnwinders callback s (k + 1)).unwinders[j].withCache address regs RuleCache.new
            readStack callback).1 = (UnwindRuleX86_64.fallbackRule.exec regs readStack).1 := by
  obtain ⟨hu, hc, -⟩ := newUnwinders_spec callback s (k + 1)
  have hgen := (hs.inv.generation i hi).1
  have hj : s.unwinders.length + k < (newUnwinders callback s (k + 1)).unwinders.length := by
    simp only [hu, List.length_append, List.length_map, List.length_range]
    omega
  have huj : (newUnwinders callback s (k + 1)).unwinders[s.unwinders.length + k] =
      ⟨[], s.unwinders[i].modulesGeneration⟩ := by
    simp only [hu, List.getElem_append_right (Nat.le_add_right _ _), Nat.add_sub_cancel_left,
      List.getElem_map, List.getElem_range, hgen, hk, ofNat_add_two_pow_sixteen]
  refine ⟨_, hj, by rw [huj], fun address regs readStack rule hhit => ⟨?_, ?_⟩⟩
  · have hhit' : (s.cache.lookup address.addressForLookup
        (⟨[], s.unwinders[i].modulesGeneration⟩ : UnwinderInternal).modulesGeneration).1 =
          .hit rule := hhit
    rw [huj, hc, UnwinderInternal.withCache_of_hit hhit']
  · have hmiss : (⟨[], s.unwinders[i].modulesGeneration⟩ : UnwinderInternal).missRule address
        regs readStack callback = (.execRule UnwindRuleX86_64.fallbackRule, regs) := rfl
    rw [huj, UnwinderInternal.withCache_of_miss_rule RuleCache.new_lookup hmiss]

/-- One unwinder over `cuiModule` with frameless functions unwinds the first frame at `0x1800`,
caching `OffsetSp { sp_offset_by_8: 2 }` for it. -/
def framelessCached : SharedState :=
  ((init.step framelessCallback .new).step framelessCallback (.addModule 0 cuiModule)).step
    framelessCallback (.unwindFrame 0 (.instructionPointer 0x1800) ⟨0x1800, 0x100, 0⟩ fun _ => none)

theorem framelessCached_reachable : Reachable framelessCallback framelessCached :=
  .step _ (.step _ (.step _ .init))

/-- A stack whose return-address slot for `sp = 0x110` holds `0x1234`. -/
def framelessReturnStack (address : UInt64) : Option UInt64 :=
  if address = 0x108 then some 0x1234 else none

/-- `2^16` draws after unwinder `0` cached `OffsetSp { sp_offset_by_8: 2 }`, the new unwinder,
which has no module, runs that rule at the first frame `0x1800` with `bp = 0` and yields the
caller `0x1234`; with a fresh cache it runs the fallback rule, which ends the walk there. -/
theorem new_unwinder_after_wrap_hits_cached_rule :
    framelessCached.counter + 65535 = framelessCached.drawOf 0 + 2 ^ 16 ∧
    (framelessCached.cache.lookup 0x1800 (framelessCached.unwinders[0]).modulesGeneration).1 =
      .hit (.offsetSp 2) ∧
    ∃ j, ∃ hj : j < (newUnwinders framelessCallback framelessCached (65535 + 1)).unwinders.length,
      (newUnwinders framelessCallback framelessCached (65535 + 1)).unwinders[j].modules = [] ∧
      ((newUnwinders framelessCallback framelessCached (65535 + 1)).unwinders[j].withCache
          (.instructionPointer 0x1800) ⟨0x1800, 0x100, 0⟩
          (newUnwinders framelessCallback framelessCached (65535 + 1)).cache
          framelessReturnStack framelessCallback).1 = .ok (some 0x1234) ∧
      ((newUnwinders framelessCallback framelessCached (65535 + 1)).unwinders[j].withCache
          (.instructionPointer 0x1800) ⟨0x1800, 0x100, 0⟩ RuleCache.new framelessReturnStack
          framelessCallback).1 = .ok none := by
  have hk : framelessCached.counter + 65535 = framelessCached.drawOf 0 + 2 ^ 16 := by decide
  have hhit : (framelessCached.cache.lookup 0x1800
      (framelessCached.unwinders[0]).modulesGeneration).1 = .hit (.offsetSp 2) := rfl
  obtain ⟨j, hj, hmod, hcall⟩ :=
    new_unwinder_hits_rules_after_wrap framelessCached_reachable (by decide) hk
  obtain ⟨hshared, hfresh⟩ := hcall (.instructionPointer 0x1800) ⟨0x1800, 0x100, 0⟩
    framelessReturnStack _ hhit
  exact ⟨hk, hhit, j, hj, hmod, hshared.trans rfl, hfresh.trans rfl⟩

end SharedState

end Framehop

import Framehop.Registry
import Framehop.RuleCache
import Framehop.Macho

/-!
# The unwind-data dispatcher

`UnwinderInternal::with_cache`, `unwind_frame` and `unwind_frame_impl` from `unwinder.rs`. A
call looks the frame's lookup address up in the rule cache under the unwinder's
`modules_generation`. A hit runs the cached rule. A miss finds the module, asks its unwind
data for a rule through a callback, caches the rule (or the fallback rule when there is no
module or the callback fails) and runs it; an `Uncacheable` result is returned as it is.

The format code the dispatcher drives lies partly outside the source: the `__unwind_info` table
lookup, instruction analysis, the `.eh_frame_hdr` lookup and the DWARF evaluator. They enter as
the fields of `Externals`. The x86-64 `exec` of the source takes no `is_first_frame`, so the
flag `with_cache` passes to it is dropped.

What one call does is said once per path (`withCache_of_hit`, `withCache_of_miss_rule`,
`withCache_of_miss_uncacheable`). The walk's results need of a call only that its miss path run
a rule on the registers it was given (`MissRunsRule`), an assumption about that one frame: the
call then runs one rule, the cached one or the miss path's, and leaves it cached
(`withCache_runs_rule`). The file ends with the module `cuiModule`, whose compact unwind info
gives every address one function, and with `__stubs` sections at and below the stated base.
-/

namespace Framehop

/-- Modelled from the spec (`lib.rs` is not in the source): the address of a frame, the
instruction pointer of the innermost frame or a return address, which is never zero. -/
inductive FrameAddress where
  | instructionPointer (address : UInt64)
  | returnAddress (address : {a : UInt64 // a ≠ 0})
  deriving DecidableEq

namespace FrameAddress

/-- `FrameAddress::from_return_address`: `None` for a zero return address. -/
def fromReturnAddress (returnAddress : UInt64) : Option FrameAddress :=
  if h : returnAddress = 0 then none else some (.returnAddress ⟨returnAddress, h⟩)

def isReturnAddress : FrameAddress → Bool
  | .instructionPointer _ => false
  | .returnAddress _ => true

/-- The address a rule is looked up for: a return address points after its call, so the call
itself is at `ra - 1`. -/
def addressForLookup : FrameAddress → UInt64
  | .instructionPointer address => address
  | .returnAddress address => address.val - 1

end FrameAddress

/-- Modelled from the spec (`unwind_result.rs` is not in the source): a rule to cache and run,
or a return address the DWARF evaluator computed directly, which must not be cached. -/
inductive UnwindResult (R : Type) where
  | execRule (rule : R)
  | uncacheable (returnAddress : UInt64)
  deriving DecidableEq, Repr

/-- The adapter errors. `error.rs` lists the first six; `unwinder.rs` also raises
`NoModuleUnwindData` and `DwarfCfiIndexCouldNotFindAddress`. -/
inductive UnwinderError where
  | compactUnwindInfo (error : CompactUnwindInfoUnwinderError)
  | dwarf (error : DwarfUnwinderError)
  | noDwarfData
  | unhandledUnwindDataType
  | noUnwindData
  | ehFrameHdrCouldNotFindAddress
  | noModuleUnwindData
  | dwarfCfiIndexCouldNotFindAddress
  deriving DecidableEq, Repr

/-- `From<CompactUnwindInfoUnwinderError> for UnwinderError`. -/
def UnwinderError.ofCompactUnwindInfo : CompactUnwindInfoUnwinderError → UnwinderError
  | .badDwarfUnwinding e => .dwarf e
  | e => .compactUnwindInfo e

structure Function where
  startAddress : UInt32
  opcode : OpcodeX86_64

structure TextBytes where
  offsetFromBase : UInt32
  bytes : Bytes

inductive UnwindSectionType where
  | ehFrame
  | debugFrame
  deriving DecidableEq, Repr

/-- The code outside the source that the dispatcher calls: the `__unwind_info` lookup, instruction
analysis (`InstructionAnalysis::rule_from_instruction_analysis`), the `.eh_frame_hdr` search
table lookup of an FDE offset, and the DWARF evaluator. -/
structure Externals where
  /-- The `__unwind_info` lookup of the macho_unwind_info crate: the function entry covering a
  relative address, and its bytes when the text bytes cover it. -/
  lookupFunction : Bytes → Option TextBytes → UInt32 →
    Except CompactUnwindInfoUnwinderError (Function × Option Bytes)
  ruleFromInstructionAnalysis : Bytes → Nat → Option UnwindRuleX86_64
  fdeOffsetFromEhFrameHdr : Bytes → Bytes → UInt32 → Option UInt32
  /-- `DwarfUnwinder::unwind_frame_with_fde` for a section, the module's `base_svma`, the
  registers, `is_first_frame`, the relative address and the FDE offset: its result and the
  registers it leaves. -/
  unwindFrameWithFde : UnwindSectionType → Bytes → UInt64 → UnwindRegsX86_64 → Bool → UInt32 →
    UInt32 → (UInt64 → Option UInt64) →
    Except DwarfUnwinderError (UnwindResult UnwindRuleX86_64) × UnwindRegsX86_64

/-- Modelled from the spec (`dwarf.rs` is not in the source): the FDE of the last entry whose
start is at or below the address, whether or not the FDE covers it. -/
def DwarfCfiIndex.fdeOffsetForRelativeAddress (index : DwarfCfiIndex) (relPc : UInt32) :
    Option UInt32 :=
  ((index.entries.filter (·.1 ≤ relPc)).getLast?).map (·.2)

/-- Modelled from the spec (the arch-independent `macho.rs` is not in the source): the
compact unwind info of a module, with the `__stubs` and `__stub_helper` ranges relative to
its base. -/
structure CompactUnwindInfoUnwinder where
  unwindInfo : Bytes
  textBytes : Option TextBytes
  stubs : UInt32 × UInt32
  stubHelper : UInt32 × UInt32

/-- Modelled from the spec: an address in `__stubs` gets `rule_for_stub_functions`; any other
address is looked up in `__unwind_info` and its function's opcode translated. -/
def CompactUnwindInfoUnwinder.unwindFrame (ext : Externals) (self : CompactUnwindInfoUnwinder)
    (relPc : UInt32) (isFirstFrame : Bool) :
    Except CompactUnwindInfoUnwinderError (CuiUnwindResult UnwindRuleX86_64) :=
  if self.stubs.1 ≤ relPc ∧ relPc < self.stubs.2 then
    .ok (.execRule UnwindRuleX86_64.ruleForStubFunctions)
  else do
    let (function, functionBytes) ← ext.lookupFunction self.unwindInfo self.textBytes relPc
    Framehop.unwindFrame ext.ruleFromInstructionAnalysis function.opcode isFirstFrame
      (relPc - function.startAddress).toNat functionBytes

def relativeRange (baseSvma : UInt64) : Option Range → UInt32 × UInt32
  | some range => ((range.start - baseSvma).toUInt32, (range.end - baseSvma).toUInt32)
  | none => (0, 0)

theorem UInt32.le_iff_toNat (x y : UInt32) : x ≤ y ↔ x.toNat ≤ y.toNat := Iff.rfl
theorem UInt32.lt_iff_toNat (x y : UInt32) : x < y ↔ x.toNat < y.toNat := Iff.rfl

/-- A bound at or above the base and less than `4 GiB` above it is passed as its distance from
the base: the subtraction does not wrap and the cast does not truncate. -/
theorem relativeRange_bound_toNat {baseSvma x : UInt64} (hle : baseSvma ≤ x)
    (hlt : x.toNat < baseSvma.toNat + 2 ^ 32) :
    ((x - baseSvma).toUInt32).toNat = x.toNat - baseSvma.toNat := by
  rw [UInt64.toUInt32_toNat, UInt64.toNat_sub_of_le _ _ hle]
  exact Nat.mod_eq_of_lt (by omega)

/-- For a section at or above the stated base and ending less than `4 GiB` above it, the range
passed to the adapter holds exactly the relative addresses whose stated address lies in the
section. -/
theorem relativeRange_mem_iff {baseSvma : UInt64} {range : Range}
    (hstart : baseSvma ≤ range.start) (hle : range.start ≤ range.end)
    (hend : range.end.toNat < baseSvma.toNat + 2 ^ 32) (r : UInt32) :
    ((relativeRange baseSvma (some range)).1 ≤ r ∧ r < (relativeRange baseSvma (some range)).2) ↔
      range.start.toNat ≤ baseSvma.toNat + r.toNat ∧
        baseSvma.toNat + r.toNat < range.end.toNat := by
  have : range.start.toNat ≤ range.end.toNat := hle
  simp only [relativeRange, UInt32.le_iff_toNat, UInt32.lt_iff_toNat,
    relativeRange_bound_toNat hstart (by omega),
    relativeRange_bound_toNat (UInt64.le_trans hstart hle) hend]
  omega

/-- The miss-path callback's type: a module, the frame address, the address relative to the
module's base, the registers and the stack reader, to a result and the registers left. -/
abbrev Callback := Module → FrameAddress → UInt32 → UnwindRegsX86_64 →
  (UInt64 → Option UInt64) → Except UnwinderError (UnwindResult UnwindRuleX86_64) × UnwindRegsX86_64

section Impl
variable (ext : Externals)

def dwarfResult : Except DwarfUnwinderError (UnwindResult UnwindRuleX86_64) × UnwindRegsX86_64 →
    Except UnwinderError (UnwindResult UnwindRuleX86_64) × UnwindRegsX86_64
  | (.ok result, regs) => (.ok result, regs)
  | (.error e, regs) => (.error (.dwarf e), regs)

def unwindFrameImpl : Callback := fun module address relLookupAddress regs readStack =>
  let isFirstFrame := !address.isReturnAddress
  let withFde (sectionType : UnwindSectionType) (data : Bytes) (fdeOffset : UInt32) :=
    dwarfResult (ext.unwindFrameWithFde sectionType data module.baseSvma regs isFirstFrame
      relLookupAddress fdeOffset readStack)
  match module.unwindData with
  | .compactUnwindInfoAndEhFrame unwindInfo ehFrame stubs stubHelper textData =>
    let textBytes := textData.bind fun data =>
      (u32TryFrom data.svmaRange.start).map fun offsetFromBase => ⟨offsetFromBase, data.bytes⟩
    let unwinder : CompactUnwindInfoUnwinder := ⟨unwindInfo, textBytes,
      relativeRange module.baseSvma stubs, relativeRange module.baseSvma stubHelper⟩
    match unwinder.unwindFrame ext relLookupAddress isFirstFrame with
    | .error e => (.error (.ofCompactUnwindInfo e), regs)
    | .ok (.execRule rule) => (.ok (.execRule rule), regs)
    | .ok (.needDwarf fdeOffset) =>
      match ehFrame with
      | none => (.error .noDwarfData, regs)
      | some ehFrame => withFde .ehFrame ehFrame fdeOffset
  | .ehFrameHdrAndEhFrame ehFrameHdr ehFrame =>
    match ext.fdeOffsetFromEhFrameHdr ehFrameHdr ehFrame relLookupAddress with
    | none => (.error .ehFrameHdrCouldNotFindAddress, regs)
    | some fdeOffset => withFde .ehFrame ehFrame fdeOffset
  | .dwarfCfiIndexAndEhFrame index ehFrame =>
    match index.fdeOffsetForRelativeAddress relLookupAddress with
    | none => (.error .dwarfCfiIndexCouldNotFindAddress, regs)
    | some fdeOffset => withFde .ehFrame ehFrame fdeOffset
  | .dwarfCfiIndexAndDebugFrame index debugFrame =>
    match index.fdeOffsetForRelativeAddress relLookupAddress with
    | none => (.error .dwarfCfiIndexCouldNotFindAddress, regs)
    | some fdeOffset => withFde .debugFrame debugFrame fdeOffset
  | .none => (.error .noModuleUnwindData, regs)

/-- With `__stubs` at or above the stated base and ending less than `4 GiB` above it, a relative
address whose stated address lies in `__stubs` is unwound with the stub rule, whatever the
unwind info says. -/
theorem unwindFrameImpl_in_stubs {module : Module} {unwindInfo : Bytes}
    {ehFrame : Option Bytes} {range : Range} {stubHelper : Option Range}
    {textData : Option TextByteData}
    (hdata : module.unwindData =
      .compactUnwindInfoAndEhFrame unwindInfo ehFrame (some range) stubHelper textData)
    (hstart : module.baseSvma ≤ range.start) (hle : range.start ≤ range.end)
    (hend : range.end.toNat < module.baseSvma.toNat + 2 ^ 32) (address : FrameAddress)
    (r : UInt32) (regs : UnwindRegsX86_64) (readStack : UInt64 → Option UInt64)
    (hr : range.start.toNat ≤ module.baseSvma.toNat + r.toNat ∧
      module.baseSvma.toNat + r.toNat < range.end.toNat) :
    unwindFrameImpl ext module address r regs readStack =
      (.ok (.execRule UnwindRuleX86_64.ruleForStubFunctions), regs) := by
  have h := (relativeRange_mem_iff hstart hle hend r).mpr hr
  simp [unwindFrameImpl, hdata, CompactUnwindInfoUnwinder.unwindFrame, h]

/-- The callback unwinds by rules only: it never answers `Uncacheable` and it leaves the
registers as they were. -/
def Callback.RulesOnly (callback : Callback) : Prop :=
  ∀ m f rel regs readStack, (∀ ra, (callback m f rel regs readStack).1 ≠ .ok (.uncacheable ra)) ∧
    (callback m f rel regs readStack).2 = regs

def Callback.RulesSatisfy (callback : Callback) (P : UnwindRuleX86_64 → Prop) : Prop :=
  ∀ m f rel regs readStack rule,
    (callback m f rel regs readStack).1 = .ok (.execRule rule) → P rule

/-- The DWARF evaluator unwinds by rules only. -/
def Externals.DwarfRulesOnly (ext : Externals) : Prop :=
  ∀ sectionType data baseSvma regs isFirstFrame rel fdeOffset readStack,
    (∀ ra, (ext.unwindFrameWithFde sectionType data baseSvma regs isFirstFrame rel fdeOffset
      readStack).1 ≠ .ok (.uncacheable ra)) ∧
    (ext.unwindFrameWithFde sectionType data baseSvma regs isFirstFrame rel fdeOffset
      readStack).2 = regs

/-- The callback's outcome depends on the module, the frame address and the relative address,
not on the registers or the stack; and it leaves the registers alone unless it answers
`Uncacheable`. -/
structure Callback.Pure (callback : Callback) : Prop where
  outcome : ∀ m f rel regs regs' readStack readStack',
    (callback m f rel regs readStack).1 = (callback m f rel regs' readStack').1
  keeps_regs : ∀ m f rel regs readStack,
    (∀ ra, (callback m f rel regs readStack).1 ≠ .ok (.uncacheable ra)) →
      (callback m f rel regs readStack).2 = regs

/-- The callback's outcome depends on the frame address only through whether it is the first
frame. -/
def Callback.FrameKindOnly (callback : Callback) : Prop :=
  ∀ m f f' rel regs readStack, f.isReturnAddress = f'.isReturnAddress →
    (callback m f rel regs readStack).1 = (callback m f' rel regs readStack).1

/-- The DWARF evaluator, as `Callback.Pure` asks of a callback. -/
structure Externals.DwarfPure (ext : Externals) : Prop where
  outcome : ∀ sectionType data baseSvma regs regs' isFirstFrame rel fdeOffset readStack
    readStack', (ext.unwindFrameWithFde sectionType data baseSvma regs isFirstFrame rel fdeOffset
      readStack).1 = (ext.unwindFrameWithFde sectionType data baseSvma regs' isFirstFrame rel
        fdeOffset readStack').1
  keeps_regs : ∀ sectionType data baseSvma regs isFirstFrame rel fdeOffset readStack,
    (∀ ra, (ext.unwindFrameWithFde sectionType data baseSvma regs isFirstFrame rel fdeOffset
      readStack).1 ≠ .ok (.uncacheable ra)) →
    (ext.unwindFrameWithFde sectionType data baseSvma regs isFirstFrame rel fdeOffset
      readStack).2 = regs

theorem dwarfResult_fst {x y : Except DwarfUnwinderError (UnwindResult UnwindRuleX86_64) ×
      UnwindRegsX86_64} (h : x.1 = y.1) : (dwarfResult x).1 = (dwarfResult y).1 := by
  obtain ⟨a, _⟩ := x
  obtain ⟨b, _⟩ := y
  cases h
  cases a <;> rfl

theorem dwarfResult_keeps {x : Except DwarfUnwinderError (UnwindResult UnwindRuleX86_64) ×
      UnwindRegsX86_64} {regs : UnwindRegsX86_64}
    (h : (∀ ra, x.1 ≠ .ok (.uncacheable ra)) → x.2 = regs) :
    (∀ ra, (dwarfResult x).1 ≠ .ok (.uncacheable ra)) → (dwarfResult x).2 = regs := by
  obtain ⟨a, r⟩ := x
  cases a <;> simp_all [dwarfResult]

/-- Only the DWARF evaluator sees the registers and the stack, so the dispatcher's callback is
pure when the evaluator is. -/
theorem unwindFrameImpl_pure (h : ext.DwarfPure) : (unwindFrameImpl ext).Pure := by
  constructor
  · intro m f rel regs regs' readStack readStack'
    simp only [unwindFrameImpl]
    repeat' split
    all_goals first | rfl | exact dwarfResult_fst (h.outcome _ _ _ _ _ _ _ _ _ _)
  · intro m f rel regs readStack
    simp only [unwindFrameImpl]
    repeat' split
    all_goals first | exact fun _ => rfl | exact dwarfResult_keeps (h.keeps_regs _ _ _ _ _ _ _ _)

theorem unwindFrameImpl_frameKindOnly : (unwindFrameImpl ext).FrameKindOnly := by
  intro m f f' rel regs readStack hk
  simp only [unwindFrameImpl, hk]

theorem dwarfResult_rulesOnly {x : Except DwarfUnwinderError (UnwindResult UnwindRuleX86_64) ×
      UnwindRegsX86_64} {regs : UnwindRegsX86_64}
    (h : (∀ ra, x.1 ≠ .ok (.uncacheable ra)) ∧ x.2 = regs) :
    (∀ ra, (dwarfResult x).1 ≠ .ok (.uncacheable ra)) ∧ (dwarfResult x).2 = regs := by
  obtain ⟨result, regs'⟩ := x
  cases result <;> simpa [dwarfResult] using h

/-- The compact-unwind path never changes the registers, so the dispatcher's callback unwinds by
rules only when the DWARF evaluator does. -/
theorem unwindFrameImpl_rulesOnly (h : ext.DwarfRulesOnly) : (unwindFrameImpl ext).RulesOnly := by
  intro m f rel regs readStack
  simp only [unwindFrameImpl]
  repeat' split
  all_goals first
    | exact dwarfResult_rulesOnly (h _ _ _ _ _ _ _ _)
    | exact ⟨by simp, rfl⟩

theorem dwarfResult_execRule {x : Except DwarfUnwinderError (UnwindResult UnwindRuleX86_64) ×
      UnwindRegsX86_64} {rule : UnwindRuleX86_64}
    (h : (dwarfResult x).1 = .ok (.execRule rule)) : x.1 = .ok (.execRule rule) := by
  obtain ⟨result, regs'⟩ := x
  cases result
  · simp [dwarfResult] at h
  · simpa [dwarfResult] using h

theorem unwindFrameImpl_rulesSatisfy {P : UnwindRuleX86_64 → Prop}
    (hcui : ∀ (cui : CompactUnwindInfoUnwinder) rel isFirstFrame rule,
      cui.unwindFrame ext rel isFirstFrame = .ok (.execRule rule) → P rule)
    (hdwarf : ∀ sectionType data baseSvma regs isFirstFrame rel fdeOffset readStack rule,
      (ext.unwindFrameWithFde sectionType data baseSvma regs isFirstFrame rel fdeOffset
        readStack).1 = .ok (.execRule rule) → P rule) :
    (unwindFrameImpl ext).RulesSatisfy P := by
  intro m f rel regs readStack rule h
  simp only [unwindFrameImpl] at h
  repeat' split at h
  all_goals first
    | exact hdwarf _ _ _ _ _ _ _ _ _ (dwarfResult_execRule h)
    | cases h; exact hcui _ _ _ _ ‹_›
    | cases h

end Impl

namespace UnwinderInternal

open UnwindRuleX86_64

/-- The miss path of `with_cache` up to the insert: the rule to cache and run (the fallback rule
when no module holds the address or the callback fails), or an uncacheable return address;
with the registers the callback left. -/
def missRule (self : UnwinderInternal) (address : FrameAddress) (regs : UnwindRegsX86_64)
    (readStack : UInt64 → Option UInt64) (callback : Callback) :
    UnwindResult UnwindRuleX86_64 × UnwindRegsX86_64 :=
  match self.findModuleForAddress address.addressForLookup with
  | none => (.execRule fallbackRule, regs)
  | some (moduleIndex, relativeLookupAddress) =>
    match callback self.modules[moduleIndex]! address relativeLookupAddress regs readStack with
    | (.ok (.execRule rule), regs) => (.execRule rule, regs)
    | (.ok (.uncacheable returnAddress), regs) => (.uncacheable returnAddress, regs)
    | (.error _, regs) => (.execRule fallbackRule, regs)

def withCache (self : UnwinderInternal) (address : FrameAddress) (regs : UnwindRegsX86_64)
    (cache : RuleCache UnwindRuleX86_64) (readStack : UInt64 → Option UInt64)
    (callback : Callback) :
    Except Error (Option UInt64) × UnwindRegsX86_64 × RuleCache UnwindRuleX86_64 :=
  match cache.lookup address.addressForLookup self.modulesGeneration with
  | (.hit unwindRule, cache) =>
    let (result, regs) := unwindRule.exec regs readStack
    (result, regs, cache)
  | (.miss cacheHandle, cache) =>
    match self.missRule address regs readStack callback with
    | (.uncacheable returnAddress, regs) => (.ok (some returnAddress), regs, cache)
    | (.execRule unwindRule, regs) =>
      let cache := cache.insert cacheHandle unwindRule
      let (result, regs) := unwindRule.exec regs readStack
      (result, regs, cache)

def unwindFrame (ext : Externals) (self : UnwinderInternal) (address : FrameAddress)
    (regs : UnwindRegsX86_64) (cache : RuleCache UnwindRuleX86_64)
    (readStack : UInt64 → Option UInt64) :
    Except Error (Option UInt64) × UnwindRegsX86_64 × RuleCache UnwindRuleX86_64 :=
  self.withCache address regs cache readStack (unwindFrameImpl ext)

/-- The rule a call inserts into the cache: the miss path's rule on a miss, nothing on a hit
or on an uncacheable result. -/
def insertedRule (self : UnwinderInternal) (address : FrameAddress) (regs : UnwindRegsX86_64)
    (cache : RuleCache UnwindRuleX86_64) (readStack : UInt64 → Option UInt64)
    (callback : Callback) : Option UnwindRuleX86_64 :=
  match (cache.lookup address.addressForLookup self.modulesGeneration).1 with
  | .hit _ => none
  | .miss _ =>
    match (self.missRule address regs readStack callback).1 with
    | .execRule rule => some rule
    | .uncacheable _ => none

/-- The miss path of a call at this frame runs a rule on the registers the call was given: the
module's callback neither answers `Uncacheable` here nor moves the registers. -/
def MissRunsRule (self : UnwinderInternal) (address : FrameAddress) (regs : UnwindRegsX86_64)
    (readStack : UInt64 → Option UInt64) (callback : Callback) : Prop :=
  ∃ rule, self.missRule address regs readStack callback = (.execRule rule, regs)

variable {self : UnwinderInternal} {address : FrameAddress} {regs : UnwindRegsX86_64}
  {cache : RuleCache UnwindRuleX86_64} {readStack : UInt64 → Option UInt64} {callback : Callback}

/-- A hit runs the cached rule on the registers and changes only the cache's statistics. -/
theorem withCache_of_hit {rule : UnwindRuleX86_64}
    (h : (cache.lookup address.addressForLookup self.modulesGeneration).1 = .hit rule) :
    self.withCache address regs cache readStack callback =
      ((rule.exec regs readStack).1, (rule.exec regs readStack).2,
        (cache.lookup address.addressForLookup self.modulesGeneration).2) := by
  unfold withCache
  split <;> simp_all

/-- A miss caches the miss path's rule under the frame's lookup address and runs it. -/
theorem withCache_of_miss_rule {rule : UnwindRuleX86_64} {regs' : UnwindRegsX86_64}
    (h : (cache.lookup address.addressForLookup self.modulesGeneration).1 =
      .miss ⟨slotOf address.addressForLookup, address.addressForLookup, self.modulesGeneration⟩)
    (hm : self.missRule address regs readStack callback = (.execRule rule, regs')) :
    self.withCache address regs cache readStack callback =
      ((rule.exec regs' readStack).1, (rule.exec regs' readStack).2,
        (cache.lookup address.addressForLookup self.modulesGeneration).2.insert
          ⟨slotOf address.addressForLookup, address.addressForLookup, self.modulesGeneration⟩
          rule) := by
  unfold withCache
  split
  · simp_all
  · rename_i handle _ hl
    rw [hl] at h
    cases h
    simp only [hm, hl]

theorem withCache_of_miss_uncacheable {ra : UInt64} {regs' : UnwindRegsX86_64}
    (h : ∃ handle, (cache.lookup address.addressForLookup self.modulesGeneration).1 =
      .miss handle)
    (hm : self.missRule address regs readStack callback = (.uncacheable ra, regs')) :
    self.withCache address regs cache readStack callback =
      (.ok (some ra), regs', (cache.lookup address.addressForLookup self.modulesGeneration).2) := by
  obtain ⟨handle, h⟩ := h
  unfold withCache
  split
  · simp_all
  · simp only [hm]
    congr
    simp_all

variable (self address regs readStack) in
theorem missRule_rulesOnly (hcb : callback.RulesOnly) {P : UnwindRuleX86_64 → Prop}
    (hP : P fallbackRule) (hcbP : callback.RulesSatisfy P) :
    ∃ rule, P rule ∧ self.missRule address regs readStack callback = (.execRule rule, regs) := by
  unfold missRule
  split
  · exact ⟨_, hP, rfl⟩
  · rename_i i rel _
    obtain ⟨hu, hr⟩ := hcb self.modules[i]! address rel regs readStack
    split
    · rename_i rule regs' hc
      rw [hc] at hr
      exact ⟨rule, hcbP _ _ _ _ _ _ (by rw [hc]), by rw [← hr]⟩
    · rename_i ra regs' hc
      exact absurd (by rw [hc]) (hu ra)
    · rename_i regs' hc
      rw [hc] at hr
      exact ⟨_, hP, by rw [← hr]⟩

/-- The cache after a call: the slot of the frame's lookup address holds the inserted rule under
the unwinder's generation, and every other slot is as it was. -/
theorem withCache_entries : (self.withCache address regs cache readStack callback).2.2.entries =
    match self.insertedRule address regs cache readStack callback with
    | some rule => Function.update cache.entries (slotOf address.addressForLookup)
        (some ⟨address.addressForLookup, self.modulesGeneration, rule⟩)
    | none => cache.entries := by
  rcases RuleCache.lookup_cases cache address.addressForLookup self.modulesGeneration
    with ⟨rule, h⟩ | h
  · rw [withCache_of_hit h]
    simp [insertedRule, h]
  · rcases hm : self.missRule address regs readStack callback with ⟨result, regs'⟩
    rcases result with rule | ra
    · rw [withCache_of_miss_rule h hm]
      simp [insertedRule, h, hm]
    · rw [withCache_of_miss_uncacheable ⟨_, h⟩ hm]
      simp [insertedRule, h, hm]

/-- A call looks the cache up exactly once: its statistics afterwards are those of that one
lookup, whatever the miss path does. -/
theorem withCache_stats : (self.withCache address regs cache readStack callback).2.2.stats =
    (cache.lookup address.addressForLookup self.modulesGeneration).2.stats := by
  rcases RuleCache.lookup_cases cache address.addressForLookup self.modulesGeneration
    with ⟨rule, h⟩ | h
  · rw [withCache_of_hit h]
  · rcases hm : self.missRule address regs readStack callback with ⟨result, regs'⟩
    rcases result with rule | ra
    · rw [withCache_of_miss_rule h hm, RuleCache.insert_stats]
    · rw [withCache_of_miss_uncacheable ⟨_, h⟩ hm]

theorem insertedRule_eq_some {rule : UnwindRuleX86_64}
    (h : self.insertedRule address regs cache readStack callback = some rule) :
    (self.missRule address regs readStack callback).1 = .execRule rule := by
  unfold insertedRule at h
  split at h
  · cases h
  · split at h
    · cases h; assumption
    · cases h

/-- With a pure callback the miss path's rule, or uncacheable address, does not depend on the
registers or the stack. -/
theorem missRule_outcome (hp : callback.Pure) (regs' : UnwindRegsX86_64)
    (readStack' : UInt64 → Option UInt64) :
    (self.missRule address regs readStack callback).1 =
      (self.missRule address regs' readStack' callback).1 := by
  unfold missRule
  split
  · rfl
  · rename_i i rel _
    have h := hp.outcome self.modules[i]! address rel regs regs' readStack readStack'
    generalize callback self.modules[i]! address rel regs readStack = x at h ⊢
    generalize callback self.modules[i]! address rel regs' readStack' = y at h ⊢
    obtain ⟨o, r⟩ := x
    obtain ⟨o', r'⟩ := y
    simp only at h
    subst h
    rcases o with _ | _ | _ <;> rfl

theorem missRule_keeps_regs (hp : callback.Pure) {rule : UnwindRuleX86_64}
    (h : (self.missRule address regs readStack callback).1 = .execRule rule) :
    (self.missRule address regs readStack callback).2 = regs := by
  unfold missRule at h ⊢
  split
  · rfl
  · rename_i i rel heq
    simp only [heq] at h
    have hk := hp.keeps_regs self.modules[i]! address rel regs readStack
    generalize callback self.modules[i]! address rel regs readStack = x at h hk ⊢
    obtain ⟨o, r⟩ := x
    rcases o with _ | _ | ra
    · exact hk (by simp)
    · exact hk (by simp)
    · cases h

variable (self address regs readStack) in
theorem missRunsRule_of_rulesOnly (hcb : callback.RulesOnly) :
    self.MissRunsRule address regs readStack callback := by
  obtain ⟨rule, -, h⟩ := missRule_rulesOnly self address regs readStack hcb (P := fun _ => True)
    trivial fun _ _ _ _ _ _ _ => trivial
  exact ⟨rule, h⟩

variable (self address regs cache readStack) in
/-- A call whose miss path runs a rule runs one rule on the registers it was given: the rule the
cache holds for the frame under the unwinder's generation, or else the miss path's. The call
leaves that rule cached for the frame. -/
theorem withCache_runs_rule (hm : self.MissRunsRule address regs readStack callback) :
    ∃ rule, ((cache.lookup address.addressForLookup self.modulesGeneration).1 = .hit rule ∨
        self.missRule address regs readStack callback = (.execRule rule, regs)) ∧
      (self.withCache address regs cache readStack callback).1 = (rule.exec regs readStack).1 ∧
      (self.withCache address regs cache readStack callback).2.1 =
        (rule.exec regs readStack).2 ∧
      ((self.withCache address regs cache readStack callback).2.2.lookup
        address.addressForLookup self.modulesGeneration).1 = .hit rule := by
  rcases RuleCache.lookup_cases cache address.addressForLookup self.modulesGeneration
    with ⟨rule, h⟩ | h
  · rw [withCache_of_hit h]
    refine ⟨rule, .inl h, rfl, rfl, ?_⟩
    rw [RuleCache.lookup_eq_hit, RuleCache.lookup_entries]
    exact RuleCache.lookup_eq_hit.mp h
  · obtain ⟨rule, hmr⟩ := hm
    rw [withCache_of_miss_rule h hmr]
    exact ⟨rule, .inr hmr, rfl, rfl, RuleCache.lookup_insert_self rule⟩

theorem withCache_ne_zero (hm : self.MissRunsRule address regs readStack callback) :
    (self.withCache address regs cache readStack callback).1 ≠ .ok (some 0) := by
  obtain ⟨rule, -, hres, -⟩ := withCache_runs_rule self address regs cache readStack hm
  rw [hres]
  rcases exec_cases rule regs readStack with ⟨-, hnot⟩ | ⟨ra, _, _, -, -, hra, hexec⟩
  · exact hnot 0
  · rw [hexec]
    simpa using hra

theorem withCache_ne_returnAddressIsNull (hm : self.MissRunsRule address regs readStack callback) :
    (self.withCache address regs cache readStack callback).1 ≠ .error .returnAddressIsNull := by
  obtain ⟨rule, -, hres, -⟩ := withCache_runs_rule self address regs cache readStack hm
  rw [hres]
  exact exec_ne_returnAddressIsNull rule regs readStack

/-- A call that answers a return address moves `sp` strictly up when the rule it ran, the cached
one or the miss path's, moves `sp`. -/
theorem withCache_sp_lt (hm : self.MissRunsRule address regs readStack callback) {ra : UInt64}
    (h : (self.withCache address regs cache readStack callback).1 = .ok (some ra)) :
    ∃ rule, ((cache.lookup address.addressForLookup self.modulesGeneration).1 = .hit rule ∨
        self.missRule address regs readStack callback = (.execRule rule, regs)) ∧
      (rule.advancesSp →
        regs.sp.toNat < (self.withCache address regs cache readStack callback).2.1.sp.toNat) := by
  obtain ⟨rule, hr, hres, hregs, -⟩ := withCache_runs_rule self address regs cache readStack hm
  rw [hregs]
  rcases exec_cases rule regs readStack with ⟨-, hnot⟩ | ⟨ra', newSp, newBp, hnew, -, -, hexec⟩
  · exact absurd (hres ▸ h) (hnot ra)
  · rw [hexec]
    exact ⟨rule, hr, (newSpAndBp_sp hnew).2⟩

/-- When the miss path at the frame runs a rule, repeating a call with the same frame and
registers on the cache the call left replays it: the repeat hits the rule the call ran, so it
answers the same, leaves the same registers, and counts one more hit. -/
theorem withCache_repeat_replays (hm : self.MissRunsRule address regs readStack callback) :
    (self.withCache address regs (self.withCache address regs cache readStack callback).2.2
        readStack callback).1 = (self.withCache address regs cache readStack callback).1 ∧
      (self.withCache address regs (self.withCache address regs cache readStack callback).2.2
        readStack callback).2.1 = (self.withCache address regs cache readStack callback).2.1 ∧
      (self.withCache address regs (self.withCache address regs cache readStack callback).2.2
        readStack callback).2.2.stats.hits =
        (self.withCache address regs cache readStack callback).2.2.stats.hits + 1 := by
  obtain ⟨rule, -, hres, hregs, hhit⟩ := withCache_runs_rule self address regs cache readStack hm
  rw [withCache_of_hit hhit]
  exact ⟨hres.symm, hregs.symm, (RuleCache.lookup_stats _ _ _).2.1 ⟨rule, hhit⟩⟩

/-- A call that answers a return address read it from the stack, one word below the caller's
`sp`, and made it the caller's `ip`. -/
theorem withCache_return_read (hm : self.MissRunsRule address regs readStack callback)
    {ra : UInt64} (h : (self.withCache address regs cache readStack callback).1 = .ok (some ra)) :
    (self.withCache address regs cache readStack callback).2.1.ip = ra ∧
      readStack ((self.withCache address regs cache readStack callback).2.1.sp - 8) = some ra := by
  obtain ⟨rule, -, hres, hregs, -⟩ := withCache_runs_rule self address regs cache readStack hm
  rw [hregs]
  rw [hres] at h
  rcases exec_cases rule regs readStack with ⟨-, hnot⟩ | ⟨ra', newSp, newBp, -, hread, -, hexec⟩
  · exact absurd h (hnot ra)
  · rw [hexec] at h ⊢
    cases h
    exact ⟨rfl, hread⟩

/-- A call reads the cache only through the entries under the unwinder's generation: on two
caches that agree there it answers the same, leaves the same registers, and leaves caches that
still agree there. Whatever the callback. -/
theorem withCache_congr_cache {cache' : RuleCache UnwindRuleX86_64}
    (h : cache.AgreeAt self.modulesGeneration cache') :
    (self.withCache address regs cache readStack callback).1 =
        (self.withCache address regs cache' readStack callback).1 ∧
      (self.withCache address regs cache readStack callback).2.1 =
        (self.withCache address regs cache' readStack callback).2.1 ∧
      (self.withCache address regs cache readStack callback).2.2.AgreeAt self.modulesGeneration
        (self.withCache address regs cache' readStack callback).2.2 := by
  have hlook := h.lookup_eq address.addressForLookup
  have hagree := h.lookup self.modulesGeneration address.addressForLookup address.addressForLookup
  rcases RuleCache.lookup_cases cache address.addressForLookup self.modulesGeneration
    with ⟨rule, hr⟩ | hm
  · rw [withCache_of_hit hr, withCache_of_hit (hlook ▸ hr)]
    exact ⟨rfl, rfl, hagree⟩
  · rcases hmiss : self.missRule address regs readStack callback with ⟨result, regs'⟩
    rcases result with rule | ra
    · rw [withCache_of_miss_rule hm hmiss, withCache_of_miss_rule (hlook ▸ hm) hmiss]
      exact ⟨rfl, rfl, hagree.insert _ rule⟩
    · rw [withCache_of_miss_uncacheable ⟨_, hm⟩ hmiss,
        withCache_of_miss_uncacheable ⟨_, hlook ▸ hm⟩ hmiss]
      exact ⟨rfl, rfl, hagree⟩

end UnwinderInternal

/-- Externals whose `__unwind_info` gives every address one function, starting at the module's
base, with the given opcode and no text bytes; the DWARF side finds nothing. -/
def oneFunctionExternals (opcode : OpcodeX86_64) : Externals where
  lookupFunction _ _ _ := .ok (⟨0, opcode⟩, none)
  ruleFromInstructionAnalysis _ _ := none
  fdeOffsetFromEhFrameHdr _ _ _ := none
  unwindFrameWithFde _ _ _ regs _ _ _ _ := (.error ⟨⟩, regs)

theorem oneFunctionExternals_dwarfRulesOnly (opcode : OpcodeX86_64) :
    (oneFunctionExternals opcode).DwarfRulesOnly :=
  fun _ _ _ _ _ _ _ _ => ⟨by simp [oneFunctionExternals], rfl⟩

/-- A module mapped at `[0x1000, 0x2000)` with only compact unwind info. -/
def cuiModule : Module :=
  ⟨⟨0x1000, 0x2000⟩, 0x1000, 0, .compactUnwindInfoAndEhFrame [] none none none none⟩

def cuiRegistry : UnwinderInternal := ((UnwinderInternal.new 0).1.addModule cuiModule 1).1

/-- Every function of `cuiModule` is frameless with a 16-byte frame and no saved register. -/
def framelessCallback : Callback :=
  unwindFrameImpl (oneFunctionExternals (.framelessImmediate 16 ⟨savedRegsOf [], rfl⟩))

def cuiFirstFrameCall (cache : RuleCache UnwindRuleX86_64) :
    Except Error (Option UInt64) × UnwindRegsX86_64 × RuleCache UnwindRuleX86_64 :=
  cuiRegistry.withCache (.instructionPointer 0x1800) ⟨0x1800, 0x100, 0⟩ cache (fun _ => none)
    (unwindFrameImpl (oneFunctionExternals .null))

theorem cui_first_frame_repeat_replays :
    cuiRegistry.MissRunsRule (.instructionPointer 0x1800) ⟨0x1800, 0x100, 0⟩ (fun _ => none)
        (unwindFrameImpl (oneFunctionExternals .null)) ∧
      (cuiFirstFrameCall (cuiFirstFrameCall RuleCache.new).2.2).1 =
        (cuiFirstFrameCall RuleCache.new).1 ∧
      (cuiFirstFrameCall (cuiFirstFrameCall RuleCache.new).2.2).2.1 =
        (cuiFirstFrameCall RuleCache.new).2.1 ∧
      (cuiFirstFrameCall (cuiFirstFrameCall RuleCache.new).2.2).2.2.stats.hits =
        (cuiFirstFrameCall RuleCache.new).2.2.stats.hits + 1 :=
  have hm : cuiRegistry.MissRunsRule (.instructionPointer 0x1800) ⟨0x1800, 0x100, 0⟩
      (fun _ => none) (unwindFrameImpl (oneFunctionExternals .null)) := ⟨_, rfl⟩
  ⟨hm, UnwinderInternal.withCache_repeat_replays hm⟩

def stubsAboveBase : Module :=
  ⟨⟨0x1000, 0x2000⟩, 0x1000, 0x1000,
    .compactUnwindInfoAndEhFrame [] none (some ⟨0x1800, 0x1900⟩) none none⟩

/-- The relative address `0x850`, stated address `0x1850`, lies in `__stubs`: the stub rule,
although the unwind info has no entry for it. -/
theorem stubs_above_base_get_stub_rule :
    stubsAboveBase.unwindData = .compactUnwindInfoAndEhFrame [] none (some ⟨0x1800, 0x1900⟩)
        none none ∧
      stubsAboveBase.baseSvma ≤ (⟨0x1800, 0x1900⟩ : Range).start ∧
      (⟨0x1800, 0x1900⟩ : Range).start ≤ (⟨0x1800, 0x1900⟩ : Range).end ∧
      (⟨0x1800, 0x1900⟩ : Range).end.toNat < stubsAboveBase.baseSvma.toNat + 2 ^ 32 ∧
      ((⟨0x1800, 0x1900⟩ : Range).start.toNat ≤ stubsAboveBase.baseSvma.toNat + (0x850 : UInt32).toNat ∧
        stubsAboveBase.baseSvma.toNat + (0x850 : UInt32).toNat < (⟨0x1800, 0x1900⟩ : Range).end.toNat) ∧
      unwindFrameImpl (oneFunctionExternals .null) stubsAboveBase (.instructionPointer 0x1850) 0x850
          ⟨0x1850, 0x100, 0⟩ (fun _ => none) =
        (.ok (.execRule UnwindRuleX86_64.ruleForStubFunctions), ⟨0x1850, 0x100, 0⟩) :=
  have hdata : stubsAboveBase.unwindData =
      .compactUnwindInfoAndEhFrame [] none (some ⟨0x1800, 0x1900⟩) none none := rfl
  have hr : (⟨0x1800, 0x1900⟩ : Range).start.toNat ≤ stubsAboveBase.baseSvma.toNat + (0x850 : UInt32).toNat ∧
      stubsAboveBase.baseSvma.toNat + (0x850 : UInt32).toNat < (⟨0x1800, 0x1900⟩ : Range).end.toNat :=
    by decide
  ⟨hdata, by decide, by decide, by decide, hr,
    unwindFrameImpl_in_stubs _ hdata (by decide) (by decide) (by decide) _ _ _ _ hr⟩

/-- A module with compact unwind info whose `__stubs` section `[0x800, 0x1800)` starts below
its stated base `0x1000`. -/
def stubsBelowBase : Module :=
  ⟨⟨0x1000, 0x2000⟩, 0x1000, 0x1000,
    .compactUnwindInfoAndEhFrame [] none (some ⟨0x800, 0x1800⟩) none none⟩

/-- `(0x800 - 0x1000)` underflows `u64`: a debug build panics. A release build wraps, and the
range passed to the adapter, `[0xFFFFF800, 0x800)`, holds no relative address. The return
address `0x1001`, whose lookup address is the stated address `0x1000` inside `__stubs`, is then
looked up in the unwind info like a function body, where the stub rule was due. -/
theorem stubs_below_base_unwound_as_function :
    (0x800 : UInt64) < stubsBelowBase.baseSvma ∧
      relativeRange stubsBelowBase.baseSvma (some ⟨0x800, 0x1800⟩) = (0xFFFFF800, 0x800) ∧
      (0x800 ≤ stubsBelowBase.baseSvma.toNat + 0 ∧ stubsBelowBase.baseSvma.toNat + 0 < 0x1800) ∧
      unwindFrameImpl (oneFunctionExternals .null) stubsBelowBase
          (.returnAddress ⟨0x1001, by decide⟩) 0 ⟨0x1001, 0x100, 0⟩ (fun _ => none) =
        (.error (.compactUnwindInfo .functionHasNoInfo), ⟨0x1001, 0x100, 0⟩) :=
  ⟨by decide, rfl, by decide, rfl⟩

end Framehop

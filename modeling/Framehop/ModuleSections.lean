import Framehop.FramePointerWalk

/-!
# Modules built from their sections

`Module::new` and `ModuleUnwindDataInternal::new` from `unwinder.rs`. A module's unwind data is
chosen from the sections its object file states, in a fixed order: `__unwind_info` (Mach-O)
first, then `.eh_frame` (with `.eh_frame_hdr` as its index when there is one, or else an FDE
index built on the spot), then `.debug_frame`. A module with none of them, or whose index
cannot be built, gets `None` and is unwound with the fallback rule.

The object file is read through `ModuleSectionInfo`, here a record of its accessors, asked only
for the section and segment names below. Building an FDE index belongs to `dwarf.rs`, which is
not in the source, so the two builders are inputs; the `base_addresses` of the DWARF variants
are left out as in `Registry`.

`NoUsableUnwindData` names the sections that give no unwind data, and
`ModuleUnwindDataInternal.new_eq_none_iff` ties it to the code. On a registry of such modules
every frame falls back to the frame pointer, so a walk over a frame-pointer chain yields the
chain (`walk_without_unwind_sections_yields_chain`).
-/

namespace Framehop

/-- The sections `ModuleUnwindDataInternal::new` asks for: `__unwind_info`, `__eh_frame`,
`__stubs`, `__stub_helper`, `__text`, `.text`, `.eh_frame`, `.eh_frame_hdr` and `.debug_frame`. -/
inductive SectionName where
  | unwindInfo
  | machoEhFrame
  | stubs
  | stubHelper
  | machoText
  | elfText
  | ehFrame
  | ehFrameHdr
  | debugFrame
  deriving DecidableEq, Repr

/-- The segments it asks for: only `__TEXT`. -/
inductive SegmentName where
  | text
  deriving DecidableEq, Repr

/-- `ModuleSectionInfo`: what the object file states about the module. The trait's default
`segment_file_range` and `segment_data` answer `None`. -/
structure ModuleSectionInfo where
  baseSvma : UInt64
  sectionSvmaRange : SectionName → Option Range
  sectionFileRange : SectionName → Option Range
  sectionData : SectionName → Option Bytes
  segmentFileRange : SegmentName → Option Range
  segmentData : SegmentName → Option Bytes

/-- Modelled from the spec (`dwarf.rs` is not in the source): `DwarfCfiIndex::try_new_eh_frame`
and `try_new_debug_frame`, with `None` for their `Err`. -/
structure DwarfCfiIndexBuilders where
  tryNewEhFrame : Bytes → ModuleSectionInfo → Option DwarfCfiIndex
  tryNewDebugFrame : Bytes → ModuleSectionInfo → Option DwarfCfiIndex

/-- The section's data with its file range, when the file states both. -/
def dataAndFileRange (sectionInfo : ModuleSectionInfo) (name : SectionName) :
    Option (Bytes × Range) :=
  (sectionInfo.sectionData name).bind fun bytes =>
    (sectionInfo.sectionFileRange name).map fun range => (bytes, range)

/-- The text bytes for instruction analysis: the `__TEXT` segment, or else the first of
`__text` and `.text`, each with its file range. -/
def textData (sectionInfo : ModuleSectionInfo) : Option TextByteData :=
  let segment := (sectionInfo.segmentData .text).bind fun bytes =>
    (sectionInfo.segmentFileRange .text).map fun range => (bytes, range)
  let found := match segment with
    | some data => some data
    | none => [SectionName.machoText, .elfText].findSome? (dataAndFileRange sectionInfo)
  found.map fun (bytes, svmaRange) => ⟨bytes, svmaRange⟩

def ModuleUnwindDataInternal.new (builders : DwarfCfiIndexBuilders)
    (sectionInfo : ModuleSectionInfo) : ModuleUnwindDataInternal :=
  match sectionInfo.sectionData .unwindInfo with
  | some unwindInfo =>
    .compactUnwindInfoAndEhFrame unwindInfo (sectionInfo.sectionData .machoEhFrame)
      (sectionInfo.sectionSvmaRange .stubs) (sectionInfo.sectionSvmaRange .stubHelper)
      (textData sectionInfo)
  | Option.none =>
    match sectionInfo.sectionData .ehFrame with
    | some ehFrame =>
      match sectionInfo.sectionData .ehFrameHdr with
      | some ehFrameHdr => .ehFrameHdrAndEhFrame ehFrameHdr ehFrame
      | Option.none =>
        match builders.tryNewEhFrame ehFrame sectionInfo with
        | some index => .dwarfCfiIndexAndEhFrame index ehFrame
        | Option.none => .none
    | Option.none =>
      match sectionInfo.sectionData .debugFrame with
      | some debugFrame =>
        match builders.tryNewDebugFrame debugFrame sectionInfo with
        | some index => .dwarfCfiIndexAndDebugFrame index debugFrame
        | Option.none => .none
      | Option.none => .none

/-- `Module::new`; the `name` is left out. -/
def Module.new (builders : DwarfCfiIndexBuilders) (avmaRange : Range) (baseAvma : UInt64)
    (sectionInfo : ModuleSectionInfo) : Module :=
  ⟨avmaRange, baseAvma, sectionInfo.baseSvma, ModuleUnwindDataInternal.new builders sectionInfo⟩

/-- The sections give no unwind data: no `__unwind_info`; an `.eh_frame` only without
`.eh_frame_hdr` and with an index that cannot be built; and, without `.eh_frame`, a
`.debug_frame` only with an index that cannot be built. -/
structure NoUsableUnwindData (builders : DwarfCfiIndexBuilders)
    (sectionInfo : ModuleSectionInfo) : Prop where
  no_unwind_info : sectionInfo.sectionData .unwindInfo = none
  eh_frame_unindexed : ∀ ehFrame, sectionInfo.sectionData .ehFrame = some ehFrame →
    sectionInfo.sectionData .ehFrameHdr = none ∧ builders.tryNewEhFrame ehFrame sectionInfo = none
  debug_frame_unindexed : sectionInfo.sectionData .ehFrame = none → ∀ debugFrame,
    sectionInfo.sectionData .debugFrame = some debugFrame →
      builders.tryNewDebugFrame debugFrame sectionInfo = none

theorem ModuleUnwindDataInternal.new_eq_none_iff (builders : DwarfCfiIndexBuilders)
    (sectionInfo : ModuleSectionInfo) :
    ModuleUnwindDataInternal.new builders sectionInfo = .none ↔
      NoUsableUnwindData builders sectionInfo := by
  unfold ModuleUnwindDataInternal.new
  split
  next hu => exact ⟨(fun h => nomatch h), fun h => nomatch hu ▸ h.no_unwind_info⟩
  next hu =>
    split
    next ehFrame he =>
      split
      next hh => exact ⟨(fun h => nomatch h), fun h => nomatch hh ▸ (h.eh_frame_unindexed _ he).1⟩
      next hh =>
        split
        next hb => exact ⟨(fun h => nomatch h), fun h => nomatch hb ▸ (h.eh_frame_unindexed _ he).2⟩
        next hb =>
          refine ⟨fun _ => ⟨hu, fun _ h => ?_, (fun h => nomatch he ▸ h)⟩, fun _ => rfl⟩
          rw [he] at h
          cases h
          exact ⟨hh, hb⟩
    next he =>
      split
      next debugFrame hd =>
        split
        next hb => exact ⟨(fun h => nomatch h), fun h => nomatch hb ▸ h.debug_frame_unindexed he _ hd⟩
        next hb =>
          refine ⟨fun _ => ⟨hu, (fun _ h => nomatch he ▸ h), fun _ _ h => ?_⟩, fun _ => rfl⟩
          rw [hd] at h
          cases h
          exact hb
      next hd =>
        exact ⟨fun _ => ⟨hu, (fun _ h => nomatch he ▸ h), (fun _ _ h => nomatch hd ▸ h)⟩, fun _ => rfl⟩

namespace UnwinderInternal

/-- Every module of the registry was built by `Module::new` from sections without usable unwind
data. -/
def NoUnwindSections (u : UnwinderInternal) : Prop :=
  ∀ m ∈ u.modules, ∃ builders avmaRange baseAvma sectionInfo,
    m = Module.new builders avmaRange baseAvma sectionInfo ∧
      NoUsableUnwindData builders sectionInfo

variable {u : UnwinderInternal}

/-- On a registry whose modules all come from sections without usable unwind data, every frame
falls back to the frame pointer: no module holds its lookup address, or the one found has no
unwind data. -/
theorem NoUnwindSections.fallsBack (hu : u.NoUnwindSections) (ext : Externals)
    (address : FrameAddress) : u.FallsBack (unwindFrameImpl ext) address := by
  rcases hf : u.findModuleForAddress address.addressForLookup with _ | ⟨i, rel⟩
  · exact fallsBack_of_findModuleForAddress_none hf
  · have hi := u.findModuleForAddress_index_lt hf
    obtain ⟨builders, avmaRange, baseAvma, sectionInfo, hm, hno⟩ := hu _ (List.getElem_mem hi)
    refine fallsBack_of_unwindData_none ext hf ?_
    rw [getElem!_pos u.modules i hi, hm]
    exact (ModuleUnwindDataInternal.new_eq_none_iff builders sectionInfo).mpr hno

end UnwinderInternal

namespace UnwindIterator

variable (u : UnwinderInternal) (ext : Externals) (readStack : UInt64 → Option UInt64)

/-- On a registry whose modules all come from sections without usable unwind data, from a cache
that holds no rule but the fallback rule under the unwinder's generation (a fresh cache, say),
a walk over a frame-pointer chain on the stack yields the instruction pointer, then exactly the
chain's return addresses from the innermost out, then `Ok(None)`. -/
theorem walk_without_unwind_sections_yields_chain (hu : u.NoUnwindSections) (pc : UInt64)
    (regs : UnwindRegsX86_64) (cache : RuleCache UnwindRuleX86_64)
    (ras : List {a : UInt64 // a ≠ 0}) (hchain : FramePointerChain readStack regs.sp regs.bp ras)
    (hc : ∀ a, cache.FallbackAt u.modulesGeneration a) :
    (run (u.unwindFrame ext · · · readStack) (ras.length + 2) (new pc regs cache)).1 =
      .ok (some (.instructionPointer pc)) ::
        (ras.map fun ra => .ok (some (.returnAddress ra))) ++ [.ok none] := by
  rw [show ras.length + 2 = ras.length + 1 + 1 from rfl, run_succ]
  simp only [new, next_initial]
  exact congrArg _ (run_chain u ext readStack hchain _ regs.ip cache
    ⟨hu.fallsBack ext _, fun _ _ => hu.fallsBack ext _⟩ ⟨hc _, fun _ _ => hc _⟩)

/-- An ELF module whose `.eh_frame` cannot be indexed. Its `.debug_frame` could be, but is not
looked at once there is an `.eh_frame`. -/
def unindexedEhFrameSections : ModuleSectionInfo :=
  ⟨0, fun _ => none, fun _ => none,
    fun name => if name = .ehFrame ∨ name = .debugFrame then some [] else none,
    fun _ => none, fun _ => none⟩

/-- Index builders that fail on `.eh_frame` and succeed on `.debug_frame`. -/
def ehFrameIndexFails : DwarfCfiIndexBuilders := ⟨fun _ _ => none, fun _ _ => some ⟨[]⟩⟩

def unindexedRegistry : UnwinderInternal :=
  ((UnwinderInternal.new 0).1.addModule
    (Module.new ehFrameIndexFails ⟨0x1000, 0x2000⟩ 0x1000 unindexedEhFrameSections) 1).1

theorem unindexedRegistry_noUnwindSections : unindexedRegistry.NoUnwindSections := by
  intro m hm
  obtain rfl := List.mem_singleton.mp hm
  refine ⟨_, _, _, _, rfl, rfl, fun _ h => ?_, fun h => nomatch h⟩
  cases h
  exact ⟨rfl, rfl⟩

theorem two_frame_walk_through_unindexed_module :
    unindexedRegistry.NoUnwindSections ∧
    FramePointerChain twoFrameStack (⟨0x1800, 0x100, 0x110⟩ : UnwindRegsX86_64).sp
      (⟨0x1800, 0x100, 0x110⟩ : UnwindRegsX86_64).bp twoFrameReturns ∧
    (∀ a, (RuleCache.new : RuleCache UnwindRuleX86_64).FallbackAt
      unindexedRegistry.modulesGeneration a) ∧
    (run (unindexedRegistry.unwindFrame (oneFunctionExternals .null) · · · twoFrameStack)
        (twoFrameReturns.length + 2) (new 0x1800 ⟨0x1800, 0x100, 0x110⟩ RuleCache.new)).1 =
      .ok (some (.instructionPointer 0x1800)) ::
        (twoFrameReturns.map fun ra => .ok (some (.returnAddress ra))) ++ [.ok none] :=
  have hchain : FramePointerChain twoFrameStack 0x100 0x110 twoFrameReturns :=
    .link (by decide) (by decide) (by decide) rfl rfl
      (.link (by decide) (by decide) (by decide) rfl rfl (.root _))
  have hc : ∀ a, (RuleCache.new : RuleCache UnwindRuleX86_64).FallbackAt
      unindexedRegistry.modulesGeneration a := fun _ _ h => nomatch h
  ⟨unindexedRegistry_noUnwindSections, hchain, hc,
    walk_without_unwind_sections_yields_chain _ _ _ unindexedRegistry_noUnwindSections 0x1800
      ⟨0x1800, 0x100, 0x110⟩ RuleCache.new twoFrameReturns hchain hc⟩

end UnwindIterator

end Framehop

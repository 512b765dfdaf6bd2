import Framehop.UnwindRule

/-!
# Compact unwind opcodes to x86-64 rules

`CompactUnwindInfoUnwinding::unwind_frame` for x86-64, from `x86_64/macho.rs`. It turns the
decoded compact unwind opcode of the function holding the address into an unwind rule. On the
first frame the address may lie in a prologue or an epilogue, which the opcodes do not
describe, so instruction analysis gets the first word there.

The opcode arrives decoded: `OpcodeX86_64::parse` belongs to the macho_unwind_info crate and
the instruction analysis to a module outside the source, so the model takes the decoded
opcode and the analysis (`ruleFromInstructionAnalysis`) as inputs.

Of the arms that can fail on a well-formed opcode, `FramelessIndirect` fails with
`BpOffsetDoesNotFit` exactly on frames between `2^18` and `2^19` bytes with `rbp` saved
(`framelessIndirect_bpOffsetDoesNotFit_iff`). Against the prologue layouts the opcodes describe
(`PrologueBody`: what the function pushed and subtracted), every rule the translation gives
recovers the caller's `sp`, `bp` and return address (`unwindFrame_recovers_caller_from_prologue`).
-/

namespace Framehop

inductive RegisterNameX86_64 where
  | rbx | r12 | r13 | r14 | r15 | rbp
  deriving DecidableEq, Repr

/-- The opcode's `[Option<RegisterNameX86_64>; 6]`. -/
structure SavedRegs where
  regs : List (Option RegisterNameX86_64)
  length_eq : regs.length = 6
  deriving DecidableEq

/-- The decoded opcode. `FrameBased`'s fields are not read here and are left out. -/
inductive OpcodeX86_64 where
  | null
  | frameBased
  | framelessImmediate (stackSizeInBytes : UInt16) (savedRegs : SavedRegs)
  | framelessIndirect (immediateOffsetFromFunctionStart : UInt8) (stackAdjustInBytes : UInt8)
      (savedRegs : SavedRegs)
  | dwarf (ehFrameFde : UInt32)
  | invalidFrameless
  | unrecognizedKind (kind : UInt8)
  deriving DecidableEq

/-- The DWARF evaluator's errors (`dwarf.rs` is not in the source). The dispatcher discards
them, so their kinds are not modelled. -/
structure DwarfUnwinderError where
  deriving DecidableEq, Repr

inductive CompactUnwindInfoUnwinderError where
  | functionHasNoInfo
  | badOpcodeKind (kind : UInt8)
  | invalidFrameless
  | bpOffsetDoesNotFit
  | stackAdjustOverflow
  | stackSizeDoesNotFit
  | indirectStackOffsetOutOfBounds
  | noTextBytesToLookUpIndirectStackOffset
  | badDwarfUnwinding (error : DwarfUnwinderError)
  deriving DecidableEq, Repr

inductive CuiUnwindResult (R : Type) where
  | execRule (rule : R)
  | needDwarf (fdeOffset : UInt32)
  deriving DecidableEq, Repr

/-- `i16::try_from(i32).ok()`. -/
def i16TryFrom (x : Int) : Option I16 :=
  if h : -2 ^ 15 ≤ x ∧ x < 2 ^ 15 then some ⟨x, h⟩ else none

theorem i16TryFrom_eq_some {x : Int} {k : I16} (h : i16TryFrom x = some k) : k.val = x := by
  unfold i16TryFrom at h
  split at h
  · cases h; rfl
  · cases h

/-- `u16::try_from(u32).ok()`. -/
def u16TryFrom (x : UInt32) : Option UInt16 :=
  if x.toNat < 2 ^ 16 then some x.toUInt16 else none

theorem u16TryFrom_eq_some {x : UInt32} {n : UInt16} (h : u16TryFrom x = some n) :
    n.toNat = x.toNat := by
  unfold u16TryFrom at h
  split at h
  · cases h
    show x.toNat % 2 ^ 16 = x.toNat
    omega
  · cases h

/-- `u32::checked_add`. -/
def checkedAddU32 (a b : UInt32) : Option UInt32 :=
  if a.toNat + b.toNat < 2 ^ 32 then some (a + b) else none

theorem checkedAddU32_eq_some {a b c : UInt32} (h : checkedAddU32 a b = some c) :
    c.toNat = a.toNat + b.toNat := by
  unfold checkedAddU32 at h
  split at h
  · cases h
    show (a.toNat + b.toNat) % 2 ^ 32 = a.toNat + b.toNat
    omega
  · cases h

/-- `u32 as i32`. -/
def u32AsI32 (x : UInt32) : Int :=
  if x.toNat < 2 ^ 31 then x.toNat else (x.toNat : Int) - 2 ^ 32

theorem u32AsI32_of_lt {x : UInt32} (h : x.toNat < 2 ^ 31) : u32AsI32 x = x.toNat := if_pos h

/-- `<[u8]>::get(lo..hi)`. -/
def sliceGet (bytes : List UInt8) (lo hi : Nat) : Option (List UInt8) :=
  if lo ≤ hi ∧ hi ≤ bytes.length then some ((bytes.drop lo).take (hi - lo)) else none

/-- `u32::from_le_bytes` of the first four bytes. -/
def u32FromLeBytes (bytes : List UInt8) : UInt32 :=
  UInt32.ofNat (bytes[0]!.toNat + 2 ^ 8 * bytes[1]!.toNat + 2 ^ 16 * bytes[2]!.toNat +
    2 ^ 24 * bytes[3]!.toNat)

/-- `saved_regs.iter().rev().flatten().position(|r| *r == Rbp)`. -/
def bpPositionFromOutside (savedRegs : List (Option RegisterNameX86_64)) : Option Nat :=
  (savedRegs.reverse.filterMap id).findIdx? (· == .rbp)

/-- The tail both frameless arms share: restore `rbp` from its slot when it was saved. -/
def framelessRule (stackSizeAsI32 : Int) (spOffsetBy8 : UInt16) (savedRegs : SavedRegs) :
    Except CompactUnwindInfoUnwinderError (CuiUnwindResult UnwindRuleX86_64) :=
  match bpPositionFromOutside savedRegs.regs with
  | some pos => do
    let bpOffsetFromSp := stackSizeAsI32 - 2 * 8 - (pos : Int) * 8
    let bpStorageOffsetFromSpBy8 ← okOr (i16TryFrom (bpOffsetFromSp.tdiv 8)) .bpOffsetDoesNotFit
    return .execRule (.offsetSpAndRestoreBp spOffsetBy8 bpStorageOffsetFromSpBy8)
  | none => return .execRule (.offsetSp spOffsetBy8)

/-- The translation once the pc is known to lie in a function body: the opcode alone decides. -/
def bodyRule (opcode : OpcodeX86_64) (functionBytes : Option (List UInt8)) :
    Except CompactUnwindInfoUnwinderError (CuiUnwindResult UnwindRuleX86_64) :=
  match opcode with
  | .null => .error .functionHasNoInfo
  | .framelessImmediate stackSizeInBytes savedRegs =>
    if stackSizeInBytes = 8 then .ok (.execRule .justReturn)
    else framelessRule stackSizeInBytes.toNat (stackSizeInBytes / 8) savedRegs
  | .framelessIndirect immediateOffsetFromFunctionStart stackAdjustInBytes savedRegs => do
    let functionBytes ← okOr functionBytes .noTextBytesToLookUpIndirectStackOffset
    let subImmediateBytes ← okOr (sliceGet functionBytes immediateOffsetFromFunctionStart.toNat
      (immediateOffsetFromFunctionStart.toNat + 4)) .indirectStackOffsetOutOfBounds
    let subImmediate := u32FromLeBytes subImmediateBytes
    let stackSizeInBytes ← okOr (checkedAddU32 subImmediate stackAdjustInBytes.toUInt32)
      .stackAdjustOverflow
    let spOffsetBy8 ← okOr (u16TryFrom (stackSizeInBytes / 8)) .stackSizeDoesNotFit
    framelessRule (u32AsI32 stackSizeInBytes) spOffsetBy8 savedRegs
  | .dwarf ehFrameFde => .ok (.needDwarf ehFrameFde)
  | .frameBased => .ok (.execRule .useFramePointer)
  | .unrecognizedKind kind => .error (.badOpcodeKind kind)
  | .invalidFrameless => .error .invalidFrameless

section
variable (ruleFromInstructionAnalysis : List UInt8 → Nat → Option UnwindRuleX86_64)

/-- The rule the first frame gets before the opcode is looked at, if any. -/
def firstFrameRule (opcode : OpcodeX86_64) (addressOffsetWithinFunction : Nat)
    (functionBytes : Option (List UInt8)) : Option UnwindRuleX86_64 :=
  let fromBytes : Option UnwindRuleX86_64 := match functionBytes with
    | some functionBytes =>
      match ruleFromInstructionAnalysis functionBytes addressOffsetWithinFunction with
      | some rule => some rule
      | none =>
        if opcode = .null ∧ [0x55, 0x48, 0x89, 0xe5].isPrefixOf functionBytes then
          some .useFramePointer
        else none
    | none => none
  match fromBytes with
  | some rule => some rule
  | none => if opcode = .null then some .justReturn else none

def unwindFrame (opcode : OpcodeX86_64) (isFirstFrame : Bool)
    (addressOffsetWithinFunction : Nat) (functionBytes : Option (List UInt8)) :
    Except CompactUnwindInfoUnwinderError (CuiUnwindResult UnwindRuleX86_64) :=
  let early := if isFirstFrame then
      firstFrameRule ruleFromInstructionAnalysis opcode addressOffsetWithinFunction functionBytes
    else none
  match early with
  | some rule => .ok (.execRule rule)
  | none => bodyRule opcode functionBytes

/-- Past the first frame the opcode alone decides. -/
@[simp] theorem unwindFrame_not_first (opcode : OpcodeX86_64) (addressOffsetWithinFunction : Nat)
    (functionBytes : Option (List UInt8)) :
    unwindFrame ruleFromInstructionAnalysis opcode false addressOffsetWithinFunction functionBytes =
      bodyRule opcode functionBytes := rfl

end

/-- `i32 / 8` rounds toward zero, so from `-2^18` on the quotient fits an `i16` exactly when the
dividend is below `2^18`. -/
theorem i16TryFrom_tdiv_eight (x : Int) (h0 : -2 ^ 18 ≤ x) :
    (∃ k, i16TryFrom (x.tdiv 8) = some k) ↔ x < 2 ^ 18 := by
  have hq : -2 ^ 15 ≤ x.tdiv 8 ∧ (x.tdiv 8 < 2 ^ 15 ↔ x < 2 ^ 18) := by
    rcases Int.le_total 0 x with hx | hx
    · rw [Int.tdiv_eq_ediv hx (by decide)]; omega
    · rw [← neg_neg x, Int.neg_tdiv, Int.tdiv_eq_ediv (by omega) (by decide)]; omega
  unfold i16TryFrom
  split
  · rename_i h
    exact ⟨fun _ => hq.2.mp h.2, fun _ => ⟨_, rfl⟩⟩
  · rename_i h
    exact ⟨(fun ⟨_, h'⟩ => nomatch h'), fun hx => absurd ⟨hq.1, hq.2.mpr hx⟩ h⟩

/-- `rbp` is found among at most six saved registers. -/
theorem bpPositionFromOutside_lt {savedRegs : SavedRegs} {pos : Nat}
    (h : bpPositionFromOutside savedRegs.regs = some pos) : pos < 6 := by
  obtain ⟨hlt, -⟩ := List.findIdx?_eq_some_iff_getElem.mp h
  have := List.length_filterMap_le id savedRegs.regs.reverse
  rw [List.length_reverse, savedRegs.length_eq] at this
  omega

/-- The tail both frameless arms share fails with `BpOffsetDoesNotFit` exactly when `rbp` was
saved, at position `pos` counted from the outside, and a frame of a nonnegative size puts its
slot at least `2^18` bytes, `2^15` words, above `sp`. -/
theorem framelessRule_bpOffsetDoesNotFit_iff {stackSize : Int} (h0 : 0 ≤ stackSize)
    (spOffsetBy8 : UInt16) (savedRegs : SavedRegs) :
    framelessRule stackSize spOffsetBy8 savedRegs = .error .bpOffsetDoesNotFit ↔
      ∃ pos, bpPositionFromOutside savedRegs.regs = some pos ∧
        2 ^ 18 + 16 + 8 * (pos : Int) ≤ stackSize := by
  unfold framelessRule
  rcases hpos : bpPositionFromOutside savedRegs.regs with _ | pos
  · simp [pure, Except.pure]
  have hlt := bpPositionFromOutside_lt hpos
  have hfit := i16TryFrom_tdiv_eight (stackSize - 16 - (pos : Int) * 8) (by omega)
  rcases hk : i16TryFrom ((stackSize - 16 - (pos : Int) * 8).tdiv 8) with _ | k
  · refine iff_of_true (by simp [hk, bind, Except.bind]) ⟨pos, rfl, ?_⟩
    have : ¬ (stackSize - 16 - pos * 8 < 2 ^ 18) := fun h => by
      obtain ⟨_, h⟩ := hfit.mpr h
      exact nomatch hk ▸ h
    omega
  · refine iff_of_false (by simp [hk, bind, Except.bind, pure, Except.pure]) ?_
    rintro ⟨_, ⟨⟩, h⟩
    have := hfit.mp ⟨k, hk⟩
    omega

/-- The `FramelessIndirect` arm fails with `BpOffsetDoesNotFit` exactly when `rbp` was saved,
at position `pos` counted from the outside, and the frame is at least `2^18 + 16 + 8 pos` bytes
and below `2^19`: the stack size only has to fit a `u16` count of words, the `rbp` slot's offset
an `i16` one. -/
theorem framelessIndirect_bpOffsetDoesNotFit_iff
    (immediateOffsetFromFunctionStart stackAdjustInBytes : UInt8) (savedRegs : SavedRegs)
    {bytes sub : List UInt8} (hsub : sliceGet bytes immediateOffsetFromFunctionStart.toNat
      (immediateOffsetFromFunctionStart.toNat + 4) = some sub) :
    bodyRule (.framelessIndirect immediateOffsetFromFunctionStart stackAdjustInBytes savedRegs)
        (some bytes) = .error .bpOffsetDoesNotFit ↔
      ∃ pos, bpPositionFromOutside savedRegs.regs = some pos ∧
        2 ^ 18 + 16 + 8 * pos ≤ (u32FromLeBytes sub).toNat + stackAdjustInBytes.toNat ∧
        (u32FromLeBytes sub).toNat + stackAdjustInBytes.toNat < 2 ^ 19 := by
  have hadj : stackAdjustInBytes.toUInt32.toNat = stackAdjustInBytes.toNat := rfl
  have h8 : (8 : UInt32).toNat = 8 := rfl
  simp only [bodyRule, okOr_some, hsub, bind, Except.bind]
  rcases hadd : checkedAddU32 (u32FromLeBytes sub) stackAdjustInBytes.toUInt32 with _ | S
  · unfold checkedAddU32 at hadd
    split at hadd
    · cases hadd
    · rename_i hover
      rw [hadj] at hover
      exact iff_of_false (by simp) fun ⟨_, _, _, h⟩ => by omega
  have hS := checkedAddU32_eq_some hadd
  rw [hadj] at hS
  generalize (u32FromLeBytes sub).toNat + stackAdjustInBytes.toNat = T at hS ⊢
  simp only [okOr_some]
  rcases hsp : u16TryFrom (S / 8) with _ | n
  · unfold u16TryFrom at hsp
    split at hsp
    · cases hsp
    · rename_i hbig
      rw [UInt32.toNat_div, hS, h8] at hbig
      exact iff_of_false (by simp) fun ⟨_, _, _, h⟩ => by omega
  have hn := u16TryFrom_eq_some hsp
  rw [UInt32.toNat_div, hS, h8] at hn
  have hsmall := UInt16.toNat_lt n
  simp only [okOr_some, u32AsI32_of_lt (show S.toNat < 2 ^ 31 by omega), hS]
  rw [framelessRule_bpOffsetDoesNotFit_iff (by omega)]
  exact exists_congr fun pos => and_congr_right fun _ => ⟨fun h => ⟨by omega, by omega⟩,
    fun h => by omega⟩

/-- Saved registers with only `rbp`, pushed first. -/
def rbpOnlySaved : SavedRegs := ⟨[some .rbp, none, none, none, none, none], rfl⟩

/-- A `sub rsp, 0x40010` immediate at offset 0 of the function: a 256 KiB + 16 byte frame. -/
theorem large_frame_rbp_slot_does_not_fit :
    sliceGet [0x10, 0x00, 0x04, 0x00] (0 : UInt8).toNat ((0 : UInt8).toNat + 4) =
        some [0x10, 0x00, 0x04, 0x00] ∧
      (bodyRule (.framelessIndirect 0 0 rbpOnlySaved) (some [0x10, 0x00, 0x04, 0x00]) =
          .error .bpOffsetDoesNotFit ↔
        ∃ pos, bpPositionFromOutside rbpOnlySaved.regs = some pos ∧
          2 ^ 18 + 16 + 8 * pos ≤ (u32FromLeBytes [0x10, 0x00, 0x04, 0x00]).toNat + (0 : UInt8).toNat ∧
          (u32FromLeBytes [0x10, 0x00, 0x04, 0x00]).toNat + (0 : UInt8).toNat < 2 ^ 19) :=
  ⟨rfl, framelessIndirect_bpOffsetDoesNotFit_iff 0 0 rbpOnlySaved rfl⟩

/-- The `saved_regs` of an opcode whose prologue pushed `saved`: a prefix of `Some`s. -/
def savedRegsOf (saved : List RegisterNameX86_64) : List (Option RegisterNameX86_64) :=
  saved.map some ++ List.replicate (6 - saved.length) none

/-- The little-endian `u32` at `offset` of the function bytes. -/
def leU32At (bytes : List UInt8) (offset : Nat) : Nat :=
  bytes[offset]!.toNat + 2 ^ 8 * bytes[offset + 1]!.toNat + 2 ^ 16 * bytes[offset + 2]!.toNat +
    2 ^ 24 * bytes[offset + 3]!.toNat

/-- The callee body state a frameless prologue builds from the caller's `sp0` and `bp0`: the
call pushed `ra` at `sp0 - 8`, the prologue pushed `saved` below it (`saved[i]` at
`sp + S - 8 - 8c + 8i`), and the body's `sp` lies `S` bytes below `sp0`. -/
structure FramelessBody (stackSize : Nat) (saved : List RegisterNameX86_64) (sp0 bp0 ra : UInt64)
    (regs : UnwindRegsX86_64) (readStack : UInt64 → Option UInt64) : Prop where
  size_dvd : stackSize % 8 = 0
  size_ge : 8 + 8 * saved.length ≤ stackSize
  sp_eq : regs.sp.toNat + stackSize = sp0.toNat
  ra_slot : readStack (sp0 - 8) = some ra
  saved_slot : ∀ i (h : i < saved.length), saved[i] = .rbp →
    readStack (UInt64.ofNat (regs.sp.toNat + stackSize - 8 - 8 * saved.length + 8 * i)) =
      some bp0
  bp_kept : .rbp ∉ saved → regs.bp = bp0

/-- The callee body state `push rbp; mov rbp, rsp` builds: `ra` at `sp0 - 8`, the caller's
`bp0` below it where `bp` points, and the body's `sp` at or below `bp`. -/
structure FrameBasedBody (sp0 bp0 ra : UInt64) (regs : UnwindRegsX86_64)
    (readStack : UInt64 → Option UInt64) : Prop where
  bp_ne_zero : regs.bp ≠ 0
  bp_eq : regs.bp.toNat + 16 = sp0.toNat
  sp_le : regs.sp.toNat ≤ regs.bp.toNat
  bp_slot : readStack regs.bp = some bp0
  ra_slot : readStack (sp0 - 8) = some ra

/-- The body state the opcode's prologue builds, for the opcodes that describe one. -/
def PrologueBody (opcode : OpcodeX86_64) (functionBytes : Option (List UInt8))
    (sp0 bp0 ra : UInt64) (regs : UnwindRegsX86_64) (readStack : UInt64 → Option UInt64) : Prop :=
  match opcode with
  | .frameBased => FrameBasedBody sp0 bp0 ra regs readStack
  | .framelessImmediate stackSizeInBytes savedRegs => ∃ saved, savedRegs.regs = savedRegsOf saved ∧
      FramelessBody stackSizeInBytes.toNat saved sp0 bp0 ra regs readStack
  | .framelessIndirect immediateOffsetFromFunctionStart stackAdjustInBytes savedRegs =>
    ∃ bytes saved, functionBytes = some bytes ∧ savedRegs.regs = savedRegsOf saved ∧
      FramelessBody (leU32At bytes immediateOffsetFromFunctionStart.toNat +
        stackAdjustInBytes.toNat) saved sp0 bp0 ra regs readStack
  | _ => False

theorem u32FromLeBytes_sliceGet {bytes sub : List UInt8} {offset : Nat}
    (h : sliceGet bytes offset (offset + 4) = some sub) :
    (u32FromLeBytes sub).toNat = leU32At bytes offset := by
  unfold sliceGet at h
  split at h
  · cases h
    have hget : ∀ j, j < 4 → ((bytes.drop offset).take (offset + 4 - offset))[j]! =
        bytes[offset + j]! := by
      intro j hj
      have hlen : j < ((bytes.drop offset).take (offset + 4 - offset)).length := by
        rw [List.length_take, List.length_drop]; omega
      rw [getElem!_pos ((bytes.drop offset).take _) j hlen, getElem!_pos bytes _ (by omega),
        List.getElem_take, List.getElem_drop]
    simp only [u32FromLeBytes, leU32At, hget 0 (by omega), hget 1 (by omega), hget 2 (by omega),
      hget 3 (by omega), Nat.add_zero]
    have h0 : bytes[offset]!.toNat < 2 ^ 8 := bytes[offset]!.toBitVec.isLt
    have h1 : bytes[offset + 1]!.toNat < 2 ^ 8 := bytes[offset + 1]!.toBitVec.isLt
    have h2 : bytes[offset + 2]!.toNat < 2 ^ 8 := bytes[offset + 2]!.toBitVec.isLt
    have h3 : bytes[offset + 3]!.toNat < 2 ^ 8 := bytes[offset + 3]!.toBitVec.isLt
    exact Nat.mod_eq_of_lt (by omega)
  · cases h

theorem bpPositionFromOutside_savedRegsOf (saved : List RegisterNameX86_64) :
    bpPositionFromOutside (savedRegsOf saved) = saved.reverse.findIdx? (· == .rbp) := by
  simp [bpPositionFromOutside, savedRegsOf, List.filterMap_append, List.filterMap_map]

theorem bpPositionFromOutside_eq_some {saved : List RegisterNameX86_64} {pos : Nat}
    (h : bpPositionFromOutside (savedRegsOf saved) = some pos) :
    ∃ hpos : pos < saved.length, saved[saved.length - 1 - pos] = .rbp := by
  rw [bpPositionFromOutside_savedRegsOf, List.findIdx?_eq_some_iff_getElem] at h
  obtain ⟨hlt, heq, -⟩ := h
  simp only [List.length_reverse] at hlt
  exact ⟨hlt, by simpa [List.getElem_reverse] using heq⟩

theorem bpPositionFromOutside_eq_none {saved : List RegisterNameX86_64}
    (h : bpPositionFromOutside (savedRegsOf saved) = none) : .rbp ∉ saved := by
  rw [bpPositionFromOutside_savedRegsOf, List.findIdx?_eq_none_iff] at h
  exact fun hm => by simpa using h _ (List.mem_reverse.mpr hm)

theorem framelessRule_eq_ok {S : Int} {n : UInt16} {savedRegs : SavedRegs}
    {rule : UnwindRuleX86_64} (h : framelessRule S n savedRegs = .ok (.execRule rule)) :
    (bpPositionFromOutside savedRegs.regs = none ∧ rule = .offsetSp n) ∨
      ∃ pos k, bpPositionFromOutside savedRegs.regs = some pos ∧
        i16TryFrom ((S - 2 * 8 - pos * 8).tdiv 8) = some k ∧
        rule = .offsetSpAndRestoreBp n k := by
  unfold framelessRule at h
  split at h
  · rename_i pos hpos
    obtain ⟨k, hk, h⟩ := okOr_bind_eq_ok.mp h
    simp only [except_pure_eq_ok, CuiUnwindResult.execRule.injEq] at h
    exact .inr ⟨pos, k, hpos, hk, h.symm⟩
  · simp only [except_pure_eq_ok, CuiUnwindResult.execRule.injEq] at h
    exact .inl ⟨‹_›, h.symm⟩

section Recover

variable {sp0 bp0 ra : UInt64} {regs : UnwindRegsX86_64} {readStack : UInt64 → Option UInt64}
  {rule : UnwindRuleX86_64}

open UnwindRuleX86_64

/-- A frameless rule for a stack of `n * 8` bytes undoes the prologue: `sp` moves up by the
whole stack and `rbp`, if saved, is read back from the slot counted from the outside. -/
theorem framelessRule_recovers_caller {n : UInt16} {saved : List RegisterNameX86_64}
    {savedRegs : SavedRegs} (hs : savedRegs.regs = savedRegsOf saved)
    (hb : FramelessBody (n.toNat * 8) saved sp0 bp0 ra regs readStack) (hra : ra ≠ 0)
    (h : framelessRule (n.toNat * 8 : Nat) n savedRegs = .ok (.execRule rule)) :
    rule.exec regs readStack = (.ok (some ra), ⟨ra, sp0, bp0⟩) := by
  have hsp0 := hb.sp_eq
  have hlt := UInt64.toNat_lt sp0
  rcases framelessRule_eq_ok h with ⟨hnone, rfl⟩ | ⟨pos, k, hpos, hk, rfl⟩
  · refine exec_of_newSpAndBp (newSpAndBp_offsetSp.mpr ⟨by omega, by omega, ?_⟩) hb.ra_slot hra
    exact (hb.bp_kept (bpPositionFromOutside_eq_none (hs ▸ hnone))).symm
  · obtain ⟨hpos, hrbp⟩ := bpPositionFromOutside_eq_some (hs ▸ hpos)
    have hsize := hb.size_ge
    have hk : k.val * 8 = (n.toNat * 8 : Nat) - 2 * 8 - (pos : Int) * 8 := by
      rw [i16TryFrom_eq_some hk, Int.tdiv_eq_ediv (by omega) (by omega)]
      omega
    have hslot := hb.saved_slot _ (by omega) hrbp
    refine exec_of_newSpAndBp (newSpAndBp_offsetSpAndRestoreBp.mpr
      ⟨by omega, by omega, _, ?_, hslot⟩) hb.ra_slot hra
    rw [UInt64.toNat_ofNat_of_lt (by rw [UInt64.size]; omega)]
    omega

/-- Past the first frame, every rule the opcode translation hands out recovers the caller from
the body state the opcode's prologue builds. -/
theorem unwindFrame_recovers_caller_from_prologue
    (ruleFromInstructionAnalysis : List UInt8 → Nat → Option UnwindRuleX86_64)
    (opcode : OpcodeX86_64) (addressOffsetWithinFunction : Nat)
    (functionBytes : Option (List UInt8))
    (h : unwindFrame ruleFromInstructionAnalysis opcode false addressOffsetWithinFunction
      functionBytes = .ok (.execRule rule))
    (hra : ra ≠ 0) (hbody : PrologueBody opcode functionBytes sp0 bp0 ra regs readStack) :
    rule.exec regs readStack = (.ok (some ra), ⟨ra, sp0, bp0⟩) := by
  rw [unwindFrame_not_first] at h
  have hlt := UInt64.toNat_lt sp0
  cases opcode with
  | frameBased =>
    cases h
    have hb : FrameBasedBody sp0 bp0 ra regs readStack := hbody
    have hbp := hb.bp_eq
    exact exec_of_newSpAndBp (newSpAndBp_useFramePointer.mpr
      ⟨hb.bp_ne_zero, by omega, by have := hb.sp_le; omega, by omega, hb.bp_slot⟩) hb.ra_slot hra
  | framelessImmediate stackSizeInBytes savedRegs =>
    obtain ⟨saved, hs, hb⟩ := hbody
    simp only [bodyRule] at h
    split at h
    · cases h
      rename_i h8
      subst h8
      have hsp := hb.sp_eq
      have h8 : (8 : UInt16).toNat = 8 := rfl
      have hnil : saved = [] := List.eq_nil_of_length_eq_zero (by have := hb.size_ge; omega)
      refine exec_of_newSpAndBp (newSpAndBp_justReturn.mpr ⟨by omega, by omega, ?_⟩) hb.ra_slot hra
      exact (hb.bp_kept (by simp [hnil])).symm
    · have hn : (stackSizeInBytes / 8).toNat * 8 = stackSizeInBytes.toNat := by
        have := hb.size_dvd
        rw [UInt16.toNat_div]
        show stackSizeInBytes.toNat / 8 * 8 = _
        omega
      rw [← hn] at hb h
      exact framelessRule_recovers_caller hs hb hra h
  | framelessIndirect immediateOffsetFromFunctionStart stackAdjustInBytes savedRegs =>
    obtain ⟨bytes, saved, rfl, hs, hb⟩ := hbody
    simp only [bodyRule, okOr_some] at h
    obtain ⟨sub, hsub, h⟩ := okOr_bind_eq_ok.mp h
    obtain ⟨size, hsize, h⟩ := okOr_bind_eq_ok.mp h
    obtain ⟨n, hn, h⟩ := okOr_bind_eq_ok.mp h
    have hS : size.toNat = leU32At bytes immediateOffsetFromFunctionStart.toNat +
        stackAdjustInBytes.toNat := by
      rw [checkedAddU32_eq_some hsize, u32FromLeBytes_sliceGet hsub]
      rfl
    have hn8 : n.toNat = size.toNat / 8 := u16TryFrom_eq_some hn
    have hn16 := UInt16.toNat_lt n
    have hdvd := hb.size_dvd
    rw [← hS] at hb hdvd
    have hsize8 : n.toNat * 8 = size.toNat := by omega
    rw [u32AsI32_of_lt (by omega), ← hsize8] at h
    rw [← hsize8] at hb
    exact framelessRule_recovers_caller hs hb hra h
  | null | dwarf | invalidFrameless | unrecognizedKind => exact hbody.elim

end Recover

/-- A 32-byte frameless body that pushed `rbp` and then `rbx` below the return address. -/
def framelessExampleStack (address : UInt64) : Option UInt64 :=
  if address = 0x1010 then some 0x2000 else if address = 0x1018 then some 0x5555 else some 0

theorem frameless_rbp_rbx_recovers_caller :
    unwindFrame (fun _ _ => none) (.framelessImmediate 32 ⟨savedRegsOf [.rbx, .rbp], rfl⟩) false 0
        none = .ok (.execRule (.offsetSpAndRestoreBp 4 ⟨2, by decide⟩)) ∧
      (0x5555 : UInt64) ≠ 0 ∧
      PrologueBody (.framelessImmediate 32 ⟨savedRegsOf [.rbx, .rbp], rfl⟩) none 0x1020 0x2000
        0x5555 ⟨0x7777, 0x1000, 0x3333⟩ framelessExampleStack ∧
      (UnwindRuleX86_64.offsetSpAndRestoreBp 4 ⟨2, by decide⟩).exec ⟨0x7777, 0x1000, 0x3333⟩
        framelessExampleStack = (.ok (some 0x5555), ⟨0x5555, 0x1020, 0x2000⟩) :=
  have hrule : unwindFrame (fun _ _ => none)
      (.framelessImmediate 32 ⟨savedRegsOf [.rbx, .rbp], rfl⟩) false 0 none =
        .ok (.execRule (.offsetSpAndRestoreBp 4 ⟨2, by decide⟩)) := rfl
  have hbody : PrologueBody (.framelessImmediate 32 ⟨savedRegsOf [.rbx, .rbp], rfl⟩) none 0x1020
      0x2000 0x5555 ⟨0x7777, 0x1000, 0x3333⟩ framelessExampleStack :=
    ⟨[.rbx, .rbp], rfl, rfl, by decide, rfl, rfl, by decide, fun h => absurd (by simp) h⟩
  ⟨hrule, by decide, hbody,
    unwindFrame_recovers_caller_from_prologue _ _ _ _ hrule (by decide) hbody⟩

end Framehop

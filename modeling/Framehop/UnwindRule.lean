import Mathlib.Data.UInt
import Mathlib.Data.String.Basic

/-!
# x86-64 unwind rules

`UnwindRuleX86_64` and its executor `exec` from `x86_64/unwind_rule.rs`. A rule says how the
caller's stack and frame pointers are recovered; `exec` then reads the return address at
`new_sp - 8` and commits the three registers only when it found a nonzero one.

Registers and stack words are `UInt64`. The additions of `exec` are `checked_add`s and are
decided on `toNat`, with the `toNat` lemmas of Batteries (`UInt64.toNat_add`, `UInt64.ext_iff`),
which `Mathlib.Data.String.Basic` brings in. The final subtraction `new_sp - 8` is unchecked: it
wraps here as in a release build, where a debug build panics.

Each arm's new `sp` and `bp` is described on `toNat` (`newSpAndBp_offsetSp` and its siblings);
`exec_cases` says what `exec` does with them, and `exec_reads_two_words` what it reads.
-/

namespace Framehop

theorem UInt64.lt_iff_toNat (x y : UInt64) : x < y ↔ x.toNat < y.toNat := Iff.rfl
theorem UInt64.le_iff_toNat (x y : UInt64) : x ≤ y ↔ x.toNat ≤ y.toNat := Iff.rfl
theorem UInt16.eq_zero_iff_toNat (x : UInt16) : x = 0 ↔ x.toNat = 0 :=
  ⟨fun h => h ▸ rfl, fun h => UInt16.toNat.inj h⟩

/-- `u64::checked_add`. -/
def checkedAdd (a b : UInt64) : Option UInt64 :=
  if a.toNat + b.toNat < 2 ^ 64 then some (a + b) else none

theorem checkedAdd_eq_some {a b c : UInt64} :
    checkedAdd a b = some c ↔ a.toNat + b.toNat < 2 ^ 64 ∧ c.toNat = a.toNat + b.toNat := by
  unfold checkedAdd
  split
  · simp only [Option.some.injEq, UInt64.ext_iff, UInt64.toNat_add, UInt64.size]
    omega
  · simpa using fun h => absurd h ‹_›

/-- `Option::ok_or`. -/
def okOr {ε α : Type} : Option α → ε → Except ε α
  | some a, _ => .ok a
  | none, e => .error e

@[simp] theorem okOr_some {ε α : Type} (a : α) (e : ε) : okOr (some a) e = .ok a := rfl
@[simp] theorem okOr_none {ε α : Type} (e : ε) : okOr (none : Option α) e = .error e := rfl

theorem okOr_bind_eq_ok {ε α β : Type} {o : Option α} {e : ε} {f : α → Except ε β} {b : β} :
    (okOr o e >>= f) = .ok b ↔ ∃ a, o = some a ∧ f a = .ok b := by
  cases o <;> simp [okOr, bind, Except.bind]

@[simp] theorem except_pure_eq_ok {ε α : Type} {a b : α} :
    (pure a : Except ε α) = .ok b ↔ a = b := by
  simp [pure, Except.pure]

/-- Modelled from the spec: the surfaced unwind errors. The `error.rs` of the source lists the
first two; `IntegerOverflow`, raised by `unwind_rule.rs`, and `ReturnAddressIsNull`, raised by
`unwinder.rs`, are the rest of the spec's taxonomy. -/
inductive Error where
  | couldNotReadStack (address : UInt64)
  | framepointerUnwindingMovedBackwards
  | integerOverflow
  | returnAddressIsNull
  deriving DecidableEq, Repr

/-- Modelled from the spec (`x86_64/unwindregs.rs` is not in the source): the three registers
the engine reads and writes. -/
structure UnwindRegsX86_64 where
  ip : UInt64
  sp : UInt64
  bp : UInt64
  deriving DecidableEq, Repr

theorem okOr_bind_eq_error_ok {α β γ : Type} {o : Option α} {e : Error}
    {f : α → Except (Except Error β) γ} {x : β} :
    (okOr o (.error e) >>= f) = .error (.ok x) ↔ ∃ a, o = some a ∧ f a = .error (.ok x) := by
  cases o <;> simp [okOr, bind, Except.bind]

/-- An `i16`. -/
abbrev I16 := {k : Int // -2 ^ 15 ≤ k ∧ k < 2 ^ 15}

/-- For all of these the return address is `*(new_sp - 8)`. -/
inductive UnwindRuleX86_64 where
  /-- `(sp, bp) = (sp + 8, bp)` -/
  | justReturn
  /-- `(sp, bp) = (sp + 8x, bp)` -/
  | offsetSp (spOffsetBy8 : UInt16)
  /-- `(sp, bp) = (sp + 8x, *(sp + 8y))` -/
  | offsetSpAndRestoreBp (spOffsetBy8 : UInt16) (bpStorageOffsetFromSpBy8 : I16)
  /-- `(sp, bp) = (bp + 16, *bp)` -/
  | useFramePointer
  deriving DecidableEq, Repr

def wrappingAddSigned (lhs : UInt64) (rhs : Int) : UInt64 :=
  lhs + UInt64.ofNat (rhs % 2 ^ 64).toNat

def checkedAddSigned (lhs : UInt64) (rhs : Int) : Option UInt64 :=
  let res := wrappingAddSigned lhs rhs
  if (rhs ≥ 0 ∧ res ≥ lhs) ∨ (rhs < 0 ∧ res < lhs) then some res else none

/-- The direction test after the wrapping add is exact: the sum is returned iff it is a `u64`. -/
theorem checkedAddSigned_eq_some {lhs c : UInt64} {rhs : Int} (h0 : -2 ^ 64 < rhs)
    (h1 : rhs < 2 ^ 64) :
    checkedAddSigned lhs rhs = some c ↔ (c.toNat : Int) = lhs.toNat + rhs := by
  have hl := UInt64.toNat_lt lhs
  have hc := UInt64.toNat_lt c
  have hr : (UInt64.ofNat (rhs % 2 ^ 64).toNat).toNat = (rhs % 2 ^ 64).toNat :=
    UInt64.toNat_ofNat_of_lt (by rw [UInt64.size]; omega)
  unfold checkedAddSigned wrappingAddSigned
  simp only [ge_iff_le, UInt64.le_iff_toNat, UInt64.lt_iff_toNat, UInt64.toNat_add, hr,
    UInt64.size]
  split
  · simp only [Option.some.injEq, UInt64.ext_iff, UInt64.toNat_add, hr, UInt64.size]
    omega
  · simp only [reduceCtorEq, false_iff]
    omega

namespace UnwindRuleX86_64

def ruleForStubFunctions : UnwindRuleX86_64 := .justReturn
def ruleForFunctionStart : UnwindRuleX86_64 := .justReturn
def fallbackRule : UnwindRuleX86_64 := .useFramePointer

/-- The rule's arm of `exec`: the caller's `(new_sp, new_bp)`, or, as `.error r`, the value
`r` the arm returns early (`Ok(None)` at a zero frame pointer, or an `Err`). -/
def newSpAndBp (self : UnwindRuleX86_64) (regs : UnwindRegsX86_64)
    (readStack : UInt64 → Option UInt64) :
    Except (Except Error (Option UInt64)) (UInt64 × UInt64) :=
  let sp := regs.sp
  match self with
  | .justReturn => do
    let newSp ← okOr (checkedAdd sp 8) (.error .integerOverflow)
    return (newSp, regs.bp)
  | .offsetSp spOffsetBy8 => do
    let spOffset := spOffsetBy8.toUInt64 * 8
    let newSp ← okOr (checkedAdd sp spOffset) (.error .integerOverflow)
    return (newSp, regs.bp)
  | .offsetSpAndRestoreBp spOffsetBy8 bpStorageOffsetFromSpBy8 => do
    let spOffset := spOffsetBy8.toUInt64 * 8
    let newSp ← okOr (checkedAdd sp spOffset) (.error .integerOverflow)
    let bpStorageOffsetFromSp := bpStorageOffsetFromSpBy8.val * 8
    let bpLocation ← okOr (checkedAddSigned sp bpStorageOffsetFromSp) (.error .integerOverflow)
    let newBp ← okOr (readStack bpLocation) (.error (.couldNotReadStack bpLocation))
    return (newSp, newBp)
  | .useFramePointer =>
    let bp := regs.bp
    if bp = 0 then .error (.ok none)
    else do
      let newSp ← okOr (checkedAdd bp 16) (.error .integerOverflow)
      if newSp ≤ sp then .error (.error .framepointerUnwindingMovedBackwards)
      else do
        let newBp ← okOr (readStack bp) (.error (.couldNotReadStack bp))
        return (newSp, newBp)

def exec (self : UnwindRuleX86_64) (regs : UnwindRegsX86_64)
    (readStack : UInt64 → Option UInt64) : Except Error (Option UInt64) × UnwindRegsX86_64 :=
  match self.newSpAndBp regs readStack with
  | .error early => (early, regs)
  | .ok (newSp, newBp) =>
    match readStack (newSp - 8) with
    | none => (.error (.couldNotReadStack (newSp - 8)), regs)
    | some returnAddress =>
      if returnAddress = 0 then (.ok none, regs)
      else (.ok (some returnAddress), { ip := returnAddress, sp := newSp, bp := newBp })

/-- Whether a successful `exec` moves `sp` strictly up: every rule but a zero
`sp_offset_by_8`. -/
def advancesSp : UnwindRuleX86_64 → Bool
  | .offsetSp spOffsetBy8 => spOffsetBy8 != 0
  | .offsetSpAndRestoreBp spOffsetBy8 _ => spOffsetBy8 != 0
  | _ => true

variable {r : UnwindRuleX86_64} {regs : UnwindRegsX86_64} {readStack : UInt64 → Option UInt64}
  {newSp newBp : UInt64}

theorem spOffset_toNat (n : UInt16) : (n.toUInt64 * 8).toNat = n.toNat * 8 := by
  have := UInt16.toNat_lt n
  rw [UInt64.toNat_mul, UInt16.toUInt64_toNat]
  show n.toNat * 8 % 2 ^ 64 = n.toNat * 8
  omega

theorem newSpAndBp_justReturn :
    justReturn.newSpAndBp regs readStack = .ok (newSp, newBp) ↔
      regs.sp.toNat + 8 < 2 ^ 64 ∧ newSp.toNat = regs.sp.toNat + 8 ∧ newBp = regs.bp := by
  simp only [newSpAndBp, okOr_bind_eq_ok, checkedAdd_eq_some, except_pure_eq_ok, Prod.mk.injEq,
    UInt64.toNat_ofNat, UInt64.size]
  constructor
  · rintro ⟨s, ⟨h, hs⟩, rfl, rfl⟩; exact ⟨h, hs, rfl⟩
  · rintro ⟨h, hs, rfl⟩; exact ⟨newSp, ⟨h, hs⟩, rfl, rfl⟩

theorem newSpAndBp_offsetSp {n : UInt16} :
    (offsetSp n).newSpAndBp regs readStack = .ok (newSp, newBp) ↔
      regs.sp.toNat + n.toNat * 8 < 2 ^ 64 ∧ newSp.toNat = regs.sp.toNat + n.toNat * 8 ∧
        newBp = regs.bp := by
  simp only [newSpAndBp, okOr_bind_eq_ok, checkedAdd_eq_some, spOffset_toNat, except_pure_eq_ok,
    Prod.mk.injEq]
  constructor
  · rintro ⟨s, ⟨h, hs⟩, rfl, rfl⟩; exact ⟨h, hs, rfl⟩
  · rintro ⟨h, hs, rfl⟩; exact ⟨newSp, ⟨h, hs⟩, rfl, rfl⟩

theorem newSpAndBp_offsetSpAndRestoreBp {n : UInt16} {k : I16} :
    (offsetSpAndRestoreBp n k).newSpAndBp regs readStack = .ok (newSp, newBp) ↔
      regs.sp.toNat + n.toNat * 8 < 2 ^ 64 ∧ newSp.toNat = regs.sp.toNat + n.toNat * 8 ∧
        ∃ loc : UInt64, (loc.toNat : Int) = regs.sp.toNat + k.val * 8 ∧
          readStack loc = some newBp := by
  obtain ⟨k, hk⟩ := k
  simp only [newSpAndBp, okOr_bind_eq_ok, checkedAdd_eq_some, spOffset_toNat,
    checkedAddSigned_eq_some (by omega : -2 ^ 64 < k * 8) (by omega), except_pure_eq_ok,
    Prod.mk.injEq]
  constructor
  · rintro ⟨s, ⟨h, hs⟩, loc, hloc, b, hb, rfl, rfl⟩
    exact ⟨h, hs, loc, hloc, hb⟩
  · rintro ⟨h, hs, loc, hloc, hb⟩
    exact ⟨newSp, ⟨h, hs⟩, loc, hloc, newBp, hb, rfl, rfl⟩

theorem newSpAndBp_useFramePointer :
    useFramePointer.newSpAndBp regs readStack = .ok (newSp, newBp) ↔
      regs.bp ≠ 0 ∧ regs.bp.toNat + 16 < 2 ^ 64 ∧ regs.sp.toNat < regs.bp.toNat + 16 ∧
        newSp.toNat = regs.bp.toNat + 16 ∧ readStack regs.bp = some newBp := by
  simp only [newSpAndBp]
  split
  · simp_all
  · simp only [okOr_bind_eq_ok, checkedAdd_eq_some, UInt64.toNat_ofNat, UInt64.size]
    constructor
    · rintro ⟨s, ⟨h, hs⟩, h2⟩
      split at h2
      · simp at h2
      · simp only [okOr_bind_eq_ok, except_pure_eq_ok, Prod.mk.injEq] at h2
        obtain ⟨b, hb, rfl, rfl⟩ := h2
        simp_all [UInt64.le_iff_toNat]
    · rintro ⟨hbp, h, hlt, hs, hb⟩
      refine ⟨newSp, ⟨h, hs⟩, ?_⟩
      rw [if_neg (by simp only [UInt64.le_iff_toNat]; omega)]
      simp [okOr_bind_eq_ok, hb]

/-- An arm returns early only with `Ok(None)` or an `Err`, never with a return address. -/
theorem newSpAndBp_early {early : Except Error (Option UInt64)}
    (h : r.newSpAndBp regs readStack = .error early) (ra : UInt64) : early ≠ .ok (some ra) := by
  rintro rfl
  cases r <;> simp [newSpAndBp, okOr_bind_eq_error_ok, pure, Except.pure] at h
  split at h
  · simp at h
  · simp only [okOr_bind_eq_error_ok] at h
    obtain ⟨a, -, h⟩ := h
    split at h <;> simp_all [okOr_bind_eq_error_ok, pure, Except.pure]

/-- No rule moves `sp` down, and every rule but a zero `sp_offset_by_8` moves it up. -/
theorem newSpAndBp_sp (h : r.newSpAndBp regs readStack = .ok (newSp, newBp)) :
    regs.sp.toNat ≤ newSp.toNat ∧ (r.advancesSp → regs.sp.toNat < newSp.toNat) := by
  cases r with
  | justReturn => have := newSpAndBp_justReturn.mp h; omega
  | offsetSp n =>
    have := newSpAndBp_offsetSp.mp h
    simp only [advancesSp, bne_iff_ne, ne_eq, UInt16.eq_zero_iff_toNat]; omega
  | offsetSpAndRestoreBp n k =>
    have := newSpAndBp_offsetSpAndRestoreBp.mp h
    simp only [advancesSp, bne_iff_ne, ne_eq, UInt16.eq_zero_iff_toNat]; omega
  | useFramePointer => have := newSpAndBp_useFramePointer.mp h; omega

/-- The one unchecked operation that can wrap: with `sp_offset_by_8 = 0` the arm keeps
`new_sp = sp`, and at `sp = 0` the subtraction `new_sp - 8` underflows (a debug build panics;
a release build asks for the return address at `2^64 - 8`). -/
theorem offsetSp_zero_new_sp_below_eight (readStack : UInt64 → Option UInt64) :
    (offsetSp 0).newSpAndBp ⟨0, 0, 0⟩ readStack = .ok (0, 0) ∧
      (offsetSp 0).exec ⟨0, 0, 0⟩ (fun _ => none) =
        (.error (.couldNotReadStack 0xFFFFFFFFFFFFFFF8), ⟨0, 0, 0⟩) :=
  ⟨rfl, rfl⟩

/-- The only way `exec` writes the registers: the arm succeeded and a nonzero return address
was read at `new_sp - 8`. -/
theorem exec_cases (r : UnwindRuleX86_64) (regs : UnwindRegsX86_64)
    (readStack : UInt64 → Option UInt64) :
    ((r.exec regs readStack).2 = regs ∧ ∀ ra, (r.exec regs readStack).1 ≠ .ok (some ra)) ∨
      ∃ ra newSp newBp, r.newSpAndBp regs readStack = .ok (newSp, newBp) ∧
        readStack (newSp - 8) = some ra ∧ ra ≠ 0 ∧
        r.exec regs readStack = (.ok (some ra), ⟨ra, newSp, newBp⟩) := by
  unfold exec
  split
  · exact .inl ⟨rfl, fun ra => by simpa using newSpAndBp_early ‹_› ra⟩
  · rename_i newSp newBp h
    split
    · simp
    · rename_i ra hra
      split
      · simp
      · exact .inr ⟨ra, newSp, newBp, h, hra, ‹_›, rfl⟩

theorem okOr_bind_eq_error {ε α β : Type} {o : Option α} {e x : ε} {f : α → Except ε β} :
    (okOr o e >>= f) = .error x ↔ (o = none ∧ e = x) ∨ ∃ a, o = some a ∧ f a = .error x := by
  cases o <;> simp [okOr, bind, Except.bind]

/-- No arm returns early with `ReturnAddressIsNull`. -/
theorem newSpAndBp_early_ne_null {early : Except Error (Option UInt64)}
    (h : r.newSpAndBp regs readStack = .error early) : early ≠ .error .returnAddressIsNull := by
  rintro rfl
  cases r <;> simp [newSpAndBp, okOr_bind_eq_error, pure, Except.pure] at h
  split at h
  · simp at h
  · simp only [okOr_bind_eq_error] at h
    rcases h with ⟨-, h⟩ | ⟨a, -, h⟩
    · cases h
    split at h <;> simp_all [okOr_bind_eq_error, pure, Except.pure]

/-- `exec` never raises `ReturnAddressIsNull`: a zero return address gives `Ok(None)`. -/
theorem exec_ne_returnAddressIsNull (r : UnwindRuleX86_64) (regs : UnwindRegsX86_64)
    (readStack : UInt64 → Option UInt64) :
    (r.exec regs readStack).1 ≠ .error .returnAddressIsNull := by
  unfold exec
  split
  · exact newSpAndBp_early_ne_null ‹_›
  · split
    · simp
    · split <;> simp

/-- At the same input, a stack holding `1` at `2^64 - 8` makes `exec` succeed with the caller's
`sp = 0`: the return-address slot `new_sp - 8` of a step in unbounded integers would be `-8`. -/
theorem offsetSp_zero_reads_wrapped_slot :
    (offsetSp 0).exec ⟨0, 0, 0⟩ (fun a => if a = 0xFFFFFFFFFFFFFFF8 then some 1 else none) =
      (.ok (some 1), ⟨1, 0, 0⟩) :=
  rfl

theorem exec_of_newSpAndBp {ra : UInt64} (h : r.newSpAndBp regs readStack = .ok (newSp, newBp))
    (hra : readStack (newSp - 8) = some ra) (h0 : ra ≠ 0) :
    r.exec regs readStack = (.ok (some ra), ⟨ra, newSp, newBp⟩) := by
  simp [exec, h, hra, h0]

/-- An arm reads the stack at most once, at an address fixed by the rule and the registers. -/
theorem newSpAndBp_reads_one_word (r : UnwindRuleX86_64) (regs : UnwindRegsX86_64) :
    ∃ a, ∀ readStack readStack' : UInt64 → Option UInt64, readStack' a = readStack a →
      r.newSpAndBp regs readStack' = r.newSpAndBp regs readStack := by
  cases r with
  | justReturn => exact ⟨0, fun _ _ _ => rfl⟩
  | offsetSp n => exact ⟨0, fun _ _ _ => rfl⟩
  | offsetSpAndRestoreBp n k =>
    refine ⟨(checkedAddSigned regs.sp (k.val * 8)).getD 0, fun readStack readStack' h => ?_⟩
    simp only [newSpAndBp]
    rcases hloc : checkedAddSigned regs.sp (k.val * 8) with _ | loc
    · rfl
    · rw [hloc] at h
      simp only [okOr_some, bind, Except.bind]
      rw [show readStack' loc = readStack loc from h]
  | useFramePointer =>
    exact ⟨regs.bp, fun readStack readStack' h => by simp only [newSpAndBp, h]⟩

/-- `exec` reads at most two words of the stack: the arm's one, and the return address at
`new_sp - 8`. Any stack that agrees with `readStack` there gives the same result and
registers. -/
theorem exec_reads_two_words (r : UnwindRuleX86_64) (regs : UnwindRegsX86_64)
    (readStack : UInt64 → Option UInt64) :
    ∃ a₁ a₂, ∀ readStack' : UInt64 → Option UInt64, readStack' a₁ = readStack a₁ →
      readStack' a₂ = readStack a₂ → r.exec regs readStack' = r.exec regs readStack := by
  obtain ⟨a₁, h₁⟩ := newSpAndBp_reads_one_word r regs
  refine ⟨a₁, match r.newSpAndBp regs readStack with
    | .ok (newSp, _) => newSp - 8
    | .error _ => 0, fun readStack' ha hb => ?_⟩
  unfold exec
  rw [h₁ readStack readStack' ha]
  rcases hn : r.newSpAndBp regs readStack with _ | ⟨newSp, newBp⟩
  · rfl
  · simp only [hn] at hb
    simp only [hb]

end UnwindRuleX86_64

end Framehop

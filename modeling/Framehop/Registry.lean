import Framehop.BinarySearch

/-!
# Modules and the module registry

`Module` and `UnwinderInternal` from `unwinder.rs`. The registry keeps its modules sorted by
the start of their mapped range: `add_module` inserts at the position `binary_search_by_key`
reports, `remove_module` removes an exact-start match, and `find_module_for_address` looks the
address up by start and checks the neighbour below it.

Every change to the list draws a fresh `modules_generation` from the process-wide
`GLOBAL_MODULES_GENERATION`. The model passes that counter explicitly as the number of draws
made so far; the `AtomicU16` holds its residue modulo `2^16`.

The registry's results hold for any `BinarySearch`. On every registry `new`, `add_module` and
`remove_module` reach, the modules stay sorted and both calls do what they promise
(`registry_sorted_add_remove_exact`). `add_module` trusts its caller: it neither checks that a
range is nonempty nor that it misses the registered ones. Where both hold,
`find_module_for_address` is exact (`findModuleForAddress_exact`) and `max_known_code_address`
is the greatest end (`maxKnownCodeAddress_eq_max_end`); a caller that keeps to both keeps the
registry so, whatever it removes (`disjoint_adds_keep_registry_exact`). An empty range breaks
both answers. With overlapping ranges the lookup consults only the module with the greatest
start at or before the address (`findModuleForAddress_last_start`).
-/

namespace Framehop

/-- `Range<u64>`, the half-open range `[start, end)`. -/
structure Range where
  start : UInt64
  «end» : UInt64
  deriving DecidableEq, Repr, Inhabited

def Range.contains (r : Range) (a : UInt64) : Prop := r.start ≤ a ∧ a < r.end

/-- No address lies in both ranges. -/
def Range.Disjoint (r r' : Range) : Prop := ∀ a : UInt64, ¬ (r.contains a ∧ r'.contains a)

theorem Range.Disjoint.symm {r r' : Range} (h : r.Disjoint r') : r'.Disjoint r :=
  fun a hc => h a ⟨hc.2, hc.1⟩

/-- A range that ends where another starts shares no address with it. -/
theorem Range.disjoint_of_end_le {r r' : Range} (h : r.end ≤ r'.start) : r.Disjoint r' :=
  fun _ ⟨⟨_, ha⟩, hb, _⟩ => Nat.lt_irrefl _ (Nat.lt_of_lt_of_le ha (Nat.le_trans h hb))

/-- Bytes of a section or segment. -/
abbrev Bytes := List UInt8

structure TextByteData where
  bytes : Bytes
  svmaRange : Range
  deriving DecidableEq, Repr

/-- Modelled from the spec: the FDE index built from a `.eh_frame` or `.debug_frame` section,
`(relative pc, FDE offset)` pairs sorted by pc (`dwarf.rs` is not in the source). -/
structure DwarfCfiIndex where
  entries : List (UInt32 × UInt32)
  deriving DecidableEq, Repr

/-- The unwind data of a module. Each variant's `base_addresses` is derived from the module's
sections and only forwarded to the DWARF evaluator, so it is left out. -/
inductive ModuleUnwindDataInternal where
  | compactUnwindInfoAndEhFrame (unwindInfo : Bytes) (ehFrame : Option Bytes)
      (stubs : Option Range) (stubHelper : Option Range) (textData : Option TextByteData)
  | ehFrameHdrAndEhFrame (ehFrameHdr : Bytes) (ehFrame : Bytes)
  | dwarfCfiIndexAndEhFrame (index : DwarfCfiIndex) (ehFrame : Bytes)
  | dwarfCfiIndexAndDebugFrame (index : DwarfCfiIndex) (debugFrame : Bytes)
  | none
  deriving DecidableEq, Repr, Inhabited

/-- A loaded module; its `name`, used only for debugging, is left out. -/
structure Module where
  avmaRange : Range
  baseAvma : UInt64
  baseSvma : UInt64
  unwindData : ModuleUnwindDataInternal
  deriving DecidableEq, Repr, Inhabited

/-- `a` is in the module's mapped range, at or above its base and less than 4 GiB above it,
and `r` is its address relative to the base. -/
def Module.Contains (m : Module) (a : UInt64) (r : UInt32) : Prop :=
  m.avmaRange.contains a ∧ m.baseAvma ≤ a ∧ a.toNat - m.baseAvma.toNat < 2 ^ 32 ∧
    r.toNat = a.toNat - m.baseAvma.toNat

structure UnwinderInternal where
  /-- sorted by `avma_range.start` -/
  modules : List Module
  /-- Incremented every time `modules` is changed. -/
  modulesGeneration : UInt16
  deriving DecidableEq, Repr

/-- `GLOBAL_MODULES_GENERATION.fetch_add(1)`, with the counter as the number of draws so far. -/
def nextGlobalModulesGeneration (global : Nat) : UInt16 × Nat :=
  (UInt16.ofNat global, global + 1)

/-- `u32::try_from(u64).ok()`. -/
def u32TryFrom (x : UInt64) : Option UInt32 :=
  if x.toNat < 2 ^ 32 then some x.toUInt32 else none

theorem u32TryFrom_eq_some {x : UInt64} {r : UInt32} :
    u32TryFrom x = some r ↔ x.toNat < 2 ^ 32 ∧ r.toNat = x.toNat := by
  unfold u32TryFrom
  split
  · rename_i h
    have : x.toUInt32.toNat = x.toNat := Nat.mod_eq_of_lt h
    constructor
    · rintro ⟨⟩; exact ⟨h, this⟩
    · rintro ⟨-, hr⟩; exact congrArg some (UInt32.toNat.inj (this.trans hr.symm))
  · simp_all

namespace UnwinderInternal

def new (global : Nat) : UnwinderInternal × Nat :=
  let (modulesGeneration, global) := nextGlobalModulesGeneration global
  (⟨[], modulesGeneration⟩, global)

def startOf (m : Module) : UInt64 := m.avmaRange.start

/-- `new` draws the unwinder's generation. -/
theorem new_generation (global : Nat) :
    (new global).1.modulesGeneration = UInt16.ofNat global ∧ (new global).2 = global + 1 :=
  ⟨rfl, rfl⟩

/-- Both a match (after a diagnostic about the duplicate start) and an insertion point are used
as the position of the new module. -/
def addModule [BinarySearch] (self : UnwinderInternal) (module : Module) (global : Nat) :
    UnwinderInternal × Nat :=
  let insertionIndex := match binarySearchByKey self.modules module.avmaRange.start startOf with
    | .ok i => i
    | .error i => i
  let (modulesGeneration, global) := nextGlobalModulesGeneration global
  (⟨self.modules.take insertionIndex ++ module :: self.modules.drop insertionIndex,
    modulesGeneration⟩, global)

def removeModule [BinarySearch] (self : UnwinderInternal) (moduleAddressRangeStart : UInt64) (global : Nat) :
    UnwinderInternal × Nat :=
  match binarySearchByKey self.modules moduleAddressRangeStart startOf with
  | .ok index =>
    let (modulesGeneration, global) := nextGlobalModulesGeneration global
    (⟨self.modules.eraseIdx index, modulesGeneration⟩, global)
  | .error _ => (self, global)

/-- `add_module` always draws a new generation. -/
theorem addModule_generation [BinarySearch] (self : UnwinderInternal) (module : Module) (global : Nat) :
    (self.addModule module global).1.modulesGeneration = UInt16.ofNat global ∧
      (self.addModule module global).2 = global + 1 :=
  ⟨rfl, rfl⟩

/-- `remove_module` either draws a new generation or changes nothing. -/
theorem removeModule_generation [BinarySearch] (self : UnwinderInternal) (start : UInt64) (global : Nat) :
    self.removeModule start global = (self, global) ∨
      ((self.removeModule start global).1.modulesGeneration = UInt16.ofNat global ∧
        (self.removeModule start global).2 = global + 1) := by
  unfold removeModule
  split
  · exact .inr ⟨rfl, rfl⟩
  · exact .inl rfl

def maxKnownCodeAddress (self : UnwinderInternal) : UInt64 :=
  match self.modules.getLast? with
  | some m => m.avmaRange.end
  | none => 0

/-- The first half of `find_module_for_address`: the module whose start is the address, or
else the one before the insertion point if the address is below its end. -/
def candidateModule [BinarySearch] (self : UnwinderInternal) (address : UInt64) : Option (Nat × Module) :=
  match binarySearchByKey self.modules address startOf with
  | .ok i => some (i, self.modules[i]!)
  | .error insertionIndex =>
    if insertionIndex = 0 then none
    else
      let i := insertionIndex - 1
      let module := self.modules[i]!
      if module.avmaRange.end ≤ address then none
      else some (i, module)

def findModuleForAddress [BinarySearch] (self : UnwinderInternal) (address : UInt64) :
    Option (Nat × UInt32) :=
  match self.candidateModule address with
  | none => none
  | some (moduleIndex, module) =>
    if address < module.baseAvma then none
    else (u32TryFrom (address - module.baseAvma)).map (moduleIndex, ·)

/-- The candidate is a module of the list, whatever the list. -/
theorem candidateModule_index [BinarySearch] (u : UnwinderInternal) {a : UInt64} {i : Nat} {m : Module}
    (h : u.candidateModule a = some (i, m)) : ∃ hi : i < u.modules.length, m = u.modules[i] := by
  have hb := binarySearchByKey_inBounds u.modules a startOf
  unfold candidateModule at h
  split at h
  · rename_i j hj
    rw [hj] at hb
    simp only [Option.some.injEq, Prod.mk.injEq] at h
    obtain ⟨rfl, rfl⟩ := h
    exact ⟨hb, getElem!_pos u.modules j hb⟩
  · rename_i k hk
    rw [hk] at hb
    split at h
    · cases h
    · dsimp only at h
      split at h
      · cases h
      · simp only [Option.some.injEq, Prod.mk.injEq] at h
        obtain ⟨rfl, rfl⟩ := h
        have hi : k - 1 < u.modules.length := by simp only [InBounds] at hb; omega
        exact ⟨hi, getElem!_pos u.modules _ hi⟩

/-- What an answer of `find_module_for_address` is made of: the candidate module, an address at
or above its base, and the `u32` offset from that base. -/
theorem findModuleForAddress_eq_some_inv [BinarySearch] (u : UnwinderInternal) {a : UInt64} {i : Nat}
    {r : UInt32} (h : u.findModuleForAddress a = some (i, r)) :
    ∃ m, u.candidateModule a = some (i, m) ∧ m.baseAvma ≤ a ∧
      u32TryFrom (a - m.baseAvma) = some r := by
  unfold findModuleForAddress at h
  split at h
  · cases h
  · rename_i j m hc
    split at h
    · cases h
    · obtain ⟨_, hr, he⟩ := Option.map_eq_some'.mp h
      cases he
      exact ⟨m, hc, UInt64.not_lt.mp ‹_›, hr⟩

theorem findModuleForAddress_index_lt [BinarySearch] (u : UnwinderInternal) {a : UInt64} {i : Nat} {r : UInt32}
    (h : u.findModuleForAddress a = some (i, r)) : i < u.modules.length :=
  have ⟨_, hc, _⟩ := u.findModuleForAddress_eq_some_inv h
  (u.candidateModule_index hc).1

/-- The modules are sorted by start address. -/
def Sorted (u : UnwinderInternal) : Prop := (u.modules.map startOf).Pairwise (· ≤ ·)

/-- The position `add_module` inserts at: everything before it starts at most at `key`,
everything from it on at least at `key`. -/
theorem searchPosition_spec [BinarySearch] {ms : List Module} (key : UInt64)
    (hs : (ms.map startOf).Pairwise (· ≤ ·)) :
    let i := match binarySearchByKey ms key startOf with | .ok i => i | .error i => i
    i ≤ ms.length ∧ (∀ j (h : j < ms.length), j < i → startOf ms[j] ≤ key) ∧
      ∀ j (h : j < ms.length), i ≤ j → key ≤ startOf ms[j] := by
  have hspec := binarySearchByKey_spec key hs
  revert hspec
  cases binarySearchByKey ms key startOf with
  | ok i =>
    rintro ⟨hi, hk⟩
    dsimp only
    have hi' : i < ms.length := by simpa using hi
    simp only [List.getElem_map] at hk
    refine ⟨by omega, fun j hj hji => ?_, fun j hj hij => ?_⟩
    · have := sorted_getElem_le hs (by simpa using hj) hi (by omega)
      simp only [List.getElem_map] at this; rw [← hk]; exact this
    · have := sorted_getElem_le hs hi (by simpa using hj) hij
      simp only [List.getElem_map] at this; rw [← hk]; exact this
  | error i =>
    rintro ⟨hi, hlt, hgt⟩
    dsimp only
    simp only [List.length_map, List.getElem_map] at hi hlt hgt
    exact ⟨hi, fun j hj hji => Nat.le_of_lt (hlt j hj hji),
      fun j hj hij => Nat.le_of_lt (hgt j hj hij)⟩

theorem sorted_take_cons_drop {ms : List Module} {i : Nat} {m : Module}
    (hs : (ms.map startOf).Pairwise (· ≤ ·))
    (hle : ∀ j (h : j < ms.length), j < i → startOf ms[j] ≤ startOf m)
    (hge : ∀ j (h : j < ms.length), i ≤ j → startOf m ≤ startOf ms[j]) :
    ((ms.take i ++ m :: ms.drop i).map startOf).Pairwise (· ≤ ·) := by
  rw [List.pairwise_map] at hs ⊢
  have htake : ∀ a ∈ ms.take i, startOf a ≤ startOf m := by
    intro a ha
    obtain ⟨j, hj, rfl⟩ := List.mem_take_iff_getElem.mp ha
    exact hle j _ (by simp at hj; omega)
  have hdrop : ∀ b ∈ ms.drop i, startOf m ≤ startOf b := by
    intro b hb
    obtain ⟨j, hj, rfl⟩ := List.mem_drop_iff_getElem.mp hb
    exact hge (i + j) (by omega) (by omega)
  rw [List.pairwise_append, List.pairwise_cons]
  refine ⟨hs.sublist (List.take_sublist _ _), ⟨hdrop, hs.sublist (List.drop_sublist _ _)⟩, ?_⟩
  intro a ha b hb
  rcases List.mem_cons.mp hb with rfl | hb
  · exact htake a ha
  · exact UInt64.le_trans (htake a ha) (hdrop b hb)

variable {u : UnwinderInternal}

theorem Sorted.addModule [BinarySearch] (hs : u.Sorted) (module : Module) (global : Nat) :
    (u.addModule module global).1.Sorted := by
  obtain ⟨-, hle, hge⟩ := searchPosition_spec module.avmaRange.start hs
  exact sorted_take_cons_drop hs hle hge

theorem Sorted.removeModule [BinarySearch] (hs : u.Sorted) (start : UInt64) (global : Nat) :
    (u.removeModule start global).1.Sorted := by
  unfold UnwinderInternal.removeModule
  split
  · unfold Sorted at hs ⊢
    rw [List.pairwise_map] at hs ⊢
    exact hs.sublist (List.eraseIdx_sublist _ _)
  · exact hs

/-- The registry's states: `new()` followed by any `add_module` and `remove_module` calls, with
any number of draws by other unwinders in between. -/
inductive Reachable [BinarySearch] : UnwinderInternal → Prop
  | new (global : Nat) : Reachable (UnwinderInternal.new global).1
  | addModule {u : UnwinderInternal} (module : Module) (global : Nat) :
      Reachable u → Reachable (u.addModule module global).1
  | removeModule {u : UnwinderInternal} (start : UInt64) (global : Nat) :
      Reachable u → Reachable (u.removeModule start global).1

theorem Reachable.sorted [BinarySearch] (h : Reachable u) : u.Sorted := by
  induction h with
  | new => exact List.Pairwise.nil
  | addModule module global _ ih => exact ih.addModule module global
  | removeModule start global _ ih => exact ih.removeModule start global

theorem removeModule_of_mem [BinarySearch] (hs : u.Sorted) {start : UInt64} (h : ∃ m ∈ u.modules, startOf m = start) (global : Nat) :
    ∃ i, ∃ hi : i < u.modules.length, startOf u.modules[i] = start ∧
      u.removeModule start global = (⟨u.modules.eraseIdx i, UInt16.ofNat global⟩, global + 1) := by
  have hspec := binarySearchByKey_spec start hs
  unfold UnwinderInternal.removeModule
  revert hspec
  cases binarySearchByKey u.modules start startOf with
  | ok i =>
    rintro ⟨hi, hk⟩
    simp only [List.getElem_map] at hk
    exact ⟨i, by simpa using hi, hk, rfl⟩
  | error i =>
    rintro ⟨-, hlt, hgt⟩
    obtain ⟨m, hm, rfl⟩ := h
    obtain ⟨j, hj, rfl⟩ := List.getElem_of_mem hm
    by_cases hji : j < i
    · have := hlt j (by simpa using hj) hji; simp at this
    · have := hgt j (by simpa using hj) (by omega); simp at this

theorem removeModule_of_not_mem [BinarySearch] (hs : u.Sorted) {start : UInt64}
    (h : ¬ ∃ m ∈ u.modules, startOf m = start) (global : Nat) :
    u.removeModule start global = (u, global) := by
  have hspec := binarySearchByKey_spec start hs
  unfold UnwinderInternal.removeModule
  revert hspec
  cases binarySearchByKey u.modules start startOf with
  | ok i =>
    rintro ⟨hi, hk⟩
    simp only [List.getElem_map] at hk
    exact absurd ⟨_, List.getElem_mem (by simpa using hi), hk⟩ h
  | error i => intro; rfl

/-- What `add_module` and `remove_module` promise of a registry. -/
structure RegistryLaws [BinarySearch] (u : UnwinderInternal) : Prop where
  /-- The modules are sorted by start address, in non-decreasing order. -/
  sorted : (u.modules.map (·.avmaRange.start)).Pairwise (· ≤ ·)
  /-- `add_module` inserts the module once, losing and duplicating nothing. -/
  addModule_inserts : ∀ module global, ∃ i ≤ u.modules.length,
    (u.addModule module global).1.modules = u.modules.take i ++ module :: u.modules.drop i
  /-- `remove_module` removes exactly one module with that start when there is one. -/
  removeModule_present : ∀ start global, (∃ m ∈ u.modules, m.avmaRange.start = start) →
    ∃ i, ∃ hi : i < u.modules.length, u.modules[i].avmaRange.start = start ∧
      (u.removeModule start global).1.modules = u.modules.eraseIdx i
  /-- Otherwise it changes nothing: not the list, the generation, or the global counter. -/
  removeModule_absent : ∀ start global, (¬ ∃ m ∈ u.modules, m.avmaRange.start = start) →
    u.removeModule start global = (u, global)

theorem registry_sorted_add_remove_exact [BinarySearch] (hu : Reachable u) : RegistryLaws u := by
  have hs := hu.sorted
  refine ⟨hs, fun module global => ⟨_, (searchPosition_spec module.avmaRange.start hs).1, rfl⟩,
    fun start global h => ?_, fun start global h => removeModule_of_not_mem hs h global⟩
  obtain ⟨i, hi, hk, he⟩ := removeModule_of_mem hs h global
  exact ⟨i, hi, hk, by rw [he]⟩

def exampleModule : Module := ⟨⟨0x1000, 0x2000⟩, 0x1000, 0, .none⟩

/-- The registry after `new()` and one `add_module`. -/
def oneModuleRegistry : UnwinderInternal := ((new 0).1.addModule exampleModule 1).1

theorem oneModuleRegistry_reachable : Reachable oneModuleRegistry := .addModule _ 1 (.new 0)

theorem registry_laws_one_module : Reachable oneModuleRegistry ∧ RegistryLaws oneModuleRegistry :=
  ⟨oneModuleRegistry_reachable, registry_sorted_add_remove_exact oneModuleRegistry_reachable⟩

/-- The registries `find_module_for_address` is exact for: sorted, with nonempty pairwise
disjoint ranges. -/
structure WellFormed (u : UnwinderInternal) : Prop where
  sorted : u.Sorted
  nonempty : ∀ m ∈ u.modules, m.avmaRange.start < m.avmaRange.end
  disjoint : u.modules.Pairwise (fun m m' => m.avmaRange.Disjoint m'.avmaRange)

theorem WellFormed.index_unique (hw : u.WellFormed) {i j : Nat} (hi : i < u.modules.length)
    (hj : j < u.modules.length) {a : UInt64} (hci : u.modules[i].avmaRange.contains a)
    (hcj : u.modules[j].avmaRange.contains a) : i = j := by
  have hd := List.pairwise_iff_getElem.mp hw.disjoint
  rcases Nat.lt_trichotomy i j with h | h | h
  · exact absurd ⟨hci, hcj⟩ (hd i j hi hj h a)
  · exact h
  · exact absurd ⟨hcj, hci⟩ (hd j i hj hi h a)

theorem WellFormed.contains_start (hw : u.WellFormed) {i : Nat} (hi : i < u.modules.length) :
    u.modules[i].avmaRange.contains u.modules[i].avmaRange.start :=
  ⟨UInt64.le_refl _, hw.nonempty _ (List.getElem_mem hi)⟩

/-- The candidate is the module whose range holds the address, and there is none when no
range holds it. -/
theorem WellFormed.candidateModule_spec [BinarySearch] (hw : u.WellFormed) (a : UInt64) :
    (∀ i m, u.candidateModule a = some (i, m) →
      ∃ hi : i < u.modules.length, m = u.modules[i] ∧ u.modules[i].avmaRange.contains a) ∧
    (u.candidateModule a = none →
      ∀ i (hi : i < u.modules.length), ¬ u.modules[i].avmaRange.contains a) := by
  have hspec := binarySearchByKey_spec a hw.sorted
  unfold candidateModule
  revert hspec
  cases binarySearchByKey u.modules a startOf with
  | ok i =>
    rintro ⟨hi, hk⟩
    have hi' : i < u.modules.length := by simpa using hi
    simp only [List.getElem_map] at hk
    refine ⟨fun i' m h => ?_, fun h => by simp at h⟩
    simp only [Option.some.injEq, Prod.mk.injEq] at h
    obtain ⟨rfl, rfl⟩ := h
    refine ⟨hi', getElem!_pos u.modules i hi', ?_⟩
    have := hw.contains_start hi'
    rw [show startOf u.modules[i] = u.modules[i].avmaRange.start from rfl] at hk
    rwa [hk] at this
  | error k =>
    rintro ⟨hk, hlt, hgt⟩
    simp only [List.length_map, List.getElem_map] at hk hlt hgt
    dsimp only
    by_cases h0 : k = 0
    · subst h0
      refine ⟨fun i m h => by simp at h, fun _ j hj hc => ?_⟩
      exact absurd hc.1 (UInt64.not_le.mpr (hgt j hj (Nat.zero_le _)))
    have hi : k - 1 < u.modules.length := by omega
    have hstart : startOf u.modules[k - 1] < a := hlt _ hi (by omega)
    rw [if_neg h0, getElem!_pos u.modules _ hi]
    by_cases hend : u.modules[k - 1].avmaRange.end ≤ a
    · rw [if_pos hend]
      refine ⟨fun i m h => by simp at h, fun _ j hj hc => ?_⟩
      rcases Nat.lt_trichotomy j (k - 1) with hjk | rfl | hjk
      · have hsj := sorted_getElem_le hw.sorted (by simpa using hj) (by simpa using hi) hjk.le
        simp only [List.getElem_map] at hsj
        have hcs : u.modules[j].avmaRange.contains u.modules[k - 1].avmaRange.start :=
          ⟨hsj, Nat.lt_trans hstart hc.2⟩
        exact absurd (hw.index_unique hj hi hcs (hw.contains_start hi)) (by omega)
      · exact absurd hc.2 (UInt64.not_lt.mpr hend)
      · exact absurd hc.1 (UInt64.not_le.mpr (hgt j hj (by omega)))
    · rw [if_neg hend]
      refine ⟨fun i m h => ?_, fun h => by simp at h⟩
      simp only [Option.some.injEq, Prod.mk.injEq] at h
      obtain ⟨rfl, rfl⟩ := h
      exact ⟨hi, rfl, Nat.le_of_lt hstart, UInt64.not_le.mp hend⟩

theorem WellFormed.findModuleForAddress_eq_some [BinarySearch] (hw : u.WellFormed) (a : UInt64) (i : Nat)
    (r : UInt32) :
    u.findModuleForAddress a = some (i, r) ↔
      ∃ hi : i < u.modules.length, u.modules[i].Contains a r := by
  obtain ⟨hsome, hnone⟩ := hw.candidateModule_spec a
  unfold findModuleForAddress
  cases hcand : u.candidateModule a with
  | none =>
    simp only [reduceCtorEq, false_iff, not_exists]
    exact fun hi hc => hnone hcand i hi hc.1
  | some p =>
    obtain ⟨j, m⟩ := p
    obtain ⟨hj, rfl, hcj⟩ := hsome j _ hcand
    dsimp only
    by_cases hb : a < u.modules[j].baseAvma
    · rw [if_pos hb]
      simp only [reduceCtorEq, false_iff, not_exists]
      intro hi hc
      obtain rfl := hw.index_unique hj hi hcj hc.1
      exact absurd hc.2.1 (UInt64.not_le.mpr hb)
    · rw [if_neg hb, Option.map_eq_some']
      simp only [u32TryFrom_eq_some, UInt64.toNat_sub_of_le _ _ (UInt64.not_lt.mp hb)]
      constructor
      · rintro ⟨r', ⟨hlt, hr⟩, he⟩
        simp only [Prod.mk.injEq] at he
        obtain ⟨rfl, rfl⟩ := he
        exact ⟨hj, hcj, UInt64.not_lt.mp hb, hlt, hr⟩
      · rintro ⟨hi, hc, -, hlt, hr⟩
        obtain rfl := hw.index_unique hj hi hcj hc
        exact ⟨r, ⟨hlt, hr⟩, rfl⟩

/-- On a registry reached by `add_module` and `remove_module` whose ranges are nonempty and
pairwise disjoint, `find_module_for_address` finds exactly the module holding the address. -/
theorem findModuleForAddress_exact [BinarySearch] (hu : Reachable u)
    (hne : ∀ m ∈ u.modules, m.avmaRange.start < m.avmaRange.end)
    (hd : u.modules.Pairwise (fun m m' => m.avmaRange.Disjoint m'.avmaRange)) (a : UInt64) :
    (∀ i r, u.findModuleForAddress a = some (i, r) ↔
      ∃ hi : i < u.modules.length, u.modules[i].Contains a r) ∧
    (u.findModuleForAddress a = none ↔
      ∀ i (hi : i < u.modules.length) r, ¬ u.modules[i].Contains a r) := by
  have hw : u.WellFormed := ⟨hu.sorted, hne, hd⟩
  refine ⟨hw.findModuleForAddress_eq_some a, ?_⟩
  cases h : u.findModuleForAddress a with
  | none =>
    simp only [true_iff]
    intro i hi r hc
    simp [(hw.findModuleForAddress_eq_some a i r).mpr ⟨hi, hc⟩] at h
  | some p =>
    obtain ⟨hi, hc⟩ := (hw.findModuleForAddress_eq_some a p.1 p.2).mp h
    simp only [reduceCtorEq, false_iff, not_forall, not_not]
    exact ⟨p.1, hi, p.2, hc⟩

theorem findModuleForAddress_exact_one_module :
    Reachable oneModuleRegistry ∧
    (∀ m ∈ oneModuleRegistry.modules, m.avmaRange.start < m.avmaRange.end) ∧
    oneModuleRegistry.modules.Pairwise (fun m m' => m.avmaRange.Disjoint m'.avmaRange) ∧
    ((∀ i r, oneModuleRegistry.findModuleForAddress 0x1800 = some (i, r) ↔
      ∃ hi : i < oneModuleRegistry.modules.length,
        oneModuleRegistry.modules[i].Contains 0x1800 r) ∧
    (oneModuleRegistry.findModuleForAddress 0x1800 = none ↔
      ∀ i (hi : i < oneModuleRegistry.modules.length) r,
        ¬ oneModuleRegistry.modules[i].Contains 0x1800 r)) :=
  ⟨oneModuleRegistry_reachable, by decide, List.pairwise_singleton _ _,
    findModuleForAddress_exact oneModuleRegistry_reachable (by decide)
      (List.pairwise_singleton _ _) 0x1800⟩

/-- A module with the empty range `[0x1000, 0x1000)`: the exact-start branch returns it for
`0x1000`, which its range does not hold. -/
theorem findModuleForAddress_empty_range :
    ¬ ∀ u : UnwinderInternal, Reachable u →
      u.modules.Pairwise (fun m m' => m.avmaRange.Disjoint m'.avmaRange) → ∀ a,
      (∀ i r, u.findModuleForAddress a = some (i, r) ↔
        ∃ hi : i < u.modules.length, u.modules[i].Contains a r) ∧
      (u.findModuleForAddress a = none ↔
        ∀ i (hi : i < u.modules.length) r, ¬ u.modules[i].Contains a r) := by
  intro h
  obtain ⟨_, hc⟩ := ((h _ (.addModule ⟨⟨0x1000, 0x1000⟩, 0x1000, 0, .none⟩ 1 (.new 0))
    (List.pairwise_singleton _ _) 0x1000).1 0 0).mp (by decide)
  exact Nat.lt_irrefl _ hc.1.2

/-- On a well-formed registry the last module by start ends last: a module before it that
ended after its start would hold that start too. -/
theorem WellFormed.end_le_last (hw : u.WellFormed) {init : List Module} {last : Module}
    (h : u.modules = init ++ [last]) : ∀ m ∈ u.modules, m.avmaRange.end ≤ last.avmaRange.end := by
  have hs := hw.sorted
  have hd := hw.disjoint
  have hlast : last.avmaRange.start < last.avmaRange.end := hw.nonempty last (by simp [h])
  unfold Sorted at hs
  rw [h, List.map_append, List.pairwise_append] at hs
  rw [h, List.pairwise_append] at hd
  intro m hm
  rw [h, List.mem_append, List.mem_singleton] at hm
  rcases hm with hm | rfl
  · have hle : startOf m ≤ startOf last :=
      hs.2.2 _ (List.mem_map_of_mem _ hm) _ (List.mem_singleton_self _)
    have hend : m.avmaRange.end ≤ last.avmaRange.start := UInt64.not_lt.mp fun hlt =>
      hd.2.2 m hm last (List.mem_singleton_self _) _ ⟨⟨hle, hlt⟩, UInt64.le_refl _, hlast⟩
    exact UInt64.le_trans hend (Nat.le_of_lt hlast)
  · exact UInt64.le_refl _

/-- On a registry reached by `add_module` and `remove_module` whose ranges are nonempty and
pairwise disjoint, `max_known_code_address` is the greatest end of a module's range, and `0`
when there is no module. -/
theorem maxKnownCodeAddress_eq_max_end [BinarySearch] (hu : Reachable u)
    (hne : ∀ m ∈ u.modules, m.avmaRange.start < m.avmaRange.end)
    (hd : u.modules.Pairwise (fun m m' => m.avmaRange.Disjoint m'.avmaRange)) :
    (u.modules = [] → u.maxKnownCodeAddress = 0) ∧
    (∀ m ∈ u.modules, m.avmaRange.end ≤ u.maxKnownCodeAddress) ∧
    (u.modules ≠ [] → ∃ m ∈ u.modules, m.avmaRange.end = u.maxKnownCodeAddress) := by
  unfold maxKnownCodeAddress
  rcases hlast : u.modules.getLast? with _ | last
  · have hnil := List.getLast?_eq_none_iff.mp hlast
    simp [hnil]
  · obtain ⟨init, h⟩ := List.getLast?_eq_some_iff.mp hlast
    exact ⟨fun hnil => by simp [hnil] at h, WellFormed.end_le_last ⟨hu.sorted, hne, hd⟩ h,
      fun _ => ⟨last, by simp [h], rfl⟩⟩

theorem maxKnownCodeAddress_one_module :
    Reachable oneModuleRegistry ∧
    (∀ m ∈ oneModuleRegistry.modules, m.avmaRange.start < m.avmaRange.end) ∧
    oneModuleRegistry.modules.Pairwise (fun m m' => m.avmaRange.Disjoint m'.avmaRange) ∧
    ((oneModuleRegistry.modules = [] → oneModuleRegistry.maxKnownCodeAddress = 0) ∧
    (∀ m ∈ oneModuleRegistry.modules, m.avmaRange.end ≤ oneModuleRegistry.maxKnownCodeAddress) ∧
    (oneModuleRegistry.modules ≠ [] →
      ∃ m ∈ oneModuleRegistry.modules, m.avmaRange.end = oneModuleRegistry.maxKnownCodeAddress)) :=
  ⟨oneModuleRegistry_reachable, by decide, List.pairwise_singleton _ _,
    maxKnownCodeAddress_eq_max_end oneModuleRegistry_reachable (by decide)
      (List.pairwise_singleton _ _)⟩

/-- A module with the empty range `[0x1800, 0x1800)`. -/
def emptyRangeModule : Module := ⟨⟨0x1800, 0x1800⟩, 0x1000, 0, .none⟩

def emptyRangeRegistry : UnwinderInternal := (oneModuleRegistry.addModule emptyRangeModule 2).1

/-- `max_known_code_address` is documented as the highest code address known, but it reads the
end of the module that sorts last. An empty range shares no address with any range, so
`[0x1800, 0x1800)` added after `[0x1000, 0x2000)` keeps the ranges disjoint; it sorts last, and
the answer is `0x1800`, below the `0x2000` the first module ends at. -/
theorem maxKnownCodeAddress_misses_highest_end :
    Reachable emptyRangeRegistry ∧
      emptyRangeRegistry.modules.Pairwise (fun m m' => m.avmaRange.Disjoint m'.avmaRange) ∧
      emptyRangeRegistry.modules = [exampleModule, emptyRangeModule] ∧
      exampleModule.avmaRange.end = 0x2000 ∧ emptyRangeRegistry.maxKnownCodeAddress = 0x1800 :=
  ⟨.addModule _ 2 oneModuleRegistry_reachable,
    List.pairwise_pair.mpr fun _ hc => Nat.lt_irrefl _ (Nat.lt_of_le_of_lt hc.2.1 hc.2.2),
    rfl, rfl, rfl⟩

/-- `add_module` puts the module among the others, dropping and duplicating none. -/
theorem addModule_perm [BinarySearch] (self : UnwinderInternal) (module : Module) (global : Nat) :
    (self.addModule module global).1.modules.Perm (module :: self.modules) :=
  List.perm_middle.trans (.of_eq (by rw [List.take_append_drop]))

theorem removeModule_sublist [BinarySearch] (self : UnwinderInternal) (start : UInt64) (global : Nat) :
    (self.removeModule start global).1.modules.Sublist self.modules := by
  unfold removeModule
  split
  · exact List.eraseIdx_sublist _ _
  · exact List.Sublist.refl _

theorem WellFormed.addModule [BinarySearch] (hw : u.WellFormed) {module : Module}
    (hne : module.avmaRange.start < module.avmaRange.end)
    (hd : ∀ m ∈ u.modules, m.avmaRange.Disjoint module.avmaRange) (global : Nat) :
    (u.addModule module global).1.WellFormed := by
  have hperm := u.addModule_perm module global
  refine ⟨hw.sorted.addModule module global, fun m hm => ?_, ?_⟩
  · rcases List.mem_cons.mp (hperm.subset hm) with rfl | hm
    · exact hne
    · exact hw.nonempty m hm
  · exact (List.pairwise_cons.mpr ⟨fun m hm => (hd m hm).symm, hw.disjoint⟩).perm hperm.symm
      fun h => h.symm

theorem WellFormed.removeModule [BinarySearch] (hw : u.WellFormed) (start : UInt64) (global : Nat) :
    (u.removeModule start global).1.WellFormed :=
  have hsub := u.removeModule_sublist start global
  ⟨hw.sorted.removeModule start global, fun m hm => hw.nonempty m (hsub.subset hm),
    hw.disjoint.sublist hsub⟩

/-- The registries of a caller that adds only nonempty ranges disjoint from the registered
ones, and removes any start. -/
inductive DisjointReachable [BinarySearch] : UnwinderInternal → Prop
  | new (global : Nat) : DisjointReachable (UnwinderInternal.new global).1
  | addModule {u : UnwinderInternal} {module : Module} (global : Nat)
      (hne : module.avmaRange.start < module.avmaRange.end)
      (hd : ∀ m ∈ u.modules, m.avmaRange.Disjoint module.avmaRange) :
      DisjointReachable u → DisjointReachable (u.addModule module global).1
  | removeModule {u : UnwinderInternal} (start : UInt64) (global : Nat) :
      DisjointReachable u → DisjointReachable (u.removeModule start global).1

theorem DisjointReachable.wellFormed [BinarySearch] (h : DisjointReachable u) : u.WellFormed := by
  induction h with
  | new => exact ⟨List.Pairwise.nil, (fun _ h => nomatch h), List.Pairwise.nil⟩
  | addModule global hne hd _ ih => exact ih.addModule hne hd global
  | removeModule start global _ ih => exact ih.removeModule start global

theorem WellFormed.end_le_maxKnownCodeAddress (hw : u.WellFormed) :
    ∀ m ∈ u.modules, m.avmaRange.end ≤ u.maxKnownCodeAddress := by
  unfold maxKnownCodeAddress
  rcases hlast : u.modules.getLast? with _ | last
  · simp [List.getLast?_eq_none_iff.mp hlast]
  · obtain ⟨init, h⟩ := List.getLast?_eq_some_iff.mp hlast
    exact hw.end_le_last h

/-- A caller that adds only nonempty ranges disjoint from the registered ones, and removes
anything, keeps the registry well formed: `find_module_for_address` then answers exactly the
module holding the address, and `max_known_code_address` is at least every module's end. -/
theorem disjoint_adds_keep_registry_exact [BinarySearch] (h : DisjointReachable u) :
    u.WellFormed ∧
    (∀ a i r, u.findModuleForAddress a = some (i, r) ↔
      ∃ hi : i < u.modules.length, u.modules[i].Contains a r) ∧
    ∀ m ∈ u.modules, m.avmaRange.end ≤ u.maxKnownCodeAddress :=
  have hw := h.wellFormed
  ⟨hw, hw.findModuleForAddress_eq_some, hw.end_le_maxKnownCodeAddress⟩

def secondModule : Module := ⟨⟨0x3000, 0x4000⟩, 0x3000, 0, .none⟩

/-- The registry after adding `[0x3000, 0x4000)` beside `[0x1000, 0x2000)`. -/
def twoModuleRegistry : UnwinderInternal := (oneModuleRegistry.addModule secondModule 2).1

theorem twoModuleRegistry_disjointReachable : DisjointReachable twoModuleRegistry :=
  .addModule 2 (by decide) (fun _ hm => by
      obtain rfl := List.mem_singleton.mp hm
      exact Range.disjoint_of_end_le (by decide))
    (.addModule 1 (by decide) (fun _ h => nomatch h) (.new 0))

theorem two_disjoint_modules_registry_exact :
    DisjointReachable twoModuleRegistry ∧ (twoModuleRegistry.WellFormed ∧
    (∀ a i r, twoModuleRegistry.findModuleForAddress a = some (i, r) ↔
      ∃ hi : i < twoModuleRegistry.modules.length, twoModuleRegistry.modules[i].Contains a r) ∧
    ∀ m ∈ twoModuleRegistry.modules, m.avmaRange.end ≤ twoModuleRegistry.maxKnownCodeAddress) :=
  ⟨twoModuleRegistry_disjointReachable,
    disjoint_adds_keep_registry_exact twoModuleRegistry_disjointReachable⟩

/-- In a list with one element of a kind, the index of an element of that kind is its
position. -/
theorem index_eq_of_append_cons {p : Module → Prop} {a : Module} {l₂ : List Module}
    (h₂ : ∀ x ∈ l₂, ¬ p x) :
    ∀ {l₁ : List Module} (_ : ∀ x ∈ l₁, ¬ p x) {j : Nat} (hj : j < (l₁ ++ a :: l₂).length),
      p (l₁ ++ a :: l₂)[j] → j = l₁.length
  | [], _, 0, _, _ => rfl
  | [], _, j + 1, _, hp => absurd hp (h₂ _ (List.getElem_mem _))
  | x :: _, h₁, 0, _, hp => absurd hp (h₁ x (List.mem_cons_self _ _))
  | _ :: _, h₁, j + 1, hj, hp =>
    congrArg (· + 1) (index_eq_of_append_cons h₂ (fun y hy => h₁ y (List.mem_cons_of_mem _ hy))
      (by simpa using hj) hp)

/-- Removing the start of a module just added gives the module list back when no registered
module started there, under a freshly drawn generation. -/
theorem removeModule_after_addModule [BinarySearch] (hs : u.Sorted) {module : Module}
    (hnew : ∀ m ∈ u.modules, startOf m ≠ startOf module) (global global' : Nat) :
    (u.addModule module global).1.removeModule (startOf module) global' =
      (⟨u.modules, UInt16.ofNat global'⟩, global' + 1) := by
  obtain ⟨i, hins⟩ : ∃ i, (u.addModule module global).1.modules =
      u.modules.take i ++ module :: u.modules.drop i := ⟨_, rfl⟩
  obtain ⟨j, hj, hk, he⟩ := removeModule_of_mem (hs.addModule module global)
    ⟨module, (u.addModule_perm module global).symm.subset (List.mem_cons_self _ _), rfl⟩ global'
  rw [he]
  generalize (u.addModule module global).1.modules = l at hins hj hk
  subst hins
  obtain rfl := index_eq_of_append_cons (p := fun m => startOf m = startOf module)
    (fun m hm => hnew m (List.mem_of_mem_drop hm)) (fun m hm => hnew m (List.mem_of_mem_take hm))
    hj hk
  rw [List.eraseIdx_append_of_length_le (Nat.le_refl _), Nat.sub_self, List.eraseIdx_cons_zero,
    List.take_append_drop]

theorem remove_after_add_restores_one_module :
    oneModuleRegistry.Sorted ∧ (∀ m ∈ oneModuleRegistry.modules, startOf m ≠ startOf secondModule) ∧
    (oneModuleRegistry.addModule secondModule 2).1.removeModule (startOf secondModule) 3 =
      (⟨oneModuleRegistry.modules, UInt16.ofNat 3⟩, 4) :=
  ⟨oneModuleRegistry_reachable.sorted, by decide,
    removeModule_after_addModule oneModuleRegistry_reachable.sorted (by decide) 2 3⟩

/-- An insertion point of `key` in a list whose front starts below `key` and whose back starts
above it is the front's length. -/
theorem insertionIndex_eq_length {l₁ l₂ : List Module} {key : UInt64} {i : Nat}
    (h₁ : ∀ m ∈ l₁, startOf m < key) (h₂ : ∀ m ∈ l₂, key < startOf m)
    (hle : i ≤ (l₁ ++ l₂).length)
    (hbefore : ∀ j (h : j < (l₁ ++ l₂).length), j < i → startOf (l₁ ++ l₂)[j] ≤ key)
    (hafter : ∀ j (h : j < (l₁ ++ l₂).length), i ≤ j → key ≤ startOf (l₁ ++ l₂)[j]) :
    i = l₁.length := by
  rcases Nat.lt_trichotomy i l₁.length with hlt | heq | hgt
  · have hi : i < (l₁ ++ l₂).length := by simp; omega
    have hm : (l₁ ++ l₂)[i] ∈ l₁ := by
      rw [List.getElem_append_left hlt]; exact List.getElem_mem _
    exact absurd (hafter i hi le_rfl) (UInt64.not_le.mpr (h₁ _ hm))
  · exact heq
  · have hlen : l₁.length < (l₁ ++ l₂).length := by omega
    have hm : (l₁ ++ l₂)[l₁.length] ∈ l₂ := by
      rw [List.getElem_append_right (Nat.le_refl _)]; exact List.getElem_mem _
    exact absurd (hbefore _ hlen hgt) (UInt64.not_le.mpr (h₂ _ hm))

/-- `add_module` puts a module between the modules starting below it and those starting above
it. -/
theorem addModule_between [BinarySearch] {l₁ l₂ : List Module} {module : Module} (generation : UInt16)
    (hs : ((l₁ ++ l₂).map startOf).Pairwise (· ≤ ·))
    (h₁ : ∀ m ∈ l₁, startOf m < startOf module) (h₂ : ∀ m ∈ l₂, startOf module < startOf m)
    (global : Nat) :
    (⟨l₁ ++ l₂, generation⟩ : UnwinderInternal).addModule module global =
      (⟨l₁ ++ module :: l₂, UInt16.ofNat global⟩, global + 1) := by
  obtain ⟨hle, hb, ha⟩ := searchPosition_spec module.avmaRange.start hs
  have hi := insertionIndex_eq_length h₁ h₂ hle hb ha
  simp only [addModule, nextGlobalModulesGeneration, hi, List.take_left, List.drop_left]

/-- Adding back a module just removed gives the module list back when no two modules share a
start, under a freshly drawn generation. -/
theorem addModule_after_removeModule [BinarySearch] (hs : u.Sorted) (hnd : (u.modules.map startOf).Nodup)
    {module : Module} (hm : module ∈ u.modules) (global global' : Nat) :
    (u.removeModule (startOf module) global).1.addModule module global' =
      (⟨u.modules, UInt16.ofNat global'⟩, global' + 1) := by
  obtain ⟨j, hj, hk, he⟩ := removeModule_of_mem hs ⟨module, hm, rfl⟩ global
  have hmj : u.modules[j] = module := List.inj_on_of_nodup_map hnd (List.getElem_mem hj) hm hk
  have hsplit : u.modules = u.modules.take j ++ module :: u.modules.drop (j + 1) := by
    rw [← hmj, List.getElem_cons_drop, List.take_append_drop]
  have hlt : (u.modules.map startOf).Pairwise (· < ·) :=
    (List.Pairwise.and hs hnd).imp fun h => (UInt64.lt_iff_toNat _ _).2
      (Nat.lt_of_le_of_ne h.1 fun e => h.2 (UInt64.ext_iff.2 e))
  rw [hsplit, List.map_append, List.pairwise_append, List.map_cons, List.pairwise_cons] at hlt
  obtain ⟨-, ⟨hafter, -⟩, hbefore⟩ := hlt
  have hs' : ((u.modules.eraseIdx j).map startOf).Pairwise (· ≤ ·) :=
    List.Pairwise.sublist ((List.eraseIdx_sublist _ _).map startOf) hs
  rw [he]
  rw [List.eraseIdx_eq_take_drop_succ] at hs' ⊢
  rw [addModule_between _ hs'
    (fun m hm => hbefore _ (List.mem_map_of_mem _ hm) _ (List.mem_cons_self _ _))
    (fun m hm => hafter _ (List.mem_map_of_mem _ hm)), ← hsplit]

theorem twoModuleRegistry_reachable : Reachable twoModuleRegistry :=
  .addModule _ 2 oneModuleRegistry_reachable

theorem remove_then_add_restores_two_modules :
    twoModuleRegistry.Sorted ∧ (twoModuleRegistry.modules.map startOf).Nodup ∧
      secondModule ∈ twoModuleRegistry.modules ∧
      (twoModuleRegistry.removeModule (startOf secondModule) 3).1.addModule secondModule 4 =
        (⟨twoModuleRegistry.modules, UInt16.ofNat 4⟩, 5) :=
  have hnd : (twoModuleRegistry.modules.map startOf).Nodup := by decide
  have hm : secondModule ∈ twoModuleRegistry.modules := by decide
  ⟨twoModuleRegistry_reachable.sorted, hnd, hm,
    addModule_after_removeModule twoModuleRegistry_reachable.sorted hnd hm 3 4⟩

/-- In a sorted registry the candidate is a module with the greatest start at or before the
address, and it holds the address or starts exactly at it. No range is assumed disjoint or
nonempty. -/
theorem Sorted.candidateModule_last_start [BinarySearch] (hs : u.Sorted) {a : UInt64} {i : Nat} {m : Module}
    (h : u.candidateModule a = some (i, m)) :
    ∃ hi : i < u.modules.length, m = u.modules[i] ∧ startOf m ≤ a ∧
      (startOf m = a ∨ a < m.avmaRange.end) ∧
      ∀ m' ∈ u.modules, startOf m' ≤ a → startOf m' ≤ startOf m := by
  have hspec := binarySearchByKey_spec a hs
  unfold candidateModule at h
  revert hspec h
  cases binarySearchByKey u.modules a startOf with
  | ok k =>
    rintro ⟨⟩ ⟨hk, hkey⟩
    have hk' : i < u.modules.length := by simpa using hk
    simp only [List.getElem_map] at hkey
    rw [getElem!_pos u.modules i hk', hkey]
    exact ⟨hk', rfl, UInt64.le_refl _, .inl rfl, fun _ _ hm' => hm'⟩
  | error k =>
    rintro h ⟨hk, hlt, hgt⟩
    simp only [List.length_map, List.getElem_map] at hk hlt hgt
    by_cases h0 : k = 0
    · simp [h0] at h
    have hi : k - 1 < u.modules.length := by omega
    dsimp only at h
    rw [if_neg h0, getElem!_pos u.modules _ hi] at h
    by_cases hend : u.modules[k - 1].avmaRange.end ≤ a
    · simp [hend] at h
    rw [if_neg hend] at h
    simp only [Option.some.injEq, Prod.mk.injEq] at h
    obtain ⟨rfl, rfl⟩ := h
    refine ⟨hi, rfl, Nat.le_of_lt (hlt _ hi (by omega)), .inr (UInt64.not_le.mp hend),
      fun m' hm' hle => ?_⟩
    obtain ⟨j, hj, rfl⟩ := List.getElem_of_mem hm'
    have hjk : j ≤ k - 1 := by
      by_contra hjk
      exact UInt64.not_le.mpr (hgt j hj (by omega)) hle
    have := sorted_getElem_le hs (by simpa using hj) (by simpa using hi) hjk
    simpa only [List.getElem_map] using this

/-- With overlapping modules `find_module_for_address` consults only a module with the greatest
start at or before the address. A found module starts at or before the address, holds it or
starts exactly at it, and no module starts later and still at or before it. So where one module
lies inside another, the addresses of the outer one past the inner one's end are found in
neither. -/
theorem findModuleForAddress_last_start [BinarySearch] (hu : Reachable u) {a : UInt64} {i : Nat} {r : UInt32}
    (h : u.findModuleForAddress a = some (i, r)) :
    ∃ hi : i < u.modules.length, startOf u.modules[i] ≤ a ∧
      (startOf u.modules[i] = a ∨ a < u.modules[i].avmaRange.end) ∧
      ∀ m ∈ u.modules, startOf m ≤ a → startOf m ≤ startOf u.modules[i] := by
  obtain ⟨m, hc, -⟩ := findModuleForAddress_eq_some_inv u h
  obtain ⟨hi, rfl, hle, hin, hlast⟩ := hu.sorted.candidateModule_last_start hc
  exact ⟨hi, hle, hin, hlast⟩

def outerModule : Module := ⟨⟨0x1000, 0x5000⟩, 0x1000, 0, .none⟩

def innerModule : Module := ⟨⟨0x2000, 0x3000⟩, 0x2000, 0, .none⟩

/-- `[0x2000, 0x3000)` added inside `[0x1000, 0x5000)`. -/
def nestedRegistry : UnwinderInternal :=
  (((UnwinderInternal.new 0).1.addModule outerModule 1).1.addModule innerModule 2).1

theorem nestedRegistry_reachable : Reachable nestedRegistry :=
  .addModule _ 2 (.addModule _ 1 (.new 0))

/-- An address of the inner module is found there, the module with the last start before it. -/
theorem nested_inner_address_found_in_inner :
    nestedRegistry.findModuleForAddress 0x2800 = some (1, 0x800) ∧
    ∃ hi : 1 < nestedRegistry.modules.length, startOf nestedRegistry.modules[1] ≤ 0x2800 ∧
      (startOf nestedRegistry.modules[1] = 0x2800 ∨
        (0x2800 : UInt64) < nestedRegistry.modules[1].avmaRange.end) ∧
      ∀ m ∈ nestedRegistry.modules, startOf m ≤ 0x2800 → startOf m ≤ startOf nestedRegistry.modules[1] :=
  have hfind : nestedRegistry.findModuleForAddress 0x2800 = some (1, 0x800) := by decide
  ⟨hfind, findModuleForAddress_last_start nestedRegistry_reachable hfind⟩

/-- The outer module's addresses past the inner module's end are not found. -/
example : nestedRegistry.findModuleForAddress 0x4000 = none := by decide

end UnwinderInternal

end Framehop

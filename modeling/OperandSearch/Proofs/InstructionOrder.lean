import Mathlib.Order.CompletePartialOrder
import Mathlib.Order.Interval.Set.Disjoint
import OperandSearch.Proofs.FunctionOrder
import OperandSearch.Search

/-!
# Where the instructions of a function lie

A loaded function does not say how large it is, and its instructions do not say how many bytes
they take.  Both were known while it was loaded: the size is that of the selected symbol, and
the instructions are those the engine found in as many bytes.  What is asked of the engine is
that it goes through the bytes from the first one on (`Engine.IsSweep`): the instructions it
finds stand one behind the other (`Consecutive`).  It may stop early, and it may give up.  The
engine of this library is of that kind (`Engine.isSweep_builtIn`).

So each instruction lies in the extent of its symbol (`Consecutive.within`), and each starts
behind the one before (`Consecutive.pairwise_address`).  A section that does not run past the
end of the address space is what makes addresses behave like numbers here.

If the extents of the selected symbols do not overlap, functions that start later also lie
later, since functions are listed by their starts.  The finds of a search, which keep the order
of the listing, are then ordered by address (`instructions_increasing`).
-/

namespace OperandSearch

/-! ## Instructions one behind the other -/

/-- Instructions that stand one behind the other from an address on.  Each takes at least one
byte, and together they take no more bytes than there are. -/
inductive Consecutive : (address : UInt64) → (room : Nat) → List Disassembled → Prop
  | nil (address : UInt64) (room : Nat) : Consecutive address room []
  | cons {i : Disassembled} {room : Nat} {rest : List Disassembled} (size_pos : 0 < i.size)
      (size_le : i.size ≤ room)
      (behind : Consecutive (i.address + UInt64.ofNat i.size) (room - i.size) rest) :
      Consecutive i.address room (i :: rest)

/-- An engine that goes through the bytes of a block from the first one on. -/
def Engine.IsSweep (engine : Engine) : Prop :=
  ∀ set address bytes body, engine set address bytes = .ok body →
    Consecutive address bytes.length body

theorem Decoder.consecutive_block (decode : Decoder) (address : UInt64) (bytes : List UInt8) :
    Consecutive address bytes.length (decode.block address bytes) := by
  fun_induction Decoder.block decode address bytes with
  | case1 address bytes hdecode => exact .nil _ _
  | case2 address bytes e hdecode hsize ih =>
    rw [List.length_drop] at ih
    exact .cons (i := ⟨address, e.size, e.mnemonic, e.operands⟩) hsize.1 hsize.2 ih
  | case3 address bytes e hdecode hsize => exact .nil _ _

theorem Engine.isSweep_builtIn : Engine.builtIn.IsSweep := by
  intro set address bytes body h
  obtain rfl : set.decoder.block address bytes = body := Except.ok.inj h
  exact set.decoder.consecutive_block address bytes

namespace Consecutive

variable {address : UInt64} {room : Nat} {body : List Disassembled}

theorem address_eq_of_head? (h : Consecutive address room body) {i : Disassembled}
    (hi : body.head? = some i) : i.address = address := by
  cases h with
  | nil => cases hi
  | cons =>
    cases hi
    rfl

/-- A step over an instruction does not pass the end of the address space. -/
theorem toNat_address_add {i : Disassembled} (hsize : i.size ≤ room)
    (hend : i.address.toNat + room < 2 ^ 64) :
    (i.address + UInt64.ofNat i.size).toNat = i.address.toNat + i.size := by
  have hfits : i.size < 2 ^ 64 := by omega
  rw [UInt64.toNat_add, UInt64.toNat_ofNat_of_lt' hfits]
  exact Nat.mod_eq_of_lt (by omega)

/-- **Each instruction lies inside the bytes** that there are from the address on. -/
theorem within (h : Consecutive address room body) (hend : address.toNat + room < 2 ^ 64) :
    ∀ i ∈ body, address.toNat ≤ i.address.toNat ∧ 0 < i.size ∧
      i.address.toNat + i.size ≤ address.toNat + room := by
  induction h with
  | nil => simp
  | @cons i room rest hpos hle behind ih =>
    have hstep := toNat_address_add hle hend
    rw [List.forall_mem_cons]
    refine ⟨⟨Nat.le_refl _, hpos, by omega⟩, fun j hj => ?_⟩
    obtain ⟨hstart, hsize, hstop⟩ := ih (by omega) j hj
    omega

/-- **Each instruction starts behind the ones before it.** -/
theorem pairwise_address (h : Consecutive address room body)
    (hend : address.toNat + room < 2 ^ 64) : (body.map (·.address)).Pairwise (· < ·) := by
  induction h with
  | nil => exact .nil
  | @cons i room rest hpos hle behind ih =>
    have hstep := toNat_address_add hle hend
    have hend' : (i.address + UInt64.ofNat i.size).toNat + (room - i.size) < 2 ^ 64 := by omega
    rw [List.map_cons, List.pairwise_cons]
    refine ⟨fun a ha => ?_, ih hend'⟩
    obtain ⟨j, hj, rfl⟩ := List.mem_map.mp ha
    have hbehind := (behind.within hend' j hj).1
    rw [UInt64.lt_iff_toNat_lt]
    omega

end Consecutive

/-! ## The extent of a symbol -/

/-- The addresses that a symbol says its function takes. -/
def FunctionSymbol.extent (s : FunctionSymbol) : Set Nat :=
  Set.Ico s.address.toNat (s.address.toNat + s.size.toNat)

/-- Of two symbols that do not overlap, the one that starts first ends before the other
starts. -/
theorem FunctionSymbol.stop_le_of_disjoint {s t : FunctionSymbol}
    (hdisjoint : Disjoint s.extent t.extent) (hlt : s.address < t.address) (ht : t.size ≠ 0) :
    s.address.toNat + s.size.toNat ≤ t.address.toNat := by
  have hsize : t.size.toNat ≠ 0 := fun h0 => ht (UInt64.toNat_inj.mp h0)
  have hstart : s.address.toNat < t.address.toNat := hlt
  rw [extent, extent, Set.Ico_disjoint_Ico] at hdisjoint
  omega

namespace Binary

variable {loader : Loader} {file : Object.File} {image : Object.Image} {d : Disassembler}
  {b : Binary}

/-! ## The instructions of a routine -/

theorem length_of_bytesAt {home : Object.Section} {address size : UInt64} {bytes : List UInt8}
    (h : home.bytesAt address size = .ok (some bytes)) : bytes.length = size.toNat := by
  rw [Object.Section.bytesAt] at h
  split at h
  · cases h
  · split at h
    · obtain ⟨extent, hextent, rfl⟩ := Option.map_eq_some_iff.mp (Except.ok.inj h)
      rw [Array.length_toList, ← Object.File.size_of_extent? hextent]
      rfl
    · cases h

/-- What a disassembler finds in a block is what its engine finds there. -/
theorem consecutive_of_block {engine : Engine} (hsweep : engine.IsSweep)
    (hd : Disassembler.ofArchitecture engine image.architecture = .ok d) {thumb : Bool}
    {address : UInt64} {bytes : List UInt8} {body : List Disassembled}
    (h : d.block thumb address bytes = .ok body) : Consecutive address bytes.length body := by
  have hengine : d.engine = engine := by
    cases harchitecture : image.architecture <;> rw [harchitecture] at hd <;> cases hd <;> rfl
  rw [Disassembler.block, hengine] at h
  split at h
  · next found hfound =>
    cases h
    exact hsweep _ _ _ _ hfound
  · cases h

/-- **The instructions of a routine stand one behind the other** from the address of its symbol
on, in as many bytes as the symbol says. -/
theorem IsRoutine.consecutive {engine : Engine} {r : Routine} (h : IsRoutine image d r)
    (hsweep : engine.IsSweep)
    (hd : Disassembler.ofArchitecture engine image.architecture = .ok d) :
    Consecutive r.symbol.address r.symbol.size.toNat r.body := by
  rw [← length_of_bytesAt h.bytes]
  exact consecutive_of_block hsweep hd h.body

/-- A routine ends inside the address space if its section does. -/
theorem IsLoaded.stop_lt (h : IsLoaded loader file image d b) (hreader : loader.reader.IsCoherent)
    (hend : ∀ home ∈ image.sections, home.address.toNat + home.size.toNat < 2 ^ 64)
    {r : Routine} (hr : r ∈ routines loader file) :
    r.symbol.address.toNat + r.symbol.size.toNat < 2 ^ 64 := by
  obtain ⟨hhome, -, -, hrange⟩ := h.range_of_mem_routines hreader hr
  exact Nat.lt_of_le_of_lt hrange (hend r.home hhome)

/-! ## The order of the finds -/

/-- The addresses of the finds in a function are addresses of its instructions, in their
order. -/
theorem sublist_address_inFunction (policy : Policy) (v : UInt64) (f : Function) :
    ((Match.inFunction policy v f).map (·.address)).Sublist (f.instructions.map (·.address)) := by
  rw [Match.inFunction, List.map_map]
  exact List.filter_sublist.map _

/-- The finds in a listing are ordered by address if the instructions of each function are, and
those of a function lie before those of every later one. -/
theorem pairwise_address_lookup {functions : List Function} (policy : Policy) (v : UInt64)
    (hinside : ∀ f ∈ functions, (f.instructions.map (·.address)).Pairwise (· < ·))
    (hbetween : functions.Pairwise fun f g =>
      ∀ i ∈ f.instructions, ∀ j ∈ g.instructions, i.address < j.address) :
    ((Match.lookup policy v functions).map (·.address)).Pairwise (· < ·) := by
  rw [Match.lookup, List.map_flatMap, List.flatMap_def, List.pairwise_flatten,
    List.forall_mem_map, List.pairwise_map]
  constructor
  · intro f hf
    exact (hinside f hf).sublist (sublist_address_inFunction policy v f)
  · refine hbetween.imp fun {f g} hbefore x hx y hy => ?_
    obtain ⟨i, hi, rfl⟩ := List.mem_map.mp ((sublist_address_inFunction policy v f).subset hx)
    obtain ⟨j, hj, rfl⟩ := List.mem_map.mp ((sublist_address_inFunction policy v g).subset hy)
    exact hbefore i hi j hj

/-! ## Loaded binaries -/

/-- **Where the instructions of a binary lie, and in which order a search finds them.**  Let a file
be accepted whose sections end inside the address space, let what the reader says of a file fit
together, and let the engine go through the bytes of a block.  Then every function is that of a
selected symbol.  If it has instructions, the first one stands where the function starts, their
addresses are strictly increasing, and all of them lie in the extent of the symbol.  If the extents
of the selected symbols do not overlap, the finds of every search have strictly increasing
addresses, so none has the address of another. -/
theorem instructions_increasing (hreader : loader.reader.IsCoherent)
    (hsweep : loader.engine.IsSweep) (hload : (ofFileWith loader file).2 = .ok b)
    (himage : loader.reader file = .ok image)
    (hd : Disassembler.ofArchitecture loader.engine image.architecture = .ok d)
    (hend : ∀ home ∈ image.sections, home.address.toNat + home.size.toNat < 2 ^ 64) :
    (∀ f ∈ b.functions, ∃ s ∈ FunctionSymbol.ofImage loader.names d.hasThumb image,
      f.name = s.name ∧ f.start = s.address ∧
      (∀ i, f.instructions.head? = some i → i.address = f.start) ∧
      (f.instructions.map (·.address)).Pairwise (· < ·) ∧
      ∀ i ∈ f.instructions, i.address.toNat ∈ s.extent) ∧
    ((FunctionSymbol.ofImage loader.names d.hasThumb image).Pairwise
        (fun s t => Disjoint s.extent t.extent) →
      ∀ policy v, ((Match.lookup policy v b.functions).map (·.address)).Pairwise (· < ·) ∧
        ((Match.lookup policy v b.functions).map (·.address)).Nodup) := by
  have hloaded := isLoaded_of_eq_ok hload himage hd
  have hbody {r : Routine} (hr : r ∈ routines loader file) :
      Consecutive r.symbol.address r.symbol.size.toNat r.body :=
    (hloaded.mem_routines_iff.mp hr).2.consecutive hsweep hd
  have haddresses (r : Routine) :
      (r.toFunction b.mapped).instructions.map (·.address) = r.body.map (·.address) := by
    rw [Routine.toFunction, toFunction, List.map_map]
    rfl
  have hincreasing {r : Routine} (hr : r ∈ routines loader file) :
      ((r.toFunction b.mapped).instructions.map (·.address)).Pairwise (· < ·) := by
    rw [haddresses]
    exact (hbody hr).pairwise_address (hloaded.stop_lt hreader hend hr)
  have hwithin {r : Routine} (hr : r ∈ routines loader file) :
      ∀ i ∈ (r.toFunction b.mapped).instructions, i.address.toNat ∈ r.symbol.extent := by
    intro i hi
    obtain ⟨j, hj, rfl⟩ := List.mem_map.mp hi
    obtain ⟨hstart, hsize, hstop⟩ := (hbody hr).within (hloaded.stop_lt hreader hend hr) j hj
    exact ⟨hstart, by show j.address.toNat < _; omega⟩
  rw [hloaded.functions_eq]
  constructor
  · rw [List.forall_mem_map]
    intro r hr
    refine ⟨r.symbol, (hloaded.mem_routines_iff.mp hr).1, rfl, rfl, fun i hi => ?_,
      hincreasing hr, hwithin hr⟩
    rw [Routine.toFunction, toFunction, List.head?_map] at hi
    obtain ⟨j, hj, rfl⟩ := Option.map_eq_some_iff.mp hi
    exact (hbody hr).address_eq_of_head? hj
  · intro hdisjoint policy v
    have hordered : ((Match.lookup policy v
        ((routines loader file).map (·.toFunction b.mapped))).map (·.address)).Pairwise
          (· < ·) := by
      refine pairwise_address_lookup policy v (List.forall_mem_map.mpr fun r => hincreasing) ?_
      have hapart : (routines loader file).Pairwise fun r q =>
          r.symbol.address < q.symbol.address ∧ Disjoint r.symbol.extent q.symbol.extent := by
        rw [hloaded.routines_eq]
        exact pairwise_symbol_routinesOf ((FunctionSymbol.pairwise_select _).and hdisjoint)
      rw [List.pairwise_map]
      refine hapart.imp_of_mem fun {r q} hr hq hpair i hi j hj => ?_
      obtain ⟨hlt, hapart⟩ := hpair
      -- the earlier function ends before the later one starts
      have hstop := FunctionSymbol.stop_le_of_disjoint hapart hlt
        (hloaded.range_of_mem_routines hreader hq).2.2.1
      exact Nat.lt_of_lt_of_le (hwithin hr i hi).2 (Nat.le_trans hstop (hwithin hq j hj).1)
    exact ⟨hordered, hordered.imp fun hlt => UInt64.ne_of_lt hlt⟩

/-- An object with two functions that push the same number, the later one twice. -/
def pushesObject : Object.File :=
  objectFile 0x8664
    [{ address := 0x2000, code := [0x6a, 0x10, 0x6a, 0x10, 0xc3], symbols := [("twice", 5)] },
      { address := 0x1000, code := [0x6a, 0x10, 0xc3], symbols := [("once", 3)] }]

@[inherit_doc pushesObject]
def onceFunction : FunctionSymbol :=
  { name := "once", address := 0x1000, size := 3, sectionNumber := 2, thumb := false }

@[inherit_doc pushesObject]
def twiceFunction : FunctionSymbol :=
  { name := "twice", address := 0x2000, size := 5, sectionNumber := 1, thumb := false }

set_option maxRecDepth 10000 in
/-- The two functions do not overlap, and the three pushes are found in the order of their
addresses. -/
theorem increasing_pushesObject : ∃ image b,
    Object.Image.ofFile pushesObject = .ok image ∧
    (∀ home ∈ image.sections, home.address.toNat + home.size.toNat < 2 ^ 64) ∧
    Disjoint onceFunction.extent twiceFunction.extent ∧
    (ofFileWith .builtIn pushesObject).2 = .ok b ∧
    (Match.lookup .immediates 16 b.functions).map (·.address) = [0x1000, 0x2000, 0x2002] ∧
    ((Match.lookup .immediates 16 b.functions).map (·.address)).Pairwise (· < ·) := by
  have hloaded : (ofFileWith .builtIn pushesObject).2.toOption.any (fun b => decide (
      (Match.lookup .immediates 16 b.functions).map (·.address) = [0x1000, 0x2000, 0x2002])) =
        true := by decide +kernel
  have hchecked : (Object.Image.ofFile pushesObject).toOption.any (fun image => decide (
      image.architecture = .x86_64 ∧
      FunctionSymbol.ofImage .builtIn false image = [onceFunction, twiceFunction] ∧
      ∀ home ∈ image.sections, home.address.toNat + home.size.toNat < 18446744073709551616)) =
        true := by decide +kernel
  obtain ⟨image, himage, hfacts⟩ := exists_image_of_any hchecked
  obtain ⟨harchitecture, hselected, hend⟩ := of_decide_eq_true hfacts
  obtain ⟨b, hload, hfinds⟩ := exists_ok_of_any hloaded
  have hd : Disassembler.ofArchitecture .builtIn image.architecture =
      .ok { engine := .builtIn, plain := .x86_64 } := by rw [harchitecture]; rfl
  have hdisjoint : Disjoint onceFunction.extent twiceFunction.extent := by
    rw [FunctionSymbol.extent, FunctionSymbol.extent, Set.Ico_disjoint_Ico]
    decide
  have hapart : (FunctionSymbol.ofImage .builtIn false image).Pairwise
      fun s t => Disjoint s.extent t.extent := by
    rw [hselected]
    simpa using hdisjoint
  obtain ⟨-, hfound⟩ := instructions_increasing Object.Image.isCoherent_ofFile
    Engine.isSweep_builtIn hload himage hd hend
  exact ⟨image, b, himage, hend, hdisjoint, hload, of_decide_eq_true hfinds,
    (hfound hapart .immediates 16).1⟩

end Binary
end OperandSearch

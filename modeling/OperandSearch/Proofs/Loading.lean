import OperandSearch.Binary
import OperandSearch.Proofs.Sections
import OperandSearch.Proofs.Selection

/-!
# Where the functions of a binary come from

A loaded function is a list of tokens, and what it was made from is gone.  Most of what there
is to say about loading is about that: the symbol, the section it belongs to, the bytes there
and the instructions the engine made of them.  A `Routine` keeps them together, and
`IsRoutine` says that each was got from the one before.

Loading goes through the selected symbols and can end early, with a fault.  Where it does not,
its functions are the routines of the selected symbols in their order, and nothing else
(`loadFunctions_eq_ok_iff`).  The statements about whole files are read off this one.

The last section writes small object files, for statements about single files.
-/

namespace OperandSearch
namespace Binary

/-- A function with all it is made from. -/
structure Routine where
  symbol : FunctionSymbol
  /-- The section the symbol belongs to. -/
  home : Object.Section
  /-- The bytes of the function in that section. -/
  bytes : List UInt8
  /-- What the engine makes of the bytes. -/
  body : List Disassembled

/-- The function that is listed. -/
def Routine.toFunction (r : Routine) (mapped : List AddressRange) : Function :=
  Binary.toFunction mapped r.symbol r.body

variable {image : Object.Image} {d : Disassembler} {mapped : List AddressRange}

/-- Each part of a routine was got from the one before. -/
structure IsRoutine (image : Object.Image) (d : Disassembler) (r : Routine) : Prop where
  home : image.sectionAt r.symbol.sectionNumber = .ok r.home
  bytes : r.home.bytesAt r.symbol.address r.symbol.size = .ok (some r.bytes)
  body : d.block r.symbol.thumb r.symbol.address r.bytes = .ok r.body

/-- The routine of a symbol, if its section can be read, its bytes lie inside the section, and
the engine does not give up on them. -/
def routine? (image : Object.Image) (d : Disassembler) (s : FunctionSymbol) : Option Routine :=
  match image.sectionAt s.sectionNumber with
  | .error _ => none
  | .ok home => match home.bytesAt s.address s.size with
    | .error _ => none
    | .ok none => none
    | .ok (some bytes) => match d.block s.thumb s.address bytes with
      | .error _ => none
      | .ok body => some { symbol := s, home, bytes, body }

theorem routine?_eq_some_iff {s : FunctionSymbol} {r : Routine} :
    routine? image d s = some r ↔ r.symbol = s ∧ IsRoutine image d r := by
  constructor
  · intro h
    rw [routine?] at h
    split at h
    · exact absurd h (by simp)
    · next home hhome =>
      split at h
      · exact absurd h (by simp)
      · exact absurd h (by simp)
      · next bytes hbytes =>
        split at h
        · exact absurd h (by simp)
        · next body hbody =>
          cases h
          exact ⟨rfl, hhome, hbytes, hbody⟩
  · rintro ⟨rfl, hhome, hbytes, hbody⟩
    simp only [routine?, hhome, hbytes, hbody]

/-! ## One symbol -/

/-- A symbol whose section was read becomes its routine's function, or nothing. -/
theorem loadFunction_of_bytes {s : FunctionSymbol} {bytes? : Option (List UInt8)}
    (h : s.bytes image = .ok bytes?) :
    (loadFunction d mapped s bytes?).2 =
      ((routine? image d s).map (·.toFunction mapped)).toList := by
  obtain ⟨home, hhome, hbytes⟩ := except_bind_eq_ok_iff.mp h
  cases bytes? with
  | none => simp [loadFunction, routine?, hhome, hbytes]
  | some bytes =>
    cases hbody : d.block s.thumb s.address bytes with
    | error failure => simp [loadFunction, routine?, hhome, hbytes, hbody]
    | ok body => simp [loadFunction, routine?, hhome, hbytes, hbody, Routine.toFunction]

/-! ## All selected symbols -/

/-- **What loading the selected symbols gives.**  It succeeds exactly if the section of every
symbol can be read, and then with the functions of the routines, in the order of the symbols. -/
theorem loadFunctions_eq_ok_iff {selected : List FunctionSymbol} {functions : List Function} :
    (loadFunctions image d mapped selected).2 = .ok functions ↔
      (∀ s ∈ selected, ∃ bytes?, s.bytes image = .ok bytes?) ∧
        functions = (selected.filterMap (routine? image d)).map (·.toFunction mapped) := by
  induction selected generalizing functions with
  | nil => simp [loadFunctions, eq_comm]
  | cons s rest ih =>
    rw [loadFunctions, List.forall_mem_cons]
    cases hbytes : s.bytes image with
    | error fault => simp
    | ok bytes? =>
      have hlisted : ((s :: rest).filterMap (routine? image d)).map (·.toFunction mapped) =
          (loadFunction d mapped s bytes?).2 ++
            (rest.filterMap (routine? image d)).map (·.toFunction mapped) := by
        rw [loadFunction_of_bytes hbytes, List.filterMap_cons]
        cases routine? image d s <;> simp
      simp only [except_map_eq_ok_iff, ih, hlisted]
      constructor
      · rintro ⟨_, ⟨hrest, rfl⟩, rfl⟩
        exact ⟨⟨⟨bytes?, rfl⟩, hrest⟩, rfl⟩
      · rintro ⟨⟨-, hrest⟩, rfl⟩
        exact ⟨_, ⟨hrest, rfl⟩, rfl⟩

/-! ## Whole files -/

/-- The routines of a parsed file, in the order of their addresses. -/
def routinesOf (names : SymbolName.Readers) (image : Object.Image) (d : Disassembler) :
    List Routine :=
  (FunctionSymbol.ofImage names d.hasThumb image).filterMap (routine? image d)

/-- The routines of a file. -/
def routines (loader : Loader) (file : Object.File) : List Routine :=
  match loader.reader file with
  | .error _ => []
  | .ok image =>
    match Disassembler.ofArchitecture loader.engine image.architecture with
    | .error _ => []
    | .ok d => routinesOf loader.names image d

/-- What stands behind a binary that was loaded from a file. -/
structure IsLoaded (loader : Loader) (file : Object.File) (image : Object.Image)
    (d : Disassembler) (b : Binary) : Prop where
  parsed : loader.reader file = .ok image
  disassembler : Disassembler.ofArchitecture loader.engine image.architecture = .ok d
  readable : ∀ s ∈ FunctionSymbol.ofImage loader.names d.hasThumb image,
    ∃ bytes?, s.bytes image = .ok bytes?
  mapped : b.mapped = mappedRanges image.sections
  functions : b.functions = (routinesOf loader.names image d).map (·.toFunction b.mapped)

theorem exists_isLoaded {loader : Loader} {file : Object.File} {b : Binary}
    (h : (ofFileWith loader file).2 = .ok b) : ∃ image d, IsLoaded loader file image d b := by
  rw [ofFileWith] at h
  split at h
  · exact absurd h (by simp)
  · next image himage =>
    rw [ofImage] at h
    split at h
    · exact absurd h (by simp)
    · next d hd =>
      obtain ⟨functions, hfunctions, rfl⟩ := except_map_eq_ok_iff.mp h
      obtain ⟨hreadable, rfl⟩ := loadFunctions_eq_ok_iff.mp hfunctions
      exact ⟨image, d, himage, hd, hreadable, rfl, rfl⟩

/-- There is only one parsed file and one disassembler behind it. -/
theorem isLoaded_of_eq_ok {loader : Loader} {file : Object.File} {b : Binary}
    (hload : (ofFileWith loader file).2 = .ok b)
    (himage : loader.reader file = .ok image)
    (hd : Disassembler.ofArchitecture loader.engine image.architecture = .ok d) :
    IsLoaded loader file image d b := by
  obtain ⟨image', d', hloaded⟩ := exists_isLoaded hload
  obtain rfl : image' = image := Except.ok.inj (hloaded.parsed.symm.trans himage)
  obtain rfl : d' = d := Except.ok.inj (hloaded.disassembler.symm.trans hd)
  exact hloaded

/-- The routines of a file that was loaded are those of the parsed file. -/
theorem IsLoaded.routines_eq {loader : Loader} {file : Object.File} {b : Binary}
    (h : IsLoaded loader file image d b) :
    routines loader file = routinesOf loader.names image d := by
  simp only [routines, h.parsed, h.disassembler]

theorem IsLoaded.functions_eq {loader : Loader} {file : Object.File} {b : Binary}
    (h : IsLoaded loader file image d b) :
    b.functions = (routines loader file).map (·.toFunction b.mapped) := by
  rw [h.routines_eq]
  exact h.functions

theorem IsLoaded.mem_routines_iff {loader : Loader} {file : Object.File} {b : Binary}
    (h : IsLoaded loader file image d b) {r : Routine} :
    r ∈ routines loader file ↔
      r.symbol ∈ FunctionSymbol.ofImage loader.names d.hasThumb image ∧ IsRoutine image d r := by
  rw [h.routines_eq, routinesOf, List.mem_filterMap]
  constructor
  · rintro ⟨s, hs, hr⟩
    obtain ⟨rfl, hroutine⟩ := routine?_eq_some_iff.mp hr
    exact ⟨hs, hroutine⟩
  · rintro ⟨hs, hroutine⟩
    exact ⟨r.symbol, hs, routine?_eq_some_iff.mpr ⟨rfl, hroutine⟩⟩

/-! ## Where a routine lies -/

theorem range_of_bytesAt {home : Object.Section} {address size : UInt64} {bytes : List UInt8}
    (hbounded : home.Bounded) (h : home.bytesAt address size = .ok (some bytes)) :
    home.address ≤ address ∧
      address.toNat + size.toNat ≤ home.address.toNat + home.size.toNat := by
  rw [Object.Section.bytesAt] at h
  split at h
  · cases h
  · next contents hcontents =>
    split at h
    · next hle =>
      obtain ⟨extent, hextent, -⟩ := Option.map_eq_some_iff.mp (Except.ok.inj h)
      have hfits : address.toNat - home.address.toNat + size.toNat ≤ contents.size := by
        rw [Object.File.extent?] at hextent
        split at hextent
        · assumption
        · cases hextent
      have hle' : home.address.toNat ≤ address.toNat := hle
      have hsize := hbounded contents hcontents
      exact ⟨hle, by omega⟩
    · cases h

/-- **A routine lies inside its section**, and is not empty. -/
theorem IsLoaded.range_of_mem_routines {loader : Loader} {file : Object.File} {b : Binary}
    (h : IsLoaded loader file image d b) (hreader : loader.reader.IsCoherent) {r : Routine}
    (hr : r ∈ routines loader file) :
    r.home ∈ image.sections ∧ r.home.address ≤ r.symbol.address ∧ r.symbol.size ≠ 0 ∧
      r.symbol.address.toNat + r.symbol.size.toNat ≤
        r.home.address.toNat + r.home.size.toNat := by
  obtain ⟨hsymbol, hroutine⟩ := h.mem_routines_iff.mp hr
  have hcoherent := hreader _ _ h.parsed
  have hhome := hcoherent.listed _ _ hroutine.home
  obtain ⟨hstart, hend⟩ := range_of_bytesAt (hcoherent.bounded _ hhome) hroutine.bytes
  exact ⟨hhome, hstart, FunctionSymbol.size_ne_zero_of_mem_ofImage hsymbol, hend⟩

/-! ## Small object files -/

/-- A section of a small object file, with the functions that start where it starts. -/
structure Part where
  address : Nat := 0
  code : List UInt8
  /-- The names of the functions, of at most eight bytes, and their sizes. -/
  symbols : List (String × Nat)

/-- The bytes of a number, least significant first. -/
def numberBytes (n : Nat) : Nat → List UInt8
  | 0 => []
  | size + 1 => UInt8.ofNat n :: numberBytes (n / 256) size

/-- The bytes of a name, filled up with zero bytes. -/
def nameBytes (name : String) : List UInt8 :=
  (name.toList.map (fun c : Char => UInt8.ofNat c.toNat) ++ List.replicate 8 0).take 8

/-- The header of a section whose bytes stand at an offset. -/
def Part.header (part : Part) (offset : Nat) : List UInt8 :=
  nameBytes ".text" ++ numberBytes 0 4 ++ numberBytes part.address 4 ++
    numberBytes part.code.length 4 ++ numberBytes offset 4 ++ numberBytes 0 12 ++
    numberBytes 0x60000020 4

/-- The symbols of a section, each with the record that says its size. -/
def Part.symbolRecords (part : Part) (sectionNumber : Nat) : List UInt8 :=
  part.symbols.flatMap fun (name, size) =>
    nameBytes name ++ numberBytes 0 4 ++ numberBytes sectionNumber 2 ++ numberBytes 0x20 2 ++
      [2, 1] ++ numberBytes 0 4 ++ numberBytes size 4 ++ numberBytes 0 10

/-- A COFF object with these parts. -/
def objectFile (machine : Nat) (parts : List Part) : Object.File :=
  let code := parts.flatMap Part.code
  let codeStart := 20 + 40 * parts.length
  let header :=
    numberBytes machine 2 ++ numberBytes parts.length 2 ++ numberBytes 0 4 ++
      numberBytes (codeStart + code.length) 4 ++
      numberBytes (2 * (parts.flatMap Part.symbols).length) 4 ++ numberBytes 0 4
  let headers := parts.zipIdx.flatMap fun (part, i) =>
    part.header (codeStart + ((parts.take i).flatMap Part.code).length)
  let symbols := parts.zipIdx.flatMap fun (part, i) => part.symbolRecords (i + 1)
  ⟨(header ++ headers ++ code ++ symbols ++ numberBytes 4 4).toArray⟩

theorem exists_ok_of_any {ε α : Type} {x : Except ε α} {p : α → Bool}
    (h : x.toOption.any p = true) : ∃ a, x = .ok a ∧ p a = true := by
  cases x with
  | error e => cases h
  | ok a => exact ⟨a, rfl, h⟩

theorem exists_image_of_any {file : Object.File} {p : Object.Image → Bool}
    (h : (Object.Image.ofFile file).toOption.any p = true) :
    ∃ image, Object.Image.ofFile file = .ok image ∧ p image = true :=
  exists_ok_of_any h

end Binary
end OperandSearch

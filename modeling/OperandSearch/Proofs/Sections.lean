import Mathlib.Algebra.Group.Nat.Defs
import OperandSearch.Object.Format

/-!
# The sections of a parsed file

What a file is parsed to has its sections twice: as a list, from which the ranges of addresses
are taken, and by number, which is how symbols name them.  A reader of object files has to keep
the two in step, and to give no section more bytes than it takes in memory (`Image.Coherent`).
Then the bytes of a function, which are looked up by number, lie in the range of a section of the
list.  For the reader of this library this is proved format by format.

A section holds its size as a word, whereas the parsers count in unbounded numbers.  What makes
the two agree is that a field of a few bytes is small (`Bytes.field_lt`).
-/

namespace OperandSearch

/-! ## Inverting steps that can fail -/

section Except

variable {ε α β : Type}

/-- A step that is made on a result succeeds if there was a result and the step succeeds. -/
theorem except_bind_eq_ok_iff {x : Except ε α} {f : α → Except ε β} {b : β} :
    x >>= f = .ok b ↔ ∃ a, x = .ok a ∧ f a = .ok b := by
  cases x <;> simp [bind, Except.bind]

theorem except_map_eq_ok_iff {x : Except ε α} {f : α → β} {b : β} :
    x.map f = .ok b ↔ ∃ a, x = .ok a ∧ f a = b := by
  cases x <;> simp [Except.map]

end Except

/-! ## The size of what is stored -/

namespace Bytes

theorem littleEndian_lt (bytes : List UInt8) : littleEndian bytes < 256 ^ bytes.length := by
  induction bytes with
  | nil => decide
  | cons b bs ih =>
    have hb : b.toNat < 256 := b.toNat_lt
    rw [littleEndian, List.length_cons, Nat.pow_succ]
    omega

theorem field_lt (order : ByteOrder) (record : List UInt8) (offset size : Nat) :
    field order record offset size < 256 ^ size := by
  have hlength : ((record.drop offset).take size).length ≤ size := by
    rw [List.length_take]
    exact Nat.min_le_left _ _
  refine Nat.lt_of_lt_of_le ?_ (Nat.pow_le_pow_right (by decide) hlength)
  cases order with
  | little => exact littleEndian_lt _
  | big =>
    rw [field, value, ← List.length_reverse]
    exact littleEndian_lt _

theorem toNat_ofNat_field (order : ByteOrder) (record : List UInt8) (offset : Nat) {size : Nat}
    (hsize : size ≤ 8) :
    (UInt64.ofNat (field order record offset size)).toNat = field order record offset size := by
  rw [UInt64.toNat_ofNat', Nat.mod_eq_of_lt]
  exact Nat.lt_of_lt_of_le (field_lt order record offset size)
    (Nat.pow_le_pow_right (by decide) hsize)

end Bytes

namespace Object

theorem File.size_of_extent? {file : File} {offset size : Nat} {bytes : ByteArray}
    (h : file.extent? offset size = some bytes) : bytes.size = size := by
  rw [extent?] at h
  split at h
  · next hfits =>
    obtain rfl := Option.some.inj h
    rw [ByteArray.size_extract]
    omega
  · exact absurd h (by simp)

/-! ## What the formats have in common -/

/-- A section has no more bytes than it takes in memory. -/
def Section.Bounded (s : Section) : Prop :=
  ∀ contents, s.contents = .ok contents → contents.size ≤ s.size.toNat

/-- The sections of a file are bounded, and those that numbers stand for are among them. -/
structure Image.Coherent (image : Image) : Prop where
  bounded : ∀ s ∈ image.sections, s.Bounded
  listed : ∀ number s, image.sectionAt number = .ok s → s ∈ image.sections

/-! ## ELF -/

namespace Elf

theorem Header.layout_of_parse {layout : Layout} {file : File} {h : Header}
    (hparse : Header.parse layout file = .ok h) : h.layout = layout := by
  simp only [Header.parse] at hparse
  split at hparse
  · split at hparse
    · cases hparse
    · split at hparse
      · cases hparse
        rfl
      · cases hparse
        rfl
      · cases hparse
  · cases hparse

theorem Header.toSection_bounded {h : Header} (hsize : h.layout.sectionSize.size ≤ 8)
    (record : List UInt8) : (h.toSection record).Bounded := by
  intro contents hcontents
  simp only [Header.toSection] at hcontents
  split at hcontents
  · next bytes hbytes =>
    cases hcontents
    rw [Header.contents?] at hbytes
    split at hbytes
    · next start size hplace =>
      rw [File.size_of_extent? hbytes]
      rw [Header.place?] at hplace
      split at hplace
      · cases hplace
      · cases hplace
        exact Nat.le_of_eq (Bytes.toNat_ofNat_field h.order record _ hsize).symm
    · cases hbytes
      exact Nat.zero_le _
  · cases hcontents

/-- A section that a number stands for is one of those behind the placeholder. -/
theorem Header.sectionAt_mem {h : Header} {headers : List (List UInt8)} {index : Nat} {s : Section}
    (hs : h.sectionAt headers index = .ok s) : s ∈ (headers.drop 1).map h.toSection := by
  rw [Header.sectionAt] at hs
  split at hs
  · exact absurd hs (by simp)
  · next hindex =>
    split at hs
    · next record hrecord =>
      cases hs
      refine List.mem_map_of_mem (List.mem_of_getElem? (i := index - 1) ?_)
      rw [List.getElem?_drop, ← hrecord]
      congr 1
      omega
    · exact absurd hs (by simp)

theorem coherent_of_parse {layout : Layout} {file : File} {image : Image}
    (hsize : layout.sectionSize.size ≤ 8) (h : parse layout file = .ok image) :
    image.Coherent := by
  simp only [parse, except_bind_eq_ok_iff] at h
  obtain ⟨h, hparse, _, _, headers, _, _, _, _, _, _, _, himage⟩ := h
  cases himage
  rw [← Header.layout_of_parse hparse] at hsize
  refine ⟨fun s hs => ?_, fun number s => Header.sectionAt_mem⟩
  obtain ⟨record, -, rfl⟩ := List.mem_map.mp hs
  exact Header.toSection_bounded hsize record

end Elf

/-! ## COFF and PE -/

namespace Coff

/-- A section is bounded: an executable stores no more than its size in memory, and the size of
a section of an object is what it stores. -/
theorem toSection_bounded (kind : Kind) (file : File) (record : List UInt8) :
    (toSection kind file record).Bounded := by
  intro contents hcontents
  have hfield (offset : Nat) :
      (UInt64.ofNat (field record offset 4)).toNat = field record offset 4 :=
    Bytes.toNat_ofNat_field .little record offset (by decide)
  simp only [toSection] at hcontents ⊢
  split at hcontents
  · cases hcontents
    exact Nat.zero_le _
  · next start size hplace =>
    split at hcontents
    · next bytes hbytes =>
      cases hcontents
      rw [File.size_of_extent? hbytes]
      rw [place?] at hplace
      split at hplace
      · next hkind =>
        cases hplace
        rw [if_pos hkind, hfield]
        exact Nat.min_le_left _ _
      · next hkind =>
        rw [if_neg hkind, hfield]
        split at hplace
        · cases hplace
        · cases hplace
          exact Nat.le_refl _
    · cases hcontents

theorem sectionAt_mem {kind : Kind} {file : File} {headers : List (List UInt8)} {number : Nat}
    {s : Section} (hs : sectionAt kind file headers number = .ok s) :
    s ∈ headers.map (toSection kind file) := by
  rw [sectionAt] at hs
  split at hs
  · cases hs
  · split at hs
    · next record hrecord =>
      cases hs
      exact List.mem_map_of_mem (List.mem_of_getElem? hrecord)
    · cases hs

theorem coherent_image (kind : Kind) (file : File) (header : List UInt8)
    (headers : List (List UInt8)) (table : SymbolTable) :
    (image kind file header headers table).Coherent := by
  refine ⟨fun s hs => ?_, fun number s => sectionAt_mem⟩
  obtain ⟨record, -, rfl⟩ := List.mem_map.mp hs
  exact toSection_bounded kind file record

/-- What is parsed as a COFF object is coherent. -/
theorem coherent_of_parse {file : File} {image : Image} (h : parse file = .ok image) :
    image.Coherent := by
  simp only [parse] at h
  split at h
  · split at h
    · obtain ⟨table, -, himage⟩ := except_bind_eq_ok_iff.mp h
      cases himage
      exact coherent_image _ _ _ _ _
    · cases h
  · cases h

end Coff

theorem Pe.coherent_of_parse {layout : Layout} {file : File} {image : Image}
    (h : parse layout file = .ok image) : image.Coherent := by
  simp only [parse] at h
  split at h
  · split at h
    · split at h
      · cases h
      · split at h
        · cases h
        · split at h
          · cases h
          · split at h
            · cases h
              exact Coff.coherent_image _ _ _ _ _
            · cases h
    · cases h
  · cases h

/-! ## Mach-O -/

namespace MachO

/-- A section is bounded: its bytes are as many as its size says, or none. -/
theorem Form.toSection_bounded {form : Form} (hword : form.layout.wordSize ≤ 8) (file : File)
    (record : List UInt8) : (form.toSection file record).Bounded := by
  intro contents hcontents
  simp only [Form.toSection] at hcontents ⊢
  split at hcontents
  · cases hcontents
    exact Nat.zero_le _
  · split at hcontents
    · next bytes hbytes =>
      cases hcontents
      rw [File.size_of_extent? hbytes]
      exact Nat.le_of_eq (Bytes.toNat_ofNat_field form.order record _ hword).symm
    · cases hcontents

theorem coherent_of_parse {layout : Layout} {order : ByteOrder} {file : File} {image : Image}
    (hword : layout.wordSize ≤ 8) (h : parse layout order file = .ok image) :
    image.Coherent := by
  simp only [parse] at h
  split at h
  · obtain ⟨records, -, himage⟩ := except_bind_eq_ok_iff.mp h
    cases himage
    refine ⟨fun s hs => ?_, fun number s hs => ?_⟩
    · obtain ⟨record, -, rfl⟩ := List.mem_map.mp hs
      exact Form.toSection_bounded hword file record
    · simp only at hs
      split at hs
      · next hnumber =>
        cases hs
        exact List.mem_of_getElem? hnumber
      · cases hs
  · cases h

end MachO

/-! ## Any format -/

/-- A reader all of whose images are coherent. -/
def Reader.IsCoherent (reader : Reader) : Prop :=
  ∀ file image, reader file = .ok image → image.Coherent

/-- **The reader of this library is coherent.** -/
theorem Image.isCoherent_ofFile : Reader.IsCoherent ofFile := by
  intro file image h
  obtain ⟨format, -, h⟩ := except_bind_eq_ok_iff.mp h
  cases format with
  | elf32 => exact Elf.coherent_of_parse (by decide) h
  | elf64 => exact Elf.coherent_of_parse (by decide) h
  | pe32 => exact Pe.coherent_of_parse h
  | pe64 => exact Pe.coherent_of_parse h
  | machO32 order => exact MachO.coherent_of_parse (by decide) h
  | machO64 order => exact MachO.coherent_of_parse (by decide) h
  | coff => exact Coff.coherent_of_parse h
  | recognised => cases h

end Object
end OperandSearch

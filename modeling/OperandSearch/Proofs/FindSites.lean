import Mathlib.Data.List.Forall2
import Mathlib.Data.List.Sort
import OperandSearch.Search

/-!
# Where the finds of a search stand

A find is an address, a name and a text, and two instructions of a listing can agree in all
three.  So the finds alone do not say whether an instruction was left out and another one shown
twice.  This file gives every find the site it comes from: the number of a function in the
listing and the number of an instruction in the function.

A search of a listing then comes to three conditions (`Traced`): the sites are those at which a
token fits, they stand in the order of the listing, each of them once, and every find shows what
stands at its site.  Nothing is assumed of the tokens: a token of any kind may carry any value.
`lookup_eq_iff` says that the conditions hold of one list of finds and of no other.

The sites that a search for addresses hits are among those that a search of all numbers hits.
-/

namespace OperandSearch

/-- A token takes part in a search, and has the value looked for. -/
def Policy.Fits : Policy → UInt64 → Token → Prop
  | .immediates, v, t => (t.kind = .integer ∨ t.kind = .possibleAddress) ∧ t.value = v
  | .addressesOnly, v, t => t.kind = .possibleAddress ∧ t.value = v

theorem Policy.admits_iff {policy : Policy} {v : UInt64} {tokens : List Token} :
    policy.admits v tokens = true ↔ ∃ t ∈ tokens, policy.Fits v t := by
  have hfits (t : Token) : (policy.accepts t.kind && t.value == v) = true ↔ policy.Fits v t := by
    rw [Bool.and_eq_true, beq_iff_eq]
    cases policy with
    | addressesOnly => rw [accepts, beq_iff_eq, Fits]
    | immediates => cases hkind : t.kind <;> simp [accepts, Fits, TokenKind.isNumeric, hkind]
  simp only [admits, List.any_eq_true, hfits]

/-- A token that fits in a search for addresses is one that fits in a search of all numbers and
may be an address. -/
theorem Policy.fits_addressesOnly_iff {v : UInt64} {t : Token} :
    Policy.addressesOnly.Fits v t ↔ Policy.immediates.Fits v t ∧ t.kind = .possibleAddress := by
  simp only [Fits]
  constructor
  · rintro ⟨hkind, hv⟩
    exact ⟨⟨.inr hkind, hv⟩, hkind⟩
  · rintro ⟨⟨-, hv⟩, hkind⟩
    exact ⟨hkind, hv⟩

/-! ## Sites -/

/-- A place in a listing: the number of a function, and that of one of its instructions. -/
structure Site where
  function : ℕ
  instruction : ℕ

namespace Site

/-- The order in which a listing is read. -/
def Before (p q : Site) : Prop :=
  p.function < q.function ∨ p.function = q.function ∧ p.instruction < q.instruction

instance : Std.Irrefl Before :=
  ⟨fun p h => by simp only [Before] at h; omega⟩

instance : Std.Antisymm Before :=
  ⟨fun p q hpq hqp => by simp only [Before] at hpq hqp; omega⟩

/-- A function and one of its instructions stand at a site of a listing. -/
structure Holds (functions : List Function) (p : Site) (f : Function) (i : Instruction) :
    Prop where
  function : functions[p.function]? = some f
  instruction : f.instructions[p.instruction]? = some i

theorem Holds.unique {functions : List Function} {p : Site} {f g : Function} {i j : Instruction}
    (h : p.Holds functions f i) (h' : p.Holds functions g j) : f = g ∧ i = j := by
  obtain rfl : f = g := Option.some.inj (h.function.symm.trans h'.function)
  exact ⟨rfl, Option.some.inj (h.instruction.symm.trans h'.instruction)⟩

/-- A search hits the sites at which one of the tokens fits. -/
def IsHit (policy : Policy) (v : UInt64) (functions : List Function) (p : Site) : Prop :=
  ∃ f i, p.Holds functions f i ∧ ∃ t ∈ i.tokens, policy.Fits v t

/-- A find shows what stands at a site. -/
def IsShownBy (functions : List Function) (p : Site) (found : Match) : Prop :=
  ∃ f i, p.Holds functions f i ∧ found = ⟨i.address, f.name, Token.line i.tokens⟩

end Site

/-! ## Finds and their sites -/

namespace Match

/-- Finds come from sites: from all that are hit, each of them once and in the order of the
listing, and every find shows what stands at its site. -/
structure Traced (policy : Policy) (v : UInt64) (functions : List Function) (sites : List Site)
    (results : List Match) : Prop where
  ordered : sites.Pairwise Site.Before
  mem_iff : ∀ p, p ∈ sites ↔ p.IsHit policy v functions
  shown : List.Forall₂ (Site.IsShownBy functions) sites results

/-- Finds that come from the sites hit by one search are the same, and come from the same
sites. -/
theorem Traced.unique {policy : Policy} {v : UInt64} {functions : List Function}
    {sites sites' : List Site} {results results' : List Match}
    (h : Traced policy v functions sites results)
    (h' : Traced policy v functions sites' results') : sites = sites' ∧ results = results' := by
  have hsites : sites = sites' :=
    h.ordered.eq_of_mem_iff h'.ordered fun p => (h.mem_iff p).trans (h'.mem_iff p).symm
  subst hsites
  have hunique : Relator.RightUnique (Site.IsShownBy functions) := by
    rintro p found found' ⟨f, i, hp, rfl⟩ ⟨g, j, hp', rfl⟩
    obtain ⟨rfl, rfl⟩ := hp.unique hp'
    rfl
  exact ⟨rfl, hunique.forall₂ h.shown h'.shown⟩

/-- The sites that a search hits, in order, each with what stands there. -/
def hits (policy : Policy) (v : UInt64) (functions : List Function) :
    List (Site × Function × Instruction) :=
  functions.zipIdx.flatMap fun fk =>
    (fk.1.instructions.zipIdx.filter fun ij => policy.admits v ij.1.tokens).map fun ij =>
      (⟨fk.2, ij.2⟩, fk.1, ij.1)

variable {policy : Policy} {v : UInt64} {functions : List Function}

/-- What is hit stands at its site, and one of its tokens fits. -/
theorem mem_hits_iff {p : Site} {f : Function} {i : Instruction} :
    (p, f, i) ∈ hits policy v functions ↔
      p.Holds functions f i ∧ ∃ t ∈ i.tokens, policy.Fits v t := by
  simp only [hits, List.mem_flatMap, List.mem_map, List.mem_filter, Prod.exists, Prod.mk.injEq,
    List.mem_zipIdx_iff_getElem?, Policy.admits_iff]
  constructor
  · rintro ⟨g, k, hg, i', j, ⟨hi, hfits⟩, rfl, rfl, rfl⟩
    exact ⟨⟨hg, hi⟩, hfits⟩
  · rintro ⟨⟨hf, hi⟩, hfits⟩
    exact ⟨f, p.function, hf, i, p.instruction, ⟨hi, hfits⟩, rfl, rfl, rfl⟩

theorem pairwise_snd_zipIdx {α : Type} (l : List α) :
    l.zipIdx.Pairwise fun a b => a.2 < b.2 := by
  have h : (l.zipIdx.map Prod.snd).Pairwise (· < ·) := by
    rw [List.zipIdx_map_snd]
    exact List.pairwise_lt_range' 1
  exact List.pairwise_map.mp h

theorem pairwise_hits : (hits policy v functions).Pairwise fun a b => a.1.Before b.1 := by
  rw [hits, List.pairwise_flatMap]
  constructor
  · intro fk _
    rw [List.pairwise_map]
    exact ((pairwise_snd_zipIdx fk.1.instructions).filter _).imp fun hlt => .inr ⟨rfl, hlt⟩
  · refine (pairwise_snd_zipIdx functions).imp fun hlt a ha b hb => ?_
    obtain ⟨x, -, rfl⟩ := List.mem_map.mp ha
    obtain ⟨y, -, rfl⟩ := List.mem_map.mp hb
    exact .inl hlt

/-- The finds of a search show what is hit. -/
theorem lookup_eq_map_hits : lookup policy v functions =
    (hits policy v functions).map fun hit => ofInstruction hit.2.1 hit.2.2 := by
  have hone (f : Function) (k : ℕ) : inFunction policy v f =
      ((f.instructions.zipIdx.filter fun ij => policy.admits v ij.1.tokens).map fun ij =>
        ((⟨k, ij.2⟩, f, ij.1) : Site × Function × Instruction)).map
          fun hit => ofInstruction hit.2.1 hit.2.2 := by
    conv_lhs => rw [inFunction, ← List.zipIdx_map_fst 0 f.instructions, List.filter_map]
    rw [List.map_map, List.map_map]
    rfl
  conv_lhs => rw [lookup, ← List.zipIdx_map_fst 0 functions, List.flatMap_map]
  rw [hits, List.map_flatMap]
  exact List.flatMap_congr fun fk _ => hone fk.1 fk.2

/-- **A search leaves nothing out and shows nothing twice**: its finds come from the sites that
are hit. -/
theorem traced_lookup :
    Traced policy v functions ((hits policy v functions).map Prod.fst)
      (lookup policy v functions) := by
  refine ⟨List.pairwise_map.mpr pairwise_hits, fun p => ?_, ?_⟩
  · rw [List.mem_map]
    constructor
    · rintro ⟨⟨_, f, i⟩, hhit, rfl⟩
      exact ⟨f, i, mem_hits_iff.mp hhit⟩
    · rintro ⟨f, i, hhit⟩
      exact ⟨(p, f, i), mem_hits_iff.mpr hhit, rfl⟩
  · rw [lookup_eq_map_hits, List.forall₂_map_left_iff, List.forall₂_map_right_iff,
      List.forall₂_same]
    rintro ⟨p, f, i⟩ hhit
    exact ⟨f, i, (mem_hits_iff.mp hhit).1, rfl⟩

/-! ## The two policies -/

/-- Of what a search of all numbers hits, a search for addresses hits the instructions that it
admits. -/
theorem hits_addressesOnly : hits .addressesOnly v functions =
    (hits .immediates v functions).filter fun hit =>
      Policy.addressesOnly.admits v hit.2.2.tokens := by
  have hadmits (i : Instruction) : Policy.addressesOnly.admits v i.tokens = true →
      Policy.immediates.admits v i.tokens = true := by
    rw [Policy.admits_iff, Policy.admits_iff]
    rintro ⟨t, ht, hfits⟩
    exact ⟨t, ht, (Policy.fits_addressesOnly_iff.mp hfits).1⟩
  rw [hits, hits, List.filter_flatMap]
  refine List.flatMap_congr fun fk _ => ?_
  rw [List.filter_map, List.filter_filter]
  congr 1
  refine List.filter_congr fun ij _ => ?_
  rw [Function.comp_apply, Bool.eq_iff_iff, Bool.and_eq_true]
  exact ⟨fun h => ⟨h, hadmits ij.1 h⟩, And.left⟩

/-- **What a search finds in any listing.**  Its finds are the only list that comes from the sites
which are hit, one find for each site and in the order of the listing.  The finds in two listings,
one behind the other, are those in the first and then those in the second.  A search for addresses
finds a part of what a search of all numbers finds, in the same order, and what it leaves out are
the sites at which no fitting token may be an address. -/
theorem lookup_eq_iff (v : UInt64) (functions more : List Function) :
    (∀ policy results, results = lookup policy v functions ↔
      ∃ sites, Traced policy v functions sites results) ∧
    (∀ policy, lookup policy v (functions ++ more) =
      lookup policy v functions ++ lookup policy v more) ∧
    (lookup .addressesOnly v functions).Sublist (lookup .immediates v functions) ∧
    ∃ all kept, Traced .immediates v functions all (lookup .immediates v functions) ∧
      Traced .addressesOnly v functions kept (lookup .addressesOnly v functions) ∧
      kept.Sublist all ∧
      ∀ p ∈ all, p ∉ kept ↔ ∀ f i, p.Holds functions f i →
        ∀ t ∈ i.tokens, Policy.immediates.Fits v t → t.kind ≠ .possibleAddress := by
  have hsublist : (hits .addressesOnly v functions).Sublist (hits .immediates v functions) := by
    rw [hits_addressesOnly]
    exact List.filter_sublist
  refine ⟨fun policy results => ?_, fun policy => List.flatMap_append, ?_, _, _, traced_lookup,
    traced_lookup, hsublist.map _, fun p _ => ?_⟩
  · constructor
    · rintro rfl
      exact ⟨_, traced_lookup⟩
    · rintro ⟨sites, htraced⟩
      exact (htraced.unique traced_lookup).2
  · rw [lookup_eq_map_hits, lookup_eq_map_hits]
    exact hsublist.map _
  · rw [traced_lookup.mem_iff]
    constructor
    · intro hmiss f i hp t ht hfits hkind
      exact hmiss ⟨f, i, hp, t, ht, Policy.fits_addressesOnly_iff.mpr ⟨hfits, hkind⟩⟩
    · rintro hnone ⟨f, i, hp, t, ht, hfits⟩
      obtain ⟨hfits, hkind⟩ := Policy.fits_addressesOnly_iff.mp hfits
      exact hnone f i hp t ht hfits hkind

end Match
end OperandSearch

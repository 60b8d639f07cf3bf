import OperandSearch.Proofs.Blank
import OperandSearch.Proofs.Numeral
import OperandSearch.SymbolName

/-!
# Encoded paths of which nothing is shown

A signature that comes out empty is passed over; a path is not.  So a name that is not empty has no
text exactly if a path is read from it that has none (`Readers.readable_eq_empty_iff_path?`).

What paths say is up to the readers.  Of the older encoding it is assumed that the elements are
printed with the path separator between them, without a hash at the end (`Readers.PrintsPaths`);
the readers of this library do so (`Readers.builtIn_printsPaths`).  Under this assumption the older
paths without text are those without elements, and those with one that is empty or a hash: the
length of an element takes all digits there are, so that an element of length zero can have nothing
but the end of the path behind it (`Hashed.blank_iff`).
-/

namespace OperandSearch
namespace SymbolName

theorem ofDigitChars_eq_zero_iff {digits : List Char}
    (hdigits : ∀ c ∈ digits, c.isDigit = true) :
    Nat.ofDigitChars 10 digits 0 = 0 ↔ ∀ c ∈ digits, c = '0' := by
  induction digits with
  | nil => simp
  | cons c rest ih =>
    rw [List.forall_mem_cons] at hdigits ⊢
    have hzero : '0'.toNat = 48 := rfl
    have hlow : 48 ≤ c.toNat := by
      have hdigit := hdigits.1
      simp only [Char.isDigit, Bool.and_eq_true, decide_eq_true_eq] at hdigit
      exact hdigit.1
    have hc : c = '0' ↔ c.toNat - '0'.toNat = 0 := by
      rw [← Char.toNat_inj, hzero]
      omega
    rw [Nat.ofDigitChars_cons, Nat.ofDigitChars_eq_ofDigitChars_zero, hc, ← ih hdigits.2,
      Nat.add_eq_zero_iff, Nat.mul_eq_zero]
    simp

theorem isAscii_of_isDigit {r : Radix} {c : Char} (h : r.isDigit c = true) : isAscii c = true := by
  have hbounds := Radix.toNat_bounds_of_isDigit h
  rw [isAscii, decide_eq_true_eq]
  omega

namespace Hashed

/-! ## The text of elements -/

theorem escaped?_ne_some_nil (escape : List Char) : escaped? escape ≠ some [] := by
  rw [escaped?.eq_def]
  split <;> simp

/-- Characters are never decoded to nothing. -/
theorem decodeChars_eq_nil_iff {cs : List Char} : decodeChars cs = [] ↔ cs = [] := by
  fun_cases decodeChars cs with
  | case1 => simp
  | case2 rest => simp
  | case3 rest behind hbehind => simp
  | case4 rest behind hbehind text htext =>
    have hne : text ≠ [] := by
      rintro rfl
      exact escaped?_ne_some_nil _ htext
    simp [hne]
  | case5 rest behind hbehind htext => simp
  | case6 c rest hperiod hdollar => simp

theorem decodeElement_eq_nil_iff {element : List Char} :
    decodeElement element = [] ↔ element = [] := by
  rw [decodeElement.eq_def]
  split <;> simp [decodeChars_eq_nil_iff]

variable {print : List Char → List Char} (hprint : ∀ element, print element = [] ↔ element = [])

include hprint in
theorem join_eq_nil_iff {elements : List (List Char)} :
    join print elements = [] ↔ elements = [] ∨ elements = [[]] := by
  rcases elements with _ | ⟨first, _ | ⟨second, rest⟩⟩ <;> simp [join, hprint]

include hprint in
/-- Nothing is shown of elements if nothing is left of them without a hash at the end. -/
theorem join_shown_eq_nil_iff {elements : List (List Char)} :
    join print (shown elements) = [] ↔ elements = [] ∨ elements = [[]] ∨
      ∃ hash, isHash hash = true ∧ (elements = [hash] ∨ elements = [[], hash]) := by
  rcases List.eq_nil_or_concat elements with rfl | ⟨front, last, rfl⟩
  · simp [shown, join]
  · have hone (name : List Char) : front ++ [last] = [name] ↔ front = [] ∧ last = name :=
      @List.append_singleton_inj _ last name front []
    have htwo (first name : List Char) :
        front ++ [last] = [first, name] ↔ front = [first] ∧ last = name :=
      @List.append_singleton_inj _ last name front [first]
    have hnil : front ++ [last] ≠ [] := by simp
    simp only [List.concat_eq_append, shown, List.getLast?_concat, List.dropLast_concat, hone,
      htwo, hnil, false_or]
    by_cases hhash : isHash last = true
    · rw [if_pos hhash, join_eq_nil_iff hprint]
      constructor
      · rintro (rfl | rfl)
        · exact .inr ⟨last, hhash, .inl ⟨rfl, rfl⟩⟩
        · exact .inr ⟨last, hhash, .inr ⟨rfl, rfl⟩⟩
      · rintro (⟨rfl, -⟩ | ⟨hash, -, ⟨rfl, -⟩ | ⟨rfl, -⟩⟩)
        · exact .inl rfl
        · exact .inl rfl
        · exact .inr rfl
    · rw [if_neg hhash, join_eq_nil_iff hprint, or_iff_right hnil, hone]
      refine (or_iff_left ?_).symm
      rintro ⟨hash, hhash', ⟨-, rfl⟩ | ⟨-, rfl⟩⟩
      · exact hhash hhash'
      · exact hhash hhash'

/-! ## Elements -/

/-- A text is made of elements, each behind its length in decimal, and `E`, and what stands behind
them.  The length takes all digits there are. -/
inductive Elements : List Char → List (List Char) → List Char → Prop
  | done (suffix : List Char) : Elements ('E' :: suffix) [] suffix
  | element {digits name rest suffix : List Char} {elements : List (List Char)}
      (hne : digits ≠ []) (hdigits : ∀ c ∈ digits, c.isDigit = true)
      (hlength : lengthOf digits = name.length)
      (hstop : ∀ c ∈ (name ++ rest).head?, c.isDigit = false)
      (hrest : Elements rest elements suffix) :
      Elements (digits ++ (name ++ rest)) (name :: elements) suffix

theorem Elements.ne_nil {text suffix : List Char} {elements : List (List Char)}
    (h : Elements text elements suffix) : text ≠ [] := by
  cases h with
  | done => exact List.cons_ne_nil _ _
  | element hne => simp [hne]

/-- **What the reader of elements finds.** -/
theorem elements?_eq_some_iff {text suffix : List Char} {elements : List (List Char)} :
    elements? text = some (elements, suffix) ↔ Elements text elements suffix := by
  constructor
  · intro h
    fun_induction elements? text generalizing elements with
    | case1 => cases h
    | case2 rest =>
      cases h
      exact .done _
    | case3 c rest hend hdigit behind length hlt =>
      rename_i ih
      obtain ⟨⟨later, _⟩, hlater, hparts⟩ := Option.map_eq_some_iff.mp h
      cases hparts
      have htext : c :: rest = c :: rest.takeWhile Char.isDigit ++
          (behind.take length ++ behind.drop length) := by
        rw [List.take_append_drop, List.cons_append, List.takeWhile_append_dropWhile]
      rw [htext]
      refine .element (List.cons_ne_nil _ _) ?_ ?_ ?_ (ih hlater)
      · rw [List.forall_mem_cons]
        exact ⟨hdigit, fun d hd => List.mem_takeWhile_imp hd⟩
      · rw [List.length_take_of_le hlt.le]
      · rw [List.take_append_drop]
        exact Text.head?_dropWhile_eq_false
    | case4 => cases h
    | case5 => cases h
  · intro h
    induction h with
    | done suffix => simp [elements?]
    | @element digits name rest suffix elements hne hdigits hlength hstop hrest ih =>
      obtain ⟨c, more, rfl⟩ := List.exists_cons_of_ne_nil hne
      obtain ⟨hc, hmore⟩ := List.forall_mem_cons.mp hdigits
      have hend : c ≠ 'E' := by
        rintro rfl
        cases hc
      have hlt : name.length < (name ++ rest).length := by
        rw [List.length_append]
        have := List.length_pos_of_ne_nil hrest.ne_nil
        omega
      rw [List.cons_append, elements?, if_neg hend, if_pos hc]
      simp only [Text.dropWhile_append_of_head? hmore hstop,
        Text.takeWhile_append_of_head? hmore hstop, hlength, if_pos hlt, List.drop_left,
        List.take_left, ih, Option.map_some]

theorem Elements.eq_of_nil {text suffix : List Char} (h : Elements text [] suffix) :
    text = 'E' :: suffix := by
  cases h
  rfl

/-! ## Blank paths -/

/-- The bodies of older paths of which nothing is shown: no element, or one that is empty or a
hash.  A length may start with zeros. -/
inductive Blank : List Char → Prop
  | empty (k : ℕ) : Blank (List.replicate k '0' ++ ['E'])
  | hash {digits hexes : List Char} (hdigits : ∀ c ∈ digits, c.isDigit = true)
      (hlength : lengthOf digits = hexes.length + 1)
      (hhexes : ∀ c ∈ hexes, Radix.hexadecimal.isDigit c = true) :
      Blank (digits ++ ('h' :: hexes ++ ['E']))

theorem isHash_iff {element : List Char} : isHash element = true ↔
    ∃ hexes, element = 'h' :: hexes ∧ ∀ c ∈ hexes, Radix.hexadecimal.isDigit c = true := by
  rw [isHash.eq_def]
  split
  · simp
  · next hother =>
    simp only [Bool.false_eq_true, false_iff]
    rintro ⟨hexes, rfl, -⟩
    exact hother hexes rfl

include hprint in
theorem Blank.exists_elements {body : List Char} (h : Blank body) :
    ∃ elements, Elements body elements [] ∧ join print (shown elements) = [] := by
  cases h with
  | empty k =>
    cases k with
    | zero => exact ⟨[], .done [], rfl⟩
    | succ k =>
      have hdigits : ∀ c ∈ List.replicate (k + 1) '0', c.isDigit = true := by
        intro c hc
        rw [List.eq_of_mem_replicate hc]
        rfl
      have hlength : lengthOf (List.replicate (k + 1) '0') = ([] : List Char).length := by
        rw [lengthOf, Nat.ofDigitChars_replicate_zero, Nat.mul_zero, List.length_nil]
      exact ⟨[[]], .element (by simp) hdigits hlength (by simp) (.done []),
        (join_shown_eq_nil_iff hprint).mpr (.inr (.inl rfl))⟩
  | @hash digits hexes hdigits hlength hhexes =>
    have hne : digits ≠ [] := by
      rintro rfl
      cases hlength
    exact ⟨['h' :: hexes], .element hne hdigits hlength (by simp) (.done []),
      (join_shown_eq_nil_iff hprint).mpr
        (.inr (.inr ⟨_, isHash_iff.mpr ⟨hexes, rfl, hhexes⟩, .inl rfl⟩))⟩

include hprint in
/-- **Which older paths are blank.**  Behind an element of length zero there are no more digits, so
that a hash cannot follow it. -/
theorem blank_iff {body : List Char} :
    Blank body ↔ ∃ elements, Elements body elements [] ∧ join print (shown elements) = [] := by
  refine ⟨Blank.exists_elements hprint, ?_⟩
  rintro ⟨elements, helements, hjoin⟩
  rcases (join_shown_eq_nil_iff hprint).mp hjoin with rfl | rfl | ⟨hash, hhash, rfl | rfl⟩
  · rw [helements.eq_of_nil]
    exact .empty 0
  · cases helements with
    | element hne hdigits hlength hstop hrest =>
      rw [hrest.eq_of_nil, List.nil_append, List.eq_replicate_of_mem
        ((ofDigitChars_eq_zero_iff hdigits).mp hlength)]
      exact .empty _
  · obtain ⟨hexes, rfl, hhexes⟩ := isHash_iff.mp hhash
    cases helements with
    | element hne hdigits hlength hstop hrest =>
      rw [hrest.eq_of_nil]
      exact .hash hdigits hlength hhexes
  · cases helements with
    | element hne hdigits hlength hstop hrest =>
      cases hrest with
      | @element digits _ _ _ _ hne' hdigits' =>
        obtain ⟨c, more, rfl⟩ := List.exists_cons_of_ne_nil hne'
        have hplain : c.isDigit = false := hstop c rfl
        rw [hdigits' c List.mem_cons_self] at hplain
        cases hplain

theorem Blank.isAscii {body : List Char} (h : Blank body) : ∀ c ∈ body, isAscii c = true := by
  cases h with
  | empty k =>
    intro c hc
    rcases List.mem_append.mp hc with hc | hc
    · rw [List.eq_of_mem_replicate hc]
      rfl
    · rw [List.mem_singleton.mp hc]
      rfl
  | hash hdigits _ hhexes =>
    intro c hc
    simp only [List.mem_append, List.mem_cons, List.not_mem_nil, or_false] at hc
    rcases hc with hc | (rfl | hc) | rfl
    · exact isAscii_of_isDigit (r := .decimal) (by rw [Radix.isDigit_decimal, hdigits c hc])
    · rfl
    · exact isAscii_of_isDigit (hhexes c hc)
    · rfl

/-- A name is an older path of some elements, with nothing behind it. -/
def IsPath (name : List Char) (elements : List (List Char)) : Prop :=
  ∃ body, body? (dropImport name) = some body ∧ (∀ c ∈ body, isAscii c = true) ∧
    Elements body elements []

/-- A name is an older path of which nothing is shown. -/
def IsBlankPath (name : List Char) : Prop :=
  ∃ body, body? (dropImport name) = some body ∧ Blank body

theorem IsBlankPath.exists_elements {name : List Char} (h : IsBlankPath name) :
    ∃ elements, IsPath name elements := by
  obtain ⟨body, hbody, hblank⟩ := h
  obtain ⟨elements, helements, -⟩ := hblank.exists_elements (fun _ => decodeElement_eq_nil_iff)
  exact ⟨elements, body, hbody, hblank.isAscii, helements⟩

include hprint in
/-- The elements of a path are determined by it, and so is whether anything is shown of them. -/
theorem IsPath.join_eq_nil_iff {name : List Char} {elements : List (List Char)}
    (h : IsPath name elements) : join print (shown elements) = [] ↔ IsBlankPath name := by
  obtain ⟨body, hbody, -, helements⟩ := h
  constructor
  · intro hjoin
    exact ⟨body, hbody, (blank_iff hprint).mpr ⟨elements, helements, hjoin⟩⟩
  · rintro ⟨body', hbody', hblank⟩
    obtain rfl : body = body' := Option.some.inj (hbody.symm.trans hbody')
    obtain ⟨elements', helements', hjoin⟩ := (blank_iff hprint).mp hblank
    have hsame : elements = elements' :=
      congrArg Prod.fst (Option.some.inj ((elements?_eq_some_iff.mpr helements).symm.trans
        (elements?_eq_some_iff.mpr helements')))
    rw [hsame, hjoin]

end Hashed

/-! ## Names without text -/

namespace Readers

/-- A path may be read that has no text, and it is taken all the same; of signatures the empty text
is not taken. -/
theorem readable_eq_empty_iff_path? {readers : Readers} {name : String} (hne : name ≠ "") :
    readers.readable name = "" ↔ readers.path? name = some "" := by
  rw [readable]
  cases readers.path? name with
  | some text => rw [Option.some_inj]
  | none =>
    cases readers.signature? name with
    | none => simp [hne]
    | some text => by_cases htext : text = "" <;> simp [htext, hne]

/-- What is assumed of the reader of paths about the older encoding: it prints the elements with the
path separator between them and leaves out a hash at the end, and loses no element that is not
empty.  How an element is printed is up to the reader, and so is what any other name says. -/
structure PrintsPaths (readers : Readers) (print : List Char → List Char) : Prop where
  print_eq_nil_iff : ∀ element, print element = [] ↔ element = []
  path?_of_isPath : ∀ {name : String} {elements : List (List Char)},
    Hashed.IsPath name.toList elements →
      readers.path? name = some (String.ofList (Hashed.join print (Hashed.shown elements)))

theorem builtIn_printsPaths : builtIn.PrintsPaths Hashed.decodeElement where
  print_eq_nil_iff _ := Hashed.decodeElement_eq_nil_iff
  path?_of_isPath := by
    rintro name elements ⟨body, hbody, hascii, helements⟩
    have hall : body.all isAscii = true := List.all_eq_true.mpr hascii
    have hkept : isKeptSuffix [] = true := rfl
    have hdecode : Hashed.decode? (dropImport name.toList) =
        some (Hashed.join Hashed.decodeElement (Hashed.shown elements)) := by
      simp only [Hashed.decode?, Option.bind_eq_bind, hbody, Option.bind_some, hall, Bool.not_true,
        Bool.false_eq_true, if_false, Hashed.elements?_eq_some_iff.mpr helements, hkept, if_true,
        List.append_nil]
    simp only [builtIn, hdecode, Option.some_or, Option.map_some]

/-- A name is read as a path of which nothing is shown: an older one that is blank, or a name of
another encoding. -/
inductive Hides (readers : Readers) (name : String) : Prop
  | blank (h : Hashed.IsBlankPath name.toList) : Hides readers name
  | other (h : ∀ elements, ¬Hashed.IsPath name.toList elements)
      (hpath : readers.path? name = some "") : Hides readers name

/-- **Which names have no text.** -/
theorem PrintsPaths.readable_eq_empty_iff {readers : Readers} {print : List Char → List Char}
    (h : readers.PrintsPaths print) {name : String} (hne : name ≠ "") :
    readers.readable name = "" ↔ readers.Hides name := by
  rw [readable_eq_empty_iff_path? hne]
  have hpath {elements : List (List Char)} (hpath : Hashed.IsPath name.toList elements) :
      readers.path? name = some "" ↔ Hashed.IsBlankPath name.toList := by
    rw [h.path?_of_isPath hpath, Option.some_inj, ← hpath.join_eq_nil_iff h.print_eq_nil_iff,
      ← String.toList_eq_nil_iff, String.toList_ofList]
  constructor
  · intro hempty
    by_cases hany : ∃ elements, Hashed.IsPath name.toList elements
    · obtain ⟨elements, helements⟩ := hany
      exact .blank ((hpath helements).mp hempty)
    · exact .other (not_exists.mp hany) hempty
  · rintro (hblank | ⟨-, hempty⟩)
    · obtain ⟨elements, helements⟩ := hblank.exists_elements
      exact (hpath helements).mpr hblank
    · exact hempty

end Readers
end SymbolName
end OperandSearch

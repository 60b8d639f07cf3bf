import OperandSearch.Proofs.Search
import OperandSearch.Proofs.SpacedOperands

/-!
# Searching for negative displacements

An analyst who types a minus sign in front of a number searches for the two's complement of the
number, and a literal of operand text with a minus sign right in front of its digits stores the
same.  That is how offsets are printed for Arm, behind `#`, and there the two meet.

The memory operands of x86 are printed another way: `[rbp - 8]` has a space between the minus
sign and the digits.  The minus sign is then a lexeme of its own, which denotes nothing, and the
digits are a literal without a sign.  What such an operand mentions is the magnitude of its
displacement, and the displacement itself only if it is its own two's complement
(`mentions_iff_of_subtracts`).  A search for the displacement therefore finds the instruction only
by what else its operands mention, and a search for the magnitude always finds it.

The statements are about operands of which only a part is known, so the text is first cut in two:
in front of a character that separates, what is split off a text is what is split off its two
parts (`Lexeme.split_append`).
-/

namespace OperandSearch

/-! ## A minus sign in front of an answer -/

namespace Immediate

theorem stores_natCast_iff {v : UInt64} {d : ℕ} : Stores v d ↔ v.toNat = d := by
  have hlt := v.toNat_lt
  constructor
  · rintro ⟨-, hupper, hresidue⟩
    omega
  · rintro rfl
    exact ⟨by omega, by omega, by omega⟩

theorem Written.of_minus {text : List Char} {n : ℤ} (h : Written ('-' :: text) n) :
    ∃ m : ℕ, n = -m ∧ Written text m := by
  generalize hcons : '-' :: text = spelling at h
  obtain ⟨hsign, hmark, hgroups⟩ := h
  cases hsign with
  | minus =>
    obtain ⟨-, rfl⟩ := List.cons.inj hcons
    exact ⟨_, rfl, .intro .absent hmark hgroups⟩
  | plus => exact absurd (List.cons.inj hcons).1 (by decide)
  | absent =>
    cases hmark with
    | lower | upper => exact absurd (List.cons.inj hcons).1 (by decide)
    | absent =>
      have hstart := hgroups.separated.startsWithSign_eq_false
      rw [List.nil_append, List.nil_append] at hcons
      rw [← hcons] at hstart
      cases hstart

/-- **A minus sign in front of an answer.**  If a text and the text with a minus sign in front are
both values, the second stores the negative of the first. -/
theorem stores_of_parse_minus {s : String} {d v : UInt64} (hs : parse s = .ok d)
    (hminus : parse ("-" ++ s) = .ok v) : Stores v (-(d.toNat : ℤ)) := by
  have hcons : ("-" ++ s).toList = '-' :: s.toList := by rw [String.toList_append]; rfl
  rw [parse] at hs hminus
  rw [hcons] at hminus
  obtain ⟨signed, n, hsigned, hnegative, hv⟩ := parseChars_eq_ok_iff.mp hminus
  obtain ⟨body, trail, rfl, htext, htrail⟩ := hsigned.exists_of_cons rfl
  obtain ⟨m, rfl, hwritten⟩ := hnegative.of_minus
  -- the text without the minus sign has the same body, so it is worth `m`
  have hbody : Text.trimChars s.toList = body := by
    refine Text.isTrimmed_iff.mp ⟨[], trail, htext, by simp, htrail, ?_, ?_⟩
    · exact fun c hc => hwritten.isBlank_eq_false c (List.mem_of_mem_head? hc)
    · exact fun c hc => hwritten.isBlank_eq_false c (List.mem_of_mem_getLast? hc)
  have hd : Stores d m := by
    rw [← hwritten.parseChars_eq_ok_iff, ← hs, parseChars, parseChars, hbody,
      hwritten.trimChars_eq]
  rwa [stores_natCast_iff.mp hd]

theorem Stores.eq_neg {d v : UInt64} (h : Stores v (-(d.toNat : ℤ))) : v = -d := by
  have hsigned : Stores v (signed true d.toNat) := h
  obtain ⟨-, hstore⟩ := (store_eq_iff d.toNat_lt).mpr hsigned
  rw [← hstore, store, UInt64.ofNat_toNat, if_pos rfl]

/-- A number that is not zero is its own two's complement exactly if it is half the range of a
word. -/
theorem toNat_neg_eq_iff {d : UInt64} (h : 0 < d) : (-d).toNat = d.toNat ↔ d.toNat = 2 ^ 63 := by
  have hpos : 0 < d.toNat := h
  have hlt := d.toNat_lt
  have hneg : (-d).toNat = (2 ^ 64 - d.toNat) % 2 ^ 64 := by
    rw [← UInt64.toNat_toBitVec, UInt64.toBitVec_neg, BitVec.toNat_neg, UInt64.toNat_toBitVec]
  omega

end Immediate

/-! ## Texts in two parts -/

namespace Lexeme

/-- Where a lexeme can end in front of a text, it can end with more behind the text, if that starts
with what separates. -/
theorem EndsBefore.append {l : Lexeme} {rest back : List Char} (h : EndsBefore l rest)
    (hshape : HasShape l.shape l.text) (hback : ∀ c ∈ back.head?, Separates c) :
    EndsBefore l (rest ++ back) := by
  have hnone {tail : List Char} (htail : NoDigit tail) : NoDigit (tail ++ back) := by
    cases tail with
    | nil =>
      intro d hd
      rw [← Radix.isDigit_decimal]
      exact (hback d hd).isDigit .decimal
    | cons c tail => exact htail
  cases rest with
  | nil => exact hshape.endsBefore hback
  | cons c rest =>
    obtain ⟨shape, text⟩ := l
    cases hshape with
    | separator | openBracket | leftBrace | rightBrace => exact trivial
    | closeBracket | markedBracket => exact h
    | literal =>
      obtain ⟨radix, digits, hliteral, hdigit, hmark⟩ := h
      refine ⟨radix, digits, hliteral, hdigit, ?_⟩
      rintro hradix hzero x d tail hrest hx
      obtain ⟨hc, htail⟩ := List.cons.inj hrest
      subst hc
      cases rest with
      | nil =>
        -- the digit behind the mark would have to be the first character of the second part
        obtain rfl : back = d :: tail := htail
        exact (hback d rfl).isDigit .hexadecimal
      | cons e rest =>
        obtain ⟨rfl, -⟩ := List.cons.inj htail
        exact hmark hradix hzero c e rest rfl hx
    | word => exact h
    | other =>
      obtain ⟨hminus, hhash⟩ := h
      refine ⟨hminus, fun hc => ⟨(hhash hc).1, ?_⟩⟩
      intro tail htail
      obtain ⟨rfl, rfl⟩ := List.cons.inj htail
      exact hnone ((hhash hc).2 rest rfl)

/-- What two texts fall into is what the text of both falls into, if the second starts with what
separates. -/
theorem Segments.append {front back : List Char} {lexemes more : List Lexeme}
    (h : Segments front lexemes) (hmore : Segments back more)
    (hback : ∀ c ∈ back.head?, Separates c) : Segments (front ++ back) (lexemes ++ more) := by
  induction h with
  | nil => exact hmore
  | blank hc _ ih => exact .blank hc ih
  | @lexeme cs rest l lexemes hstarts hblank _ ih =>
    have hstarts' : Starts (cs ++ back) l (rest ++ back) :=
      ⟨by rw [hstarts.text, List.append_assoc], hstarts.shape,
        hstarts.ends.append hstarts.shape hback⟩
    exact .lexeme hstarts' hblank ih

/-- **A text can be split in two parts**, if the second starts with what separates. -/
theorem split_append {front back : List Char} (hback : ∀ c ∈ back.head?, Separates c) :
    split (front ++ back) = split front ++ split back :=
  ((segments_split front).append (segments_split back) hback).split_eq

/-- The text of a shape is one lexeme. -/
theorem HasShape.split_eq {l : Lexeme} (h : HasShape l.shape l.text) : split l.text = [l] := by
  have hsegments : Segments (l.text ++ []) [l] :=
    .lexeme (h.starts (by simp)) h.isBlank_eq_false .nil
  rw [List.append_nil] at hsegments
  exact hsegments.split_eq

end Lexeme

open Lexeme (Denotes HasShape IsLiteral IsNumeral Separates)
open Immediate (Stores stores_natCast_iff)

/-- A text in two parts mentions what one of the parts mentions, if the second starts with what
separates. -/
theorem mentions_append_iff {front back : String} {v : UInt64}
    (hback : ∀ c ∈ back.toList.head?, Separates c) :
    Mentions (front ++ back) v ↔ Mentions front v ∨ Mentions back v := by
  simp only [Mentions, String.toList_append, Lexeme.split_append hback, List.mem_append,
    or_and_right, exists_or]

theorem mentions_literal_iff {text : String} {n : ℤ} {v : UInt64} (h : Denotes text.toList n) :
    Mentions text v ↔ Stores v n := by
  obtain ⟨radix, digits, hliteral⟩ := h.isLiteral
  have hsplit : Lexeme.split text.toList = [⟨.literal, text.toList⟩] :=
    HasShape.split_eq (l := ⟨.literal, text.toList⟩) (.literal hliteral)
  simp only [Mentions, hsplit, List.mem_singleton, exists_eq_left]
  constructor
  · rintro ⟨m, hm, hv⟩
    rwa [h.unique hm]
  · exact fun hv => ⟨n, h, hv⟩

/-! ## How displacements are printed -/

/-- Operands with a memory operand `[base - numeral]`, and what stands in front of the minus sign
and behind the numeral, which is worth `d`. -/
inductive Subtracts (d : ℕ) : (operands front back : String) → Prop
  | intro (before base after : String) {radix : Radix} {digits numeral : List Char}
      (hnumeral : IsNumeral radix digits numeral) (hvalue : Numeral.value radix digits = d) :
      Subtracts d (before ++ "[" ++ base ++ " - " ++ String.ofList numeral ++ "]" ++ after)
        (before ++ "[" ++ base) ("]" ++ after)

/-- Operands with an operand `#-numeral`, which ends at the end of the text or in front of what
separates.  The numeral is worth `d`. -/
inductive Negates (d : ℕ) : (operands : String) → Prop
  | intro (front back : String) {radix : Radix} {digits numeral : List Char}
      (hnumeral : IsNumeral radix digits numeral) (hvalue : Numeral.value radix digits = d)
      (hback : ∀ c ∈ back.toList.head?, Separates c) :
      Negates d (front ++ "#-" ++ String.ofList numeral ++ back)

theorem denotes_of_isNumeral {radix : Radix} {digits numeral : List Char}
    (h : IsNumeral radix digits numeral) :
    Denotes numeral (Numeral.value radix digits) ∧
      Denotes ('#' :: '-' :: numeral) (-(Numeral.value radix digits : ℤ)) := by
  obtain ⟨hmark, hne, hdigits⟩ := h
  exact ⟨.intro false false hmark hne hdigits, .intro true true hmark hne hdigits⟩

theorem not_mentions_minus (v : UInt64) : ¬Mentions " -" v := by
  have hsplit : Lexeme.split " -".toList = [⟨.other, ['-']⟩] := by decide +kernel
  have hshape : HasShape .other ['-'] := .other (by decide) (by decide) (by decide) (by decide)
  rintro ⟨l, hl, n, hn, -⟩
  rw [hsplit, List.mem_singleton] at hl
  subst hl
  obtain ⟨radix, digits, hliteral⟩ := hn.isLiteral
  cases hshape.eq_literal hliteral

theorem mentions_space_iff {text : String} {v : UInt64} :
    Mentions (" " ++ text) v ↔ Mentions text v := by
  have hsplit : Lexeme.split (" " ++ text).toList = Lexeme.split text.toList := by
    rw [String.toList_append]
    exact (Lexeme.segments_split text.toList).blank rfl |>.split_eq
  rw [Mentions, hsplit, ← Mentions]

/-- What starts with a text that starts with what separates does so too. -/
theorem separates_head?_append {c : Char} {first : String} (hfirst : first.toList.head? = some c)
    (hc : Separates c) (rest : String) : ∀ e ∈ (first ++ rest).toList.head?, Separates e := by
  rw [String.toList_append, List.head?_append, hfirst]
  rintro e ⟨⟩
  exact hc

/-- **What `[base - numeral]` mentions.**  The magnitude of the displacement, and what the rest of
the operands mentions. -/
theorem mentions_iff_of_subtracts {d : ℕ} {operands front back : String} {v : UInt64}
    (h : Subtracts d operands front back) :
    Mentions operands v ↔ v.toNat = d ∨ Mentions front v ∨ Mentions back v := by
  obtain @⟨before, base, after, radix, digits, numeral, hnumeral, rfl⟩ := h
  have hspaces : " - " = " -" ++ " " := rfl
  have hparts : before ++ "[" ++ base ++ " - " ++ String.ofList numeral ++ "]" ++ after =
      before ++ "[" ++ base ++ (" -" ++ (" " ++ (String.ofList numeral ++ ("]" ++ after)))) := by
    rw [hspaces]
    simp only [String.append_assoc]
  have hblank : Separates ' ' := Lexeme.separates_of_isBlank rfl
  have hclose : Separates ']' := ⟨by decide, by decide, by decide⟩
  have hdenotes : Denotes (String.ofList numeral).toList (Numeral.value radix digits) := by
    rw [String.toList_ofList]
    exact (denotes_of_isNumeral hnumeral).1
  rw [hparts, mentions_append_iff (separates_head?_append rfl hblank _),
    mentions_append_iff (separates_head?_append rfl hblank _), mentions_space_iff,
    mentions_append_iff (separates_head?_append rfl hclose _), mentions_literal_iff hdenotes,
    stores_natCast_iff, or_iff_right (not_mentions_minus v), or_left_comm]

/-- **What `#-numeral` mentions.**  The negative number. -/
theorem mentions_of_negates {d : ℕ} {operands : String} {v : UInt64} (h : Negates d operands)
    (hv : Stores v (-(d : ℤ))) : Mentions operands v := by
  obtain @⟨front, back, radix, digits, numeral, hnumeral, rfl, hback⟩ := h
  have hhash : Separates '#' := ⟨by decide, by decide, by decide⟩
  have hdenotes : Denotes ("#-" ++ String.ofList numeral).toList
      (-(Numeral.value radix digits : ℤ)) := by
    rw [String.toList_append, String.toList_ofList, String.toList_ofList]
    exact (denotes_of_isNumeral hnumeral).2
  rw [mentions_append_iff hback, String.append_assoc,
    mentions_append_iff (separates_head?_append rfl hhash _), mentions_literal_iff hdenotes]
  exact .inl (.inr hv)

/-- An offset as it is printed for Arm is mentioned with its sign, and one of x86 is not. -/
example : Mentions "r0, [r1, #-0x10]!" (-16) ∧ ¬Mentions "eax, dword ptr [rbp - 0x10]" (-16) := by
  decide +kernel

/-! ## Searches -/

namespace SearchCommand

open Binary (routines)
open Match (found mem_found_iff lookup_eq_map_found ofFound)

/-- **What a search for a negative displacement finds.**  Let a text be a value `d` that is not
zero, and with a minus sign in front be the value `v`.  Then `v` is the two's complement of `d`, and
the answer with the minus sign leads to a report with the finds of `v`.  Of the instructions of the
routines, one with a memory operand `[base - numeral]` whose numeral is worth `d` is found only if
`d` is half the range of a word, or something else in its operands mentions `v`; a search for `d`
finds it in any case.  One with an operand `#-numeral` whose numeral is worth `d` is found. -/
theorem outcome_minus {loader : Loader} {file : Object.File} {b : Binary} {s : String}
    {d v : UInt64} (hload : (Binary.ofFileWith loader file).2 = .ok b) (hpos : 0 < d)
    (hs : Immediate.parse s = .ok d) (hminus : Immediate.parse ("-" ++ s) = .ok v) :
    v = -d ∧
    outcome .immediates b.functions (some ("-" ++ s)) =
      .found ⟨v, (found .immediates v b.mapped (routines loader file)).map (ofFound b.mapped)⟩ ∧
    ∀ r ∈ routines loader file, ∀ i ∈ r.body,
      (∀ front back, Subtracts d.toNat i.operands front back →
        ((r, i) ∈ found .immediates v b.mapped (routines loader file) ↔
          d.toNat = 2 ^ 63 ∨ Mentions front v ∨ Mentions back v) ∧
        (r, i) ∈ found .immediates d b.mapped (routines loader file)) ∧
      (Negates d.toNat i.operands →
        (r, i) ∈ found .immediates v b.mapped (routines loader file)) := by
  obtain ⟨image, disassembler, hloaded⟩ := Binary.exists_isLoaded hload
  have hstores := Immediate.stores_of_parse_minus hs hminus
  have hv : v = -d := hstores.eq_neg
  have hfound {u : UInt64} {r : Binary.Routine} {i : Disassembled} (hr : r ∈ routines loader file)
      (hi : i ∈ r.body) :
      (r, i) ∈ found .immediates u b.mapped (routines loader file) ↔ Mentions i.operands u := by
    rw [mem_found_iff, admits_immediates_iff, and_iff_right hr, and_iff_right hi]
  refine ⟨hv, ?_, fun r hr i hi => ⟨fun front back hsubtracts => ⟨?_, ?_⟩, fun hnegates => ?_⟩⟩
  · simp only [outcome, Immediate.ofAnswer, hminus, hloaded.functions_eq, lookup_eq_map_found]
  · have hself : v.toNat = d.toNat ↔ d.toNat = 2 ^ 63 := by
      rw [hv, Immediate.toNat_neg_eq_iff hpos]
    rw [hfound hr hi, mentions_iff_of_subtracts hsubtracts, hself]
  · rw [hfound hr hi, mentions_iff_of_subtracts hsubtracts]
    exact .inl rfl
  · rw [hfound hr hi]
    exact mentions_of_negates hnegates hstores

/-- An object with a function that reads what stands eight bytes below its frame pointer. -/
def frameObject : Object.File :=
  Binary.objectFile 0x8664 [{ code := [0x8b, 0x45, 0xf8, 0xc3], symbols := [("entry", 4)] }]

/-- The operands of the instruction that reads it. -/
def frameOperands : String :=
  "eax, dword ptr [rbp - 8]"

theorem subtracts_frameOperands : Subtracts 8 frameOperands "eax, dword ptr [rbp" "]" := by
  have hdigits : ∀ c ∈ ['8'], Radix.decimal.isDigit c = true := by
    intro c hc
    rw [List.mem_singleton.mp hc]
    rfl
  have hnumeral : IsNumeral .decimal ['8'] ['8'] := .intro .absent (List.cons_ne_nil _ _) hdigits
  exact .intro "eax, dword ptr " "rbp" "" hnumeral rfl

/-- The object can be loaded, for an architecture of x86, the answer `-8` finds nothing in it, and
there is such an instruction. -/
theorem exists_frameBinary : ∃ b, (Binary.ofFileWith .builtIn frameObject).2 = .ok b ∧
    b.architecture = .x86_64 ∧
    outcome .immediates b.functions (some "-8") = .found ⟨-8, []⟩ ∧
    ∃ r ∈ routines .builtIn frameObject, ∃ i ∈ r.body, i.operands = frameOperands := by
  have hchecked : (Binary.ofFileWith .builtIn frameObject).2.toOption.any (fun b => decide (
      b.architecture = .x86_64 ∧
      outcome .immediates b.functions (some "-8") = .found ⟨-8, []⟩)) = true := by
    decide +kernel
  have hbodies : (routines .builtIn frameObject).any
      (·.body.any (·.operands = frameOperands)) = true := by decide +kernel
  obtain ⟨b, hload, hfacts⟩ := Binary.exists_ok_of_any hchecked
  obtain ⟨harchitecture, houtcome⟩ := of_decide_eq_true hfacts
  obtain ⟨r, hr, hbody⟩ := List.any_eq_true.mp hbodies
  obtain ⟨i, hi, hoperands⟩ := List.any_eq_true.mp hbody
  exact ⟨b, hload, harchitecture, houtcome, r, hr, i, hi, of_decide_eq_true hoperands⟩

/-- What the displacement is worth without its sign and with it, and that its operands mention
only the first. -/
theorem parse_displacement : Immediate.parse "8" = .ok 8 ∧
    Immediate.parse ("-" ++ "8") = .ok (-8) ∧
    (8 : UInt64).toNat ≠ 2 ^ 63 ∧ ¬Mentions "eax, dword ptr [rbp" (-8) ∧ ¬Mentions "]" (-8) := by
  decide +kernel

/-- The answer `-8` does not find the instruction that reads `[rbp - 8]`, and the answer `8`
does. -/
theorem outcome_minus_frameObject : ∃ b, (Binary.ofFileWith .builtIn frameObject).2 = .ok b ∧
    outcome .immediates b.functions (some "-8") = .found ⟨-8, []⟩ ∧
    ∃ r ∈ routines .builtIn frameObject, ∃ i ∈ r.body, i.operands = frameOperands ∧
      (r, i) ∉ found .immediates (-8) b.mapped (routines .builtIn frameObject) ∧
      (r, i) ∈ found .immediates 8 b.mapped (routines .builtIn frameObject) := by
  obtain ⟨b, hload, -, houtcome, r, hr, i, hi, hoperands⟩ := exists_frameBinary
  obtain ⟨hs, hminus, hother⟩ := parse_displacement
  obtain ⟨-, -, hsearch⟩ := outcome_minus hload (by decide) hs hminus
  have hsubtracts := subtracts_frameOperands
  rw [← hoperands] at hsubtracts
  obtain ⟨hiff, hplain⟩ := (hsearch r hr i hi).1 _ _ hsubtracts
  refine ⟨b, hload, houtcome, r, hr, i, hi, hoperands, ?_, hplain⟩
  rwa [hiff, not_or, not_or]

/-- It is not so that a search for a negative displacement finds the instructions of x86 that have
it in a memory operand. -/
theorem not_forall_found_minus : ¬∀ file b s d v,
    (Binary.ofFileWith .builtIn file).2 = .ok b →
    b.architecture = .i386 ∨ b.architecture = .x86_64 →
    0 < d → Immediate.parse s = .ok d → Immediate.parse ("-" ++ s) = .ok v →
    ∀ r ∈ routines .builtIn file, ∀ i ∈ r.body,
      (∃ front back, Subtracts d.toNat i.operands front back) →
        (r, i) ∈ found .immediates v b.mapped (routines .builtIn file) := by
  intro hall
  obtain ⟨b, hload, harchitecture, -, r, hr, i, hi, hoperands⟩ := exists_frameBinary
  obtain ⟨hs, hminus, -, hfront, hback⟩ := parse_displacement
  have hsubtracts := subtracts_frameOperands
  have hfound := hall _ b _ _ _ hload (.inr harchitecture) (by decide) hs hminus r hr i hi
    ⟨_, _, hoperands ▸ hsubtracts⟩
  rw [mem_found_iff, admits_immediates_iff, hoperands, mentions_iff_of_subtracts hsubtracts]
    at hfound
  obtain ⟨-, -, hsame | hmentioned | hmentioned⟩ := hfound
  · exact absurd hsame (by decide)
  · exact hfront hmentioned
  · exact hback hmentioned

end SearchCommand
end OperandSearch

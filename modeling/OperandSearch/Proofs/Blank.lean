import Mathlib.Data.List.TakeWhile
import OperandSearch.Text.Blank

/-!
# What trimming leaves

`Text.trimChars` drops blanks from the left and then from the right.  Here the result is
described without the order of the two: a text falls into blanks, a body that neither starts
nor ends with a blank, and blanks (`IsTrimmed`).  There is exactly one such body, and it is
what trimming computes (`isTrimmed_iff`).
-/

namespace OperandSearch
namespace Text

/-- The body of a text: what stands between the blanks at its two ends. -/
def IsTrimmed (text body : List Char) : Prop :=
  ∃ lead trail, text = lead ++ body ++ trail ∧
    (∀ c ∈ lead, isBlank c = true) ∧ (∀ c ∈ trail, isBlank c = true) ∧
    (∀ c ∈ body.head?, isBlank c = false) ∧ ∀ c ∈ body.getLast?, isBlank c = false

theorem dropWhile_append_of_head? {p : Char → Bool} {run rest : List Char}
    (hrun : ∀ c ∈ run, p c = true) (hrest : ∀ c ∈ rest.head?, p c = false) :
    (run ++ rest).dropWhile p = rest := by
  rw [List.dropWhile_append_of_pos hrun]
  cases rest with
  | nil => rfl
  | cons c cs => rw [List.dropWhile_cons_of_neg (by simp [hrest c rfl])]

theorem takeWhile_append_of_head? {p : Char → Bool} {run rest : List Char}
    (hrun : ∀ c ∈ run, p c = true) (hrest : ∀ c ∈ rest.head?, p c = false) :
    (run ++ rest).takeWhile p = run := by
  rw [List.takeWhile_append_of_pos hrun]
  cases rest with
  | nil => rw [List.takeWhile_nil, List.append_nil]
  | cons c cs => rw [List.takeWhile_cons_of_neg (by simp [hrest c rfl]), List.append_nil]

theorem dropTrailing_append {p : Char → Bool} {body run : List Char}
    (hrun : ∀ c ∈ run, p c = true) (hbody : ∀ c ∈ body.getLast?, p c = false) :
    dropTrailing p (body ++ run) = body := by
  rw [dropTrailing, List.reverse_append, dropWhile_append_of_head?, List.reverse_reverse]
  · exact fun c hc => hrun c (List.mem_reverse.mp hc)
  · rwa [List.head?_reverse]

theorem head?_dropWhile_eq_false {p : Char → Bool} {cs : List Char} :
    ∀ c ∈ (cs.dropWhile p).head?, p c = false := by
  intro c hc
  have h := List.head?_dropWhile_not p cs
  rw [Option.mem_def.mp hc] at h
  exact h

theorem exists_dropTrailing_append (p : Char → Bool) (cs : List Char) :
    ∃ run, cs = dropTrailing p cs ++ run ∧ (∀ c ∈ run, p c = true) ∧
      ∀ c ∈ (dropTrailing p cs).getLast?, p c = false := by
  refine ⟨(cs.reverse.takeWhile p).reverse, ?_, ?_, ?_⟩
  · rw [dropTrailing, ← List.reverse_append, List.takeWhile_append_dropWhile,
      List.reverse_reverse]
  · intro c hc
    exact List.mem_takeWhile_imp (List.mem_reverse.mp hc)
  · rw [dropTrailing, List.getLast?_reverse]
    exact head?_dropWhile_eq_false

/-- **Trimming finds the body of a text**, and a text has only one. -/
theorem isTrimmed_iff {text body : List Char} : IsTrimmed text body ↔ trimChars text = body := by
  constructor
  · rintro ⟨lead, trail, rfl, hlead, htrail, hhead, hlast⟩
    cases body with
    | nil =>
      have hall : ∀ c ∈ lead ++ [] ++ trail, isBlank c = true := by
        intro c hc
        rw [List.append_nil, List.mem_append] at hc
        exact hc.elim (hlead c) (htrail c)
      rw [trimChars, List.dropWhile_eq_nil_iff.mpr hall]
      rfl
    | cons b bs =>
      have hrest : ∀ c ∈ (b :: bs ++ trail).head?, isBlank c = false := hhead
      rw [trimChars, List.append_assoc, dropWhile_append_of_head? hlead hrest,
        dropTrailing_append htrail hlast]
  · rintro rfl
    obtain ⟨trail, hsplit, htrail, hlast⟩ :=
      exists_dropTrailing_append isBlank (text.dropWhile isBlank)
    refine ⟨text.takeWhile isBlank, trail, ?_, fun c hc => List.mem_takeWhile_imp hc, htrail,
      ?_, hlast⟩
    · rw [trimChars, List.append_assoc, ← hsplit, List.takeWhile_append_dropWhile]
    · intro c hc
      have hc' : c ∈ (text.dropWhile isBlank).head? := by
        rw [hsplit, List.head?_append, ← trimChars, Option.mem_def.mp hc]
        rfl
      exact head?_dropWhile_eq_false c hc'

theorem trimChars_eq_self {text : List Char} (hhead : ∀ c ∈ text.head?, isBlank c = false)
    (hlast : ∀ c ∈ text.getLast?, isBlank c = false) : trimChars text = text :=
  isTrimmed_iff.mp ⟨[], [], by simp, by simp, by simp, hhead, hlast⟩

theorem IsTrimmed.exists_of_cons {c : Char} {text body : List Char}
    (h : IsTrimmed (c :: text) body) (hc : isBlank c = false) :
    ∃ rest trail, body = c :: rest ∧ text = rest ++ trail ∧ ∀ d ∈ trail, isBlank d = true := by
  obtain ⟨lead, trail, htext, hlead, htrail, -⟩ := h
  cases lead with
  | cons d lead =>
    obtain ⟨rfl, -⟩ := List.cons.inj htext
    rw [hlead c List.mem_cons_self] at hc
    cases hc
  | nil =>
    cases body with
    | cons d rest =>
      obtain ⟨rfl, rfl⟩ := List.cons.inj htext
      exact ⟨rest, trail, rfl, rfl, htrail⟩
    | nil =>
      rw [List.nil_append, List.nil_append] at htext
      rw [htrail c (htext ▸ List.mem_cons_self)] at hc
      cases hc

end Text
end OperandSearch

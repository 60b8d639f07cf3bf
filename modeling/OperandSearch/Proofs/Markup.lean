import OperandSearch.Proofs.Blank
import OperandSearch.Proofs.Numeral
import OperandSearch.Report.Page

/-!
# The markup of a page

A page is fixed markup around texts that come from the searched binary, and whoever made that
binary chose the names in it.  This file says that no such text is markup.

`tags` are the pieces of a page from a `<` up to the next `>`, and `between` is what stands
outside of them.  The tags of a page depend on nothing but the number of its rows, there is no
character of markup between them, and an ampersand stands only at the start of an entity
(`confined_renderChars`).

The invariant is that a text *closes* its tags: cut into pieces, it has no `<` left over.  Texts
that close their tags can be cut apart where they meet (`pieces_append`), so a page is cut row by
row and cell by cell.  What stands in a cell has no `<` at all, because it was escaped; the
address of a row is no exception, as it has nothing that escaping would change
(`escape_address`).
-/

namespace OperandSearch
namespace Page

/-! ## Entities -/

/-- The characters that stand for markup, with the entities that stand for them. -/
def entities : List (Char × List Char) :=
  [('&', ['&', 'a', 'm', 'p', ';']), ('<', ['&', 'l', 't', ';']), ('>', ['&', 'g', 't', ';']),
    ('"', ['&', 'q', 'u', 'o', 't', ';']), ('\'', ['&', '#', '3', '9', ';'])]

/-- The characters that stand for markup. -/
def reserved : List Char :=
  entities.map Prod.fst

theorem escapeChar_of_mem {c : Char} {entity : List Char} (h : (c, entity) ∈ entities) :
    escapeChar c = entity := by
  simp only [entities, List.mem_cons, List.not_mem_nil, or_false, Prod.mk.injEq] at h
  rcases h with ⟨rfl, rfl⟩ | ⟨rfl, rfl⟩ | ⟨rfl, rfl⟩ | ⟨rfl, rfl⟩ | ⟨rfl, rfl⟩ <;> decide

theorem escapeChar_of_notMem {c : Char} (h : c ∉ reserved) : escapeChar c = [c] := by
  simp only [reserved, entities, List.map_cons, List.map_nil, List.mem_cons, List.not_mem_nil,
    or_false, not_or] at h
  simp [escapeChar, h]

/-- The two ways in which a character is written. -/
theorem escapeChar_cases (c : Char) :
    (∃ entity, (c, entity) ∈ entities ∧ escapeChar c = entity) ∨
      c ∉ reserved ∧ escapeChar c = [c] := by
  by_cases h : c ∈ reserved
  · obtain ⟨⟨d, entity⟩, hmem, rfl⟩ := List.mem_map.mp h
    exact .inl ⟨entity, hmem, escapeChar_of_mem hmem⟩
  · exact .inr ⟨h, escapeChar_of_notMem h⟩

theorem escape_cons (c : Char) (cs : List Char) : escape (c :: cs) = escapeChar c ++ escape cs :=
  List.flatMap_cons

theorem escape_of_notMem {cs : List Char} (h : ∀ c ∈ cs, c ∉ reserved) : escape cs = cs := by
  induction cs with
  | nil => rfl
  | cons c cs ih =>
    rw [List.forall_mem_cons] at h
    rw [escape_cons, escapeChar_of_notMem h.1, ih h.2, List.singleton_append]

/-- The characters that escaping removes from a text: all that stand for markup but the
ampersand. -/
def delimiters : List Char :=
  ['<', '>', '"', '\'']

theorem notMem_delimiters_of_mem_escape {cs : List Char} :
    ∀ c ∈ escape cs, c ∉ delimiters := by
  intro d hd
  obtain ⟨c, -, hd⟩ := List.mem_flatMap.mp hd
  rcases escapeChar_cases c with ⟨entity, hentity, h⟩ | ⟨hc, h⟩
  · rw [h] at hd
    have hall : ∀ p ∈ entities, ∀ d ∈ p.2, d ∉ delimiters := by simp [entities, delimiters]
    exact hall _ hentity d hd
  · rw [h, List.mem_singleton] at hd
    subst hd
    have hall : ∀ d ∈ delimiters, d ∈ reserved := by simp [delimiters, reserved, entities]
    exact fun hmem => hc (hall d hmem)

theorem escape_address (v : UInt64) :
    escape (Numeral.address v).toList = (Numeral.address v).toList := by
  rw [Numeral.toList_address]
  refine escape_of_notMem ?_
  rw [List.forall_mem_cons, List.forall_mem_cons]
  refine ⟨by decide, by decide, fun c hc hreserved => ?_⟩
  have hnone : ∀ d ∈ reserved, Radix.hexadecimal.isDigit d = false := by
    simp only [reserved, entities, List.map_cons, List.map_nil, List.forall_mem_cons,
      List.not_mem_nil, false_implies, implies_true, and_true]
    decide
  have hdigit := Numeral.isDigit_of_mem_addressDigits c hc
  rw [hnone c hreserved] at hdigit
  cases hdigit

/-! ## Tags -/

theorem notMem_iff_forall_bne {d : Char} {cs : List Char} :
    d ∉ cs ↔ ∀ c ∈ cs, (c != d) = true := by
  simp only [bne_iff_ne, List.forall_mem_ne']

/-- The tag that a text starts with, from `<` up to the next `>`, and what follows it. -/
def takeTag? : List Char → Option (List Char × List Char)
  | [] => none
  | c :: cs =>
    if c = '<' then
      match cs.dropWhile (· != '>') with
      | [] => none
      | stop :: rest => some (c :: cs.takeWhile (· != '>') ++ [stop], rest)
    else none

theorem takeTag?_eq_some_iff {cs tag rest : List Char} : takeTag? cs = some (tag, rest) ↔
    ∃ body, '>' ∉ body ∧ tag = '<' :: body ++ ['>'] ∧ cs = tag ++ rest := by
  constructor
  · intro h
    unfold takeTag? at h
    split at h
    · cases h
    · next c tail =>
      split at h
      · next hc =>
        split at h
        · cases h
        · next stop rest' hdrop =>
          obtain ⟨rfl, rfl⟩ := Prod.mk.inj (Option.some.inj h)
          have hhead : ∀ d ∈ (tail.dropWhile (· != '>')).head?, (d != '>') = false :=
            Text.head?_dropWhile_eq_false
          have hstop : (stop != '>') = false := hhead stop (by rw [hdrop]; rfl)
          obtain rfl : stop = '>' := by simpa using hstop
          subst hc
          have hbody : '>' ∉ tail.takeWhile (· != '>') :=
            notMem_iff_forall_bne.mpr fun c hc => List.mem_takeWhile_imp (p := (· != '>')) hc
          refine ⟨_, hbody, rfl, ?_⟩
          have hsplit := List.takeWhile_append_dropWhile (p := (· != '>')) (l := tail)
          rw [hdrop] at hsplit
          simpa using hsplit.symm
      · cases h
  · rintro ⟨body, hbody, rfl, rfl⟩
    have hstop : ∀ c ∈ ('>' :: rest).head?, (c != '>') = false := by simp
    rw [notMem_iff_forall_bne] at hbody
    have htake := Text.takeWhile_append_of_head? hbody hstop
    have hdrop := Text.dropWhile_append_of_head? hbody hstop
    simp [takeTag?, htake, hdrop]

theorem takeTag?_cons_of_ne {c : Char} (cs : List Char) (hc : c ≠ '<') :
    takeTag? (c :: cs) = none := by
  rw [takeTag?, if_neg hc]

theorem length_lt_of_takeTag? {cs tag rest : List Char} (h : takeTag? cs = some (tag, rest)) :
    rest.length < cs.length := by
  obtain ⟨body, -, rfl, rfl⟩ := takeTag?_eq_some_iff.mp h
  simp only [List.length_append, List.length_cons]
  omega

theorem takeTag?_append {cs tag rest : List Char} (h : takeTag? cs = some (tag, rest))
    (ds : List Char) : takeTag? (cs ++ ds) = some (tag, rest ++ ds) := by
  obtain ⟨body, hbody, htag, rfl⟩ := takeTag?_eq_some_iff.mp h
  exact takeTag?_eq_some_iff.mpr ⟨body, hbody, htag, List.append_assoc _ _ _⟩

/-! ## Pieces -/

/-- A piece of a text with markup: a tag, or a character outside of tags. -/
inductive Piece where
  | tag (text : List Char)
  | plain (c : Char)
  deriving DecidableEq

/-- The pieces of a text, in order. -/
def pieces (cs : List Char) : List Piece :=
  match cs with
  | [] => []
  | c :: tail =>
    match _h : takeTag? (c :: tail) with
    | some (tag, rest) => .tag tag :: pieces rest
    | none => .plain c :: pieces tail
termination_by cs.length
decreasing_by
  · exact length_lt_of_takeTag? _h
  · simp

/-- The tags of a text: its pieces from a `<` up to the next `>`. -/
def tags (cs : List Char) : List (List Char) :=
  (pieces cs).filterMap fun
    | .tag text => some text
    | .plain _ => none

/-- What stands outside of the tags of a text. -/
def between (cs : List Char) : List Char :=
  (pieces cs).filterMap fun
    | .tag _ => none
    | .plain c => some c

/-- The characters outside of tags are the plain pieces. -/
theorem mem_between_iff {c : Char} {cs : List Char} : c ∈ between cs ↔ .plain c ∈ pieces cs := by
  rw [between, List.mem_filterMap]
  constructor
  · rintro ⟨piece, hpiece, he⟩
    cases piece with
    | tag text => cases he
    | plain d =>
      cases he
      exact hpiece
  · exact fun h => ⟨_, h, rfl⟩

/-- A text closes its tags: every `<` in it starts one. -/
def Closed (cs : List Char) : Prop :=
  Piece.plain '<' ∉ pieces cs

theorem pieces_of_takeTag? {cs tag rest : List Char} (h : takeTag? cs = some (tag, rest)) :
    pieces cs = .tag tag :: pieces rest := by
  cases cs with
  | nil => cases h
  | cons c tail =>
    rw [pieces]
    split
    · next htaken =>
      obtain ⟨rfl, rfl⟩ := Prod.mk.inj (Option.some.inj (htaken.symm.trans h))
      rfl
    · next hnone =>
      rw [hnone] at h
      cases h

theorem pieces_cons_of_takeTag? {c : Char} {cs : List Char} (h : takeTag? (c :: cs) = none) :
    pieces (c :: cs) = .plain c :: pieces cs := by
  rw [pieces]
  split
  · next htaken =>
    rw [h] at htaken
    cases htaken
  · rfl

/-- **Texts that close their tags are cut apart where they meet.** -/
theorem pieces_append {cs : List Char} (h : Closed cs) (ds : List Char) :
    pieces (cs ++ ds) = pieces cs ++ pieces ds := by
  induction cs using pieces.induct with
  | case1 =>
    rw [pieces]
    rfl
  | case2 c tail tag rest htag ih =>
    rw [Closed, pieces_of_takeTag? htag, List.mem_cons, not_or] at h
    rw [pieces_of_takeTag? (takeTag?_append htag ds), pieces_of_takeTag? htag, ih h.2,
      List.cons_append]
  | case3 c tail hnone ih =>
    rw [Closed, pieces_cons_of_takeTag? hnone, List.mem_cons, not_or] at h
    have hc : c ≠ '<' := fun e => h.1 (by rw [e])
    rw [List.cons_append, pieces_cons_of_takeTag? (takeTag?_cons_of_ne _ hc),
      pieces_cons_of_takeTag? hnone, ih h.2, List.cons_append]

theorem pieces_of_notMem {cs : List Char} (h : '<' ∉ cs) : pieces cs = cs.map .plain := by
  induction cs with
  | nil => rw [pieces, List.map_nil]
  | cons c cs ih =>
    rw [List.mem_cons, not_or] at h
    rw [pieces_cons_of_takeTag? (takeTag?_cons_of_ne cs (Ne.symm h.1)), ih h.2, List.map_cons]

/-! ## Confined texts -/

/-- Every ampersand of a text starts an entity. -/
def StartsEntities (cs : List Char) : Prop :=
  ∀ before rest, cs = before ++ '&' :: rest → ∃ p ∈ entities, p.2 <+: '&' :: rest

/-- A text whose markup is known: its tags, and that there is no other. -/
structure Confined (cs : List Char) (ts : List (List Char)) : Prop where
  tags_eq : tags cs = ts
  between_notMem : ∀ c ∈ between cs, c ∉ delimiters
  startsEntities : StartsEntities cs

theorem Confined.closed {cs : List Char} {ts : List (List Char)} (h : Confined cs ts) : Closed cs :=
  fun hopen => h.between_notMem '<' (mem_between_iff.mpr hopen) (by decide)

theorem StartsEntities.append {cs ds : List Char} (hcs : StartsEntities cs)
    (hds : StartsEntities ds) : StartsEntities (cs ++ ds) := by
  intro before rest hsplit
  rcases List.append_eq_append_iff.mp hsplit with ⟨front, rfl, hfront⟩ | ⟨back, hback, hrest⟩
  · exact hds front rest hfront
  · cases back with
    | nil => exact hds [] rest hrest.symm
    | cons c back =>
      obtain ⟨rfl, rfl⟩ := List.cons.inj hrest
      obtain ⟨p, hp, hentity⟩ := hcs before back hback
      exact ⟨p, hp, hentity.trans ⟨ds, rfl⟩⟩

theorem startsEntities_of_notMem {cs : List Char} (h : '&' ∉ cs) : StartsEntities cs := by
  rintro before rest rfl
  exact absurd (by simp) h

/-- **Confined texts one behind the other are confined.** -/
theorem Confined.append {cs ds : List Char} {ts us : List (List Char)} (hcs : Confined cs ts)
    (hds : Confined ds us) : Confined (cs ++ ds) (ts ++ us) where
  tags_eq := by
    rw [tags, pieces_append hcs.closed, List.filterMap_append, ← tags, ← tags, hcs.tags_eq,
      hds.tags_eq]
  between_notMem c hc := by
    rw [mem_between_iff, pieces_append hcs.closed, List.mem_append, ← mem_between_iff,
      ← mem_between_iff] at hc
    exact hc.elim (hcs.between_notMem c) (hds.between_notMem c)
  startsEntities := hcs.startsEntities.append hds.startsEntities

/-! ## What stands in a cell -/

theorem startsEntities_escape (cs : List Char) : StartsEntities (escape cs) := by
  induction cs with
  | nil => exact startsEntities_of_notMem (List.not_mem_nil)
  | cons c cs ih =>
    rw [escape_cons]
    refine StartsEntities.append ?_ ih
    rcases escapeChar_cases c with ⟨entity, hentity, h⟩ | ⟨hc, h⟩
    · rw [h]
      intro before rest hsplit
      -- an entity has no ampersand but the one it starts with
      have hall : ∀ p ∈ entities, p.2.head? = some '&' ∧ '&' ∉ p.2.tail := by decide
      obtain ⟨hhead, htail⟩ := hall _ hentity
      cases before with
      | nil => exact ⟨_, hentity, by rw [← List.nil_append ('&' :: rest), ← hsplit]⟩
      | cons d before =>
        rw [hsplit] at htail
        exact absurd (by simp) htail
    · rw [h]
      refine startsEntities_of_notMem ?_
      rw [List.mem_singleton]
      rintro rfl
      exact hc (by decide)

/-- **No text in a cell is markup.** -/
theorem confined_escape (cs : List Char) : Confined (escape cs) [] := by
  have hpieces : pieces (escape cs) = (escape cs).map .plain :=
    pieces_of_notMem fun h => notMem_delimiters_of_mem_escape _ h (by decide)
  refine ⟨?_, ?_, startsEntities_escape cs⟩
  · rw [tags, hpieces, List.filterMap_map, List.filterMap_eq_nil_iff]
    exact fun _ _ => rfl
  · intro c hc
    rw [mem_between_iff, hpieces, List.mem_map] at hc
    obtain ⟨d, hd, he⟩ := hc
    cases he
    exact notMem_delimiters_of_mem_escape _ hd

/-! ## Rows and pages -/

/-- The fixed parts of a page. -/
def fixedParts : List (List Char) :=
  [opening, closing, rowOpening, rowClosing, cellOpening, cellClosing]

theorem confined_of_mem_fixedParts {markup : List Char} (h : markup ∈ fixedParts) :
    Confined markup (tags markup) := by
  have hall : ∀ markup ∈ fixedParts,
      (between markup).all (fun c => decide (c ∉ delimiters)) = true ∧ '&' ∉ markup := by
    -- evaluating the lines one by one is much faster than evaluating the text they make up
    delta fixedParts opening closing
    simp only [String.toList_append]
    decide +kernel
  obtain ⟨hbetween, hampersand⟩ := hall markup h
  exact ⟨rfl, fun c hc => of_decide_eq_true (List.all_eq_true.mp hbetween c hc),
    startsEntities_of_notMem hampersand⟩

/-- The tags of a cell. -/
def cellTags : List (List Char) :=
  tags cellOpening ++ [] ++ tags cellClosing

/-- The tags of a row. -/
def rowTags : List (List Char) :=
  tags rowOpening ++ cellTags ++ cellTags ++ cellTags ++ tags rowClosing

/-- The tags of a page with some number of rows. -/
def pageTags (rows : ℕ) : List (List Char) :=
  tags opening ++ (List.replicate rows rowTags).flatten ++ tags closing

/-- The markup of a cell does not depend on its text. -/
theorem confined_cell (cs : List Char) : Confined (cell (escape cs)) cellTags := by
  have hopening : Confined cellOpening _ := confined_of_mem_fixedParts (by simp [fixedParts])
  have hclosing : Confined cellClosing _ := confined_of_mem_fixedParts (by simp [fixedParts])
  exact (hopening.append (confined_escape cs)).append hclosing

theorem confined_row (found : Match) : Confined (row found) rowTags := by
  have hopening : Confined rowOpening _ := confined_of_mem_fixedParts (by simp [fixedParts])
  have hclosing : Confined rowClosing _ := confined_of_mem_fixedParts (by simp [fixedParts])
  have haddress : Confined (cell (Numeral.address found.address).toList) cellTags := by
    rw [← escape_address]
    exact confined_cell _
  exact (((hopening.append haddress).append (confined_cell _)).append (confined_cell _)).append
    hclosing

theorem confined_rows (results : List Match) :
    Confined (results.flatMap row) (List.replicate results.length rowTags).flatten := by
  induction results with
  | nil => exact confined_escape []
  | cons found results ih =>
    rw [List.flatMap_cons, List.length_cons, List.replicate_succ, List.flatten_cons]
    exact (confined_row found).append ih

/-- **The markup of a page.** -/
theorem confined_renderChars (results : List Match) :
    Confined (renderChars results) (pageTags results.length) := by
  have hopening : Confined opening _ := confined_of_mem_fixedParts (by simp [fixedParts])
  have hclosing : Confined closing _ := confined_of_mem_fixedParts (by simp [fixedParts])
  exact (hopening.append (confined_rows results)).append hclosing

/-- **No text of the searched binary is markup.**  Pages of as many finds have the same tags,
whatever was found; outside of its tags a page has no `<`, no `>` and no quotes; and every
ampersand of a page starts one of the entities. -/
theorem tags_render_congr :
    (∀ xs ys : List Match, xs.length = ys.length →
      tags (render xs).toList = tags (render ys).toList) ∧
    ∀ results : List Match,
      (∀ c ∈ between (render results).toList, c ≠ '<' ∧ c ≠ '>' ∧ c ≠ '"' ∧ c ≠ '\'') ∧
      ∀ before rest, (render results).toList = before ++ '&' :: rest →
        ∃ entity ∈ ["&amp;", "&lt;", "&gt;", "&quot;", "&#39;"], entity.toList <+: '&' :: rest := by
  have hrender (results : List Match) : (render results).toList = renderChars results :=
    String.toList_ofList
  simp only [hrender]
  refine ⟨fun xs ys hlength => ?_, fun results => ⟨fun c hc => ?_, fun before rest h => ?_⟩⟩
  · rw [(confined_renderChars xs).tags_eq, (confined_renderChars ys).tags_eq, hlength]
  · simpa [delimiters] using (confined_renderChars results).between_notMem c hc
  · obtain ⟨p, hp, hentity⟩ := (confined_renderChars results).startsEntities before rest h
    have hall : ∀ p ∈ entities, ∃ entity ∈ ["&amp;", "&lt;", "&gt;", "&quot;", "&#39;"],
        entity.toList = p.2 := by decide
    obtain ⟨entity, hmem, htext⟩ := hall p hp
    exact ⟨entity, hmem, htext ▸ hentity⟩

/-- A find whose texts try to end their cells. -/
def forgingFind : Match :=
  ⟨0x1000, "f</pre></td><td onclick=\"x\">", "jmp &lt;'0x10'>"⟩

/-- Its page has the tags of a page with a harmless find, its `<` is an entity, and so is the
ampersand of the entity that it pretends to have. -/
theorem tags_render_forgingFind :
    tags (render [forgingFind]).toList = tags (render [⟨0, "f", "ret"⟩]).toList ∧
      (∀ c ∈ between (render [forgingFind]).toList, c ≠ '<') ∧
      ∃ before rest, (render [forgingFind]).toList = before ++ '&' :: rest ∧
        ∃ entity ∈ ["&amp;", "&lt;", "&gt;", "&quot;", "&#39;"], entity.toList <+: '&' :: rest := by
  obtain ⟨htags, hpage⟩ := tags_render_congr
  obtain ⟨hbetween, hentities⟩ := hpage [forgingFind]
  have hampersand : '&' ∈ (render [forgingFind]).toList := by
    have hescaped : '&' ∈ escape forgingFind.function.toList := by decide +kernel
    simp [render, renderChars, row, cell, hescaped]
  obtain ⟨before, rest, hsplit⟩ := List.append_of_mem hampersand
  exact ⟨htags _ _ rfl, fun c hc => (hbetween c hc).1, before, rest, hsplit,
    hentities before rest hsplit⟩

end Page
end OperandSearch

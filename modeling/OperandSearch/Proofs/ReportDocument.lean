import OperandSearch.Proofs.DocumentPrinting
import OperandSearch.Proofs.Immediate
import OperandSearch.Report

/-!
# What the document of a report says

The document of a report has the number of the finds, the finds, and the value.  Names and texts
stand in it as they are, and words are written in hexadecimal, in the notation in which an analyst
may type them.  So the reader of immediates gives back each address, and the value
(`parse_word`).

What a document says is stated without the way it was made (`Describes`): whoever reads the texts
in it, and parses its words, gets a report.  A document says so of one report at most, and together
with the reader of documents this means that neither layout loses anything.
-/

namespace OperandSearch

/-- **A word that is written is read back**, as an immediate. -/
theorem Immediate.parse_word (v : UInt64) : Immediate.parse (Numeral.word v) = .ok v := by
  have hmark : "0x".toList = ['0', 'x'] := rfl
  have htext : (Numeral.word v).toList = [] ++ ['0', 'x'] ++ Nat.toDigits 16 v.toNat := by
    simp [Numeral.word, Numeral.hex, hmark]
  rw [Immediate.parse, htext]
  exact parseChars_toDigits (r := .hexadecimal) .absent .lower (stores_toNat v)

namespace Report

/-- A document says where a find is and what it is. -/
inductive DescribesFind (found : Match) : Document → Prop
  | intro {address : String} (haddress : Immediate.parse address = .ok found.address) :
      DescribesFind found
        (.object [("address", .text address), ("function", .text found.function),
          ("instruction", .text found.instruction)])

/-- A document says what was looked for, and what was found, in order. -/
inductive Describes (report : Report) : Document → Prop
  | intro {count : ℕ} {items : List Document} {value : String}
      (hcount : count = report.results.length)
      (hitems : List.Forall₂ DescribesFind report.results items)
      (hvalue : Immediate.parse value = .ok report.value) :
      Describes report
        (.object [("count", .number count), ("results", .list items), ("value", .text value)])

theorem describesFind_findDocument (found : Match) : DescribesFind found (findDocument found) :=
  .intro (Immediate.parse_word found.address)

/-- **The document of a report says what the report is.** -/
theorem describes_document (report : Report) : Describes report report.document := by
  refine .intro rfl ?_ (Immediate.parse_word report.value)
  rw [List.forall₂_map_right_iff, List.forall₂_same]
  exact fun found _ => describesFind_findDocument found

theorem DescribesFind.unique {found other : Match} {d : Document} (h : DescribesFind found d)
    (hother : DescribesFind other d) : other = found := by
  obtain ⟨address, function, instruction⟩ := found
  obtain ⟨otherAddress, otherFunction, otherInstruction⟩ := other
  cases h with
  | intro haddress =>
    cases hother with
    | intro hother =>
      cases haddress.symm.trans hother
      rfl

/-- **A document is about one report at most.** -/
theorem Describes.unique {report other : Report} {d : Document} (h : Describes report d)
    (hother : Describes other d) : other = report := by
  obtain ⟨v, results⟩ := report
  obtain ⟨w, others⟩ := other
  cases h with
  | intro hcount hitems hvalue =>
    cases hother with
    | intro hcount' hitems' hvalue' =>
      cases hvalue.symm.trans hvalue'
      have hresults : others = results :=
        List.left_unique_forall₂' (fun _ _ _ h h' => h'.unique h) hitems' hitems
      rw [hresults]

/-- **The document of a report loses nothing**, in either layout.  Without space and with one item
or field a line it is a way to write the document of the report and no other document.  Both are
read, as this document.  What it says is the number of the finds, each find in order, with its
function and its instruction as they are, and words that parse to the addresses and to the value:
it says so of this report and of no other. -/
theorem document_lossless (report : Report) :
    (∀ d : Document, d.IsWritten report.document.compact ↔ d = report.document) ∧
      (∀ d : Document, d.IsWritten report.document.pretty ↔ d = report.document) ∧
      Document.read? report.document.compact = some report.document ∧
      Document.read? report.document.pretty = some report.document ∧
      ∀ other : Report, Describes other report.document ↔ other = report := by
  have hcompact := Document.read?_eq_some_iff.mpr (Document.isWritten_compact report.document)
  have hpretty := Document.read?_eq_some_iff.mpr (Document.isWritten_pretty report.document)
  refine ⟨fun d => ?_, fun d => ?_, hcompact, hpretty, fun other => ?_⟩
  · rw [← Document.read?_eq_some_iff, hcompact, Option.some_inj, eq_comm]
  · rw [← Document.read?_eq_some_iff, hpretty, Option.some_inj, eq_comm]
  · constructor
    · exact (describes_document report).unique
    · rintro rfl
      exact describes_document other

end Report
end OperandSearch

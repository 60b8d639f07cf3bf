import OperandSearch.Command.Search
import OperandSearch.Console.Dialogs
import OperandSearch.Console.Sink
import OperandSearch.Console.World
import OperandSearch.Proofs.Literal
import OperandSearch.Proofs.Loading

/-!
# What a search finds

Between the text of an operand and a find stand the lexer, the reader of literals, the loader
and the filter over the listing.  `Mentions` says what they come to: one of the lexemes of the
operands denotes an integer that the value stores.  The tokens are not part of that statement,
and neither are the ranges of the sections, which only tell numbers from possible addresses.

A search of all numbers then keeps, of the instructions of every routine, those that mention
the value (`literalFinds`).  It is a filter over the instructions, so an instruction is kept
once however often it mentions the value, and in its place.
-/

namespace OperandSearch

open Lexeme (Denotes)
open Immediate (Stores)

/-- The operands of an instruction mention a value: one of their lexemes denotes an integer
that the value stores. -/
def Mentions (operands : String) (v : UInt64) : Prop :=
  ∃ l ∈ Lexeme.split operands.toList, ∃ n, Denotes l.text n ∧ Stores v n

/-! ## One instruction -/

/-- The token of the mnemonic never takes part in a search. -/
theorem Policy.admits_ofInstruction {policy : Policy} {v : UInt64} {ranges : List AddressRange}
    {mnemonic operands : String} :
    policy.admits v (Token.ofInstruction ranges mnemonic operands) =
      policy.admits v (Token.ofOperands ranges operands) := by
  cases policy <;> rfl

/-- **Which instructions are found.**  Among all numbers a value is found in exactly those
operands that mention it. -/
theorem admits_immediates_iff {ranges : List AddressRange} {mnemonic operands : String}
    {v : UInt64} :
    Policy.immediates.admits v (Token.ofInstruction ranges mnemonic operands) = true ↔
      Mentions operands v := by
  rw [Policy.admits_ofInstruction, Policy.admits, List.any_eq_true, Token.ofOperands]
  constructor
  · rintro ⟨token, htoken, hv⟩
    obtain ⟨l, hl, rfl⟩ := List.mem_map.mp htoken
    rw [Bool.and_eq_true, beq_iff_eq] at hv
    exact ⟨l, hl, (Token.numeric_ofLexeme_iff hl).mp hv⟩
  · rintro ⟨l, hl, hn⟩
    refine ⟨_, List.mem_map_of_mem hl, ?_⟩
    rw [Bool.and_eq_true, beq_iff_eq]
    exact (Token.numeric_ofLexeme_iff hl).mpr hn

instance (operands : String) (v : UInt64) : Decidable (Mentions operands v) :=
  decidable_of_iff (Policy.immediates.admits v (Token.ofInstruction [] "" operands) = true)
    admits_immediates_iff

/-! ## All instructions -/

/-- The finds of a search of all numbers: of the instructions of every routine, those whose
operands mention the value. -/
def literalFinds (mapped : List AddressRange) (v : UInt64) (routines : List Binary.Routine) :
    List Match :=
  routines.flatMap fun r =>
    (r.body.filter fun i => Mentions i.operands v).map fun i =>
      { address := i.address
        function := r.symbol.name
        instruction := Token.line (Token.ofInstruction mapped i.mnemonic i.operands) }

theorem inFunction_toFunction (policy : Policy) (v : UInt64) (mapped : List AddressRange)
    (r : Binary.Routine) :
    Match.inFunction policy v (r.toFunction mapped) =
      (r.body.filter fun i =>
        policy.admits v (Token.ofInstruction mapped i.mnemonic i.operands)).map fun i =>
        { address := i.address
          function := r.symbol.name
          instruction := Token.line (Token.ofInstruction mapped i.mnemonic i.operands) } := by
  rw [Match.inFunction, Binary.Routine.toFunction, Binary.toFunction, List.filter_map,
    List.map_map]
  rfl

theorem lookup_immediates (v : UInt64) (mapped : List AddressRange)
    (routines : List Binary.Routine) :
    Match.lookup .immediates v (routines.map (·.toFunction mapped)) =
      literalFinds mapped v routines := by
  rw [Match.lookup, literalFinds, List.flatMap_map]
  refine List.flatMap_congr fun r _ => ?_
  rw [inFunction_toFunction]
  congr 1
  refine List.filter_congr fun i _ => ?_
  rw [Bool.eq_iff_iff, admits_immediates_iff, decide_eq_true_iff]

namespace Match

/-- The instructions that a search finds, each with the routine it belongs to. -/
def found (policy : Policy) (v : UInt64) (mapped : List AddressRange)
    (routines : List Binary.Routine) : List (Binary.Routine × Disassembled) :=
  routines.flatMap fun r =>
    (r.body.filter fun i =>
      policy.admits v (Token.ofInstruction mapped i.mnemonic i.operands)).map fun i => (r, i)

/-- The find that an instruction of a routine makes. -/
def ofFound (mapped : List AddressRange) (p : Binary.Routine × Disassembled) : Match where
  address := p.2.address
  function := p.1.symbol.name
  instruction := Token.line (Token.ofInstruction mapped p.2.mnemonic p.2.operands)

/-- Which instructions a search finds. -/
theorem mem_found_iff {policy : Policy} {v : UInt64} {mapped : List AddressRange}
    {routines : List Binary.Routine} {r : Binary.Routine} {i : Disassembled} :
    (r, i) ∈ found policy v mapped routines ↔ r ∈ routines ∧ i ∈ r.body ∧
      policy.admits v (Token.ofInstruction mapped i.mnemonic i.operands) = true := by
  simp only [found, List.mem_flatMap, List.mem_map, List.mem_filter, Prod.mk.injEq]
  constructor
  · rintro ⟨_, hr, _, ⟨hi, hadmits⟩, rfl, rfl⟩
    exact ⟨hr, hi, hadmits⟩
  · rintro ⟨hr, hi, hadmits⟩
    exact ⟨r, hr, i, ⟨hi, hadmits⟩, rfl, rfl⟩

theorem lookup_eq_map_found (policy : Policy) (v : UInt64) (mapped : List AddressRange)
    (routines : List Binary.Routine) :
    lookup policy v (routines.map (·.toFunction mapped)) =
      (found policy v mapped routines).map (ofFound mapped) := by
  rw [lookup, found, List.flatMap_map, List.map_flatMap]
  refine List.flatMap_congr fun r _ => ?_
  rw [inFunction_toFunction, List.map_map]
  rfl

end Match

/-! ## The command -/

namespace SearchCommand

variable {σ : Type} {journal : Journal (StateM σ)}

/-- What the command does with a report: the search is reported, and the report shown. -/
def present {m : Type → Type} [Monad m] (journal : Journal m) (view : View m) (report : Report) :
    m (Except Failure Unit) := do
  journal (scanned view.functions report)
  journal (counted report)
  view.showReport report

/-- A command that found something presents it, and then returns it. -/
theorem run_of_found {dialogs : Dialogs (StateM σ)} {policy : Policy} {view : View (StateM σ)}
    {answer : Option String} {report : Report} {s s₁ s₂ : σ}
    (hask : (dialogs.ask prompt name).run s = (answer, s₁))
    (hfound : outcome policy view.functions answer = .found report)
    (hshow : (present journal view report).run s₁ = (.ok (), s₂)) :
    (run journal dialogs policy view).run s = (.ok (some report), s₂) := by
  have hanswer : (dialogs.ask prompt name).run s = pure (answer, s₁) := hask
  have hpresent : (run journal dialogs policy view).run s =
      (present journal view report >>= fun shown =>
        pure (shown.map fun _ => some report)).run s₁ := by
    rw [run, StateT.run_bind, hanswer, pure_bind]
    simp only [hfound, present, bind_assoc]
    refine congrArg (StateT.run · s₁)
      (bind_congr fun _ => bind_congr fun _ => bind_congr fun shown => ?_)
    cases shown with
    | ok _ => rfl
    | error failure => rfl
  rw [hpresent, StateT.run_bind, hshow]
  rfl

/-- **A search over a loaded binary.**  The listing has the functions of the routines, in their
order.  If an answer is a value and the report can be shown, the finds in the report are those
instructions of the routines that mention the value, each of them once and in its place. -/
theorem run_eq_literalFinds {loader : Loader} {file : Object.File} {b : Binary} {sink : Sink}
    {terminal : Terminal (StateM σ)} {dialogs : Dialogs (StateM σ)} {answer : String}
    {v : UInt64} {s s₁ s₂ : σ} (hload : (Binary.ofFileWith loader file).2 = .ok b)
    (hask : (dialogs.ask prompt name).run s = (some answer, s₁))
    (hparse : Immediate.parse answer = .ok v)
    (hshow : (present journal (sink.view terminal journal b.functions)
      ⟨v, Match.lookup .immediates v b.functions⟩).run s₁ = (.ok (), s₂)) :
    b.functions = (Binary.routines loader file).map (·.toFunction b.mapped) ∧
      (run journal dialogs .immediates (sink.view terminal journal b.functions)).run s =
        (.ok (some ⟨v, literalFinds b.mapped v (Binary.routines loader file)⟩), s₂) := by
  obtain ⟨image, d, hloaded⟩ := Binary.exists_isLoaded hload
  have hfunctions := hloaded.functions_eq
  have hfinds : Match.lookup .immediates v b.functions =
      literalFinds b.mapped v (Binary.routines loader file) := by
    rw [hfunctions, lookup_immediates]
  have hfound : outcome .immediates (sink.view terminal journal b.functions).functions
      (some answer) = .found ⟨v, Match.lookup .immediates v b.functions⟩ := by
    simp only [outcome, Immediate.ofAnswer, hparse, Sink.view]
  refine ⟨hfunctions, ?_⟩
  rw [← hfinds]
  exact run_of_found hask hfound hshow

/-- An object with one function, which pushes sixteen and returns. -/
def pushObject : Object.File :=
  Binary.objectFile 0x14c [{ code := [0x6a, 0x10, 0xc3], symbols := [("entry", 3)] }]

/-- What is listed of the object. -/
def pushBinary : Binary where
  architecture := .i386
  mapped := []
  functions := [{
    name := "entry"
    start := 0
    instructions := [
      { address := 0, tokens := [⟨.instruction, "push", 0⟩, ⟨.integer, "0x10", 16⟩] },
      { address := 2, tokens := [⟨.instruction, "ret", 0⟩] }] }]

set_option maxRecDepth 10000 in
/-- The answer `+16` finds the push in the object. -/
theorem run_pushObject :
    (Binary.ofFileWith .builtIn pushObject).2 = .ok pushBinary ∧
      ((run (fun _ => pure ()) (Console.dialogs World.terminal (some "+16")) .immediates
        (Sink.view {} World.terminal (fun _ => pure ()) pushBinary.functions)).run {}).1 =
          .ok (some ⟨16, [⟨0, "entry", "push 0x10"⟩]⟩) := by
  have hload : (Binary.ofFileWith .builtIn pushObject).2 = .ok pushBinary := by decide +kernel
  have hparse : Immediate.parse "+16" = .ok 16 := by decide +kernel
  have hrun : (run (fun _ => pure ()) (Console.dialogs World.terminal (some "+16")) .immediates
      (Sink.view {} World.terminal (fun _ => pure ()) pushBinary.functions)).run {} =
        (.ok (some ⟨16, literalFinds [] 16 (Binary.routines .builtIn pushObject)⟩), {}) :=
    (run_eq_literalFinds hload rfl hparse rfl).2
  refine ⟨hload, ?_⟩
  rw [hrun]
  decide +kernel

end SearchCommand
end OperandSearch

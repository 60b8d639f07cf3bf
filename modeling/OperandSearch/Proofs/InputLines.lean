import Mathlib.Data.List.SplitBy
import OperandSearch.Proofs.Blank
import OperandSearch.Proofs.SearchRun
import OperandSearch.Proofs.TextBytes

/-!
# Lines of input, and the questions they answer

The input of a run is a sequence of bytes, and it is cut into lines before anything is known about
the text in them: a line ends with a line feed, which is a part of it, and only the last one may
have none (`Console.lines`, `Console.IsLines`).  A line feed is never a part of the encoding of
another character, so this cuts no text in two.

A question without an answer beforehand takes one whole line, whatever is in it.  So the questions
that are put and the lines of the input go along together, and which line a question gets can be
told from the number of questions before it that were put.  `askEach_answers` says this for every
sequence of questions.
-/

namespace OperandSearch

/-! ## The byte that ends a line -/

namespace Bytes

/-- The byte that ends a line. -/
def feed : UInt8 := 0x0a

theorem feed_notMem_ofText {text : String} (h : '\n' ∉ text.toList) : feed ∉ ofText text := by
  rw [ofText_eq_flatMap, List.mem_flatMap]
  rintro ⟨c, hc, hmem⟩
  rcases toNat_of_mem_utf8EncodeChar hmem with heq | hhigh
  · have hfeed : c = '\n' := Char.ext (UInt32.toNat_inj.mp heq.symm)
    exact h (hfeed ▸ hc)
  · exact absurd hhigh (by decide)

end Bytes

open Bytes (feed)

/-! ## Lines -/

/-- A chain whose relation is about the first of two neighbours is about all members but the
last. -/
theorem isChain_iff_forall_mem_dropLast {α : Type} {p : α → Prop} {l : List α} :
    (l.IsChain fun a _ => p a) ↔ ∀ a ∈ l.dropLast, p a := by
  induction l with
  | nil => simp
  | cons a l ih =>
    cases l with
    | nil => simp
    | cons b l => rw [List.isChain_cons_cons, List.dropLast_cons_cons, List.forall_mem_cons, ih]

namespace Console

/-- The lines of an input, each with the line feed that ends it. -/
def lines (input : List UInt8) : List (List UInt8) :=
  input.splitBy fun b _ => b != feed

/-- What makes lines the lines of an input: they are not empty and make up the input, a line feed
stands nowhere but at the end of a line, and it stands there in all lines but the last. -/
structure IsLines (input : List UInt8) (lines : List (List UInt8)) : Prop where
  flatten_eq : lines.flatten = input
  ne_nil : ∀ line ∈ lines, line ≠ []
  feed_notMem : ∀ line ∈ lines, feed ∉ line.dropLast
  getLast?_eq : ∀ line ∈ lines.dropLast, line.getLast? = some feed

/-- Where a line can go on: nowhere but at its end stands a line feed. -/
theorem isChain_iff_feed_notMem {line : List UInt8} :
    (line.IsChain fun b _ => (b != feed) = true) ↔ feed ∉ line.dropLast := by
  rw [isChain_iff_forall_mem_dropLast (p := fun b => (b != feed) = true)]
  simp only [bne_iff_ne]
  exact ⟨fun h hmem => h feed hmem rfl, fun h b hb heq => h (heq ▸ hb)⟩

theorem isLines_lines (input : List UInt8) : IsLines input (lines input) where
  flatten_eq := List.flatten_splitBy ..
  ne_nil _ hline := List.ne_nil_of_mem_splitBy hline
  feed_notMem _ hline := isChain_iff_feed_notMem.mp (List.isChain_of_mem_splitBy hline)
  getLast?_eq := by
    refine isChain_iff_forall_mem_dropLast.mp
      ((List.isChain_getLast_head_splitBy _ input).imp fun line _ hends => ?_)
    obtain ⟨hline, -, hlast⟩ := hends
    rw [List.getLast?_eq_getLast_of_ne_nil hline, Option.some_inj]
    simpa using hlast

/-- A line is the first if it ends with its line feed, or if nothing stands behind it. -/
theorem lines_append {line rest : List UInt8} (hne : line ≠ []) (hfeed : feed ∉ line.dropLast)
    (hend : rest = [] ∨ line.getLast? = some feed) : lines (line ++ rest) = line :: lines rest := by
  have hsplit : ∀ b ∈ line.getLast?, ∀ c ∈ rest.head?, (b != feed) = false := by
    rcases hend with rfl | hlast
    · simp
    · simp [hlast]
  rw [lines, List.splitBy_append hsplit,
    List.splitBy_of_isChain hne (isChain_iff_feed_notMem.mpr hfeed)]
  rfl

theorem splitLine_append_feed {front : List UInt8} (h : feed ∉ front) (rest : List UInt8) :
    World.splitLine (front ++ feed :: rest) = (front ++ [feed], rest) := by
  induction front with
  | nil => rfl
  | cons b front ih =>
    rw [List.mem_cons, not_or] at h
    have hb : ¬b = 0x0a := Ne.symm h.1
    rw [List.cons_append, World.splitLine, if_neg hb, ih h.2]
    rfl

theorem splitLine_of_feed_notMem {input : List UInt8} (h : feed ∉ input) :
    World.splitLine input = (input, []) := by
  induction input with
  | nil => rfl
  | cons b input ih =>
    rw [List.mem_cons, not_or] at h
    have hb : ¬b = 0x0a := Ne.symm h.1
    rw [World.splitLine, if_neg hb, ih h.2]

theorem nextLine_append_feed {front : List UInt8} (h : feed ∉ front) (rest : List UInt8) :
    Scene.nextLine (front ++ feed :: rest) = (some (front ++ [feed]), rest) := by
  have hsplit := splitLine_append_feed h rest
  cases front with
  | nil => rfl
  | cons b front =>
    rw [List.cons_append] at hsplit ⊢
    rw [Scene.nextLine, hsplit]

/-- **One line is read, and the others are left.** -/
theorem lines_nextLine (input : List UInt8) :
    (Scene.nextLine input).1 = (lines input).head? ∧
      lines (Scene.nextLine input).2 = (lines input).tail := by
  by_cases hfeed : feed ∈ input
  · obtain ⟨front, rest, rfl, hfront⟩ := List.eq_append_cons_of_mem hfeed
    have hlines : lines (front ++ feed :: rest) = (front ++ [feed]) :: lines rest := by
      rw [List.append_cons]
      exact lines_append (by simp) (by simpa using hfront) (.inr (by simp))
    rw [nextLine_append_feed hfront, hlines]
    exact ⟨rfl, rfl⟩
  · cases input with
    | nil => exact ⟨rfl, rfl⟩
    | cons b input =>
      have hlines := lines_append (List.cons_ne_nil b input)
        (fun hmem => hfeed (List.dropLast_subset _ hmem)) (.inl rfl)
      rw [List.append_nil] at hlines
      rw [Scene.nextLine, splitLine_of_feed_notMem hfeed, hlines]
      exact ⟨rfl, rfl⟩

/-! ## Answers -/

/-- What a line answers, if there is one.  It gives an answer if it is a text, which loses the
carriage returns and line feeds at its end. -/
inductive Answers : Option (List UInt8) → Option String → Prop
  /-- The input is at its end. -/
  | ended : Answers none none
  | unreadable {line : List UInt8} (h : ∀ text, line ≠ Bytes.ofText text) :
      Answers (some line) none
  | read {answer ending : String} (hending : ∀ c ∈ ending.toList, c = '\r' ∨ c = '\n')
      (hanswer : ∀ c ∈ answer.toList.getLast?, c ≠ '\r' ∧ c ≠ '\n') :
      Answers (some (Bytes.ofText (answer ++ ending))) (some answer)

theorem answers_iff {line? : Option (List UInt8)} {answer? : Option String} :
    Answers line? answer? ↔ line?.bind answerOfLine = answer? := by
  constructor
  · rintro (_ | h | ⟨hending, hanswer⟩)
    · rfl
    · rw [Option.bind_some, answerOfLine, Bytes.text?_eq_none_iff.mpr h, Option.map_none]
    · rw [Option.bind_some, answerOfLine, Bytes.text?_eq_some_iff.mpr rfl, Option.map_some,
        String.toList_append, Text.dropTrailing_append, String.ofList_toList]
      · simpa using hending
      · simpa using hanswer
  · rintro rfl
    cases line? with
    | none => exact .ended
    | some line =>
      rw [Option.bind_some, answerOfLine]
      cases htext : Bytes.text? line with
      | none => exact .unreadable (Bytes.text?_eq_none_iff.mp htext)
      | some text =>
        obtain ⟨ending, hsplit, hending, hanswer⟩ :=
          Text.exists_dropTrailing_append (fun c => c == '\r' || c == '\n') text.toList
        have hread := @Answers.read
          (String.ofList (Text.dropTrailing (fun c => c == '\r' || c == '\n') text.toList))
          (String.ofList ending) (by simpa using hending) (by simpa using hanswer)
        rw [← String.ofList_append, ← hsplit, String.ofList_toList] at hread
        rw [Bytes.text?_eq_some_iff.mp htext]
        exact hread

/-! ## Questions one after the other -/

/-- A question, with the answer that was given beforehand, if one was. -/
structure Question where
  preset : Option String
  prompt : String
  title : String

namespace Question

/-- How many of some questions are put, because no answer was given beforehand. -/
def countPut (questions : List Question) : ℕ :=
  questions.countP fun question => question.preset.isNone

/-- What the answer to a question is if it gets a line of input, or the end of it, when it is
put. -/
def HasAnswer (question : Question) (line? : Option (List UInt8)) (answer? : Option String) :
    Prop :=
  match question.preset with
  | some given => answer? = some given
  | none => Answers line? answer?

end Question

/-- **A question that is put gets the next line**, which is used up.  The other lines are left. -/
theorem hasAnswer_answer (question : Question) (input : List UInt8) :
    question.HasAnswer (lines input)[0]? (answer question.preset input) ∧
      lines (unread question.preset input) =
        (lines input).drop (Question.countPut [question]) := by
  obtain ⟨_ | given, prompt, title⟩ := question
  · obtain ⟨hline, hrest⟩ := lines_nextLine input
    refine ⟨answers_iff.mpr ?_, ?_⟩
    · rw [← List.head?_eq_getElem?, ← hline]
      rfl
    · rw [unread, hrest, ← List.drop_one]
      rfl
  · exact ⟨rfl, rfl⟩

/-- Asks one question after another. -/
def askEach {m : Type → Type} [Monad m] (terminal : Terminal m) :
    List Question → m (List (Option String))
  | [] => return []
  | question :: questions => do
    let answer ← (dialogs terminal question.preset).ask question.prompt question.title
    let answers ← askEach terminal questions
    return answer :: answers

variable {σ φ : Type} {terminal : Terminal (StateM σ)} {disk : Disk φ} {see : σ → Scene φ}

/-- The answers to some questions, each told from the line with the number of the question. -/
theorem askEach_leads (h : terminal.Faithful disk see) (questions : List Question) (s : σ) :
    ∃ answers after, Leads see (askEach terminal questions) s answers after ∧
      answers.length = questions.length ∧
      (∀ (i : ℕ) (question : Question) (answer? : Option String),
        questions[i]? = some question → answers[i]? = some answer? →
          question.HasAnswer (lines (see s).input)[Question.countPut (questions.take i)]? answer?) ∧
      lines after.input = (lines (see s).input).drop (Question.countPut questions) ∧
      after.output = (see s).output ∧ after.files = (see s).files := by
  induction questions generalizing s with
  | nil => exact ⟨[], see s, .pure rfl, rfl, nofun, rfl, rfl, rfl⟩
  | cons question questions ih =>
    obtain ⟨s₁, hask, hs₁⟩ := ask_leads h question.preset question.prompt question.title s
    obtain ⟨answers, after, hrest, hlength, hanswers, hinput, houtput, hfiles⟩ := ih s₁
    obtain ⟨hfirst, hleft⟩ := hasAnswer_answer question (see s).input
    have hnext :
        lines (see s₁).input = (lines (see s).input).drop (Question.countPut [question]) := by
      rw [hs₁]
      exact hleft
    have hcount (front : List Question) : Question.countPut (question :: front) =
        Question.countPut [question] + Question.countPut front := by
      rw [Question.countPut, ← List.singleton_append, List.countP_append]
      rfl
    refine ⟨answer question.preset (see s).input :: answers, after, .of_run hask ?_, ?_, ?_, ?_,
      houtput.trans (by rw [hs₁]; rfl), hfiles.trans (by rw [hs₁]; rfl)⟩
    · exact hrest.bind fun s₂ hs₂ => .pure hs₂
    · rw [List.length_cons, List.length_cons, hlength]
    · intro i other answer? hother hanswer
      cases i with
      | zero =>
        cases hother
        cases hanswer
        exact hfirst
      | succ i =>
        have hgiven := hanswers i other answer? hother hanswer
        rw [hnext, List.getElem?_drop, ← hcount] at hgiven
        exact hgiven
    · rw [hinput, hnext, List.drop_drop, ← hcount]

/-- **Each question that is put gets its own line.**  Of several questions, one with an answer
beforehand gets this answer and takes no input.  The others take one line each, in order, whatever
is in the lines: an answer depends on the line with the number of the question, counted among those
that are put, and on nothing else.  Once a question has met the end of the input, no later question
that is put gets an answer. -/
theorem askEach_answers (h : terminal.Faithful disk see) (questions : List Question) (s : σ) :
    ∃ answers after, Leads see (askEach terminal questions) s answers after ∧
      IsLines (see s).input (lines (see s).input) ∧
      answers.length = questions.length ∧
      (∀ (i : ℕ) (question : Question) (answer? : Option String),
        questions[i]? = some question → answers[i]? = some answer? →
          question.HasAnswer (lines (see s).input)[Question.countPut (questions.take i)]? answer?) ∧
      (∀ (i j : ℕ) (later : Question) (answer? : Option String), i ≤ j →
        (lines (see s).input)[Question.countPut (questions.take i)]? = none →
          questions[j]? = some later → later.preset = none → answers[j]? = some answer? →
            answer? = none) ∧
      after.input = ((lines (see s).input).drop (Question.countPut questions)).flatten ∧
      after.output = (see s).output ∧ after.files = (see s).files := by
  obtain ⟨answers, after, hleads, hlength, hanswers, hinput, houtput, hfiles⟩ :=
    askEach_leads h questions s
  refine ⟨answers, after, hleads, isLines_lines _, hlength, hanswers, ?_, ?_, houtput, hfiles⟩
  · intro i j later answer? hij hend hlater hput hanswer
    have hgiven := hanswers j later answer? hlater hanswer
    have hmore : Question.countPut (questions.take i) ≤ Question.countPut (questions.take j) :=
      (List.take_sublist_take_left hij).countP_le
    have hend' : (lines (see s).input)[Question.countPut (questions.take j)]? = none :=
      List.getElem?_eq_none ((List.getElem?_eq_none_iff.mp hend).trans hmore)
    rw [Question.HasAnswer, hput, hend'] at hgiven
    cases hgiven
    rfl
  · rw [← hinput, (isLines_lines after.input).flatten_eq]

/-- An input of three lines, the second of which is no text, and the last of which is not ended. -/
def mixedWorld : World where
  input := Bytes.ofText "16\r\r\n" ++ [0xff, feed] ++ Bytes.ofText " +1"

/-- Five questions, the second of which has an answer beforehand. -/
def mixedQuestions : List Question :=
  [none, some "0x10\n", none, none, none].map fun preset => ⟨preset, "Value", "Search"⟩

/-- The answers to the five questions. -/
theorem askEach_answers_mixedWorld :
    ∃ after, Leads World.scene (askEach World.terminal mixedQuestions) mixedWorld
        [some "16", some "0x10\n", none, some " +1", none] after ∧ after.input = [] := by
  have hanswers : ((askEach World.terminal mixedQuestions).run mixedWorld).1 =
      [some "16", some "0x10\n", none, some " +1", none] := by decide +kernel
  have hlines : lines mixedWorld.input =
      [Bytes.ofText "16\r\r\n", [0xff, feed], Bytes.ofText " +1"] := by decide +kernel
  obtain ⟨answers, after, ⟨s, hrun, hsee⟩, -, -, -, -, hinput, -⟩ :=
    askEach_answers World.faithful_terminal mixedQuestions mixedWorld
  rw [hrun] at hanswers
  subst hanswers
  exact ⟨after, ⟨s, hrun, hsee⟩, hinput.trans (by rw [World.scene, hlines]; rfl)⟩

end Console
end OperandSearch

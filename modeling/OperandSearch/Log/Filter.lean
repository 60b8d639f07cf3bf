import OperandSearch.Log
import OperandSearch.Text.Pattern.Reader

/-!
# Which records are shown

A filter is a list of rules.  A rule names the start of a source path and says down
to which level the records of such sources are shown; the rule with the empty path
applies to all.  Of the rules that apply to a source the one with the longest path
decides, and where none applies nothing is shown.

A filter is written as a list of parts between commas: `path=level`, a path alone,
which shows everything, or a level alone, which is the rule for all.  Behind a slash may
stand a pattern; then only records whose message holds it are shown.  A text with a part
that is none of these writes no filter at all.
-/

namespace OperandSearch

/-- Down to which level records are shown. -/
inductive Threshold where
  | nothing
  | upTo (level : LogLevel)
  deriving DecidableEq, Repr

namespace Threshold

/-- Whether a record of a level is shown. -/
def admits : Threshold → LogLevel → Bool
  | nothing, _ => false
  | upTo limit, level => level.rank ≤ limit.rank

/-- The threshold a word names, in any case.  No record is below `debug`, so to
trace is to show them all. -/
def ofWord? (word : String) : Option Threshold :=
  match word.map Char.toLower with
  | "off" => some nothing
  | "error" => some (upTo .error)
  | "warn" => some (upTo .warn)
  | "info" => some (upTo .info)
  | "debug" => some (upTo .debug)
  | "trace" => some (upTo .debug)
  | _ => none

end Threshold

/-- One rule of a filter. -/
structure LogRule where
  path : String
  threshold : Threshold
  deriving DecidableEq, Repr

/-- A filter: rules, the longest path first, and what a message must hold. -/
structure LogFilter where
  rules : List LogRule
  pattern? : Option Text.Pattern := none
  deriving DecidableEq, Repr

namespace LogFilter

/-- Whether the rules show a record. -/
def admits (filter : LogFilter) (record : LogRecord) : Bool :=
  match filter.rules.find? fun rule => rule.path.toList.isPrefixOf record.source.path.toList with
  | some rule => rule.threshold.admits record.level
  | none => false

/-- Whether a filter shows a record. -/
def shows (filter : LogFilter) (record : LogRecord) : Bool :=
  filter.admits record && filter.pattern?.all fun pattern => pattern.occursIn record.message.toList

/-- The rules in the order in which they are asked: the longest path first, and
those of one length as they were written. -/
def sorted (rules : List LogRule) : List LogRule :=
  rules.mergeSort fun a b => b.path.utf8ByteSize ≤ a.path.utf8ByteSize

/-- The filter that shows the records of every source down to a level. -/
def level (limit : LogLevel) : LogFilter where
  rules := [{ path := "", threshold := .upTo limit }]

/-- Whether a text is free of blanks. -/
def unbroken (s : String) : Bool :=
  !s.toList.any Text.isBlank

/-- The rule that one part of a written filter says. -/
def ruleOf? (part : String) : Option LogRule :=
  match (part.splitOn "=").map Text.trim with
  | [word] =>
    if unbroken word then
      match Threshold.ofWord? word with
      | some threshold => some { path := "", threshold }
      | none => some { path := word, threshold := .upTo .debug }
    else none
  | [path, word] =>
    if unbroken path then
      if word = "" then some { path, threshold := .upTo .debug }
      else (Threshold.ofWord? word).map fun threshold => { path, threshold }
    else none
  | _ => none

/-- The rules that the parts between commas say.  Empty parts say nothing. -/
def rules? (text : String) : Option (List LogRule) :=
  (((text.splitOn ",").map Text.trim).filter (· ≠ "")).mapM ruleOf?

/-- The filter a text writes. -/
def ofText? (text : String) : Option LogFilter :=
  match text.splitOn "/" with
  | [rules] => (rules? rules).map fun rules => { rules := sorted rules }
  | [rules, pattern] => do
    let rules ← rules? rules
    let pattern ← Text.Pattern.ofText? pattern
    return { rules := sorted rules, pattern? := some pattern }
  | _ => none

end LogFilter
end OperandSearch

import LexFront.Config.Basic
import LexFront.Config.Error
import LexFront.Toml.Document

/-! A configuration as a document: the table `scanner` with the keys `number_mode` and
`report_unterminated`. Other keys are left alone, and a missing key has its default. -/
namespace LexFront

open Toml (Value Entries)

/-- The mode that a value stands for: its word, or a table with that word as its only key and
nothing under it. -/
def NumberMode.ofValue? : Value → Option NumberMode
  | .string w => ofWord? w
  | .table _ [(w, v)] => if v.isVacant then ofWord? w else none
  | _ => none

namespace ScanConfig

/-- The options with the given values, where there are any. -/
def ofFields? (numberMode reportUnterminated : Option Value) : Option ScanConfig := do
  let mode ← match numberMode with
    | none => some ScanConfig.default.numberMode
    | some v => NumberMode.ofValue? v
  let report ← match reportUnterminated with
    | none => some ScanConfig.default.reportUnterminated
    | some v => v.truth?
  return { numberMode := mode, reportUnterminated := report }

/-- The options that the value of `scanner` stands for. An array gives the fields by position; a
date or time has none of them. -/
def ofValue? : Value → Option ScanConfig
  | .table _ es => ofFields? (Entries.get? es "number_mode") (Entries.get? es "report_unterminated")
  | .array items => ofFields? items[0]? items[1]?
  | .tables items => ofFields? (items[0]?.map (.table .header)) (items[1]?.map (.table .header))
  | .dateTime _ => some .default
  | _ => none

/-- The options that a document's table stands for. -/
def ofEntries? (es : Entries) : Option ScanConfig :=
  match es.get? "scanner" with
  | none => some .default
  | some v => ofValue? v

/-- The options that a text stands for. -/
def ofToml (text : String) : Except ConfigError ScanConfig :=
  match (Toml.parse? text).bind ofEntries? with
  | some c => .ok c
  | none => .error .parse

/-- The options as a document. -/
def toToml (c : ScanConfig) : String :=
  "[scanner]\nnumber_mode = \"" ++ c.numberMode.word ++ "\"\nreport_unterminated = "
    ++ (if c.reportUnterminated then "true" else "false") ++ "\n"

end ScanConfig

end LexFront

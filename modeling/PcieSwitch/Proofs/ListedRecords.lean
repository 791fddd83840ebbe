import PcieSwitch.CommandLine.Action.Events
import PcieSwitch.Proofs.EventHeadings
import PcieSwitch.Proofs.Sessions

/-!
This module contains the text that tells one record of a listing of events: a line under the headings of its place, or an
object of a JSON array. The text is spelled out, so what is printed of a record can be seen without the printer.
-/

namespace PcieSwitch

namespace EventRecord

open Text

def headings (r : EventRecord) : List String :=
  let partition := match r.partition with
    | none => "Global Events:"
    | some partition => s!"Partition {partition} Events:"
  match r.port with
  | none => [partition]
  | some port => [if port = virtualEndpoint then "    Port VEP:" else s!"    Port {port}:", partition]

def IsLine (r : EventRecord) (line : String) : Prop :=
  ∃ blanks more,
    line = "\t" ++ r.event.driverName ++ String.ofList (List.replicate blanks ' ') ++ "\t" ++ toString r.count
      ++ String.ofList (List.replicate more ' ') ++ "\t" ++ r.event.description

def numberText : Option UInt32 → String
  | none => "null"
  | some n => toString n

def objectText (r : EventRecord) : String :=
  "\x7b\n    \"partition\": " ++ numberText r.partition ++ ",\n    \"port\": " ++ numberText r.port
    ++ ",\n    \"event\": \"" ++ r.event.name ++ "\",\n    \"count\": " ++ toString r.count ++ "\n  \x7d"

/--
What is printed tells this record, in the form that was asked for.
-/
def PrintedBy (r : EventRecord) (c : Context) (printed : List Bytes) : Prop :=
  ∃ text,
    printed.flatten = Bytes.ofString text
      ∧
    if c.json then
      ∃ before after, text = "[" ++ before ++ r.objectText ++ after ++ "]\n"
    else
      ∃ line, (r.headings, line) ∈ outline (linesOf text) ∧ r.IsLine line

theorem headings_eq (r : EventRecord) : r.headings = Report.headingsOf r := by
  unfold headings Report.headingsOf
  cases r.port <;> cases r.partition <;> rfl

theorem isLine_eventLine (r : EventRecord) : r.IsLine (Report.eventLine r) := by
  refine ⟨22 - r.event.driverName.length, 4 - (toString r.count).length, ?_⟩
  unfold Report.eventLine left
  simp only [String.append_assoc]

theorem render_toJson (r : EventRecord) : r.toJson.render 1 = r.objectText := by
  have hname : Json.quoted r.event.name = "\"" ++ r.event.name ++ "\"" := by
    cases r.event <;> decide +kernel
  have hnumber : ∀ n : Option UInt32, (Json.optional Json.word32 n).render 2 = numberText n := by
    intro n
    cases n <;> rfl
  have hcount : (Json.word32 r.count).render 2 = toString r.count := rfl
  have hindent : Json.indent 1 = "  " := by decide
  have hdeeper : Json.indent 2 = "    " := by decide
  have hkeys : ["partition", "port", "event", "count"].map Json.quoted
      = ["\"partition\"", "\"port\"", "\"event\"", "\"count\""] := by
    decide
  simp only [List.map_cons, List.map_nil, List.cons.injEq, and_true] at hkeys
  obtain ⟨hkey₁, hkey₂, hkey₃, hkey₄⟩ := hkeys
  -- the text between the numbers and the name is made of the same parts as that of any object
  have hpartition : "\x7b\n    \"partition\": " = "\x7b" ++ "\n" ++ "    " ++ "\"partition\"" ++ ": " := by decide
  have hport : ",\n    \"port\": " = ",\n" ++ "    " ++ "\"port\"" ++ ": " := by decide
  have hevent : ",\n    \"event\": \"" = ",\n" ++ "    " ++ "\"event\"" ++ ": " ++ "\"" := by decide
  have hlast : "\",\n    \"count\": " = "\"" ++ ",\n" ++ "    " ++ "\"count\"" ++ ": " := by decide
  have hend : "\n  \x7d" = "\n" ++ "  " ++ "\x7d" := by decide
  unfold toJson objectText
  rw [hpartition, hport, hevent, hlast, hend]
  simp only [Json.render, Json.renderFields, Json.block, List.isEmpty_cons, Bool.false_eq_true, if_false, List.map_cons,
    List.map_nil, hindent, hdeeper, hkey₁, hkey₂, hkey₃, hkey₄, hname, hnumber, hcount, String.intercalate_cons_cons,
    String.intercalate_singleton, String.append_assoc]

end EventRecord

theorem Text.exists_intercalate_eq (separator : String) {part : String} {parts : List String} (h : part ∈ parts)
    : ∃ before after, separator.intercalate parts = before ++ part ++ after := by
  induction parts with
  | nil => cases h
  | cons first rest ih =>
    by_cases hrest : rest = []
    . rw [hrest, List.mem_singleton] at h
      refine ⟨"", "", ?_⟩
      rw [hrest, String.intercalate_singleton, h, String.empty_append, String.append_empty]
    . rw [String.intercalate_cons_of_ne_nil hrest]
      rcases List.mem_cons.mp h with rfl | hlater
      . refine ⟨"", separator ++ separator.intercalate rest, ?_⟩
        rw [String.empty_append, String.append_assoc]
      . obtain ⟨before, after, heq⟩ := ih hlater
        refine ⟨first ++ separator ++ before, after, ?_⟩
        rw [heq]
        simp only [String.append_assoc]

theorem Json.mem_renderItems {item : Json} {items : List Json} (h : item ∈ items) (depth : Nat)
    : item.render depth ∈ renderItems depth items := by
  induction items with
  | nil => cases h
  | cons first rest ih =>
    unfold renderItems
    rcases List.mem_cons.mp h with rfl | hlater
    . exact List.mem_cons_self
    . exact List.mem_cons_of_mem _ (ih hlater)

theorem Json.exists_pretty_array_eq {item : Json} {items : List Json} (h : item ∈ items)
    : ∃ before after, (Json.array items).pretty = "[" ++ before ++ item.render 1 ++ after ++ "]" := by
  have hparts := Json.mem_renderItems h 1
  obtain ⟨before, after, heq⟩ := Text.exists_intercalate_eq ",\n" (List.mem_map_of_mem (f := (indent 1 ++ ·)) hparts)
  have hnonempty : (renderItems 1 items).isEmpty = false := by
    rw [List.isEmpty_eq_false_iff_exists_mem]
    exact ⟨_, hparts⟩
  refine ⟨"\n" ++ before ++ indent 1, after ++ "\n" ++ indent 0, ?_⟩
  change block "[" "]" 0 (renderItems 1 items) = _
  unfold block
  rw [hnonempty, if_neg Bool.false_ne_true, heq]
  simp only [String.append_assoc]

namespace EventRecord

open Text

theorem printedBy_pieces {c : Context} {records : List EventRecord}
    (hsorted : records.Pairwise fun r s => r.le s = true) {r : EventRecord} (hr : r ∈ records)
    : r.PrintedBy c (c.pieces (Json.list EventRecord.toJson records) (Report.eventLines records)) := by
  unfold PrintedBy Context.pieces
  cases c.json with
  | true =>
    refine ⟨_, Session.flatten_linePieces _, ?_⟩
    obtain ⟨before, after, heq⟩ := Json.exists_pretty_array_eq (List.mem_map_of_mem (f := toJson) hr)
    refine ⟨before, after, ?_⟩
    have hend : "]\n" = "]" ++ "\n" := by decide
    unfold Json.list
    rw [heq, render_toJson, hend]
    simp [lines, String.append_assoc]
  | false =>
    refine ⟨_, Session.flatten_linePieces _, Report.eventLine r, ?_, r.isLine_eventLine⟩
    have hports : records.Pairwise Report.PortsLast :=
      hsorted.imp fun hle => Report.portsLast_of_key_le (EventRecord.le_iff.mp hle)
    have hentry : (r.headings, Report.eventLine r) ∈ (Report.eventEntries none records).filter (depth ·.2 = 2) := by
      rw [Report.filter_records_eventEntries, headings_eq]
      exact List.mem_map_of_mem (f := fun r => (Report.headingsOf r, Report.eventLine r)) hr
    rw [Report.linesOf_eventLines, Report.outline_eventLines hports]
    exact List.mem_of_mem_filter hentry

end EventRecord
end PcieSwitch

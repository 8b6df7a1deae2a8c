import ChannelTuning.Log
import ChannelTuning.Proofs.Builder.Runs
import ChannelTuning.Proofs.Value.Literals
import ChannelTuning.Proofs.Value.Named

namespace ChannelTuning

open Text

def writtenField (entry : Field × Value) : List Char :=
  entry.1.name.toList ++ '=' :: entry.2.written

theorem Field.equals_not_mem_name (f : Field) : ∀ c ∈ f.name.toList, (c == '=') = false :=
  fun c member => beq_eq_false_iff_ne.mpr (f.isWord_name.ne_of_mem '=' rfl c member)

theorem writtenField_starts (entry : Field × Value) :
    ∃ c rest, writtenField entry = c :: rest ∧ c ≠ ')' :=
  entry.1.isWord_name.starts ')' rfl (by decide) _

theorem cutsOff_field (entry : Field × Value) : CutsOff writtenField entry := by
  intro other r s leftEnd rightEnd same
  simp only [writtenField, List.append_assoc, List.cons_append] at same
  obtain ⟨names, later⟩ := append_cut entry.1.equals_not_mem_name other.1.equals_not_mem_name
    (ends_cons rfl _) (ends_cons rfl _) same
  obtain ⟨values, rest⟩ := entry.2.cutsOff_written leftEnd rightEnd (List.cons.inj later).2
  exact ⟨Prod.ext (Field.name_injective (String.toList_injective names)) values, rest⟩

namespace Options

theorem toList_literal (o : Options) :
    o.literal.toList = "ClientOption(".toList ++
      (listed writtenField (Field.all.map fun f => (f, o.get f)) ++ [')']) := by
  have entryTexts : (o.entries.map fun entry => entry.1 ++ "=" ++ entry.2.literal) =
      (Field.all.map fun f => (f, o.get f)).map fun entry =>
        entry.1.name ++ "=" ++ entry.2.literal := by
    simp [entries]
  have entryText : (fun entry : Field × Value =>
      (entry.1.name ++ "=" ++ entry.2.literal).toList) = writtenField := by
    funext entry
    simp [writtenField, Value.written]
  rw [literal, entryTexts, String.toList_append, String.toList_append, toList_commaSeparated_map,
    entryText, List.append_assoc]
  rfl

theorem literal_injective {o p : Options} (same : o.literal = p.literal) : o = p := by
  have texts := congrArg String.toList same
  rw [toList_literal, toList_literal] at texts
  obtain ⟨entries, -⟩ := listed_cut rfl (by decide) writtenField_starts
    (fun entry _ => cutsOff_field entry) (List.append_cancel_left texts)
  refine ext_get fun f => ?_
  have here := List.map_inj_left.mp entries f f.mem_all
  exact (Prod.mk.inj here).2

end Options

def Value.complaint : Value → String
  | .int _ => ""
  | _ => ": not an integer"

def Amount.rejection (a : Amount) (v : Value) : String :=
  "Rejected " ++ a.name ++ "=" ++ v.literal ++ v.complaint

theorem Value.ends_complaint (v : Value) : Ends isStop v.complaint.toList := by
  have colon : Ends isStop ": not an integer".toList := by
    rw [show ": not an integer".toList = ':' :: " not an integer".toList by decide]
    exact ends_cons rfl _
  cases v with
  | int n => exact ends_nil isStop
  | _ => exact colon

theorem Amount.record_of_refused {a : Amount} {v : Value} {fault : Fault}
    (refused : a.accept v = .error fault) :
    Record.ofFault fault = [⟨.options, a.rejection v⟩] := by
  cases v with
  | int n =>
    simp only [accept] at refused
    split at refused
    · cases refused
    · cases refused
      rw [rejection, Value.complaint, String.append_empty]
      rfl
  | _ =>
    cases refused
    rfl

theorem Builder.record_of_refused {b : Builder} {a : Amount} {v : Value} {fault : Fault}
    (refused : b.set a.name v = .error fault) :
    Record.ofFault fault = [⟨.options, a.rejection v⟩] := by
  rw [set_amount] at refused
  cases taken : a.accept v with
  | ok n =>
    rw [taken] at refused
    cases refused
  | error reason =>
    rw [taken] at refused
    cases refused
    exact Amount.record_of_refused taken

theorem Amount.toList_rejection (a : Amount) (v : Value) :
    (a.rejection v).toList =
      "Rejected ".toList ++ (writtenField (Setting.amount a, v) ++ v.complaint.toList) := by
  simp only [rejection, String.toList_append, writtenField, Value.written, List.append_assoc]
  rfl

theorem Amount.rejection_injective {a d : Amount} {v w : Value}
    (same : a.rejection v = d.rejection w) : a = d ∧ v = w := by
  have texts := congrArg String.toList same
  rw [toList_rejection, toList_rejection] at texts
  obtain ⟨entries, -⟩ := cutsOff_field _ v.ends_complaint w.ends_complaint
    (List.append_cancel_left texts)
  obtain ⟨fields, values⟩ := Prod.mk.inj entries
  exact ⟨Setting.amount.inj (Field.setting.inj fields), values⟩

theorem display?_unknownTransport (s : String) :
    (Fault.unknownTransport s).failure?.bind Failure.display? =
      some ("[UNKNOWN_CHANNEL_TYPE] " ++ ("Unknown channel type: " ++ (Value.text s).literal)) :=
  rfl

/-- Each of these texts tells exactly what it is about: the report of a refused amount, the text of
    the error about an unknown transport, and the literal of an option. -/
theorem texts_identify_values :
    (∀ (b c : Builder) (a d : Amount) (v w : Value) (refusal other : Fault),
      b.set a.name v = .error refusal → c.set d.name w = .error other →
        ∃ first second : String, Record.ofFault refusal = [⟨.options, first⟩] ∧
          Record.ofFault other = [⟨.options, second⟩] ∧ (first = second ↔ a = d ∧ v = w)) ∧
    (∀ (s t : String) (refusal other : Fault),
      Transport.ofName (.text s) = .error refusal → Transport.ofName (.text t) = .error other →
        ∃ first second : String, refusal.failure?.bind Failure.display? = some first ∧
          other.failure?.bind Failure.display? = some second ∧ (first = second ↔ s = t)) ∧
    ∀ o p : Options, o.literal = p.literal ↔ ∀ f, o.get f = p.get f := by
  refine ⟨?_, ?_, ?_⟩
  · intro b c a d v w refusal other refused otherRefused
    refine ⟨a.rejection v, d.rejection w, Builder.record_of_refused refused,
      Builder.record_of_refused otherRefused, Amount.rejection_injective, ?_⟩
    rintro ⟨rfl, rfl⟩
    rfl
  · intro s t refusal other refused otherRefused
    obtain rfl := Transport.fault_of_refused refused
    obtain rfl := Transport.fault_of_refused otherRefused
    refine ⟨_, _, display?_unknownTransport s, display?_unknownTransport t, ?_, ?_⟩
    · intro same
      rw [String.append_right_inj, String.append_right_inj] at same
      exact Value.text.inj (Value.literal_injective same)
    · rintro rfl
      rfl
  · intro o p
    constructor
    · intro same f
      rw [Options.literal_injective same]
    · intro same
      rw [Options.ext_get same]

/-- An integer below its bound and the text of the same digits are reported differently, and so are
    the two spellings of a transport that there is not. -/
theorem texts_of_refused_limit_count :
    (∃ first second : String,
      Record.ofFault (.outOfRange .limitCount (-1)) = [⟨.options, first⟩] ∧
        Record.ofFault (.notAnInteger .limitCount (.text "-1")) = [⟨.options, second⟩] ∧
        first ≠ second) ∧
    ∃ first second : String,
      (Fault.unknownTransport "tcp").failure?.bind Failure.display? = some first ∧
        (Fault.unknownTransport "TCP").failure?.bind Failure.display? = some second ∧
        first ≠ second := by
  constructor
  · obtain ⟨first, second, record, otherRecord, same⟩ :=
      texts_identify_values.1 .fresh .fresh .limitCount .limitCount (.int (-1)) (.text "-1")
        (.outOfRange .limitCount (-1)) (.notAnInteger .limitCount (.text "-1")) rfl rfl
    refine ⟨first, second, record, otherRecord, fun equal => ?_⟩
    cases (same.mp equal).2
  · obtain ⟨first, second, text, otherText, same⟩ :=
      texts_identify_values.2.1 "tcp" "TCP" (.unknownTransport "tcp") (.unknownTransport "TCP")
        (by rfl) (by rfl)
    exact ⟨first, second, text, otherText, fun equal => absurd (same.mp equal) (by decide)⟩

end ChannelTuning

import ChannelTuning.Proofs.Session.Records
import ChannelTuning.Proofs.Value.Printing

namespace ChannelTuning

open Text

theorem Field.printable_name (f : Field) : Printable f.name.toList := f.isWord_name.printable

theorem Amount.printable_name (a : Amount) : Printable a.name.toList :=
  Field.printable_name (Setting.amount a)

theorem Value.printable_complaint (v : Value) : Printable v.complaint.toList := by
  unfold complaint
  split <;> decide

theorem Value.printable_kindName (v : Value) : Printable v.kindName.toList := by
  unfold kindName
  split <;> decide

theorem Bound.printable_complaint (bound : Bound) : Printable bound.complaint.toList := by
  cases bound <;> decide +kernel

theorem Amount.printable_rejection (a : Amount) (v : Value) :
    Printable (a.rejection v).toList := by
  have word : Printable "Rejected ".toList := by decide
  have field : Printable (writtenField (Setting.amount a, v)) :=
    a.printable_name.append (.cons rfl v.printable_written)
  rw [toList_rejection]
  exact word.append (field.append v.printable_complaint)

def Fault.ShowsPrintable (fault : Fault) : Prop :=
  ∃ text, fault.failure?.bind Failure.display? = some text ∧ Printable text.toList

namespace Fault

theorem showsPrintable_of_message {fault : Fault} {failure : Failure} {c : Code} {message : String}
    (failed : fault.failure? = some failure) (code : failure.code = .code c)
    (held : failure.message = .text message) (printable : Printable message.toList) :
    fault.ShowsPrintable := by
  have label : Printable ("[" ++ c.name ++ "] ").toList := by
    cases c <;> decide
  refine ⟨"[" ++ c.name ++ "] " ++ message, ?_, ?_⟩
  · rw [failed, Option.bind_some, Failure.display?, code, held]
    rfl
  · rw [String.toList_append]
    exact label.append printable

theorem showsPrintable_notAnInteger (a : Amount) (v : Value) :
    (notAnInteger a v).ShowsPrintable := by
  have words : Printable " must be an integer, got ".toList := by decide
  refine showsPrintable_of_message rfl rfl rfl ?_
  rw [String.toList_append, String.toList_append]
  exact (a.printable_name.append words).append v.printable_kindName

theorem showsPrintable_outOfRange (a : Amount) (n : Int) : (outOfRange a n).ShowsPrintable := by
  refine showsPrintable_of_message rfl rfl rfl ?_
  rw [String.toList_append]
  exact a.printable_name.append a.bound.printable_complaint

theorem showsPrintable_noTransport : noTransport.ShowsPrintable :=
  showsPrintable_of_message rfl rfl rfl (by decide)

theorem showsPrintable_unknownTransport (name : String) :
    (unknownTransport name).ShowsPrintable := by
  have words : Printable "Unknown channel type: ".toList := by decide
  refine showsPrintable_of_message rfl rfl rfl ?_
  rw [String.toList_append]
  exact words.append (Value.printable_text name)

end Fault

theorem Transport.showsPrintable_of_refused {v : Value} {fault : Fault}
    (refused : ofName v = .error fault) : fault.ShowsPrintable := by
  cases v with
  | null =>
    cases refused
    exact Fault.showsPrintable_noTransport
  | text s =>
    obtain rfl := fault_of_refused refused
    exact Fault.showsPrintable_unknownTransport s
  | _ =>
    cases refused
    exact Fault.showsPrintable_unknownTransport _

theorem Transport.ofName_of_accept {v : Value} {fault : Fault} (refused : accept v = .error fault) :
    ofName v = .error fault := by
  cases v with
  | transport t => cases refused
  | _ => exact refused

theorem Amount.showsPrintable_of_refused {a : Amount} {v : Value} {fault : Fault}
    (refused : a.accept v = .error fault) : fault.ShowsPrintable := by
  cases v with
  | int n =>
    simp only [accept] at refused
    split at refused
    · cases refused
    · cases refused
      exact Fault.showsPrintable_outOfRange a n
  | _ =>
    cases refused
    exact Fault.showsPrintable_notAnInteger a _

theorem Builder.showsPrintable_of_refused {b : Builder} {s : Setting} {v : Value} {fault : Fault}
    (refused : b.set s.name v = .error fault) : fault.ShowsPrintable := by
  rcases set_error_cases refused with ⟨a, -, failed⟩ | ⟨-, failed⟩ | ⟨unknown, -⟩
  · exact Amount.showsPrintable_of_refused failed
  · exact Transport.showsPrintable_of_refused (Transport.ofName_of_accept failed)
  · rw [Setting.named?_name] at unknown
    cases unknown

namespace Session

theorem rejection_of_mem_refusalRecords {settings : List (String × Value)} {record : Record}
    (there : record ∈ refusalRecords settings) :
    ∃ (a : Amount) (v : Value), record.text = a.rejection v := by
  unfold refusalRecords at there
  split at there
  · cases there
  · rename_i name v found
    split at there
    · rename_i known
      obtain ⟨⟨_, least⟩, listed, rfl⟩ := List.mem_map.mp known
      obtain ⟨a, rfl, -⟩ := exists_amount_of_mem_leastAccepted listed
      exact ⟨a, v, congrArg Record.text (List.mem_singleton.mp there)⟩
    · cases there

theorem verb_of_mem_openedRecords {target : Value} {used : Options} {calls : List Call}
    {result : Except Fault Handle} {record : Record}
    (there : record ∈ openedRecords target used calls result) : record.verb = "Opened" := by
  have opened (tls : Bool) : Record.verb ⟨.channel, "Opened " ++
      (if tls then "TLS" else "insecure") ++ " channel to " ++ target.display ++
        " with " ++ used.display⟩ = "Opened" :=
    verb_opened tls target used
  unfold openedRecords at there
  split at there
  · cases there
  · split at there
    · rw [List.mem_singleton.mp there]
      exact opened true
    · rw [List.mem_singleton.mp there]
      exact opened false
    · cases there

theorem exists_of_mem_elim {α β : Type} {found : Option α} {entries : α → List β} {entry : β}
    (there : entry ∈ found.elim [] entries) : ∃ a, found = some a ∧ entry ∈ entries a := by
  cases found with
  | none => cases there
  | some a => exact ⟨a, rfl, there⟩

theorem rejection_of_mem_account {session : Session} {step : Step} {record : Record}
    (there : record ∈ session.account step) (rejected : record.verb = "Rejected") :
    ∃ (a : Amount) (v : Value), record.text = a.rejection v := by
  have notBuilt (rest : String) : record ≠ ⟨.options, "Built " ++ rest⟩ := by
    rintro rfl
    rw [verb_built] at rejected
    exact absurd rejected (by decide)
  unfold account at there
  split at there
  · obtain ⟨-, -, refusal⟩ := exists_of_mem_elim there
    exact rejection_of_mem_refusalRecords refusal
  · obtain ⟨choice, -, connected⟩ := exists_of_mem_elim there
    rcases List.mem_append.mp connected with fallback | opened
    · split at fallback
      · exact absurd (List.mem_singleton.mp fallback) (notBuilt _)
      · cases fallback
    · obtain ⟨used, -, opening⟩ := exists_of_mem_elim opened
      rw [verb_of_mem_openedRecords opening] at rejected
      exact absurd rejected (by decide)
  · obtain ⟨made, -, same⟩ := exists_of_mem_elim there
    exact absurd (List.mem_singleton.mp same) (notBuilt _)

def rejections (session : Session) (steps : List Step) : List (List Char) :=
  ((session.log steps).filter (·.verb == "Rejected")).map (·.text.toList)

theorem printable_of_mem_rejections {session : Session} {steps : List Step} {cs : List Char}
    (there : cs ∈ session.rejections steps) : Printable cs := by
  obtain ⟨record, kept, rfl⟩ := List.mem_map.mp there
  obtain ⟨logged, rejected⟩ := List.mem_filter.mp kept
  rw [log_eq_accounts] at logged
  obtain ⟨⟨before, step⟩, -, accounted⟩ := List.mem_flatMap.mp logged
  obtain ⟨a, v, same⟩ := rejection_of_mem_account accounted (beq_iff_eq.mp rejected)
  rw [same]
  exact a.printable_rejection v

end Session

/-- No value that is refused can break out of its line, or hide in it. What is recorded of a refused
    amount is a printed text, and so is the text of the error that a refused call ends in, also when
    the name of a transport is asked for directly. So a log of everything that a run has rejected,
    one text to a line, is read back as just these lines. -/
theorem refused_values_keep_to_their_line :
    (∀ (b : Builder) (a : Amount) (v : Value) (fault : Fault), b.set a.name v = .error fault →
      Record.ofFault fault = [⟨.options, a.rejection v⟩] ∧ Printed (a.rejection v).toList) ∧
    (∀ (v : Value) (fault : Fault), Transport.ofName v = .error fault →
      ∃ text, fault.failure?.bind Failure.display? = some text ∧ Printed text.toList) ∧
    (∀ (b : Builder) (s : Setting) (v : Value) (fault : Fault), b.set s.name v = .error fault →
      ∃ text, fault.failure?.bind Failure.display? = some text ∧ Printed text.toList) ∧
    ∀ (session : Session) (steps : List Step),
      (∀ cs ∈ session.rejections steps, Printed cs) ∧
      (session.rejections steps ≠ [] →
        lines (['\n'].intercalate (session.rejections steps)) = session.rejections steps) := by
  refine ⟨?_, ?_, ?_, ?_⟩
  · intro b a v fault refused
    exact ⟨Builder.record_of_refused refused, (a.printable_rejection v).printed⟩
  · intro v fault refused
    obtain ⟨text, shown, printable⟩ := Transport.showsPrintable_of_refused refused
    exact ⟨text, shown, printable.printed⟩
  · intro b s v fault refused
    obtain ⟨text, shown, printable⟩ := Builder.showsPrintable_of_refused refused
    exact ⟨text, shown, printable.printed⟩
  · intro session steps
    have printed : ∀ cs ∈ session.rejections steps, Printed cs :=
      fun cs there => (Session.printable_of_mem_rejections there).printed
    exact ⟨printed, fun present => lines_intercalate present printed⟩

/-- Texts that would pass for lines of their own are refused in one line each: as an amount, as the
    name of a transport within a tuple, as one with a mark that turns the direction of writing, and
    in a run. -/
theorem lines_of_forged_refusals :
    (Record.ofFault (.notAnInteger .limitTime (.list [.text "1\nBuilt ", .bytes [27, 10]])) =
        [⟨.options, "Rejected limit_time=['1\\nBuilt ', b'\\x1b\\n']: not an integer"⟩] ∧
      Printed "Rejected limit_time=['1\\nBuilt ', b'\\x1b\\n']: not an integer".toList) ∧
    (∃ text, (Fault.unknownTransport "('a\\u2028b',)").failure?.bind Failure.display? = some text ∧
      Printed text.toList) ∧
    (∃ text, (Fault.unknownTransport "epoll\u202E").failure?.bind Failure.display? = some text ∧
      Printed text.toList) ∧
    let rejections := Session.start.rejections
      [.builder "b", .chain "b" [("limit_count", .text "\r\n")],
        .chain "b" [("limit_time", .int (-1))]]
    rejections.length = 2 ∧ lines (['\n'].intercalate rejections) = rejections := by
  obtain ⟨records, names, errors, runs⟩ := refused_values_keep_to_their_line
  refine ⟨?_, ?_, ?_, ?_⟩
  · have report : Amount.rejection .limitTime (.list [.text "1\nBuilt ", .bytes [27, 10]]) =
        "Rejected limit_time=['1\\nBuilt ', b'\\x1b\\n']: not an integer" := by decide +kernel
    rw [← report]
    exact records .fresh .limitTime _ _ rfl
  · have shown : (Value.tuple [.text "a\u2028b"]).display = "('a\\u2028b',)" := by decide +kernel
    rw [← shown]
    exact names (.tuple [.text "a\u2028b"]) _ rfl
  · exact errors .fresh .transport (.text "epoll\u202E") _ rfl
  · intro rejections
    have count : rejections.length = 2 := by
      unfold rejections
      decide +kernel
    exact ⟨count, (runs .start _).2 (List.ne_nil_of_length_eq_add_one count)⟩

end ChannelTuning

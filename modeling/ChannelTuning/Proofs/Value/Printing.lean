import ChannelTuning.Proofs.Text.Unprintable
import ChannelTuning.Proofs.Value.Literals
import ChannelTuning.Proofs.Value.Named

namespace ChannelTuning

namespace Text

theorem isPrintable_of_within {c : Char} {low high : UInt32} (above : low ≤ c.val)
    (below : c.val ≤ high) (least : 0x20 ≤ low.toNat) (most : high.toNat ≤ 0x7E) :
    isPrintable c = true := by
  refine (Ranges.contains_iff printableRanges c).mpr ⟨(0x20, 0x7E), .head _, ?_, ?_⟩
  · exact Nat.le_trans least (UInt32.le_iff_toNat_le.mp above)
  · exact Nat.le_trans (UInt32.le_iff_toNat_le.mp below) most

theorem isPrintable_of_isPlainByte {c : Char} (plain : isPlainByte c = true) :
    isPrintable c = true := by
  obtain ⟨above, below⟩ := Bool.and_eq_true_iff.mp plain
  exact isPrintable_of_within (of_decide_eq_true above) (of_decide_eq_true below) (by decide)
    (by decide)

theorem isPrintable_of_isAlphanum {c : Char} (known : c.isAlphanum = true) :
    isPrintable c = true := by
  rcases Bool.or_eq_true_iff.mp known with letter | digit
  · rcases Bool.or_eq_true_iff.mp letter with upper | lower
    · obtain ⟨above, below⟩ := of_decide_eq_true upper
      exact isPrintable_of_within above below (by decide) (by decide)
    · obtain ⟨above, below⟩ := Bool.and_eq_true_iff.mp lower
      exact isPrintable_of_within (of_decide_eq_true above) (of_decide_eq_true below) (by decide)
        (by decide)
  · obtain ⟨above, below⟩ := Bool.and_eq_true_iff.mp digit
    exact isPrintable_of_within (of_decide_eq_true above) (of_decide_eq_true below) (by decide)
      (by decide)

theorem isPrintable_of_isWordChar {c : Char} (known : isWordChar c = true) :
    isPrintable c = true := by
  simp only [isWordChar, Bool.or_eq_true, beq_iff_eq] at known
  rcases known with (letter | rfl) | rfl
  · exact isPrintable_of_isAlphanum letter
  · rfl
  · rfl

theorem isPrintable_of_isNumeral {c : Char} (numeral : isNumeral c = true) :
    isPrintable c = true := by
  have marks : ∀ mark ∈ ['-', '+', '.', 'e', 'n', 'a', 'i', 'f'], isPrintable mark = true :=
    List.all_eq_true.mp rfl
  rcases Bool.or_eq_true_iff.mp numeral with digit | mark
  · exact isPrintable_of_isWordChar (isWordChar_of_isDigit digit)
  · exact marks c (List.contains_iff_mem.mp mark)

theorem Printable.append {cs ds : List Char} (left : Printable cs) (right : Printable ds) :
    Printable (cs ++ ds) :=
  List.forall_mem_append.mpr ⟨left, right⟩

theorem Printable.cons {c : Char} {cs : List Char} (first : isPrintable c = true)
    (rest : Printable cs) : Printable (c :: cs) :=
  List.forall_mem_cons.mpr ⟨first, rest⟩

theorem Printable.singleton {c : Char} (known : isPrintable c = true) : Printable [c] :=
  List.forall_mem_singleton.mpr known

theorem IsWord.printable {cs : List Char} (word : IsWord cs) : Printable cs :=
  fun c inside => isPrintable_of_isWordChar (word c inside)

theorem printable_hexDigits (width n : Nat) : Printable (hexDigits width n) := by
  have digits : ∀ d < 16, isPrintable (Nat.digitChar d) = true := by decide
  induction width generalizing n with
  | zero => exact List.forall_mem_nil _
  | succ width previous =>
    have last := digits (n % 16) (Nat.mod_lt n (by decide))
    exact (previous (n / 16)).append (.singleton last)

theorem printable_escapeNumber (code : Nat) : Printable (escapeNumber code) := by
  unfold escapeNumber
  split
  · exact .cons rfl (.cons rfl (printable_hexDigits 2 code))
  · split
    · exact .cons rfl (.cons rfl (printable_hexDigits 4 code))
    · exact .cons rfl (.cons rfl (printable_hexDigits 8 code))

theorem isPrintable_of_isQuote {c : Char} (mark : IsQuote c) : isPrintable c = true := by
  rcases mark with rfl | rfl <;> rfl

section

variable {plain : Char → Bool} (shown : ∀ c, plain c = true → isPrintable c = true)

include shown

theorem printable_escape {quote : Char} (known : IsQuote quote) (c : Char) :
    Printable (escape plain quote c) := by
  have pair {d : Char} (second : isPrintable d = true) : Printable ['\\', d] :=
    .cons rfl (.singleton second)
  rcases escape_cases plain quote c with ⟨marked, form⟩ | ⟨-, form⟩ | ⟨-, form⟩ | ⟨-, form⟩ |
    ⟨-, -, ordinary, form⟩ | form <;> rw [form]
  · rcases marked with rfl | rfl
    · exact pair (isPrintable_of_isQuote known)
    · exact pair rfl
  · exact pair rfl
  · exact pair rfl
  · exact pair rfl
  · exact .singleton (shown c ordinary)
  · exact printable_escapeNumber c.toNat

theorem printable_quoted (cs : List Char) : Printable (quoted plain cs) := by
  have known := isQuote_quoteFor cs
  have mark := isPrintable_of_isQuote known
  have body : Printable (cs.flatMap (escape plain (quoteFor cs))) := by
    intro d inside
    obtain ⟨c, -, written⟩ := List.mem_flatMap.mp inside
    exact printable_escape shown known c d written
  exact .cons mark (body.append (.singleton mark))

end

theorem printable_listed {α : Type} {form : α → List Char} {items : List α}
    (each : ∀ a ∈ items, Printable (form a)) : Printable (listed form items) := by
  intro c inside
  rcases mem_listed inside with rfl | rfl | ⟨a, known, there⟩
  · rfl
  · rfl
  · exact each a known c there

end Text

open Text

namespace Value

theorem printable_number {v : Value} (number : v.lead = .number) : Printable (written v) :=
  fun c inside => isPrintable_of_isNumeral (isNumeral_of_mem_written number c inside)

theorem printable_text (s : String) : Printable (written (.text s)) := by
  rw [written_text]
  exact printable_quoted (fun _ plain => plain) s.toList

theorem printable_bytes (data : List UInt8) : Printable (written (.bytes data)) := by
  rw [written_bytes]
  exact .cons rfl (printable_quoted (fun _ => isPrintable_of_isPlainByte) _)

theorem printable_member {v : Value} (member : v.lead = .member) : Printable (written v) := by
  cases v with
  | transport t => cases t <;> decide +kernel
  | code c => cases c <;> decide +kernel
  | _ => cases member

theorem printable_list {items : List Value} (each : ∀ v ∈ items, Printable (written v)) :
    Printable (written (.list items)) := by
  rw [written_list]
  exact .cons rfl ((printable_listed each).append (.singleton rfl))

theorem printable_tupleRest {rest : List Value} (each : ∀ v ∈ rest, Printable (written v)) :
    Printable (tupleRest rest) := by
  have close : Printable [')'] := .singleton rfl
  cases rest with
  | nil => exact .cons rfl close
  | cons second later =>
    refine Printable.append (fun c inside => ?_) close
    obtain ⟨v, known, there⟩ := List.mem_flatMap.mp inside
    exact Printable.cons rfl (.cons rfl (each v known)) c there

theorem printable_tuple {items : List Value} (each : ∀ v ∈ items, Printable (written v)) :
    Printable (written (.tuple items)) := by
  cases items with
  | nil =>
    rw [written_tuple_nil]
    decide
  | cons first rest =>
    obtain ⟨head, later⟩ := List.forall_mem_cons.mp each
    rw [written_tuple_cons]
    exact .cons rfl (head.append (printable_tupleRest later))

theorem printable_dict {entries : List (Value × Value)}
    (each : ∀ entry ∈ entries, Printable (written entry.1) ∧ Printable (written entry.2)) :
    Printable (written (.dict entries)) := by
  have entryTexts : ∀ entry ∈ entries, Printable (writtenEntry entry) := by
    intro entry known
    obtain ⟨key, value⟩ := each entry known
    exact key.append (.cons rfl (.cons rfl value))
  rw [written_dict]
  exact .cons rfl ((printable_listed entryTexts).append (.singleton rfl))

theorem printable_written (v : Value) : Printable (written v) := by
  -- on how values nest: brackets, commas and colons are all that a container adds to its items
  induction v with
  | null =>
    rw [written_null]
    decide
  | bool b =>
    rw [written_bool]
    cases b <;> decide
  | int n => exact printable_number rfl
  | float x => exact printable_number rfl
  | text s => exact printable_text s
  | bytes data => exact printable_bytes data
  | list items previous => exact printable_list previous
  | tuple items previous => exact printable_tuple previous
  | dict entries previous => exact printable_dict previous
  | transport t => exact printable_member rfl
  | code c => exact printable_member rfl

end Value

end ChannelTuning

import ChannelTuning.Value.Rendering
import ChannelTuning.Proofs.Text.Cutting
import ChannelTuning.Proofs.Text.Quotation
import ChannelTuning.Proofs.Number.Numerals

namespace ChannelTuning

open Text

/-- The kinds of literals, each of which starts with characters of its own. -/
inductive Lead where
  | null
  | truth
  | number
  | text
  | bytes
  | list
  | tuple
  | dict
  | member

def Lead.ofChar? (c : Char) : Option Lead :=
  if c.isDigit then some number
  else
    match c with
    | 'N' => some null
    | 'T' => some truth
    | 'F' => some truth
    | '-' => some number
    | 'n' => some number
    | 'i' => some number
    | '\'' => some text
    | '"' => some text
    | 'b' => some bytes
    | '[' => some list
    | '(' => some tuple
    | '{' => some dict
    | '<' => some member
    | _ => none

theorem Lead.ofChar?_of_isDigit {c : Char} (digit : c.isDigit = true) :
    Lead.ofChar? c = some .number :=
  if_pos digit

theorem Lead.ofChar?_of_isQuote {c : Char} (mark : IsQuote c) : Lead.ofChar? c = some .text := by
  rcases mark with rfl | rfl <;> rfl

theorem Floating.text_starts (x : Floating) :
    ∃ c rest, x.text = c :: rest ∧ Lead.ofChar? c = some .number := by
  cases x with
  | nan => exact ⟨_, _, rfl, rfl⟩
  | infinite negative => cases negative <;> exact ⟨_, _, rfl, rfl⟩
  | finite negative magnitude =>
    cases negative with
    | true => exact ⟨_, _, rfl, rfl⟩
    | false =>
      obtain ⟨c, rest, starts, digit⟩ := magnitude.text_starts
      exact ⟨c, rest, starts, Lead.ofChar?_of_isDigit digit⟩

namespace Value

def lead : Value → Lead
  | .null => .null
  | .bool _ => .truth
  | .int _ => .number
  | .float _ => .number
  | .text _ => .text
  | .bytes _ => .bytes
  | .list _ => .list
  | .tuple _ => .tuple
  | .dict _ => .dict
  | .transport _ => .member
  | .code _ => .member

def written (v : Value) : List Char := v.literal.toList

def writtenEntry (entry : Value × Value) : List Char :=
  entry.1.written ++ ':' :: ' ' :: entry.2.written

def byteChars (data : List UInt8) : List Char := data.map fun byte => Char.ofNat byte.toNat

theorem literals_eq_map (items : List Value) : literals items = items.map literal := by
  induction items with
  | nil => rfl
  | cons item rest previous => exact congrArg (item.literal :: ·) previous

theorem entryLiterals_eq_map (entries : List (Value × Value)) :
    entryLiterals entries = entries.map fun entry => entry.1.literal ++ ": " ++ entry.2.literal := by
  induction entries with
  | nil => rfl
  | cons entry rest previous =>
    exact congrArg ((entry.1.literal ++ ": " ++ entry.2.literal) :: ·) previous

theorem written_null : written .null = ['N', 'o', 'n', 'e'] := by decide

theorem written_bool (b : Bool) :
    written (.bool b) = if b then ['T', 'r', 'u', 'e'] else ['F', 'a', 'l', 's', 'e'] := by
  cases b <;> decide

theorem written_int (n : Int) : written (.int n) = integerText n := toList_toString_int n

theorem written_float (x : Floating) : written (.float x) = x.text := String.toList_ofList

theorem written_text (s : String) : written (.text s) = quoted isPrintable s.toList :=
  String.toList_ofList

theorem written_bytes (data : List UInt8) :
    written (.bytes data) = 'b' :: quoted isPlainByte (byteChars data) :=
  String.toList_ofList

theorem written_list (items : List Value) :
    written (.list items) = '[' :: (listed written items ++ [']']) := by
  have form : written (.list items) = ("[" ++ commaSeparated (literals items) ++ "]").toList := rfl
  rw [form, literals_eq_map, String.toList_append, String.toList_append, toList_commaSeparated_map]
  rfl

def tupleRest : List Value → List Char
  | [] => [',', ')']
  | rest => (rest.flatMap fun item => ',' :: ' ' :: item.written) ++ [')']

theorem written_tuple_nil : written (.tuple []) = ['(', ')'] := by decide

theorem written_tuple_cons (first : Value) (rest : List Value) :
    written (.tuple (first :: rest)) = '(' :: (first.written ++ tupleRest rest) := by
  cases rest with
  | nil =>
    have form : written (.tuple [first]) = ("(" ++ first.literal ++ ",)").toList := rfl
    rw [form, String.toList_append, String.toList_append]
    rfl
  | cons second rest =>
    have form : written (.tuple (first :: second :: rest)) =
        ("(" ++ commaSeparated (literals (first :: second :: rest)) ++ ")").toList := rfl
    rw [form, literals_eq_map, String.toList_append, String.toList_append,
      toList_commaSeparated_map, listed, List.append_assoc, List.append_assoc]
    rfl

theorem written_dict (entries : List (Value × Value)) :
    written (.dict entries) = '{' :: (listed writtenEntry entries ++ ['}']) := by
  have form : written (.dict entries) =
      ("\x7b" ++ commaSeparated (entryLiterals entries) ++ "\x7d").toList := rfl
  have entryText : (fun entry : Value × Value =>
      (entry.1.literal ++ ": " ++ entry.2.literal).toList) = writtenEntry := by
    funext entry
    rw [String.toList_append, String.toList_append, List.append_assoc]
    rfl
  rw [form, entryLiterals_eq_map, String.toList_append, String.toList_append,
    toList_commaSeparated_map, entryText]
  rfl

theorem written_member {v : Value} (member : v.lead = .member) :
    ∃ payload, written v = '<' :: (v.display.toList ++ ':' :: payload) := by
  have parted (kind name payload : String) :
      ("<" ++ kind ++ name ++ ": " ++ payload ++ ">").toList =
        '<' :: ((kind ++ name).toList ++ ':' :: ' ' :: (payload.toList ++ ['>'])) := by
    simp
  cases v with
  | transport t => exact ⟨_, parted "ChannelType." t.name (Text.quotedText t.token)⟩
  | code c => exact ⟨_, parted "ErrorCode." c.name (toString c.number)⟩
  | _ => cases member

theorem written_starts (v : Value) :
    ∃ c rest, written v = c :: rest ∧ Lead.ofChar? c = some v.lead := by
  cases v with
  | null => exact ⟨_, _, written_null, rfl⟩
  | bool b => cases b <;> exact ⟨_, _, written_bool _, rfl⟩
  | int n =>
    obtain ⟨c, rest, starts, numeral⟩ := integerText_starts n
    refine ⟨c, rest, (written_int n).trans starts, ?_⟩
    rcases numeral with digit | rfl
    · exact Lead.ofChar?_of_isDigit digit
    · rfl
  | float x =>
    obtain ⟨c, rest, starts, numeral⟩ := x.text_starts
    exact ⟨c, rest, (written_float x).trans starts, numeral⟩
  | text s => exact ⟨_, _, written_text s, Lead.ofChar?_of_isQuote (isQuote_quoteFor s.toList)⟩
  | bytes data => exact ⟨_, _, written_bytes data, rfl⟩
  | list items => exact ⟨_, _, written_list items, rfl⟩
  | tuple items =>
    cases items with
    | nil => exact ⟨_, _, written_tuple_nil, rfl⟩
    | cons first rest => exact ⟨_, _, written_tuple_cons first rest, rfl⟩
  | dict entries => exact ⟨_, _, written_dict entries, rfl⟩
  | transport t =>
    obtain ⟨payload, form⟩ := written_member (v := .transport t) rfl
    exact ⟨_, _, form, rfl⟩
  | code c =>
    obtain ⟨payload, form⟩ := written_member (v := .code c) rfl
    exact ⟨_, _, form, rfl⟩

theorem lead_eq_of_written_append {v w : Value} {r s : List Char}
    (same : written v ++ r = written w ++ s) : v.lead = w.lead := by
  obtain ⟨c, rest, starts, kind⟩ := v.written_starts
  obtain ⟨d, others, otherStarts, otherKind⟩ := w.written_starts
  rw [starts, otherStarts, List.cons_append, List.cons_append, List.cons.injEq] at same
  rw [same.1, otherKind] at kind
  exact (Option.some.inj kind).symm

theorem written_starts_ne {c : Char} (unused : Lead.ofChar? c = none) (v : Value) :
    ∃ d rest, written v = d :: rest ∧ d ≠ c := by
  obtain ⟨d, rest, starts, kind⟩ := v.written_starts
  refine ⟨d, rest, starts, ?_⟩
  rintro rfl
  rw [unused] at kind
  cases kind

theorem isNumeral_of_mem_written {v : Value} (number : v.lead = .number) :
    ∀ c ∈ written v, isNumeral c = true := by
  cases v with
  | int n =>
    intro c inside
    rw [written_int] at inside
    rcases digit_or_sign_of_mem_integerText n c inside with digit | rfl
    · exact isNumeral_of_isDigit digit
    · rfl
  | float x =>
    rw [written_float]
    exact x.isNumeral_of_mem_text
  | _ => cases number

theorem number_of_written {v w : Value} (left : v.lead = .number) (right : w.lead = .number)
    (same : written v = written w) : v = w := by
  cases v with
  | int n =>
    cases w with
    | int m =>
      rw [written_int, written_int] at same
      rw [integerText_injective same]
    | float y =>
      rw [written_int, written_float] at same
      exact absurd same (integerText_ne_text n y)
    | _ => cases right
  | float x =>
    cases w with
    | int m =>
      rw [written_float, written_int] at same
      exact absurd same.symm (integerText_ne_text m x)
    | float y =>
      rw [written_float, written_float] at same
      rw [Floating.text_injective same]
    | _ => cases right
  | _ => cases left

theorem isStop_of_isNumeral {c : Char} (numeral : isNumeral c = true) : isStop c = false := by
  have apart : ∀ stop ∈ [',', ':', ']', ')', '}'], (!isNumeral stop) = true :=
    List.all_eq_true.mp rfl
  cases stops : isStop c with
  | false => rfl
  | true =>
    rw [isStop, List.contains_iff_mem] at stops
    have other := apart c stops
    rw [numeral] at other
    cases other

theorem cutsOff_number {v : Value} (number : v.lead = .number) : CutsOff written v := by
  intro w r s leftEnd rightEnd same
  have other : w.lead = .number := (lead_eq_of_written_append same).symm.trans number
  obtain ⟨texts, rest⟩ := append_cut
    (fun c inside => isStop_of_isNumeral (isNumeral_of_mem_written number c inside))
    (fun c inside => isStop_of_isNumeral (isNumeral_of_mem_written other c inside))
    leftEnd rightEnd same
  exact ⟨number_of_written number other texts, rest⟩

theorem colon_not_mem_display {v : Value} (member : v.lead = .member) :
    ∀ c ∈ v.display.toList, (c == ':') = false := by
  have free : v.display.toList.any (· == ':') = false := by
    cases v with
    | transport t => cases t <;> decide
    | code c => cases c <;> decide
    | _ => cases member
  simpa using free

theorem member_of_display {v w : Value} (left : v.lead = .member) (right : w.lead = .member)
    (same : v.display = w.display) : v = w := by
  cases v with
  | transport t =>
    cases w with
    | transport u => cases t <;> cases u <;> first | rfl | exact absurd same (by decide)
    | code c => cases t <;> cases c <;> exact absurd same (by decide)
    | _ => cases right
  | code c =>
    cases w with
    | transport t => cases c <;> cases t <;> exact absurd same (by decide)
    | code d => cases c <;> cases d <;> first | rfl | exact absurd same (by decide)
    | _ => cases right
  | _ => cases left

theorem cutsOff_member {v : Value} (member : v.lead = .member) : CutsOff written v := by
  intro w r s leftEnd rightEnd same
  have other : w.lead = .member := (lead_eq_of_written_append same).symm.trans member
  obtain ⟨payload, form⟩ := written_member member
  obtain ⟨otherPayload, otherForm⟩ := written_member other
  have inside := same
  simp only [form, otherForm, List.cons_append, List.append_assoc, List.cons.injEq, true_and]
    at inside
  obtain ⟨names, -⟩ := append_cut (colon_not_mem_display member) (colon_not_mem_display other)
    (ends_cons rfl _) (ends_cons rfl _) inside
  obtain rfl := member_of_display member other (String.toList_injective names)
  exact ⟨rfl, List.append_cancel_left same⟩

theorem toNat_byteChar (byte : UInt8) : (Char.ofNat byte.toNat).toNat = byte.toNat := by
  have valid : byte.toNat.isValidChar := .inl (Nat.lt_trans byte.toNat_lt (by decide))
  rw [Char.ofNat, dif_pos valid]
  rfl

theorem byteChars_injective {xs ys : List UInt8} (same : byteChars xs = byteChars ys) :
    xs = ys := by
  refine (List.map_inj_right ?_).mp same
  intro x y sameChar
  have numbers := congrArg Char.toNat sameChar
  rw [toNat_byteChar, toNat_byteChar] at numbers
  exact UInt8.toNat_inj.mp numbers

theorem cutsOff_text (s : String) : CutsOff written (.text s) := by
  intro w r t leftEnd rightEnd same
  -- a value of any other kind starts with another character
  have kinds := lead_eq_of_written_append same
  cases w with
  | text other =>
    rw [written_text, written_text] at same
    obtain ⟨texts, rest⟩ := quoted_cut same
    exact ⟨congrArg text (String.toList_injective texts), rest⟩
  | _ => cases kinds

theorem cutsOff_bytes (data : List UInt8) : CutsOff written (.bytes data) := by
  intro w r s leftEnd rightEnd same
  have kinds := lead_eq_of_written_append same
  cases w with
  | bytes others =>
    rw [written_bytes, written_bytes] at same
    obtain ⟨texts, rest⟩ := quoted_cut (List.cons.inj same).2
    exact ⟨congrArg bytes (byteChars_injective texts), rest⟩
  | _ => cases kinds

theorem cutsOff_list {items : List Value} (cuts : ∀ v ∈ items, CutsOff written v) :
    CutsOff written (.list items) := by
  intro w r s leftEnd rightEnd same
  have kinds := lead_eq_of_written_append same
  cases w with
  | list others =>
    simp only [written_list, List.cons_append, List.append_assoc, List.nil_append, List.cons.injEq,
      true_and] at same
    obtain ⟨rfl, rest⟩ := listed_cut rfl (by decide) (written_starts_ne rfl) cuts same
    exact ⟨rfl, rest⟩
  | _ => cases kinds

theorem ends_tupleRest (rest : List Value) (r : List Char) :
    Ends isStop (tupleRest rest ++ r) := by
  cases rest with
  | nil => exact ends_cons rfl _
  | cons second rest => exact ends_cons rfl _

theorem tupleRest_cut {rest others : List Value} (cuts : ∀ v ∈ rest, CutsOff written v)
    {r s : List Char} (same : tupleRest rest ++ r = tupleRest others ++ s) :
    rest = others ∧ r = s := by
  cases rest with
  | nil =>
    cases others with
    | nil => exact ⟨rfl, List.append_cancel_left same⟩
    | cons other others => exact absurd (List.cons.inj (List.cons.inj same).2).1 (by decide)
  | cons second rest =>
    cases others with
    | nil => exact absurd (List.cons.inj (List.cons.inj same).2).1 (by decide)
    | cons other others =>
      simp only [tupleRest, List.append_assoc, List.cons_append, List.nil_append] at same
      exact tail_cut rfl (by decide) cuts same

theorem cutsOff_tuple {items : List Value} (cuts : ∀ v ∈ items, CutsOff written v) :
    CutsOff written (.tuple items) := by
  intro w r s leftEnd rightEnd same
  have kinds := lead_eq_of_written_append same
  cases w with
  | tuple others =>
    cases items with
    | nil =>
      cases others with
      | nil => exact ⟨rfl, List.append_cancel_left same⟩
      | cons other others =>
        obtain ⟨c, rest, starts, differs⟩ := other.written_starts_ne (c := ')') rfl
        rw [written_tuple_nil, written_tuple_cons, starts] at same
        exact absurd (List.cons.inj (List.cons.inj same).2).1.symm differs
    | cons first rest =>
      cases others with
      | nil =>
        obtain ⟨c, later, starts, differs⟩ := first.written_starts_ne (c := ')') rfl
        rw [written_tuple_nil, written_tuple_cons, starts] at same
        exact absurd (List.cons.inj (List.cons.inj same).2).1 differs
      | cons other others =>
        simp only [written_tuple_cons, List.cons_append, List.append_assoc, List.cons.injEq,
          true_and] at same
        obtain ⟨rfl, later⟩ := cuts first (.head _) (ends_tupleRest rest r)
          (ends_tupleRest others s) same
        obtain ⟨rfl, last⟩ := tupleRest_cut (fun v inside => cuts v (.tail _ inside)) later
        exact ⟨rfl, last⟩
  | _ => cases kinds

theorem cutsOff_entry {entry : Value × Value}
    (cuts : CutsOff written entry.1 ∧ CutsOff written entry.2) : CutsOff writtenEntry entry := by
  intro other r s leftEnd rightEnd same
  simp only [writtenEntry, List.append_assoc, List.cons_append] at same
  obtain ⟨keys, later⟩ := cuts.1 (ends_cons rfl _) (ends_cons rfl _) same
  obtain ⟨values, rest⟩ := cuts.2 leftEnd rightEnd (List.cons.inj (List.cons.inj later).2).2
  exact ⟨Prod.ext keys values, rest⟩

theorem cutsOff_dict {entries : List (Value × Value)}
    (cuts : ∀ entry ∈ entries, CutsOff written entry.1 ∧ CutsOff written entry.2) :
    CutsOff written (.dict entries) := by
  intro w r s leftEnd rightEnd same
  have kinds := lead_eq_of_written_append same
  have begins : ∀ entry, ∃ c rest, writtenEntry entry = c :: rest ∧ c ≠ '}' := by
    intro entry
    obtain ⟨c, rest, starts, differs⟩ := entry.1.written_starts_ne (c := '}') rfl
    exact ⟨c, _, by rw [writtenEntry, starts, List.cons_append], differs⟩
  cases w with
  | dict others =>
    simp only [written_dict, List.cons_append, List.append_assoc, List.nil_append, List.cons.injEq,
      true_and] at same
    obtain ⟨rfl, rest⟩ := listed_cut rfl (by decide) begins
      (fun entry inside => cutsOff_entry (cuts entry inside)) same
    exact ⟨rfl, rest⟩
  | _ => cases kinds

theorem cutsOff_null : CutsOff written .null := by
  intro w r s leftEnd rightEnd same
  have kinds := lead_eq_of_written_append same
  cases w with
  | null => exact ⟨rfl, List.append_cancel_left same⟩
  | _ => cases kinds

theorem cutsOff_bool (b : Bool) : CutsOff written (.bool b) := by
  intro w r s leftEnd rightEnd same
  have kinds := lead_eq_of_written_append same
  cases w with
  | bool other =>
    rw [written_bool, written_bool] at same
    cases b <;> cases other <;> simp_all
  | _ => cases kinds

/-- The literal of a value tells the value, and where it ends, whatever comes after it inside another
    literal. -/
theorem cutsOff_written (v : Value) : CutsOff written v := by
  -- on how values nest: what holds an item cuts it off before the comma or the bracket after it
  induction v with
  | null => exact cutsOff_null
  | bool b => exact cutsOff_bool b
  | int n => exact cutsOff_number rfl
  | float x => exact cutsOff_number rfl
  | text s => exact cutsOff_text s
  | bytes data => exact cutsOff_bytes data
  | list items previous => exact cutsOff_list previous
  | tuple items previous => exact cutsOff_tuple previous
  | dict entries previous => exact cutsOff_dict previous
  | transport t => exact cutsOff_member rfl
  | code c => exact cutsOff_member rfl

theorem literal_injective {v w : Value} (same : v.literal = w.literal) : v = w := by
  have texts : written v ++ [] = written w ++ [] := by rw [written, written, same]
  exact (cutsOff_written v (ends_nil isStop) (ends_nil isStop) texts).1

end Value

end ChannelTuning

import Mathlib.Algebra.Group.Nat.Defs
import ChannelTuning.Text.Quoted

namespace ChannelTuning.Text

def hexValue (c : Char) : Nat := if c.isDigit then c.toNat - 48 else c.toNat - 87

def ofHexDigits (cs : List Char) : Nat := cs.foldl (fun n c => 16 * n + hexValue c) 0

theorem hexValue_digitChar : ∀ d < 16, hexValue (Nat.digitChar d) = d := by decide

theorem length_hexDigits (width n : Nat) : (hexDigits width n).length = width := by
  induction width generalizing n with
  | zero => rfl
  | succ width previous => rw [hexDigits, List.length_append, previous, List.length_singleton]

theorem ofHexDigits_hexDigits (width n : Nat) : ofHexDigits (hexDigits width n) = n % 16 ^ width := by
  induction width generalizing n with
  | zero => simp [hexDigits, ofHexDigits, Nat.mod_one]
  | succ width previous =>
    have last := hexValue_digitChar (n % 16) (Nat.mod_lt n (by decide))
    have higher := previous (n / 16)
    rw [ofHexDigits] at higher
    rw [hexDigits, ofHexDigits, List.foldl_append, higher, List.foldl_cons, List.foldl_nil, last,
      Nat.pow_succ, Nat.mul_comm (16 ^ width), Nat.mod_mul, Nat.add_comm]

def readNumber (width : Nat) (cs : List Char) : Char × List Char :=
  (Char.ofNat (ofHexDigits (cs.take width)), cs.drop width)

def readEscaped : List Char → Option (Char × List Char)
  | '\\' :: 'n' :: rest => some ('\n', rest)
  | '\\' :: 'r' :: rest => some ('\r', rest)
  | '\\' :: 't' :: rest => some ('\t', rest)
  | '\\' :: 'x' :: rest => some (readNumber 2 rest)
  | '\\' :: 'u' :: rest => some (readNumber 4 rest)
  | '\\' :: 'U' :: rest => some (readNumber 8 rest)
  | '\\' :: c :: rest => some (c, rest)
  | c :: rest => some (c, rest)
  | [] => none

theorem readNumber_hexDigits (width : Nat) {c : Char} (small : c.toNat < 16 ^ width)
    (rest : List Char) : readNumber width (hexDigits width c.toNat ++ rest) = (c, rest) := by
  have wide := length_hexDigits width c.toNat
  rw [readNumber, List.take_left' wide, List.drop_left' wide, ofHexDigits_hexDigits,
    Nat.mod_eq_of_lt small, Char.ofNat_toNat]

theorem escapeNumber_starts (code : Nat) : ∃ rest, escapeNumber code = '\\' :: rest := by
  unfold escapeNumber
  split
  · exact ⟨_, rfl⟩
  · split <;> exact ⟨_, rfl⟩

theorem readEscaped_escapeNumber (c : Char) (rest : List Char) :
    readEscaped (escapeNumber c.toNat ++ rest) = some (c, rest) := by
  unfold escapeNumber
  split
  · rename_i small
    simp only [List.cons_append, readEscaped, readNumber_hexDigits 2 small]
  · split
    · rename_i small
      simp only [List.cons_append, readEscaped, readNumber_hexDigits 4 small]
    · have small : c.toNat < 16 ^ 8 := c.val.toNat_lt
      simp only [List.cons_append, readEscaped, readNumber_hexDigits 8 small]

theorem readEscaped_of_ne {c : Char} (ordinary : c ≠ '\\') (rest : List Char) :
    readEscaped (c :: rest) = some (c, rest) := by
  unfold readEscaped
  split <;> simp_all

theorem escape_cases (plain : Char → Bool) (quote c : Char) :
    ((c = quote ∨ c = '\\') ∧ escape plain quote c = ['\\', c]) ∨
      (c = '\n' ∧ escape plain quote c = ['\\', 'n']) ∨
      (c = '\r' ∧ escape plain quote c = ['\\', 'r']) ∨
      (c = '\t' ∧ escape plain quote c = ['\\', 't']) ∨
      (c ≠ quote ∧ c ≠ '\\' ∧ plain c = true ∧ escape plain quote c = [c]) ∨
      escape plain quote c = escapeNumber c.toNat := by
  unfold escape
  repeat' split
  all_goals simp_all

def IsQuote (c : Char) : Prop := c = '\'' ∨ c = '"'

theorem isQuote_quoteFor (cs : List Char) : IsQuote (quoteFor cs) := by
  unfold quoteFor
  split
  · exact .inr rfl
  · exact .inl rfl

section

variable {quote : Char} (known : IsQuote quote) (plain : Char → Bool)

include known

theorem readEscaped_escape (c : Char) (rest : List Char) :
    readEscaped (escape plain quote c ++ rest) = some (c, rest) := by
  rcases escape_cases plain quote c with ⟨marked, form⟩ | ⟨rfl, form⟩ | ⟨rfl, form⟩ | ⟨rfl, form⟩ |
    ⟨-, ordinary, -, form⟩ | form <;> rw [form]
  · rcases known with rfl | rfl <;> rcases marked with rfl | rfl <;> rfl
  · rfl
  · rfl
  · rfl
  · exact readEscaped_of_ne ordinary rest
  · exact readEscaped_escapeNumber c rest

theorem escape_starts (c : Char) : ∃ d rest, escape plain quote c = d :: rest ∧ d ≠ quote := by
  have apart : '\\' ≠ quote := by rcases known with rfl | rfl <;> decide
  rcases escape_cases plain quote c with ⟨-, form⟩ | ⟨-, form⟩ | ⟨-, form⟩ | ⟨-, form⟩ |
    ⟨other, -, -, form⟩ | form
  · exact ⟨_, _, form, apart⟩
  · exact ⟨_, _, form, apart⟩
  · exact ⟨_, _, form, apart⟩
  · exact ⟨_, _, form, apart⟩
  · exact ⟨_, _, form, other⟩
  · obtain ⟨rest, starts⟩ := escapeNumber_starts c.toNat
    exact ⟨_, rest, form.trans starts, apart⟩

theorem body_cut {cs ds r s : List Char}
    (same : cs.flatMap (escape plain quote) ++ quote :: r =
      ds.flatMap (escape plain quote) ++ quote :: s) : cs = ds ∧ r = s := by
  induction cs generalizing ds with
  | nil =>
    cases ds with
    | nil => exact ⟨rfl, (List.cons.inj same).2⟩
    | cons d ds =>
      obtain ⟨e, rest, starts, differs⟩ := escape_starts known plain d
      simp only [List.flatMap_nil, List.nil_append, List.flatMap_cons, starts, List.cons_append,
        List.cons.injEq] at same
      exact absurd same.1.symm differs
  | cons c cs previous =>
    cases ds with
    | nil =>
      obtain ⟨e, rest, starts, differs⟩ := escape_starts known plain c
      simp only [List.flatMap_nil, List.nil_append, List.flatMap_cons, starts, List.cons_append,
        List.cons.injEq] at same
      exact absurd same.1 differs
    | cons d ds =>
      simp only [List.flatMap_cons, List.append_assoc] at same
      have read := congrArg readEscaped same
      rw [readEscaped_escape known plain, readEscaped_escape known plain] at read
      obtain ⟨rfl, later⟩ := Prod.mk.inj (Option.some.inj read)
      obtain ⟨rfl, rest⟩ := previous later
      exact ⟨rfl, rest⟩

end

theorem quoted_cut {plain : Char → Bool} {cs ds r s : List Char}
    (same : quoted plain cs ++ r = quoted plain ds ++ s) : cs = ds ∧ r = s := by
  simp only [quoted, List.cons_append, List.append_assoc, List.nil_append, List.cons.injEq] at same
  obtain ⟨quote, body⟩ := same
  rw [← quote] at body
  exact body_cut (isQuote_quoteFor cs) plain body

end ChannelTuning.Text

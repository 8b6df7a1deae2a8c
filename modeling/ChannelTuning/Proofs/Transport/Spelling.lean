import ChannelTuning.Proofs.Text.Cutting
import ChannelTuning.Transport.Naming
import Mathlib.Data.List.Forall2
import Mathlib.Data.List.TakeWhile

namespace ChannelTuning

namespace Text

/-- A text without the longest runs of blanks at its two ends. -/
structure IsCore (core cs : List Char) : Prop where
  between : ∃ lead trail, cs = lead ++ core ++ trail ∧ (∀ c ∈ lead, isBlank c = true) ∧
    ∀ c ∈ trail, isBlank c = true
  starts : ∀ c ∈ core.head?, isBlank c = false
  ends : ∀ c ∈ core.getLast?, isBlank c = false

theorem not_of_mem_head?_dropWhile {p : Char → Bool} {cs : List Char} :
    ∀ c ∈ (cs.dropWhile p).head?, p c = false := by
  intro c first
  have outside := List.head?_dropWhile_not p cs
  rw [Option.mem_def.mp first] at outside
  exact outside

theorem isCore_trimmed (cs : List Char) : IsCore (trimmed cs) cs := by
  have lead : cs.takeWhile isBlank ++ cs.dropWhile isBlank = cs := List.takeWhile_append_dropWhile
  have trail : trimmed cs ++ ((cs.dropWhile isBlank).reverse.takeWhile isBlank).reverse =
      cs.dropWhile isBlank := by
    rw [trimmed, ← List.reverse_append, List.takeWhile_append_dropWhile, List.reverse_reverse]
  refine ⟨⟨cs.takeWhile isBlank, ((cs.dropWhile isBlank).reverse.takeWhile isBlank).reverse,
    ?_, ?_, ?_⟩, ?_, ?_⟩
  · rw [List.append_assoc, trail, lead]
  · intro c member
    exact List.mem_takeWhile_imp member
  · intro c member
    exact List.mem_takeWhile_imp (List.mem_reverse.mp member)
  · intro c first
    apply not_of_mem_head?_dropWhile
    rw [← trail, List.head?_append, Option.mem_def.mp first]
    rfl
  · intro c last
    rw [trimmed, List.getLast?_reverse] at last
    exact not_of_mem_head?_dropWhile c last

theorem IsCore.eq_trimmed {core cs : List Char} (isCore : IsCore core cs) : core = trimmed cs := by
  obtain ⟨⟨lead, trail, rfl, before, after⟩, starts, ends⟩ := isCore
  by_cases nothing : core = []
  · subst nothing
    have blanks : (lead ++ [] ++ trail).dropWhile isBlank = [] := by
      rw [List.dropWhile_eq_nil_iff, List.append_nil]
      intro c member
      exact (List.mem_append.mp member).elim (before c) (after c)
    rw [trimmed, blanks]
    rfl
  · have left : (lead ++ core ++ trail).dropWhile isBlank = core ++ trail := by
      rw [List.append_assoc]
      refine dropWhile_append_of_head before ?_
      rwa [List.head?_append_of_ne_nil core nothing]
    have right : (trail.reverse ++ core.reverse).dropWhile isBlank = core.reverse := by
      refine dropWhile_append_of_head (fun c member => after c (List.mem_reverse.mp member)) ?_
      rwa [List.head?_reverse]
    rw [trimmed, left, List.reverse_append, right, List.reverse_reverse]

/-- A letter is spelled by itself, in either case, and an `I` also by the small letter without a
    dot, whose capital it is. -/
def Spells (letter c : Char) : Prop :=
  c = letter ∨ c = letter.toLower ∨ letter = 'I' ∧ c = '\u0131'

instance (letter c : Char) : Decidable (Spells letter c) :=
  inferInstanceAs (Decidable (_ ∨ _ ∨ _ ∧ _))

def nameLetters : List Char := ['A', 'E', 'I', 'L', 'N', 'O', 'P', 'T', 'U']

theorem capital_of_spells {letter c : Char} (known : letter ∈ nameLetters)
    (spells : Spells letter c) : capital c = [letter] := by
  have either : ∀ letter ∈ nameLetters,
      capital letter = [letter] ∧ capital letter.toLower = [letter] :=
    List.forall_iff_forall_mem.mp (by decide +kernel)
  rcases spells with rfl | rfl | ⟨rfl, rfl⟩
  · exact (either _ known).1
  · exact (either _ known).2
  · decide +kernel

theorem toNat_ofNat_of_mem_nameLetters {code : Nat} (known : Char.ofNat code ∈ nameLetters) :
    0 < code ∧ (Char.ofNat code).toNat = code := by
  by_cases valid : code.isValidChar
  · have same : (Char.ofNat code).toNat = code := by
      rw [Char.ofNat, dif_pos valid]
      rfl
    refine ⟨Nat.pos_of_ne_zero ?_, same⟩
    rintro rfl
    exact absurd known (by decide)
  · rw [Char.ofNat, dif_neg valid] at known
    exact absurd known (by decide)

/-- No capital of several letters has letters of names only, and the runs of capitals that reach
    these letters are those of the Latin letters and of the dotless `i`. -/
theorem spells_of_capital {c : Char} (known : ∀ d ∈ capital c, d ∈ nameLetters) :
    ∃ letter ∈ nameLetters, capital c = [letter] ∧ Spells letter c := by
  have foreign : ∀ entry ∈ longCapitals,
      ¬ (entry.2.map Char.ofNat).Forall fun d => d ∈ nameLetters := by
    decide +kernel
  have reached : ∀ shift ∈ caseShifts, nameLetters.Forall fun letter =>
      shift.covers (letter.toNat - shift.offset).toNat = true →
        (letter.toNat - shift.offset).toNat = letter.toLower.toNat ∨
          letter = 'I' ∧ (letter.toNat - shift.offset).toNat = 0x131 := by
    decide +kernel
  unfold capital at known ⊢
  split at known
  · rename_i entry found
    have listed := List.mem_of_find?_eq_some found
    exact absurd (List.forall_iff_forall_mem.mpr known) (foreign entry listed)
  · split at known
    · rename_i shift found
      have letter := known _ (.head _)
      obtain ⟨positive, code⟩ := toNat_ofNat_of_mem_nameLetters letter
      have listed := List.mem_of_find?_eq_some found
      have covered := List.find?_some found
      -- the letter and the run determine the character, so nine letters are all there is to look at
      have preimage : ((Char.ofNat (c.toNat + shift.offset).toNat).toNat - shift.offset).toNat =
          c.toNat := by
        omega
      have small := List.forall_iff_forall_mem.mp (reached shift listed) _ letter
        (by rw [preimage]; exact covered)
      rw [preimage] at small
      refine ⟨_, letter, rfl, .inr ?_⟩
      rcases small with same | ⟨dotted, same⟩
      · exact .inl (Char.toNat_inj.mp same)
      · exact .inr ⟨dotted, Char.toNat_inj.mp same⟩
    · have letter := known c (.head _)
      exact ⟨c, letter, rfl, .inl rfl⟩

theorem capitalized_eq_iff {cs name : List Char} (known : ∀ letter ∈ name, letter ∈ nameLetters) :
    capitalized cs = name ↔ List.Forall₂ (fun c letter => Spells letter c) cs name := by
  induction cs generalizing name with
  | nil => rw [List.forall₂_nil_left_iff, capitalized, List.flatMap_nil, eq_comm]
  | cons c rest previous =>
    rw [capitalized, List.flatMap_cons]
    constructor
    · rintro rfl
      obtain ⟨letter, -, single, spells⟩ :=
        spells_of_capital fun d member => known d (List.mem_append_left _ member)
      rw [single]
      have later := previous fun d member => known d (List.mem_append_right _ member)
      exact .cons spells (later.mp rfl)
    · intro spelled
      cases spelled with
      | cons spells later =>
        obtain ⟨first, others⟩ := List.forall_mem_cons.mp known
        have single := capital_of_spells first spells
        have same : capitalized rest = _ := (previous others).mpr later
        rw [capitalized] at same
        rw [single, same]
        rfl

/-- A character that stands in no name: a blank, one with a capital of several letters, or one that
    cannot be seen although it is not a blank. -/
def IsForeign (c : Char) : Prop :=
  isBlank c = true ∨ 1 < (capital c).length ∨ c ∈ ['\u180E', '\u200B', '\u2060', '\uFEFF']

theorem not_isForeign_of_spells {letter c : Char} (known : letter ∈ nameLetters)
    (spells : Spells letter c) : ¬ IsForeign c := by
  have visible : ∀ letter ∈ nameLetters, ∀ d ∈ [letter, letter.toLower, '\u0131'],
      isBlank d = false ∧ d ∉ ['\u180E', '\u200B', '\u2060', '\uFEFF'] := by
    simp only [← List.forall_iff_forall_mem]
    decide
  have listed : c ∈ [letter, letter.toLower, '\u0131'] := by
    rcases spells with rfl | rfl | ⟨-, rfl⟩ <;> simp
  obtain ⟨solid, seen⟩ := visible letter known c listed
  rintro (blank | long | unseen)
  · rw [solid] at blank
    cases blank
  · rw [capital_of_spells known spells] at long
    exact Nat.lt_irrefl 1 long
  · exact seen unseen

end Text

namespace Transport

def SpelledBy (t : Transport) (cs : List Char) : Prop :=
  List.Forall₂ (fun c letter => Text.Spells letter c) cs t.name.toList

instance (t : Transport) (cs : List Char) : Decidable (t.SpelledBy cs) :=
  inferInstanceAs (Decidable (List.Forall₂ _ _ _))

def RefusedAs (v : Value) (kind : FailureKind) (subject : Value) : Prop :=
  ∃ fault failure, ofName v = .error fault ∧ fault.failure? = some failure ∧ failure.kind = kind ∧
    failure.subject = some subject

theorem mem_nameLetters_of_mem_name (t : Transport) :
    ∀ letter ∈ t.name.toList, letter ∈ Text.nameLetters := by
  rw [← List.forall_iff_forall_mem]
  cases t <;> decide

theorem named?_eq_some_iff {name : List Char} {t : Transport} :
    named? name = some t ↔ name = t.name.toList := by
  constructor
  · intro found
    have same := List.find?_some found
    exact (beq_iff_eq.mp same).symm
  · rintro rfl
    exact t.named?_name

theorem SpelledBy.exists_letter {t : Transport} {cs : List Char} (spelled : t.SpelledBy cs)
    {c : Char} (member : c ∈ cs) : ∃ letter ∈ Text.nameLetters, Text.Spells letter c := by
  have name := (Text.capitalized_eq_iff t.mem_nameLetters_of_mem_name).mpr spelled
  obtain ⟨letter, known, -, spells⟩ := Text.spells_of_capital fun d capital =>
    t.mem_nameLetters_of_mem_name d (name ▸ List.mem_flatMap.mpr ⟨c, member, capital⟩)
  exact ⟨letter, known, spells⟩

theorem SpelledBy.not_isForeign {t : Transport} {cs : List Char} (spelled : t.SpelledBy cs)
    {c : Char} (member : c ∈ cs) : ¬ Text.IsForeign c := by
  obtain ⟨letter, known, spells⟩ := spelled.exists_letter member
  exact Text.not_isForeign_of_spells known spells

theorem ofName_text_eq_ok_iff {s : String} {t : Transport} :
    ofName (.text s) = .ok t ↔ t.SpelledBy (Text.trimmed s.toList) := by
  rw [SpelledBy, ← Text.capitalized_eq_iff t.mem_nameLetters_of_mem_name, ← named?_eq_some_iff,
    ofName]
  cases named? (Text.capitalized (Text.trimmed s.toList)) <;> simp

theorem refusedAs_of_not_spelledBy {s : String}
    (unspelled : ∀ t : Transport, ¬ t.SpelledBy (Text.trimmed s.toList)) :
    RefusedAs (.text s) .unknownTransport (.text s) := by
  cases came : ofName (.text s) with
  | ok t => exact absurd (ofName_text_eq_ok_iff.mp came) (unspelled t)
  | error fault =>
    obtain rfl := fault_of_refused came
    exact ⟨_, _, came, rfl, rfl, rfl⟩

/-- A text names a transport if, without the blanks around it, it has a character for each letter of
    the name: the letter in either case, or an `I` without its dot. No other text names one, and
    nothing but a text does. The error is about the text as it was given, or about what is shown of
    a value that is not a text, a transport included. -/
theorem names_have_exactly_these_spellings :
    (∀ s : String, ∃ core, Text.IsCore core s.toList ∧
      (∀ other, Text.IsCore other s.toList → other = core) ∧
      (∀ t : Transport, ofName (.text s) = .ok t ↔ t.SpelledBy core) ∧
      ((∀ t : Transport, ¬ t.SpelledBy core) → RefusedAs (.text s) .unknownTransport (.text s)) ∧
      ((∃ c ∈ core, Text.IsForeign c) → RefusedAs (.text s) .unknownTransport (.text s))) ∧
    RefusedAs .null .missingValue (.text "channel_type") ∧
    ∀ v : Value, v ≠ .null → (∀ s, v ≠ .text s) →
      RefusedAs v .unknownTransport (.text v.display) := by
  refine ⟨fun s => ?_, ⟨_, _, rfl, rfl, rfl, rfl⟩, ?_⟩
  · refine ⟨Text.trimmed s.toList, Text.isCore_trimmed _, fun _ other => other.eq_trimmed,
      fun t => ofName_text_eq_ok_iff, refusedAs_of_not_spelledBy, ?_⟩
    rintro ⟨c, member, foreign⟩
    exact refusedAs_of_not_spelledBy fun t spelled => spelled.not_isForeign member foreign
  · intro v given other
    cases v with
    | null => exact absurd rfl given
    | text s => exact absurd rfl (other s)
    | _ => exact ⟨_, _, rfl, rfl, rfl, rfl⟩

/-- Blanks of any kind around a name and an `I` without its dot do no harm, but a blank inside it
    does, and a transport is not the name of itself. -/
theorem spelling_without_dot :
    ofName (.text "\u2003n\u0131O\t") = .ok .nio ∧
      RefusedAs (.text "n io") .unknownTransport (.text "n io") ∧
      RefusedAs (.transport .nio) .unknownTransport (.text "ChannelType.NIO") := by
  obtain ⟨texts, -, others⟩ := names_have_exactly_these_spellings
  refine ⟨?_, ?_, others (.transport .nio) (by simp) (by simp)⟩
  · obtain ⟨core, -, unique, named, -⟩ := texts "\u2003n\u0131O\t"
    rw [named, ← unique _ (Text.isCore_trimmed _)]
    decide
  · obtain ⟨core, -, unique, -, -, foreign⟩ := texts "n io"
    rw [← unique _ (Text.isCore_trimmed _)] at foreign
    exact foreign ⟨' ', by decide, .inl (by decide)⟩

end Transport

end ChannelTuning

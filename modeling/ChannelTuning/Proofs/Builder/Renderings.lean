import ChannelTuning.Proofs.Builder.Runs
import ChannelTuning.Proofs.Number.Numerals
import ChannelTuning.Proofs.Options.Equality
import ChannelTuning.Proofs.Value.Named

namespace ChannelTuning

open Text

def Setting.read? : Setting → List Char → Option Value
  | .amount _, cs => (readInteger? cs).map .int
  | .transport, cs => (Transport.named? cs).map .transport

theorem toList_shown_int (n : Int) : (braced.shown (.int n)).toList = integerText n :=
  toList_toString_int n

theorem isWord_shown_int (n : Int) : IsWord (braced.shown (.int n)).toList := by
  intro c member
  rw [toList_shown_int] at member
  rcases digit_or_sign_of_mem_integerText n c member with digit | rfl
  · exact isWordChar_of_isDigit digit
  · rfl

theorem isWord_shown_transport (t : Transport) : IsWord (braced.shown (.transport t)).toList := by
  refine List.all_eq_true.mp ?_
  cases t <;> decide

theorem lookup_map_of_mem {α : Type} {key text : α → List Char}
    (injective : ∀ ⦃a b⦄, key a = key b → a = b) {items : List α} {a : α} (member : a ∈ items) :
    (items.map fun b => (key b, text b)).lookup (key a) = some (text a) := by
  induction items with
  | nil => cases member
  | cons b rest previous =>
    rw [List.map_cons, List.lookup_cons]
    by_cases same : key a = key b
    · rw [injective same, beq_self_eq_true]
    · have differs : (key a == key b) = false := beq_eq_false_iff_ne.mpr same
      rw [differs]
      refine previous ((List.mem_cons.mp member).resolve_left ?_)
      rintro rfl
      exact same rfl

theorem Value.equal_int_iff (m n : Int) : (Value.int m).equal (.int n) = true ↔ m = n := by
  simp [Value.equal, Value.number?, Number.same]

namespace Builder

theorem isWord_shown_value (b : Builder) (s : Setting) :
    IsWord (braced.shown (b.value s)).toList := by
  cases s with
  | amount a => exact isWord_shown_int (b.amount a)
  | transport => exact isWord_shown_transport b.transport

theorem isWord_shown_get (b : Builder) (f : Field) :
    IsWord (braced.shown (b.build.get f)).toList := by
  cases f with
  | setting s =>
    rw [get_build]
    exact b.isWord_shown_value s
  | keepAliveWithoutCalls =>
    have disabled : IsWord (braced.shown (.bool keepAliveWithoutCallsDisabled)).toList :=
      List.all_eq_true.mp (by decide)
    exact disabled
  | idleTimeout => exact isWord_shown_int idleTimeoutDisabled

theorem namedTexts_display (b : Builder) :
    namedTexts b.display =
      Setting.all.map fun s => (s.name.toList, (braced.shown (b.value s)).toList) := by
  have plain : Plain (Setting.all.map fun s => (s.name, b.value s)) :=
    List.forall_mem_map.mpr fun s _ => ⟨Field.isWord_name s, b.isWord_shown_value s⟩
  have title : IsWord "Builder".toList := List.all_eq_true.mp (by decide)
  rw [display, plain.namedTexts_braced title (List.cons_ne_nil _ _), List.map_map]
  rfl

theorem namedTexts_build_display (b : Builder) :
    namedTexts b.build.display =
      Field.all.map fun f => (f.name.toList, (braced.shown (b.build.get f)).toList) := by
  have plain : Plain (Field.all.map fun f => (f.name, b.build.get f)) :=
    List.forall_mem_map.mpr fun f _ => ⟨f.isWord_name, b.isWord_shown_get f⟩
  have title : IsWord "ClientOption".toList := List.all_eq_true.mp (by decide)
  rw [Options.display, Options.entries, plain.namedTexts_braced title (List.cons_ne_nil _ _),
    List.map_map]
  rfl

theorem textAfter?_display (b : Builder) (s : Setting) :
    textAfter? b.display s.name = some (braced.shown (b.value s)).toList := by
  rw [textAfter?, namedTexts_display]
  exact lookup_map_of_mem (fun _ _ same => Setting.name_injective (String.toList_injective same))
    s.mem_all

theorem textAfter?_build_display (b : Builder) (s : Setting) :
    textAfter? b.build.display s.name = some (braced.shown (b.value s)).toList := by
  rw [textAfter?, namedTexts_build_display, ← b.get_build s]
  exact lookup_map_of_mem (fun _ _ same => Field.name_injective (String.toList_injective same))
    (Field.setting s).mem_all

theorem read?_shown (b : Builder) (s : Setting) :
    s.read? (braced.shown (b.value s)).toList = some (b.value s) := by
  cases s with
  | amount a =>
    rw [value, toList_shown_int, Setting.read?, readInteger?_integerText]
    rfl
  | transport =>
    have shown : braced.shown (.transport b.transport) = b.transport.name := rfl
    rw [value, shown, Setting.read?, Transport.named?_name]
    rfl

theorem ext_value {b c : Builder} (same : ∀ s, b.value s = c.value s) : b = c :=
  ext_amount (fun a => Value.int.inj (same (.amount a))) (Value.transport.inj (same .transport))

theorem eq_of_shown {b c : Builder}
    (same : ∀ s : Setting, (braced.shown (b.value s)).toList = (braced.shown (c.value s)).toList) :
    b = c := by
  refine ext_value fun s => ?_
  have read := b.read?_shown s
  rw [same, c.read?_shown] at read
  exact (Option.some.inj read).symm

theorem display_injective {b c : Builder} (same : b.display = c.display) : b = c := by
  refine eq_of_shown fun s => ?_
  have text := b.textAfter?_display s
  rw [same, c.textAfter?_display] at text
  exact (Option.some.inj text).symm

theorem build_display_injective {b c : Builder} (same : b.build.display = c.build.display) :
    b = c := by
  refine eq_of_shown fun s => ?_
  have text := b.textAfter?_build_display s
  rw [same, c.textAfter?_build_display] at text
  exact (Option.some.inj text).symm

theorem value_equal_iff (b c : Builder) (s : Setting) :
    (b.value s).equal (c.value s) = true ↔ b.value s = c.value s := by
  cases s with
  | amount a => simp [value, Value.equal_int_iff]
  | transport => exact Value.equal_atom_iff (.transport b.transport)

theorem equal_build_iff (b c : Builder) : b.build.equal c.build = true ↔ b = c := by
  constructor
  · intro same
    refine ext_value fun s => ?_
    have here := Options.equal_iff.mp same (.setting s)
    rw [get_build, get_build] at here
    exact (value_equal_iff b c s).mp here
  · rintro rfl
    exact Options.equal_self b.nanFree_build

/-- The two renderings are faithful, and agree. Builders are rendered alike, and so are the options
    that they build, exactly when these options are equal. Every setting can be read back from
    either rendering, where the same text stands after its name, though the names stand in another
    order there. -/
theorem renderings_agree :
    (∀ b c : Builder, (b.display = c.display ↔ b.build.equal c.build = true) ∧
      (b.build.equal c.build = true ↔ b.build.display = c.build.display)) ∧
    (∀ (b : Builder) (s : Setting), ∃ text : List Char,
      textAfter? b.display s.name = some text ∧ textAfter? b.build.display s.name = some text ∧
        s.read? text = some (b.value s)) ∧
    (∀ b : Builder, (namedTexts b.display).map Prod.fst = Setting.all.map (·.name.toList) ∧
      (namedTexts b.build.display).map Prod.fst = Field.all.map (·.name.toList)) ∧
    Field.all.filter (!·.isWithheld) ≠ Setting.all.map .setting := by
  refine ⟨fun b c => ⟨?_, ?_⟩, ?_, ?_, by decide⟩
  · rw [equal_build_iff]
    constructor
    · exact display_injective
    · rintro rfl
      rfl
  · rw [equal_build_iff]
    constructor
    · rintro rfl
      rfl
    · exact build_display_injective
  · intro b s
    exact ⟨_, b.textAfter?_display s, b.textAfter?_build_display s, b.read?_shown s⟩
  · intro b
    rw [namedTexts_display, namedTexts_build_display, List.map_map, List.map_map]
    exact ⟨rfl, rfl⟩

end Builder

end ChannelTuning

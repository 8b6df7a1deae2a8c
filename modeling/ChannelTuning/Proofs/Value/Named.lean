import ChannelTuning.Field
import ChannelTuning.Value.Rendering
import ChannelTuning.Proofs.Text.Cutting

namespace ChannelTuning

open Text

def betweenBraces (cs : List Char) : List Char :=
  ((cs.dropWhile (· != '{')).drop 1).takeWhile (· != '}')

def nameAndText (part : List Char) : List Char × List Char :=
  (part.takeWhile (· != '='), (part.dropWhile (· != '=')).drop 1)

/-- Reads a rendering back: what it names, in its order, each with the text after the equals
    sign. -/
def namedTexts (rendering : String) : List (List Char × List Char) :=
  ((betweenBraces rendering.toList).splitOn ',').map fun part => nameAndText (part.dropWhile (· == ' '))

def textAfter? (rendering name : String) : Option (List Char) :=
  (namedTexts rendering).lookup name.toList

theorem Field.isWord_name (f : Field) : IsWord f.name.toList := by
  refine List.all_eq_true.mp ?_
  rcases f with (a | _) | _ | _
  · cases a <;> decide +kernel
  all_goals decide +kernel

theorem takeWhile_separator {separator : Char} {cs : List Char} (free : ∀ c ∈ cs, c ≠ separator)
    (rest : List Char) : (cs ++ separator :: rest).takeWhile (· != separator) = cs := by
  refine takeWhile_append_of_head (fun c member => bne_iff_ne.mpr (free c member)) ?_
  simp

theorem dropWhile_separator {separator : Char} {cs : List Char} (free : ∀ c ∈ cs, c ≠ separator)
    (rest : List Char) :
    (cs ++ separator :: rest).dropWhile (· != separator) = separator :: rest := by
  refine dropWhile_append_of_head (fun c member => bne_iff_ne.mpr (free c member)) ?_
  simp

theorem append_tail_eq_intercalate {α : Type} (form : α → List Char) (first : List Char)
    (rest : List α) :
    (first ++ rest.flatMap fun a => ',' :: ' ' :: form a) =
      [','].intercalate (first :: rest.map fun a => ' ' :: form a) := by
  induction rest generalizing first with
  | nil => simp
  | cons a rest previous =>
    have later := previous (' ' :: form a)
    simp [List.intercalate_cons_cons] at later ⊢
    exact later

theorem splitOn_listed {α : Type} {form : α → List Char} (a : α) (rest : List α)
    (free : ∀ b ∈ a :: rest, ',' ∉ form b) :
    (listed form (a :: rest)).splitOn ',' = form a :: rest.map fun b => ' ' :: form b := by
  rw [listed, append_tail_eq_intercalate]
  refine List.splitOn_intercalate ',' ?_ (List.cons_ne_nil _ _)
  obtain ⟨first, later⟩ := List.forall_mem_cons.mp free
  refine List.forall_mem_cons.mpr ⟨first, List.forall_mem_map.mpr fun b member comma => ?_⟩
  rcases List.mem_cons.mp comma with blank | inner
  · exact absurd blank (by decide)
  · exact later b member inner

theorem dropWhile_blank {cs : List Char} (begins : ∃ c rest, cs = c :: rest ∧ c ≠ ' ') :
    cs.dropWhile (· == ' ') = cs ∧ (' ' :: cs).dropWhile (· == ' ') = cs := by
  obtain ⟨c, rest, rfl, other⟩ := begins
  simp [other]

theorem parts_listed {α : Type} {form : α → List Char} {items : List α} (nonempty : items ≠ [])
    (begins : ∀ a ∈ items, ∃ c rest, form a = c :: rest ∧ c ≠ ' ')
    (free : ∀ a ∈ items, ',' ∉ form a) :
    ((listed form items).splitOn ',').map (List.dropWhile (· == ' ')) = items.map form := by
  obtain ⟨a, rest, rfl⟩ := List.exists_cons_of_ne_nil nonempty
  rw [splitOn_listed a rest free, List.map_cons, List.map_cons, List.map_map,
    (dropWhile_blank (begins a (.head _))).1]
  congr 1
  exact List.map_congr_left fun b member => (dropWhile_blank (begins b (.tail _ member))).2

theorem mem_listed {α : Type} {form : α → List Char} {items : List α} {c : Char}
    (member : c ∈ listed form items) : c = ',' ∨ c = ' ' ∨ ∃ a ∈ items, c ∈ form a := by
  cases items with
  | nil => cases member
  | cons a rest =>
    rcases List.mem_append.mp member with first | later
    · exact .inr (.inr ⟨a, .head _, first⟩)
    · obtain ⟨b, inRest, there⟩ := List.mem_flatMap.mp later
      rcases List.mem_cons.mp there with comma | there
      · exact .inl comma
      · rcases List.mem_cons.mp there with blank | there
        · exact .inr (.inl blank)
        · exact .inr (.inr ⟨b, .tail _ inRest, there⟩)

def namedPart (entry : String × Value) : List Char :=
  entry.1.toList ++ '=' :: (braced.shown entry.2).toList

theorem toList_braced (title : String) (entries : List (String × Value)) :
    (braced title entries).toList =
      title.toList ++ '{' :: (listed namedPart entries ++ ['}']) := by
  have entryText : (fun entry : String × Value =>
      (entry.1 ++ "=" ++ braced.shown entry.2).toList) = namedPart := by
    funext entry
    simp [namedPart]
  rw [braced, String.toList_append, String.toList_append, String.toList_append,
    toList_commaSeparated_map, entryText, List.append_assoc, List.append_assoc]
  rfl

def Plain (entries : List (String × Value)) : Prop :=
  ∀ entry ∈ entries, IsWord entry.1.toList ∧ IsWord (braced.shown entry.2).toList

namespace Plain

variable {entries : List (String × Value)} (plain : Plain entries)

include plain

theorem mem_namedPart {entry : String × Value} (known : entry ∈ entries) {c : Char}
    (member : c ∈ namedPart entry) : isWordChar c = true ∨ c = '=' := by
  obtain ⟨name, text⟩ := plain entry known
  rcases List.mem_append.mp member with inName | later
  · exact .inl (name c inName)
  · rcases List.mem_cons.mp later with equals | inText
    · exact .inr equals
    · exact .inl (text c inText)

theorem namedPart_free (separator : Char) (separates : isWordChar separator = false)
    (other : separator ≠ '=') : ∀ entry ∈ entries, separator ∉ namedPart entry := by
  intro entry known member
  rcases plain.mem_namedPart known member with word | equals
  · rw [separates] at word
    cases word
  · exact other equals

theorem namedPart_starts : ∀ entry ∈ entries, ∃ c rest, namedPart entry = c :: rest ∧ c ≠ ' ' :=
  fun entry known => (plain entry known).1.starts ' ' rfl (by decide) _

theorem betweenBraces_braced {title : String} (titleWord : IsWord title.toList) :
    betweenBraces (braced title entries).toList = listed namedPart entries := by
  have free : ∀ c ∈ listed namedPart entries, c ≠ '}' := by
    rintro c member rfl
    rcases mem_listed member with comma | blank | ⟨entry, known, there⟩
    · exact absurd comma (by decide)
    · exact absurd blank (by decide)
    · exact plain.namedPart_free '}' rfl (by decide) entry known there
  rw [betweenBraces, toList_braced, dropWhile_separator (titleWord.ne_of_mem '{' rfl), List.drop_one,
    List.tail_cons, takeWhile_separator free]

theorem nameAndText_namedPart {entry : String × Value} (known : entry ∈ entries) :
    nameAndText (namedPart entry) = (entry.1.toList, (braced.shown entry.2).toList) := by
  have free := (plain entry known).1.ne_of_mem '=' rfl
  rw [nameAndText, namedPart, takeWhile_separator free, dropWhile_separator free, List.drop_one,
    List.tail_cons]

theorem namedTexts_braced {title : String} (titleWord : IsWord title.toList)
    (nonempty : entries ≠ []) :
    namedTexts (braced title entries) =
      entries.map fun entry => (entry.1.toList, (braced.shown entry.2).toList) := by
  have parts := parts_listed nonempty plain.namedPart_starts
    (plain.namedPart_free ',' rfl (by decide))
  have read := congrArg (List.map nameAndText) parts
  rw [List.map_map, List.map_map] at read
  rw [namedTexts, plain.betweenBraces_braced titleWord]
  refine read.trans ?_
  exact List.map_congr_left fun entry known => plain.nameAndText_namedPart known

end Plain

example : namedTexts "Limits\x7blimit_time=0, limit_count=-12\x7d" =
    [("limit_time".toList, ['0']), ("limit_count".toList, ['-', '1', '2'])] := by
  decide +kernel

end ChannelTuning

import ChannelTuning.Value.Equality
import ChannelTuning.Proofs.Value.Kinds
import Mathlib.Data.Fintype.EquivFin
import Mathlib.Data.List.Forall2
import Mathlib.Data.List.Pairwise

namespace ChannelTuning

theorem Number.same_iff {x y : Number} : x.same y = true ↔ x = y ∧ x ≠ .nan := by
  cases x <;> cases y <;> simp [same]

theorem forall₂_of_mem {α β : Type} {r s : α → β → Prop} {xs : List α} {ys : List β}
    (related : List.Forall₂ r xs ys) (implied : ∀ x ∈ xs, ∀ y, r x y → s x y) :
    List.Forall₂ s xs ys := by
  have both := (List.forall₂_and_left (p := fun x => ∀ y, r x y → s x y) xs ys).mpr
    ⟨implied, related⟩
  exact both.imp fun _ y step => step.1 y step.2

theorem forall₂_trans {α β γ : Type} {r : α → β → Prop} {s : β → γ → Prop} {t : α → γ → Prop}
    {xs : List α} {ys : List β} {zs : List γ} (first : List.Forall₂ r xs ys)
    (second : List.Forall₂ s ys zs) (implied : ∀ x ∈ xs, ∀ y z, r x y → s y z → t x z) :
    List.Forall₂ t xs zs := by
  induction first generalizing zs with
  | nil =>
    cases second
    exact .nil
  | cons here _ previous =>
    cases second with
    | cons there rest =>
      obtain ⟨head, tail⟩ := List.forall_mem_cons.mp implied
      exact .cons (head _ _ here there) (previous rest tail)

theorem Floating.number_eq_nan {x : Floating} (nan : x.number = .nan) : x = .nan := by
  cases x with
  | nan => rfl
  | infinite negative => cases nan
  | finite negative magnitude =>
    cases near : magnitude.nearest <;> simp [number, near] at nan

namespace Value

inductive IsAtom : Value → Prop
  | null : IsAtom .null
  | text (s : String) : IsAtom (.text s)
  | bytes (data : List UInt8) : IsAtom (.bytes data)
  | transport (t : Transport) : IsAtom (.transport t)
  | code (c : Code) : IsAtom (.code c)

/-- Equality by what values hold. Numbers of whatever kinds are equal if they stand for exactly the
    same number, lists and tuples if they are so item by item. Dictionaries are equal if entries
    with equal keys and equal values can be paired so that no entry of either is left over; in which
    order the entries stand makes no difference. -/
inductive Equals : Value → Value → Prop
  | atom {v : Value} (single : v.IsAtom) : Equals v v
  | number {v w : Value} {x : Number} (first : v.number? = some x) (second : w.number? = some x)
      (real : x ≠ .nan) : Equals v w
  | list {xs ys : List Value} (count : xs.length = ys.length)
      (items : ∀ x y, (x, y) ∈ xs.zip ys → Equals x y) : Equals (.list xs) (.list ys)
  | tuple {xs ys : List Value} (count : xs.length = ys.length)
      (items : ∀ x y, (x, y) ∈ xs.zip ys → Equals x y) : Equals (.tuple xs) (.tuple ys)
  | dict {xs ys : List (Value × Value)} (paired : Value × Value → Value × Value → Prop)
      (keys : ∀ x y, paired x y → Equals x.1 y.1) (values : ∀ x y, paired x y → Equals x.2 y.2)
      (forth : ∀ x ∈ xs, ∃ y ∈ ys, paired x y) (back : ∀ y ∈ ys, ∃ x ∈ xs, paired x y) :
      Equals (.dict xs) (.dict ys)

inductive NanFree : Value → Prop
  | atom {v : Value} (single : v.IsAtom) : NanFree v
  | bool (b : Bool) : NanFree (.bool b)
  | int (n : Int) : NanFree (.int n)
  | float {x : Floating} (real : x ≠ .nan) : NanFree (.float x)
  | list {items : List Value} (inner : ∀ v ∈ items, NanFree v) : NanFree (.list items)
  | tuple {items : List Value} (inner : ∀ v ∈ items, NanFree v) : NanFree (.tuple items)
  | dict {entries : List (Value × Value)} (keys : ∀ entry ∈ entries, NanFree entry.1)
      (values : ∀ entry ∈ entries, NanFree entry.2) : NanFree (.dict entries)

/-- No two entries have equal keys, as is the case in every dictionary that can be made. -/
def DistinctKeys (entries : List (Value × Value)) : Prop :=
  entries.Pairwise fun x y => ¬ x.1.equal y.1 = true

/-- Lists and dictionaries cannot be members of a set, nor can a tuple with one of these in it, at
    any depth. -/
inductive Unhashable : Value → Prop
  | list (items : List Value) : Unhashable (.list items)
  | dict (entries : List (Value × Value)) : Unhashable (.dict entries)
  | tuple {items : List Value} {v : Value} (member : v ∈ items) (inner : v.Unhashable) :
      Unhashable (.tuple items)

@[elab_as_elim]
theorem nestedKinds {motive : Value → Prop} (atom : ∀ v, v.IsAtom → motive v)
    (number : ∀ v, v.IsNumber → motive v)
    (list : ∀ items, (∀ v ∈ items, motive v) → motive (.list items))
    (tuple : ∀ items, (∀ v ∈ items, motive v) → motive (.tuple items))
    (dict : ∀ entries, (∀ entry ∈ entries, motive entry.1 ∧ motive entry.2) →
      motive (.dict entries)) (v : Value) : motive v := by
  induction v with
  | null => exact atom _ .null
  | bool b => exact number _ (.bool b)
  | int n => exact number _ (.int n)
  | float x => exact number _ (.float x)
  | text s => exact atom _ (.text s)
  | bytes data => exact atom _ (.bytes data)
  | list items previous => exact list items previous
  | tuple items previous => exact tuple items previous
  | dict entries previous => exact dict entries previous
  | transport t => exact atom _ (.transport t)
  | code c => exact atom _ (.code c)

section Equality

variable {v w : Value}

theorem equal_atom_iff (single : v.IsAtom) : v.equal w = true ↔ v = w := by
  cases single <;> cases w <;> simp [equal, number?]

theorem equal_of_number? {x : Number} (stands : v.number? = some x) :
    v.equal w = w.number?.any x.same := by
  cases v with
  | bool | int | float =>
    cases stands
    cases w <;> rfl
  | _ => cases stands

theorem equal_number_iff (number : v.IsNumber) :
    v.equal w = true ↔ ∃ x, v.number? = some x ∧ w.number? = some x ∧ x ≠ .nan := by
  obtain ⟨x, stands⟩ := isNumber_iff.mp number
  rw [equal_of_number? stands, stands]
  cases w.number? with
  | none => simp
  | some y =>
    rw [Option.any_some, Number.same_iff]
    constructor
    · rintro ⟨rfl, real⟩
      exact ⟨x, rfl, rfl, real⟩
    · rintro ⟨z, first, second, real⟩
      cases first
      cases second
      exact ⟨rfl, real⟩

theorem equalItems_iff {xs ys : List Value} :
    equalItems xs ys = true ↔ List.Forall₂ (fun x y => x.equal y = true) xs ys := by
  induction xs generalizing ys with
  | nil => cases ys <;> simp [equalItems]
  | cons x rest previous => cases ys <;> simp [equalItems, previous]

theorem equal_list_iff {xs : List Value} : (list xs).equal w = true ↔
    ∃ ys, w = .list ys ∧ List.Forall₂ (fun x y => x.equal y = true) xs ys := by
  cases w <;> simp [equal, number?, equalItems_iff]

theorem equal_tuple_iff {xs : List Value} : (tuple xs).equal w = true ↔
    ∃ ys, w = .tuple ys ∧ List.Forall₂ (fun x y => x.equal y = true) xs ys := by
  cases w <;> simp [equal, number?, equalItems_iff]

theorem equal_dicts_iff {xs ys : List (Value × Value)} : (dict xs).equal (dict ys) = true ↔
    (∀ x ∈ xs, ∃ y ∈ ys, x.1.equal y.1 = true ∧ x.2.equal y.2 = true) ∧
      ∀ y ∈ ys, ∃ x ∈ xs, x.1.equal y.1 = true ∧ x.2.equal y.2 = true := by
  simp only [equal_dict, Bool.and_eq_true, List.all_eq_true, List.any_eq_true]

theorem equal_dict_iff {xs : List (Value × Value)} : (dict xs).equal w = true ↔
    ∃ ys, w = .dict ys ∧
      (∀ x ∈ xs, ∃ y ∈ ys, x.1.equal y.1 = true ∧ x.2.equal y.2 = true) ∧
        ∀ y ∈ ys, ∃ x ∈ xs, x.1.equal y.1 = true ∧ x.2.equal y.2 = true := by
  constructor
  · intro same
    cases w with
    | dict ys => exact ⟨ys, rfl, equal_dicts_iff.mp same⟩
    | _ => simp [equal, number?] at same
  · rintro ⟨ys, rfl, alike⟩
    exact equal_dicts_iff.mpr alike

theorem equals_of_equal (same : v.equal w = true) : v.Equals w := by
  induction v using nestedKinds generalizing w with
  | atom v single =>
    obtain rfl := (equal_atom_iff single).mp same
    exact .atom single
  | number v number =>
    obtain ⟨x, first, second, real⟩ := (equal_number_iff number).mp same
    exact .number first second real
  | list items previous =>
    obtain ⟨ys, rfl, alike⟩ := equal_list_iff.mp same
    obtain ⟨count, each⟩ := List.forall₂_iff_zip.mp (forall₂_of_mem alike previous)
    exact .list count fun _ _ => each
  | tuple items previous =>
    obtain ⟨ys, rfl, alike⟩ := equal_tuple_iff.mp same
    obtain ⟨count, each⟩ := List.forall₂_iff_zip.mp (forall₂_of_mem alike previous)
    exact .tuple count fun _ _ => each
  | dict entries previous =>
    obtain ⟨ys, rfl, forth, back⟩ := equal_dict_iff.mp same
    refine .dict (fun x y => x ∈ entries ∧ x.1.equal y.1 = true ∧ x.2.equal y.2 = true)
      (fun x y paired => (previous x paired.1).1 paired.2.1)
      (fun x y paired => (previous x paired.1).2 paired.2.2) ?_ ?_
    · intro x member
      obtain ⟨y, other, alike⟩ := forth x member
      exact ⟨y, other, member, alike⟩
    · intro y other
      obtain ⟨x, member, alike⟩ := back y other
      exact ⟨x, member, member, alike⟩

theorem equal_of_equals (equals : v.Equals w) : v.equal w = true := by
  induction equals with
  | atom single => exact (equal_atom_iff single).mpr rfl
  | number first second real =>
    exact (equal_number_iff (isNumber_iff.mpr ⟨_, first⟩)).mpr ⟨_, first, second, real⟩
  | list count items previous =>
    exact equal_list_iff.mpr ⟨_, rfl, List.forall₂_iff_zip.mpr ⟨count, previous _ _⟩⟩
  | tuple count items previous =>
    exact equal_tuple_iff.mpr ⟨_, rfl, List.forall₂_iff_zip.mpr ⟨count, previous _ _⟩⟩
  | dict paired keys values forth back sameKeys sameValues =>
    refine equal_dict_iff.mpr ⟨_, rfl, fun x member => ?_, fun y other => ?_⟩
    · obtain ⟨y, other, pair⟩ := forth x member
      exact ⟨y, other, sameKeys x y pair, sameValues x y pair⟩
    · obtain ⟨x, member, pair⟩ := back y other
      exact ⟨x, member, sameKeys x y pair, sameValues x y pair⟩

theorem equal_iff_equals : v.equal w = true ↔ v.Equals w :=
  ⟨equals_of_equal, equal_of_equals⟩

theorem equal_self (free : v.NanFree) : v.equal v = true := by
  induction free with
  | atom single => exact (equal_atom_iff single).mpr rfl
  | bool b => exact (equal_number_iff (.bool b)).mpr ⟨_, rfl, rfl, nofun⟩
  | int n => exact (equal_number_iff (.int n)).mpr ⟨_, rfl, rfl, nofun⟩
  | float real =>
    exact (equal_number_iff (.float _)).mpr ⟨_, rfl, rfl, fun nan => real (Floating.number_eq_nan nan)⟩
  | list inner previous => exact equal_list_iff.mpr ⟨_, rfl, List.forall₂_same.mpr previous⟩
  | tuple inner previous => exact equal_tuple_iff.mpr ⟨_, rfl, List.forall₂_same.mpr previous⟩
  | dict keys values sameKeys sameValues =>
    exact equal_dict_iff.mpr ⟨_, rfl,
      fun x member => ⟨x, member, sameKeys x member, sameValues x member⟩,
      fun x member => ⟨x, member, sameKeys x member, sameValues x member⟩⟩

theorem equal_symm (same : v.equal w = true) : w.equal v = true := by
  induction v using nestedKinds generalizing w with
  | atom v single =>
    obtain rfl := (equal_atom_iff single).mp same
    exact same
  | number v number =>
    obtain ⟨x, first, second, real⟩ := (equal_number_iff number).mp same
    exact (equal_number_iff (isNumber_iff.mpr ⟨x, second⟩)).mpr ⟨x, second, first, real⟩
  | list items previous =>
    obtain ⟨ys, rfl, alike⟩ := equal_list_iff.mp same
    exact equal_list_iff.mpr ⟨items, rfl, (forall₂_of_mem alike previous).flip⟩
  | tuple items previous =>
    obtain ⟨ys, rfl, alike⟩ := equal_tuple_iff.mp same
    exact equal_tuple_iff.mpr ⟨items, rfl, (forall₂_of_mem alike previous).flip⟩
  | dict entries previous =>
    obtain ⟨ys, rfl, forth, back⟩ := equal_dict_iff.mp same
    refine equal_dict_iff.mpr ⟨entries, rfl, fun y other => ?_, fun x member => ?_⟩
    · obtain ⟨x, member, keys, values⟩ := back y other
      exact ⟨x, member, (previous x member).1 keys, (previous x member).2 values⟩
    · obtain ⟨y, other, keys, values⟩ := forth x member
      exact ⟨y, other, (previous x member).1 keys, (previous x member).2 values⟩

theorem equal_trans {u : Value} (first : u.equal v = true) (second : v.equal w = true) :
    u.equal w = true := by
  induction u using nestedKinds generalizing v w with
  | atom u single =>
    obtain rfl := (equal_atom_iff single).mp first
    exact second
  | number u number =>
    obtain ⟨x, left, middle, real⟩ := (equal_number_iff number).mp first
    obtain ⟨y, same, right, -⟩ := (equal_number_iff (isNumber_iff.mpr ⟨x, middle⟩)).mp second
    obtain rfl : x = y := Option.some.inj (middle.symm.trans same)
    exact (equal_number_iff number).mpr ⟨x, left, right, real⟩
  | list items previous =>
    obtain ⟨ys, rfl, left⟩ := equal_list_iff.mp first
    obtain ⟨zs, rfl, right⟩ := equal_list_iff.mp second
    exact equal_list_iff.mpr ⟨zs, rfl, forall₂_trans left right fun x member _ _ =>
      previous x member⟩
  | tuple items previous =>
    obtain ⟨ys, rfl, left⟩ := equal_tuple_iff.mp first
    obtain ⟨zs, rfl, right⟩ := equal_tuple_iff.mp second
    exact equal_tuple_iff.mpr ⟨zs, rfl, forall₂_trans left right fun x member _ _ =>
      previous x member⟩
  | dict entries previous =>
    obtain ⟨ys, rfl, forth, back⟩ := equal_dict_iff.mp first
    obtain ⟨zs, rfl, there, again⟩ := equal_dict_iff.mp second
    refine equal_dict_iff.mpr ⟨zs, rfl, fun x member => ?_, fun z last => ?_⟩
    · obtain ⟨y, other, keys, values⟩ := forth x member
      obtain ⟨z, last, keys', values'⟩ := there y other
      exact ⟨z, last, (previous x member).1 keys keys', (previous x member).2 values values'⟩
    · obtain ⟨y, other, keys', values'⟩ := again z last
      obtain ⟨x, member, keys, values⟩ := back y other
      exact ⟨x, member, (previous x member).1 keys keys', (previous x member).2 values values'⟩

section DistinctKeys

variable {xs ys : List (Value × Value)}

theorem DistinctKeys.eq_of_equal (distinct : DistinctKeys xs) {i j : Fin xs.length}
    (same : (xs.get i).1.equal (xs.get j).1 = true) : i = j := by
  rcases lt_trichotomy i j with less | equal | more
  · exact absurd same (List.pairwise_iff_get.mp distinct i j less)
  · exact equal
  · exact absurd (equal_symm same) (List.pairwise_iff_get.mp distinct j i more)

theorem DistinctKeys.exists_injective (distinct : DistinctKeys xs)
    (forth : ∀ x ∈ xs, ∃ y ∈ ys, x.1.equal y.1 = true ∧ x.2.equal y.2 = true) :
    ∃ partner : Fin xs.length → Fin ys.length, Function.Injective partner ∧
      ∀ i, (xs.get i).1.equal (ys.get (partner i)).1 = true ∧
        (xs.get i).2.equal (ys.get (partner i)).2 = true := by
  have each (i : Fin xs.length) : ∃ j : Fin ys.length,
      (xs.get i).1.equal (ys.get j).1 = true ∧ (xs.get i).2.equal (ys.get j).2 = true := by
    obtain ⟨y, member, alike⟩ := forth (xs.get i) (List.get_mem xs i)
    obtain ⟨j, rfl⟩ := List.mem_iff_get.mp member
    exact ⟨j, alike⟩
  choose partner alike using each
  refine ⟨partner, fun i j shared => distinct.eq_of_equal ?_, alike⟩
  have second := (alike j).1
  rw [← shared] at second
  exact equal_trans (alike i).1 (equal_symm second)

theorem equal_dict_iff_of_distinct (distinct : DistinctKeys xs) (apart : DistinctKeys ys) :
    (dict xs).equal (dict ys) = true ↔ xs.length = ys.length ∧
      ∀ x ∈ xs, ∃ y ∈ ys, x.1.equal y.1 = true ∧ x.2.equal y.2 = true := by
  rw [equal_dicts_iff]
  constructor
  · rintro ⟨forth, back⟩
    have again : ∀ y ∈ ys, ∃ x ∈ xs, y.1.equal x.1 = true ∧ y.2.equal x.2 = true := by
      intro y other
      obtain ⟨x, member, keys, values⟩ := back y other
      exact ⟨x, member, equal_symm keys, equal_symm values⟩
    obtain ⟨partner, injective, -⟩ := distinct.exists_injective forth
    obtain ⟨reverse, other, -⟩ := apart.exists_injective again
    have atMost := Fintype.card_le_of_injective partner injective
    have atLeast := Fintype.card_le_of_injective reverse other
    simp only [Fintype.card_fin] at atMost atLeast
    exact ⟨Nat.le_antisymm atMost atLeast, forth⟩
  · rintro ⟨count, forth⟩
    obtain ⟨partner, injective, alike⟩ := distinct.exists_injective forth
    have sizes : Fintype.card (Fin xs.length) = Fintype.card (Fin ys.length) := by
      rw [Fintype.card_fin, Fintype.card_fin, count]
    have bijective := (Fintype.bijective_iff_injective_and_card partner).mpr ⟨injective, sizes⟩
    refine ⟨forth, fun y other => ?_⟩
    obtain ⟨j, rfl⟩ := List.mem_iff_get.mp other
    obtain ⟨i, rfl⟩ := bijective.surjective j
    exact ⟨xs.get i, List.get_mem xs i, alike i⟩

theorem mem_putEntry {key value : Value} {entries : List (Value × Value)} {y : Value × Value}
    (listed : y ∈ putEntry key value entries) : y.1 = key ∨ ∃ x ∈ entries, y.1 = x.1 := by
  induction entries with
  | nil =>
    obtain rfl := List.mem_singleton.mp listed
    exact .inl rfl
  | cons entry rest previous =>
    rw [putEntry] at listed
    split at listed
    · rcases List.mem_cons.mp listed with rfl | later
      · exact .inr ⟨entry, .head _, rfl⟩
      · exact .inr ⟨y, .tail _ later, rfl⟩
    · rcases List.mem_cons.mp listed with rfl | later
      · exact .inr ⟨y, .head _, rfl⟩
      · rcases previous later with new | ⟨x, member, same⟩
        · exact .inl new
        · exact .inr ⟨x, .tail _ member, same⟩

theorem DistinctKeys.putEntry (distinct : DistinctKeys xs) (key value : Value) :
    DistinctKeys (putEntry key value xs) := by
  induction xs with
  | nil => exact List.pairwise_singleton _ _
  | cons entry rest previous =>
    obtain ⟨first, others⟩ := List.pairwise_cons.mp distinct
    rw [Value.putEntry]
    split
    · exact List.pairwise_cons.mpr ⟨first, others⟩
    · rename_i apart
      refine List.pairwise_cons.mpr ⟨fun y listed => ?_, previous others⟩
      rcases mem_putEntry listed with new | ⟨x, member, same⟩
      · rw [new]
        exact apart
      · rw [same]
        exact first x member

theorem distinctKeys_ofEntries (entries : List (Value × Value)) :
    ∃ xs, ofEntries entries = .dict xs ∧ DistinctKeys xs := by
  refine ⟨_, rfl, ?_⟩
  exact List.foldlRecOn entries _ List.Pairwise.nil fun _ distinct entry _ =>
    DistinctKeys.putEntry distinct entry.1 entry.2

end DistinctKeys

theorem areHashable_eq_all (items : List Value) : areHashable items = items.all isHashable := by
  induction items with
  | nil => rfl
  | cons item rest previous => rw [areHashable, List.all_cons, previous]

theorem isHashable_of_isAtom (single : v.IsAtom) : v.isHashable = true := by
  cases single <;> rfl

theorem isHashable_of_isNumber (number : v.IsNumber) : v.isHashable = true := by
  cases number <;> rfl

theorem isHashable_tuple (items : List Value) :
    (tuple items).isHashable = items.all isHashable := by
  rw [isHashable, areHashable_eq_all]

theorem isHashable_eq_false_iff : v.isHashable = false ↔ v.Unhashable := by
  constructor
  · intro refused
    induction v using nestedKinds with
    | atom v single => exact absurd (isHashable_of_isAtom single) (by simp [refused])
    | number v number => exact absurd (isHashable_of_isNumber number) (by simp [refused])
    | list items => exact .list items
    | tuple items previous =>
      rw [isHashable_tuple, List.all_eq_false] at refused
      obtain ⟨v, member, inner⟩ := refused
      exact .tuple member (previous v member (Bool.not_eq_true _ ▸ inner))
    | dict entries => exact .dict entries
  · intro unhashable
    induction unhashable with
    | list items => rfl
    | dict entries => rfl
    | tuple member inner previous =>
      rw [isHashable_tuple, List.all_eq_false]
      exact ⟨_, member, by simp [previous]⟩

theorem isHashable_of_equal (same : v.equal w = true) : v.isHashable = w.isHashable := by
  induction v using nestedKinds generalizing w with
  | atom v single => rw [(equal_atom_iff single).mp same]
  | number v number =>
    obtain ⟨x, -, second, -⟩ := (equal_number_iff number).mp same
    rw [isHashable_of_isNumber number, isHashable_of_isNumber (isNumber_iff.mpr ⟨x, second⟩)]
  | list items =>
    obtain ⟨ys, rfl, -⟩ := equal_list_iff.mp same
    rfl
  | tuple items previous =>
    obtain ⟨ys, rfl, alike⟩ := equal_tuple_iff.mp same
    have hashable : items.map isHashable = ys.map isHashable := by
      rw [← List.forall₂_eq_eq_eq, List.forall₂_map_left_iff, List.forall₂_map_right_iff]
      exact forall₂_of_mem alike previous
    rw [isHashable_tuple, isHashable_tuple, ← Function.id_comp isHashable, ← List.all_map, hashable,
      List.all_map]
  | dict entries =>
    obtain ⟨ys, rfl, -⟩ := equal_dict_iff.mp same
    rfl

theorem isTruthy_of_number? {x : Number} (stands : v.number? = some x) :
    v.isTruthy = (x != .finite 0) := by
  cases v with
  | bool b =>
    cases stands
    cases b <;> rfl
  | int n =>
    cases stands
    exact Bool.eq_iff_iff.mpr (by simp [isTruthy])
  | float y =>
    cases stands
    rfl
  | _ => cases stands

theorem isTruthy_of_equal (same : v.equal w = true) : v.isTruthy = w.isTruthy := by
  induction v using nestedKinds with
  | atom v single => rw [(equal_atom_iff single).mp same]
  | number v number =>
    obtain ⟨x, first, second, -⟩ := (equal_number_iff number).mp same
    rw [isTruthy_of_number? first, isTruthy_of_number? second]
  | list items =>
    obtain ⟨ys, rfl, alike⟩ := equal_list_iff.mp same
    cases alike <;> rfl
  | tuple items =>
    obtain ⟨ys, rfl, alike⟩ := equal_tuple_iff.mp same
    cases alike <;> rfl
  | dict entries =>
    obtain ⟨ys, rfl, forth, back⟩ := equal_dict_iff.mp same
    cases entries with
    | nil =>
      cases ys with
      | nil => rfl
      | cons y rest =>
        obtain ⟨x, none, -⟩ := back y (.head _)
        cases none
    | cons x rest =>
      cases ys with
      | nil =>
        obtain ⟨y, none, -⟩ := forth x (.head _)
        cases none
      | cons y others => rfl

end Equality

end Value

end ChannelTuning

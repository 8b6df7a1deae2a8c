import ChannelTuning.Text.Quoted

namespace ChannelTuning.Text

/-- Nothing is left, or a stop comes first in it. -/
def Ends (stop : Char → Bool) (rest : List Char) : Prop := ∀ c ∈ rest.head?, stop c = true

theorem ends_nil (stop : Char → Bool) : Ends stop [] := by
  intro c first
  cases first

theorem ends_cons {stop : Char → Bool} {c : Char} (stops : stop c = true) (rest : List Char) :
    Ends stop (c :: rest) := by
  intro d first
  cases first
  exact stops

theorem takeWhile_append_of_head {p : Char → Bool} {xs r : List Char}
    (inside : ∀ c ∈ xs, p c = true) (outside : ∀ c ∈ r.head?, p c = false) :
    (xs ++ r).takeWhile p = xs := by
  rw [List.takeWhile_append_of_pos inside]
  cases r with
  | nil => rw [List.takeWhile_nil, List.append_nil]
  | cons c rest => simp [outside c rfl]

theorem dropWhile_append_of_head {p : Char → Bool} {xs r : List Char}
    (inside : ∀ c ∈ xs, p c = true) (outside : ∀ c ∈ r.head?, p c = false) :
    (xs ++ r).dropWhile p = r := by
  rw [List.dropWhile_append_of_pos inside]
  cases r with
  | nil => rfl
  | cons c rest => simp [outside c rfl]

theorem append_cut {stop : Char → Bool} {xs ys r s : List Char}
    (left : ∀ c ∈ xs, stop c = false) (right : ∀ c ∈ ys, stop c = false)
    (leftEnd : Ends stop r) (rightEnd : Ends stop s) (same : xs ++ r = ys ++ s) :
    xs = ys ∧ r = s := by
  have before := congrArg (List.takeWhile (!stop ·)) same
  rw [takeWhile_append_of_head (by simpa using left) (by simpa [Ends] using leftEnd),
    takeWhile_append_of_head (by simpa using right) (by simpa [Ends] using rightEnd)] at before
  subst before
  exact ⟨rfl, List.append_cancel_left same⟩

def isWordChar (c : Char) : Bool := c.isAlphanum || c == '_' || c == '-'

def IsWord (cs : List Char) : Prop := ∀ c ∈ cs, isWordChar c = true

theorem isWordChar_of_isDigit {c : Char} (digit : c.isDigit = true) : isWordChar c = true := by
  have letter : c.isAlphanum = (c.isAlpha || c.isDigit) := rfl
  rw [isWordChar, letter, digit, Bool.or_true, Bool.true_or, Bool.true_or]

theorem IsWord.ne_of_mem {cs : List Char} (word : IsWord cs) (separator : Char)
    (separates : isWordChar separator = false) : ∀ c ∈ cs, c ≠ separator := by
  rintro c member rfl
  rw [word c member] at separates
  cases separates

theorem IsWord.starts {cs : List Char} (word : IsWord cs) (separator : Char)
    (separates : isWordChar separator = false) {mark : Char} (other : mark ≠ separator)
    (rest : List Char) : ∃ c later, cs ++ mark :: rest = c :: later ∧ c ≠ separator := by
  cases cs with
  | nil => exact ⟨mark, rest, rfl, other⟩
  | cons c cs => exact ⟨c, _, rfl, word.ne_of_mem separator separates c (.head _)⟩

def isStop (c : Char) : Bool := [',', ':', ']', ')', '}'].contains c

section

variable {α : Type} {form : α → List Char}

/-- Before a stop, the form of a thing is the form of no other thing, and no part of one. -/
def CutsOff (form : α → List Char) (a : α) : Prop :=
  ∀ ⦃b : α⦄ ⦃r s : List Char⦄, Ends isStop r → Ends isStop s → form a ++ r = form b ++ s →
    a = b ∧ r = s

def listed (form : α → List Char) : List α → List Char
  | [] => []
  | a :: rest => form a ++ rest.flatMap fun b => ',' :: ' ' :: form b

theorem toList_commaSeparated_map (text : α → String) (items : List α) :
    (commaSeparated (items.map text)).toList = listed (fun a => (text a).toList) items := by
  induction items with
  | nil => rfl
  | cons a rest previous =>
    cases rest with
    | nil => simp [commaSeparated, listed]
    | cons b later =>
      rw [List.map_cons] at previous
      simp [commaSeparated, listed, previous]

theorem ends_tail (form : α → List Char) (rest : List α) {close : Char}
    (stops : isStop close = true) (r : List Char) :
    Ends isStop ((rest.flatMap fun b => ',' :: ' ' :: form b) ++ close :: r) := by
  cases rest with
  | nil => exact ends_cons stops r
  | cons b later => exact ends_cons rfl _

theorem tail_cut {close : Char} (stops : isStop close = true) (apart : close ≠ ',')
    {xs ys : List α} (cuts : ∀ a ∈ xs, CutsOff form a) {r s : List Char}
    (same : (xs.flatMap fun a => ',' :: ' ' :: form a) ++ close :: r =
      (ys.flatMap fun a => ',' :: ' ' :: form a) ++ close :: s) : xs = ys ∧ r = s := by
  induction xs generalizing ys with
  | nil =>
    cases ys with
    | nil => exact ⟨rfl, (List.cons.inj same).2⟩
    | cons y ys => exact absurd (List.cons.inj same).1 apart
  | cons x xs previous =>
    cases ys with
    | nil => exact absurd (List.cons.inj same).1.symm apart
    | cons y ys =>
      simp only [List.flatMap_cons, List.cons_append, List.append_assoc, List.cons.injEq,
        true_and] at same
      obtain ⟨rfl, later⟩ := cuts x (.head _) (ends_tail form xs stops r)
        (ends_tail form ys stops s) same
      obtain ⟨rfl, rest⟩ := previous (fun a inside => cuts a (.tail _ inside)) later
      exact ⟨rfl, rest⟩

theorem listed_cut {close : Char} (stops : isStop close = true) (apart : close ≠ ',')
    (begins : ∀ a, ∃ c rest, form a = c :: rest ∧ c ≠ close) {xs ys : List α}
    (cuts : ∀ a ∈ xs, CutsOff form a) {r s : List Char}
    (same : listed form xs ++ close :: r = listed form ys ++ close :: s) : xs = ys ∧ r = s := by
  cases xs with
  | nil =>
    cases ys with
    | nil => exact ⟨rfl, (List.cons.inj same).2⟩
    | cons y ys =>
      obtain ⟨c, rest, starts, differs⟩ := begins y
      simp only [listed, starts, List.nil_append, List.cons_append, List.cons.injEq] at same
      exact absurd same.1.symm differs
  | cons x xs =>
    cases ys with
    | nil =>
      obtain ⟨c, rest, starts, differs⟩ := begins x
      simp only [listed, starts, List.nil_append, List.cons_append, List.cons.injEq] at same
      exact absurd same.1 differs
    | cons y ys =>
      simp only [listed, List.append_assoc] at same
      obtain ⟨rfl, later⟩ := cuts x (.head _) (ends_tail form xs stops r)
        (ends_tail form ys stops s) same
      obtain ⟨rfl, rest⟩ := tail_cut stops apart (fun a inside => cuts a (.tail _ inside)) later
      exact ⟨rfl, rest⟩

end

end ChannelTuning.Text

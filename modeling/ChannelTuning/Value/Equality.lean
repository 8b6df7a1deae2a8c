import ChannelTuning.Value

namespace ChannelTuning.Value

def covers (width : Nat) (rows : List (List Bool)) : Bool :=
  rows.all (fun row => row.any id) &&
    (rows.foldr (List.zipWith or) (List.replicate width false)).all id

mutual

/-- Equality by content. Numbers of any kind are equal when they are exactly the same number, and
    dictionaries when each entry of either one has an equal entry in the other. -/
def equal : Value → Value → Bool
  | .null, .null => true
  | .text s, .text t => s == t
  | .bytes xs, .bytes ys => xs == ys
  | .list xs, .list ys => equalItems xs ys
  | .tuple xs, .tuple ys => equalItems xs ys
  | .dict xs, .dict ys => covers ys.length (entryTable xs ys)
  | .transport s, .transport t => s == t
  | .code c, .code d => c == d
  | v, w =>
    match v.number?, w.number? with
    | some x, some y => x.same y
    | _, _ => false
termination_by structural v => v

def equalItems : List Value → List Value → Bool
  | [], [] => true
  | x :: xs, y :: ys => x.equal y && equalItems xs ys
  | _, _ => false
termination_by structural xs => xs

/-- Which entries of two dictionaries are equal: a row for each entry of the first, a column for each
    of the second. Each pair is compared once, so that the cost stays polynomial however deep the
    values nest. -/
def entryTable : List (Value × Value) → List (Value × Value) → List (List Bool)
  | [], _ => []
  | (key, value) :: rest, ys =>
    (ys.map fun entry => key.equal entry.1 && value.equal entry.2) :: entryTable rest ys
termination_by structural xs => xs

end

theorem columns_map {α β : Type} (r : α → β → Bool) (xs : List α) (ys : List β) :
    (xs.map fun x => ys.map (r x)).foldr (List.zipWith or) (List.replicate ys.length false) =
      ys.map fun y => xs.any fun x => r x y := by
  induction xs with
  | nil => simp [List.map_const']
  | cons x rest previous =>
    simp [previous, List.zipWith_map_left, List.zipWith_map_right, List.zipWith_self]

theorem covers_map {α β : Type} (r : α → β → Bool) (xs : List α) (ys : List β) :
    covers ys.length (xs.map fun x => ys.map (r x)) =
      (xs.all (fun x => ys.any fun y => r x y) && ys.all fun y => xs.any fun x => r x y) := by
  simp [covers, columns_map, List.any_map, List.all_map, Function.comp_def]

theorem entryTable_eq_map (xs ys : List (Value × Value)) :
    entryTable xs ys =
      xs.map fun entry => ys.map fun other => entry.1.equal other.1 && entry.2.equal other.2 := by
  induction xs with
  | nil => rfl
  | cons entry rest previous => simp [entryTable, previous]

theorem equal_dict (xs ys : List (Value × Value)) :
    (dict xs).equal (dict ys) =
      (xs.all (fun x => ys.any fun y => x.1.equal y.1 && x.2.equal y.2) &&
        ys.all fun y => xs.any fun x => x.1.equal y.1 && x.2.equal y.2) := by
  rw [equal, entryTable_eq_map]
  exact covers_map (fun x y => x.1.equal y.1 && x.2.equal y.2) xs ys

def putEntry (key value : Value) : List (Value × Value) → List (Value × Value)
  | [] => [(key, value)]
  | entry :: rest =>
    if entry.1.equal key then (entry.1, value) :: rest else entry :: putEntry key value rest

def ofEntries (entries : List (Value × Value)) : Value :=
  .dict (entries.foldl (fun written entry => putEntry entry.1 entry.2 written) [])

end ChannelTuning.Value

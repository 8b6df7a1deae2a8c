import ChannelTuning.Session
import ChannelTuning.Proofs.Builder.Runs
import ChannelTuning.Proofs.Value.Equality
import Mathlib.Data.Set.Card

namespace ChannelTuning

namespace Options

def NanFree (o : Options) : Prop := ∀ f : Field, (o.get f).NanFree

def classOf (o : Options) : Set Options := {p | o.equal p = true}

/-- The classes of equal options that the members of a list fall into. -/
def classes (os : List Options) : Set (Set Options) := classOf '' {o | o ∈ os}

variable {o p q : Options} {os others : List Options}

theorem equal_iff : o.equal p = true ↔ ∀ f : Field, (o.get f).equal (p.get f) = true := by
  rw [equal, List.all_eq_true]
  exact ⟨fun same f => same f f.mem_all, fun same f _ => same f⟩

theorem equal_self (free : o.NanFree) : o.equal o = true :=
  equal_iff.mpr fun f => Value.equal_self (free f)

theorem equal_symm (same : o.equal p = true) : p.equal o = true :=
  equal_iff.mpr fun f => Value.equal_symm (equal_iff.mp same f)

theorem equal_trans (first : o.equal p = true) (second : p.equal q = true) : o.equal q = true :=
  equal_iff.mpr fun f => Value.equal_trans (equal_iff.mp first f) (equal_iff.mp second f)

theorem isHashable_eq_false_iff : o.isHashable = false ↔ ∃ f : Field, (o.get f).Unhashable := by
  rw [isHashable, List.all_eq_false]
  constructor
  · rintro ⟨f, -, refused⟩
    exact ⟨f, Value.isHashable_eq_false_iff.mp ((Bool.not_eq_true _).mp refused)⟩
  · rintro ⟨f, unhashable⟩
    exact ⟨f, f.mem_all, (Bool.not_eq_true _).mpr (Value.isHashable_eq_false_iff.mpr unhashable)⟩

theorem isHashable_of_equal (same : o.equal p = true) : o.isHashable = p.isHashable := by
  have fields (f : Field) : (o.get f).isHashable = (p.get f).isHashable :=
    Value.isHashable_of_equal (equal_iff.mp same f)
  simp only [isHashable, fields]

theorem classOf_eq_of_equal (same : o.equal p = true) : o.classOf = p.classOf := by
  ext q
  exact ⟨equal_trans (equal_symm same), equal_trans same⟩

theorem classOf_mem_classes_iff (selves : ∀ p ∈ os, p.equal p = true) :
    o.classOf ∈ classes os ↔ os.any o.equal = true := by
  rw [List.any_eq_true]
  constructor
  · rintro ⟨p, member, same⟩
    have self : p ∈ p.classOf := selves p member
    rw [same] at self
    exact ⟨p, member, self⟩
  · rintro ⟨p, member, same⟩
    exact ⟨p, member, (classOf_eq_of_equal same).symm⟩

theorem classes_cons (o : Options) (os : List Options) :
    classes (o :: os) = insert o.classOf (classes os) := by
  have members : {p | p ∈ o :: os} = insert o {p | p ∈ os} := by
    ext p
    exact List.mem_cons
  rw [classes, members, Set.image_insert_eq, classes]

theorem finite_classes (os : List Options) : (classes os).Finite := os.finite_toSet.image _

theorem distinctCount_eq_ncard (selves : ∀ o ∈ os, o.equal o = true) :
    distinctCount os = (classes os).ncard := by
  induction os with
  | nil => simp [distinctCount, classes]
  | cons o rest previous =>
    obtain ⟨-, later⟩ := List.forall_mem_cons.mp selves
    rw [distinctCount, classes_cons, previous later]
    -- the first option counts only if none of the later ones is of its class
    by_cases repeated : rest.any o.equal = true
    · rw [if_pos repeated, Set.insert_eq_of_mem ((classOf_mem_classes_iff later).mpr repeated),
        Nat.zero_add]
    · have new : o.classOf ∉ classes rest :=
        fun listed => repeated ((classOf_mem_classes_iff later).mp listed)
      rw [if_neg repeated, Set.ncard_insert_of_notMem new (finite_classes rest), Nat.add_comm]

theorem all_isHashable_of_classes_subset (selves : ∀ o ∈ os, o.equal o = true)
    (covered : classes os ⊆ classes others) (hashable : others.all isHashable = true) :
    os.all isHashable = true := by
  refine List.all_eq_true.mpr fun o member => ?_
  obtain ⟨p, other, same⟩ := covered ⟨o, member, rfl⟩
  have alike : o ∈ p.classOf := by
    rw [same]
    exact selves o member
  rw [← isHashable_of_equal alike]
  exact List.all_eq_true.mp hashable p other

theorem setSize_of_classes (selves : ∀ o ∈ os, o.equal o = true)
    (others_self : ∀ o ∈ others, o.equal o = true) (same : classes others = classes os) :
    setSize others = setSize os := by
  have hashable : others.all isHashable = os.all isHashable :=
    Bool.eq_iff_iff.mpr ⟨all_isHashable_of_classes_subset selves same.superset,
      all_isHashable_of_classes_subset others_self same.subset⟩
  rw [setSize, setSize, hashable, distinctCount_eq_ncard selves,
    distinctCount_eq_ncard others_self, same]

theorem classes_perm (order : others.Perm os) : classes others = classes os := by
  simp only [classes, order.mem_iff]

theorem setSize_perm (selves : ∀ o ∈ os, o.equal o = true) (order : others.Perm os) :
    setSize others = setSize os :=
  setSize_of_classes selves (fun o member => selves o (order.mem_iff.mp member))
    (classes_perm order)

theorem setSize_cons_of_equal (selves : ∀ o ∈ os, o.equal o = true) (member : o ∈ os)
    (same : o.equal p = true) : setSize (p :: os) = setSize os := by
  have self : p.equal p = true := equal_trans (equal_symm same) same
  refine setSize_of_classes selves (List.forall_mem_cons.mpr ⟨self, selves⟩) ?_
  rw [classes_cons]
  exact Set.insert_eq_of_mem ⟨o, member, classOf_eq_of_equal same⟩

theorem all_isHashable_eq_false_iff :
    os.all isHashable = false ↔ ∃ o ∈ os, ∃ f : Field, (o.get f).Unhashable := by
  rw [List.all_eq_false]
  refine exists_congr fun o => and_congr_right fun _ => ?_
  rw [Bool.not_eq_true, isHashable_eq_false_iff]

theorem setSize_eq_error_iff :
    setSize os = .error .unhashable ↔ ∃ o ∈ os, ∃ f : Field, (o.get f).Unhashable := by
  rw [← all_isHashable_eq_false_iff, setSize]
  cases os.all isHashable <;> simp

theorem eq_unhashable_of_setSize {fault : Fault} (failed : setSize os = .error fault) :
    fault = .unhashable := by
  unfold setSize at failed
  split at failed
  · cases failed
  · exact (Except.error.inj failed).symm

theorem setSize_of_hashable (selves : ∀ o ∈ os, o.equal o = true)
    (hashable : ∀ o ∈ os, ∀ f : Field, ¬ (o.get f).Unhashable) :
    setSize os = .ok (classes os).ncard := by
  have all : os.all isHashable = true := by
    rw [← Bool.not_eq_false, all_isHashable_eq_false_iff]
    rintro ⟨o, member, f, unhashable⟩
    exact hashable o member f unhashable
  rw [setSize, if_pos all, distinctCount_eq_ncard selves]

theorem NanFree.put (free : o.NanFree) (f : Field) {v : Value} (held : v.NanFree) :
    (o.put f v).NanFree := by
  intro g
  by_cases same : g = f
  · rw [same, get_put_self]
    exact held
  · rw [get_put_of_ne o v same]
    exact free g

end Options

theorem Builder.nanFree_build (b : Builder) : b.build.NanFree := by
  intro f
  cases f with
  | setting s =>
    rw [get_build]
    cases s with
    | amount a => exact .int (b.amount a)
    | transport => exact .atom (.transport b.transport)
  | keepAliveWithoutCalls => exact .bool _
  | idleTimeout => exact .int _

namespace Options

/-- Equality of options is lawful. Options are equal exactly if they are so by content in every
    field, the withheld fields included, and without a NaN in them they fall into classes. For
    dictionaries, as they can be made, it comes to the same to count the entries of both and to look
    up those of the one in the other. The set of some options cannot be made exactly if a field of
    one of them holds a list or a dictionary, or a tuple with one of these in it at any depth; else
    it has as many members as there are classes among the options, and neither another order nor one
    more option that is equal to one of them makes a difference. -/
theorem equality_and_sets_are_lawful :
    (∀ o p : Options, o.equal p = true ↔ ∀ f : Field, (o.get f).Equals (p.get f)) ∧
    (∀ o : Options, o.NanFree → o.equal o = true) ∧
    (∀ o p : Options, o.equal p = true → p.equal o = true) ∧
    (∀ o p q : Options, o.equal p = true → p.equal q = true → o.equal q = true) ∧
    (∀ first second : List (Value × Value), ∃ xs ys,
      Value.ofEntries first = .dict xs ∧ Value.ofEntries second = .dict ys ∧
        ((Value.dict xs).equal (.dict ys) = true ↔ xs.length = ys.length ∧
          ∀ x ∈ xs, ∃ y ∈ ys, x.1.equal y.1 = true ∧ x.2.equal y.2 = true)) ∧
    (∀ os : List Options, (∀ o ∈ os, o.NanFree) →
      (setSize os = .error .unhashable ↔ ∃ o ∈ os, ∃ f : Field, (o.get f).Unhashable) ∧
      (∀ fault, setSize os = .error fault →
        fault = .unhashable ∧ fault.className = "TypeError") ∧
      ((∀ o ∈ os, ∀ f : Field, ¬ (o.get f).Unhashable) →
        setSize os = .ok (classes os).ncard) ∧
      (∀ others : List Options, others.Perm os → setSize others = setSize os) ∧
      ∀ o ∈ os, ∀ (p : Options) (others : List Options), o.equal p = true →
        others.Perm (p :: os) → setSize others = setSize os) ∧
    ∀ (session : Session) (names : List String), session.step (.distinct names) =
      session.answer ((names.mapM session.option?).bind fun os =>
        (setSize os).map .distinct) := by
  refine ⟨fun o p => ?_, fun _ => equal_self, fun _ _ => equal_symm, fun _ _ _ => equal_trans,
    fun first second => ?_, fun os free => ?_, fun _ _ => rfl⟩
  · rw [equal_iff]
    exact forall_congr' fun f => Value.equal_iff_equals
  · obtain ⟨xs, made, distinct⟩ := Value.distinctKeys_ofEntries first
    obtain ⟨ys, other, apart⟩ := Value.distinctKeys_ofEntries second
    exact ⟨xs, ys, made, other, Value.equal_dict_iff_of_distinct distinct apart⟩
  · have selves : ∀ o ∈ os, o.equal o = true := fun o member => equal_self (free o member)
    refine ⟨setSize_eq_error_iff, fun fault failed => ?_, setSize_of_hashable selves,
      fun _ => setSize_perm selves, ?_⟩
    · obtain rfl := eq_unhashable_of_setSize failed
      exact ⟨rfl, rfl⟩
    · intro o member p others same order
      have grown : ∀ q ∈ p :: os, q.equal q = true :=
        List.forall_mem_cons.mpr ⟨equal_trans (equal_symm same) same, selves⟩
      rw [setSize_perm grown order, setSize_cons_of_equal selves member same]

/-- A truth value in a tuple is equal to the floating-point value for one, so that one of the two
    options adds nothing to the set. A list in the tuple cannot be a member of anything. -/
theorem sets_of_one_and_true :
    let held (v : Value) : Options := standard.put (Setting.amount .limitTime) (.tuple [v])
    let integral := held (.float (.finite false ⟨1, 0, .inl (by decide)⟩))
    let affirmed := held (.bool true)
    integral.equal affirmed = true ∧ affirmed.equal integral = true ∧
      affirmed.equal affirmed = true ∧
      (classes [integral, standard, affirmed]).ncard = 2 ∧
      setSize [standard, affirmed, integral] = setSize [standard, integral] ∧
      setSize [standard, held (.list [])] = .error .unhashable := by
  intro held integral affirmed
  obtain ⟨-, reflexive, symmetric, -, -, sets, -⟩ := equality_and_sets_are_lawful
  have plain : standard.NanFree := Builder.fresh.nanFree_build
  have whole (v : Value) (free : v.NanFree) : (held v).NanFree :=
    plain.put _ (.tuple (List.forall_mem_singleton.mpr free))
  have one : integral.NanFree := whole _ (.float nofun)
  have yes : affirmed.NanFree := whole _ (.bool true)
  have same : integral.equal affirmed = true := by decide +kernel
  refine ⟨same, symmetric _ _ same, reflexive _ yes, ?_, ?_, ?_⟩
  · have free : ∀ o ∈ [integral, standard, affirmed], o.NanFree := by
      simp only [List.forall_mem_cons]
      exact ⟨one, plain, yes, List.forall_mem_nil _⟩
    have hashable : ∀ o ∈ [integral, standard, affirmed], o.isHashable = true := by
      simp only [List.forall_mem_cons]
      exact ⟨rfl, rfl, rfl, List.forall_mem_nil _⟩
    have counted := (sets _ free).2.2.1 fun o member f unhashable => by
      have refused := isHashable_eq_false_iff.mpr ⟨f, unhashable⟩
      rw [hashable o member] at refused
      cases refused
    have two : distinctCount [integral, standard, affirmed] = 2 := by decide +kernel
    rw [setSize, if_pos (List.all_eq_true.mpr hashable), two] at counted
    exact (Except.ok.inj counted).symm
  · have free : ∀ o ∈ [standard, integral], o.NanFree := by
      simp only [List.forall_mem_cons]
      exact ⟨plain, one, List.forall_mem_nil _⟩
    exact (sets _ free).2.2.2.2 integral (.tail _ (.head _)) affirmed _ same (.swap _ _ _)
  · have free : ∀ o ∈ [standard, held (.list [])], o.NanFree := by
      simp only [List.forall_mem_cons]
      exact ⟨plain, whole _ (.list (List.forall_mem_nil _)), List.forall_mem_nil _⟩
    have inner : ((held (.list [])).get (Setting.amount .limitTime)).Unhashable :=
      .tuple (.head _) (.list [])
    exact (sets _ free).1.mpr ⟨_, .tail _ (.head _), _, inner⟩

end Options

end ChannelTuning

import ChannelTuning.Builder
import ChannelTuning.Proofs.Transport.Spelling

namespace ChannelTuning

inductive Use where
  | set (name : String) (v : Value)
  | build
  | display

inductive Response where
  | accepted
  | refused (fault : Fault)
  | built (o : Options)
  | shown (text : String)

/-- What a setting stands at once it has accepted a value. A text that spells the name of a transport
    stands for the transport, and all else for itself. -/
def Setting.taken : Setting → Value → Value
  | .transport, .text s =>
    (Transport.all.find? fun t => t.SpelledBy (Text.trimmed s.toList)).elim (.text s) .transport
  | _, v => v

theorem Setting.taken_of_accept {v : Value} {t : Transport} (accepted : Transport.accept v = .ok t) :
    transport.taken v = .transport t := by
  cases v with
  | transport u =>
    cases accepted
    rfl
  | text s =>
    have spelled : t.SpelledBy (Text.trimmed s.toList) := Transport.ofName_text_eq_ok_iff.mp accepted
    have only : ∀ u : Transport, u.SpelledBy (Text.trimmed s.toList) → u = t := by
      intro u other
      have named : Transport.accept (.text s) = .ok u := Transport.ofName_text_eq_ok_iff.mpr other
      exact Except.ok.inj (named.symm.trans accepted)
    cases found : Transport.all.find? fun u => u.SpelledBy (Text.trimmed s.toList) with
    | none =>
      have listed : t ∈ Transport.all := by cases t <;> decide
      exact absurd (decide_eq_true spelled) (List.find?_eq_none.mp found t listed)
    | some u =>
      have other := List.find?_some found
      have same := only u (of_decide_eq_true other)
      simp only [taken, found, same, Option.elim_some]
  | _ => cases accepted

theorem Amount.accept_eq_ok_iff {a : Amount} {v : Value} {n : Int} :
    a.accept v = .ok n ↔ v = .int n ∧ a.bound.least ≤ n := by
  cases v with
  | int m =>
    by_cases inside : a.bound.least ≤ m
    · simp only [accept, if_pos inside, Except.ok.injEq, Value.int.injEq]
      constructor
      · rintro rfl
        exact ⟨rfl, inside⟩
      · exact And.left
    · simp only [accept, if_neg inside, reduceCtorEq, Value.int.injEq, false_iff, not_and]
      rintro rfl
      exact inside
  | _ => simp [accept]

namespace Builder

def use (b : Builder) : Use → Response × Builder
  | .set name v =>
    match b.set name v with
    | .ok next => (.accepted, next)
    | .error fault => (.refused fault, b)
  | .build => (.built b.build, b)
  | .display => (.shown b.display, b)

def after (b : Builder) : List Use → Builder
  | [] => b
  | u :: rest => (b.use u).2.after rest

def trace (b : Builder) : List Use → List (Use × Response)
  | [] => []
  | u :: rest => (u, (b.use u).1) :: (b.use u).2.trace rest

def chainUses (settings : List (String × Value)) : List Use :=
  settings.map fun setting => .set setting.1 setting.2

theorem get_build (b : Builder) (s : Setting) : b.build.get s = b.value s :=
  Options.get_setting_ofSettings b.value s

theorem set_amount (b : Builder) (a : Amount) (v : Value) :
    b.set a.name v = (a.accept v).map (b.putAmount a) := by
  have found : Setting.named? a.name = some (.amount a) := Setting.named?_name (.amount a)
  simp only [set, found]

theorem set_transport (b : Builder) (v : Value) :
    b.set Setting.transport.name v = (Transport.accept v).map b.putTransport := by
  have found := Setting.named?_name .transport
  simp only [set, found]

theorem set_cases {b next : Builder} {name : String} {v : Value} (done : b.set name v = .ok next) :
    (∃ (a : Amount) (n : Int), (Setting.amount a).name = name ∧ v = .int n ∧ a.bound.least ≤ n ∧
        next = b.putAmount a n) ∨
      ∃ t, Setting.transport.name = name ∧ Transport.accept v = .ok t ∧ next = b.putTransport t := by
  unfold set at done
  split at done
  · rename_i a found
    cases taken : a.accept v with
    | error fault => rw [taken] at done; cases done
    | ok n =>
      rw [taken] at done
      cases done
      obtain ⟨same, bound⟩ := Amount.accept_eq_ok_iff.mp taken
      exact .inl ⟨a, n, Setting.name_of_named? found, same, bound, rfl⟩
  · rename_i found
    cases taken : Transport.accept v with
    | error fault => rw [taken] at done; cases done
    | ok t =>
      rw [taken] at done
      cases done
      exact .inr ⟨t, Setting.name_of_named? found, rfl, rfl⟩
  · cases done

theorem value_putAmount (b : Builder) (a : Amount) (n : Int) (s : Setting) :
    (b.putAmount a n).value s = if s = .amount a then .int n else b.value s := by
  cases s with
  | transport => simp [value, transport_putAmount]
  | amount c =>
    by_cases same : c = a
    · subst same
      simp [value, amount_putAmount_self]
    · simp [value, amount_putAmount_of_ne b n same, same]

theorem value_putTransport (b : Builder) (t : Transport) (s : Setting) :
    (b.putTransport t).value s = if s = .transport then .transport t else b.value s := by
  cases s with
  | transport => simp [value, transport_putTransport]
  | amount c => simp [value, amount_putTransport]

theorem value_of_set {b next : Builder} {name : String} {v : Value} (done : b.set name v = .ok next)
    (s : Setting) : next.value s = if name = s.name then s.taken v else b.value s := by
  rcases set_cases done with ⟨a, n, rfl, rfl, -, rfl⟩ | ⟨t, rfl, taken, rfl⟩
  · rw [value_putAmount]
    by_cases same : s = .amount a
    · subst same
      simp [Setting.taken]
    · have apart : (Setting.amount a).name ≠ s.name := fun h => same (Setting.name_injective h).symm
      rw [if_neg same, if_neg apart]
  · rw [value_putTransport]
    by_cases same : s = .transport
    · subst same
      simp [Setting.taken_of_accept taken]
    · have apart : Setting.transport.name ≠ s.name := fun h => same (Setting.name_injective h).symm
      rw [if_neg same, if_neg apart]

theorem use_of_accepted {b next : Builder} {name : String} {v : Value}
    (done : b.set name v = .ok next) : b.use (.set name v) = (.accepted, next) := by
  simp only [use, done]

theorem use_of_refused {b : Builder} {name : String} {v : Value} {fault : Fault}
    (failed : b.set name v = .error fault) : b.use (.set name v) = (.refused fault, b) := by
  simp only [use, failed]

theorem after_append (b : Builder) (first second : List Use) :
    b.after (first ++ second) = (b.after first).after second := by
  induction first generalizing b with
  | nil => rfl
  | cons u rest previous => exact previous _

theorem trace_append (b : Builder) (first second : List Use) :
    b.trace (first ++ second) = b.trace first ++ (b.after first).trace second := by
  induction first generalizing b with
  | nil => rfl
  | cons u rest previous =>
    simp only [List.cons_append, trace, after]
    rw [previous]

theorem eq_build_of_use {b : Builder} {u : Use} {o : Options} (built : (b.use u).1 = .built o) :
    o = b.build := by
  cases u with
  | set name v =>
    simp only [use] at built
    split at built <;> cases built
  | build =>
    cases built
    rfl
  | display => cases built

theorem exists_of_built_mem_trace {b : Builder} {uses : List Use} {u : Use} {o : Options}
    (built : (u, Response.built o) ∈ b.trace uses) :
    ∃ before later, uses = before ++ u :: later ∧ o = (b.after before).build := by
  induction uses generalizing b with
  | nil => cases built
  | cons first rest previous =>
    rcases List.mem_cons.mp built with here | there
    · obtain ⟨rfl, response⟩ := Prod.mk.inj here
      exact ⟨[], rest, rfl, eq_build_of_use response.symm⟩
    · obtain ⟨before, later, rfl, found⟩ := previous there
      exact ⟨first :: before, later, rfl, found⟩

end Builder

end ChannelTuning

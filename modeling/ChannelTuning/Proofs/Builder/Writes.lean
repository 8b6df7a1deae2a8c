import ChannelTuning.Proofs.Builder.Runs

namespace ChannelTuning

def Setting.standard : Setting → Value
  | .amount a => .int a.standard
  | .transport => .transport .auto

/-- What a call writes to a setting: nothing, unless it is a call of the setter of the setting and
    was accepted. -/
def Setting.written? (s : Setting) : Use × Response → Option Value
  | (.set name v, .accepted) => if name = s.name then some (s.taken v) else none
  | _ => none

def Response.fault? : Response → Option Fault
  | .refused fault => some fault
  | _ => none

namespace Builder

theorem value_fresh (s : Setting) : fresh.value s = s.standard := by
  cases s with
  | amount a => cases a <;> rfl
  | transport => rfl

theorem value_use (b : Builder) (u : Use) (s : Setting) :
    (b.use u).2.value s = (s.written? (u, (b.use u).1)).getD (b.value s) := by
  cases u with
  | set name v =>
    cases done : b.set name v with
    | ok next =>
      rw [use_of_accepted done, value_of_set done]
      by_cases same : name = s.name
      · simp only [Setting.written?, if_pos same, Option.getD_some]
      · simp only [Setting.written?, if_neg same, Option.getD_none]
    | error fault =>
      rw [use_of_refused done]
      rfl
  | build => rfl
  | display => rfl

theorem value_after (b : Builder) (uses : List Use) (s : Setting) :
    (b.after uses).value s =
      ((b.trace uses).filterMap s.written?).getLast?.getD (b.value s) := by
  induction uses generalizing b with
  | nil => rfl
  | cons u rest previous =>
    rw [after, previous, value_use, trace, List.filterMap_cons]
    -- what the first call writes stands only until the rest of the run writes again
    cases s.written? (u, (b.use u).1) with
    | none => rfl
    | some v => rw [List.getLast?_cons, Option.getD_some, Option.getD_some]

theorem chain_of_accepted {b next : Builder} {name : String} {v : Value}
    (done : b.set name v = .ok next) (rest : List (String × Value)) :
    b.chain ((name, v) :: rest) = next.chain rest := by
  simp only [chain, done]

theorem chain_of_refused {b : Builder} {name : String} {v : Value} {fault : Fault}
    (failed : b.set name v = .error fault) (rest : List (String × Value)) :
    b.chain ((name, v) :: rest) = (b, some fault) := by
  simp only [chain, failed]

theorem chain_eq_accepted_calls (b : Builder) (settings : List (String × Value)) :
    b.chain settings =
      (b.after (((b.trace (chainUses settings)).takeWhile (·.2.fault?.isNone)).map Prod.fst),
        (b.trace (chainUses settings)).findSome? (·.2.fault?)) := by
  induction settings generalizing b with
  | nil => rfl
  | cons setting rest previous =>
    obtain ⟨name, v⟩ := setting
    cases done : b.set name v with
    | ok next =>
      have made := use_of_accepted done
      rw [chain_of_accepted done, previous]
      simp [chainUses, trace, after, made, Response.fault?]
    | error fault =>
      have made := use_of_refused done
      rw [chain_of_refused done]
      simp [chainUses, trace, after, made, Response.fault?]

theorem chain_append (b : Builder) (first second : List (String × Value)) :
    b.chain (first ++ second) =
      match b.chain first with
      | (last, none) => last.chain second
      | (last, some fault) => (last, some fault) := by
  induction first generalizing b with
  | nil => rfl
  | cons setting rest previous =>
    obtain ⟨name, v⟩ := setting
    cases done : b.set name v with
    | ok next =>
      rw [List.cons_append, chain_of_accepted done, chain_of_accepted done]
      exact previous next
    | error fault => rw [List.cons_append, chain_of_refused done, chain_of_refused done]

/-- The last accepted write wins. An option built after any run of calls on a fresh builder holds,
    in each setting, what the last accepted call of its setter wrote, or else its standard value. A
    chain of setters is a run that ends before its first failing call, so that chaining two lists is
    chaining the second only if the first did not fail. -/
theorem last_accepted_write_wins :
    (∀ (uses : List Use) (s : Setting),
      (fresh.after uses).build.get s =
        ((fresh.trace uses).filterMap s.written?).getLast?.getD s.standard) ∧
    (∀ (b : Builder) (settings : List (String × Value)),
      b.chain settings =
        (b.after (((b.trace (chainUses settings)).takeWhile (·.2.fault?.isNone)).map Prod.fst),
          (b.trace (chainUses settings)).findSome? (·.2.fault?))) ∧
    ∀ (b : Builder) (first second : List (String × Value)),
      b.chain (first ++ second) =
        match b.chain first with
        | (last, none) => last.chain second
        | (last, some fault) => (last, some fault) := by
  refine ⟨?_, chain_eq_accepted_calls, chain_append⟩
  intro uses s
  rw [build, Options.get_setting_ofSettings, value_after, value_fresh]

/-- A refused call is passed over, also when it comes after an accepted one, and of two accepted calls
    the later one counts. A chain ends with the refused call. -/
theorem values_of_repeated_calls :
    let uses : List Use := [.set "limit_count" (.int 5), .set "channel_type" (.text " Epoll "),
      .set "limit_time" (.int 0), .build, .set "limit_count" (.int (-1)), .display,
      .set "limit_time" (.int 7), .set "channel_type" (.text "KQUEUE"), .set "tls" .null]
    let o := (fresh.after uses).build
    o.limitCount = .int 5 ∧ o.transport = .transport .epoll ∧ o.limitTime = .int 7 ∧
      o.maxTraceEvent = .int 0 ∧
      fresh.chain ([("limit_count", .int 5)] ++
          [("limit_time", .bool true), ("limit_time", .int 7)]) =
        (fresh.putAmount .limitCount 5, some (.notAnInteger .limitTime (.bool true))) := by
  intro uses o
  obtain ⟨values, -, joined⟩ := last_accepted_write_wins
  refine ⟨?_, ?_, ?_, ?_, ?_⟩
  · exact (values uses (.amount .limitCount)).trans rfl
  · exact (values uses .transport).trans rfl
  · exact (values uses (.amount .limitTime)).trans rfl
  · exact (values uses (.amount .maxTraceEvent)).trans rfl
  · rw [joined]
    rfl

end Builder

end ChannelTuning

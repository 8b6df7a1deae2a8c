import ChannelTuning.Proofs.Arguments.Limits
import ChannelTuning.Proofs.Session.Frame

namespace ChannelTuning

/-- What every new option holds, whatever its settings: the withheld fields disabled, and something
    for a transport. -/
structure Options.Intact (o : Options) : Prop where
  keepAliveWithoutCalls : o.keepAliveWithoutCalls = .bool false
  idleTimeout : o.idleTimeout = .int 2592000000
  transport : o.transport ≠ .null

def Step.product? : Step → Option String
  | .build _ o => some o
  | .standard o => some o
  | .construct o _ => some o
  | .replace _ o _ => some o
  | _ => none

theorem Arguments.lookup_clamped {entries arguments : Arguments}
    (done : clamped entries = .ok arguments) (key : String) :
    arguments.lookup key = (entries.lookup key).bind Value.clamped? := by
  induction entries generalizing arguments with
  | nil =>
    cases done
    rfl
  | cons entry rest previous =>
    obtain ⟨name, v⟩ := entry
    rw [clamped] at done
    cases number : v.clamped? with
    | none => rw [number] at done; cases done
    | some w =>
      cases later : clamped rest with
      | error fault => rw [number, later] at done; cases done
      | ok others =>
        rw [number, later] at done
        cases done
        rw [List.lookup_cons, List.lookup_cons]
        cases key == name with
        | true => exact number.symm
        | false => exact previous later

namespace Options

theorem intact_build (b : Builder) : b.build.Intact where
  keepAliveWithoutCalls := rfl
  idleTimeout := rfl
  transport := Value.noConfusion

theorem intact_of_requireTransport {value : Setting → Value} {o : Options}
    (made : requireTransport (ofSettings value) = .ok o) : o.Intact := by
  unfold requireTransport at made
  split at made
  · cases made
  · rename_i given
    cases made
    exact ⟨rfl, rfl, given⟩

theorem intact_of_construct {entries : List (String × Value)} {o : Options}
    (made : construct entries = .ok o) : o.Intact := by
  unfold construct at made
  split at made
  · exact intact_of_requireTransport made
  · cases made

theorem intact_of_replace {source o : Options} {entries : List (String × Value)}
    (made : source.replace entries = .ok o) : o.Intact := by
  unfold replace at made
  split at made
  · cases made
  · split at made
    -- only the settings come from the source, which can hold anything in its withheld fields
    · exact intact_of_requireTransport made
    · cases made

theorem Intact.lookup_arguments {o : Options} (intact : o.Intact) {arguments : Arguments}
    (done : o.arguments = .ok arguments) :
    arguments.lookup "grpc.keepalive_permit_without_calls" = some (.int 0) ∧
      arguments.lookup "grpc.client_idle_timeout_ms" = some (.int 2147483647) := by
  have permission : o.argumentSources.lookup "grpc.keepalive_permit_without_calls" =
      some (.int (if o.keepAliveWithoutCalls.isTruthy then 1 else 0)) := rfl
  have idle : o.argumentSources.lookup "grpc.client_idle_timeout_ms" = some o.idleTimeout := rfl
  constructor
  · rw [Arguments.lookup_clamped done, permission, intact.keepAliveWithoutCalls]
    exact Value.clamped?_int 0
  · rw [Arguments.lookup_clamped done, idle, intact.idleTimeout]
    exact Value.clamped?_int 2592000000

end Options

namespace Session

theorem product?_or_force {step : Step} {o : String} (directed : step.target? = some (.option o)) :
    step.product? = some o ∨ ∃ field v, step = .force o field v := by
  cases step with
  | build | standard | construct | replace => cases directed; exact .inl rfl
  | force _ field v => cases directed; exact .inr ⟨field, v, rfl⟩
  | _ => cases directed

theorem step_of_product? (session : Session) {step : Step} {o : String}
    (produces : step.product? = some o) :
    ∃ records made, session.step step = session.storeNew o records made ∧
      ∀ p, made = .ok p → p.Intact := by
  cases step with
  | build b =>
    cases produces
    refine ⟨_, _, rfl, fun p made => ?_⟩
    cases held : session.builder? b with
    | error fault => rw [held] at made; cases made
    | ok builder =>
      rw [held] at made
      cases made
      exact Options.intact_build builder
  | standard =>
    cases produces
    refine ⟨_, _, rfl, fun p made => ?_⟩
    cases made
    exact Options.intact_build .fresh
  | construct =>
    cases produces
    exact ⟨_, _, rfl, fun p made => Options.intact_of_construct made⟩
  | replace source =>
    cases produces
    refine ⟨_, _, rfl, fun p made => ?_⟩
    cases held : session.option? source with
    | error fault => rw [held] at made; cases made
    | ok option =>
      rw [held] at made
      exact Options.intact_of_replace made
  | _ => cases produces

theorem intact_of_product (session : Session) {step : Step} {o : String}
    (produces : step.product? = some o) (done : (session.step step).answer.fault? = none) :
    ∃ p : Options, p.Intact ∧ (session.step step).answer = .fields p.entries ∧
      (session.step step).session.options.get? o = some (.ofOptions p) := by
  obtain ⟨records, made, same, intact⟩ := session.step_of_product? produces
  rw [same] at done ⊢
  cases made with
  | error fault => cases done
  | ok p => exact ⟨p, intact p rfl, rfl, session.options.get?_put_self o _⟩

def wrote (o : String) (entry : Step × Answer) : Bool :=
  entry.1.target? == some (.option o) && entry.2.fault?.isNone

def lastWriter? (session : Session) (steps : List Step) (o : String) : Option Step :=
  ((session.history steps).filter (wrote o)).getLast?.map Prod.fst

theorem lastWriter?_cons (session : Session) (step : Step) (rest : List Step) (o : String) :
    session.lastWriter? (step :: rest) o =
      ((session.step step).session.lastWriter? rest o).or
        (if wrote o (step, (session.step step).answer) then some step else none) := by
  rw [lastWriter?, history_cons, List.filter_cons]
  split
  · rw [List.getLast?_cons, lastWriter?]
    cases (((session.step step).session.history rest).filter (wrote o)).getLast? <;> rfl
  · rw [lastWriter?, Option.or_none]

theorem target?_of_lastWriter? {session : Session} {steps : List Step} {o : String} {step : Step}
    (last : session.lastWriter? steps o = some step) : step.target? = some (.option o) := by
  obtain ⟨⟨writer, answer⟩, listed, rfl⟩ := Option.map_eq_some_iff.mp last
  have wrote := (List.mem_filter.mp (List.mem_of_getLast? listed)).2
  exact beq_iff_eq.mp (Bool.and_eq_true_iff.mp wrote).1

theorem options_get?_run_of_no_writer {session : Session} {steps : List Step} {o : String}
    (unwritten : session.lastWriter? steps o = none) :
    (session.run steps).2.options.get? o = session.options.get? o := by
  rw [lastWriter?, Option.map_eq_none_iff, List.getLast?_eq_none_iff, List.filter_eq_nil_iff]
    at unwritten
  apply session.options_get?_run
  intro entry listed directed done
  exact unwritten entry listed (by simp [wrote, directed, done])

theorem intact_of_lastWriter? {session : Session} {steps : List Step} {o : String} {step : Step}
    (last : session.lastWriter? steps o = some step) (produces : step.product? = some o) :
    ∃ p : Options, p.Intact ∧ (session.run steps).2.options.get? o = some (.ofOptions p) := by
  induction steps generalizing session with
  | nil => cases last
  | cons first rest previous =>
    rw [lastWriter?_cons] at last
    cases later : (session.step first).session.lastWriter? rest o with
    | some writer =>
      rw [later] at last
      cases last
      exact previous later
    | none =>
      rw [later, Option.none_or] at last
      split at last
      · rename_i written
        cases last
        have done := Option.isNone_iff_eq_none.mp (Bool.and_eq_true_iff.mp written).2
        obtain ⟨p, intact, -, held⟩ := session.intact_of_product produces done
        exact ⟨p, intact, (options_get?_run_of_no_writer later).trans held⟩
      · cases last

/-- The withheld fields cannot be had with another value. Every step that makes an option, whatever
    it makes it from, disables them and sees to a transport. So this holds of every option in a slot
    that was not forced upon since it was last changed, and the channel arguments of such an option
    forbid pings without calls and keep idle channels forever. -/
theorem withheld_fields_stay_disabled :
    (∀ (session : Session) (step : Step) (o : String), step.product? = some o →
      (session.step step).answer.fault? = none →
        ∃ p : Options, p.Intact ∧ (session.step step).answer = .fields p.entries ∧
          (session.step step).session.options.get? o = some (.ofOptions p)) ∧
    ∀ (steps : List Step) (o : String) (stored : Stored),
      (start.run steps).2.options.get? o = some stored →
      (∀ field v, start.lastWriter? steps o ≠ some (.force o field v)) →
        stored.options.Intact ∧ ∀ arguments, stored.options.arguments = .ok arguments →
          arguments.lookup "grpc.keepalive_permit_without_calls" = some (.int 0) ∧
            arguments.lookup "grpc.client_idle_timeout_ms" = some (.int 2147483647) := by
  refine ⟨fun session _ _ => session.intact_of_product, ?_⟩
  intro steps o stored held unforced
  have intact : stored.options.Intact := by
    cases last : start.lastWriter? steps o with
    | none =>
      -- the slot is as empty as at the start
      have empty := options_get?_run_of_no_writer last
      rw [held] at empty
      cases empty
    | some step =>
      rcases product?_or_force (target?_of_lastWriter? last) with produces | ⟨field, v, rfl⟩
      · obtain ⟨p, intact, kept⟩ := intact_of_lastWriter? last produces
        obtain rfl := Option.some.inj (held.symm.trans kept)
        exact intact
      · exact absurd last (unforced field v)
  exact ⟨intact, fun _ => intact.lookup_arguments⟩

/-- A copy of an option that was forced to ping without calls forbids them again, and so do its
    arguments. -/
theorem withheld_fields_of_copy :
    let steps : List Step := [.standard "o", .force "o" "keep_alive_without_calls" (.bool true),
      .force "o" "idle_timeout_millis" (.text "5"), .replace "o" "p" [("limit_time", .int 7)],
      .force "o" "channel_type" .null]
    ∃ stored arguments, (start.run steps).2.options.get? "p" = some stored ∧
      stored.options.Intact ∧ stored.options.arguments = .ok arguments ∧
      arguments.lookup "grpc.keepalive_permit_without_calls" = some (.int 0) := by
  intro steps
  obtain ⟨-, held⟩ := withheld_fields_stay_disabled
  have last : start.lastWriter? steps "p" = some (.replace "o" "p" [("limit_time", .int 7)]) := rfl
  obtain ⟨intact, arguments⟩ := held steps "p" _ rfl (by
    intro field v forced
    rw [last] at forced
    cases forced)
  exact ⟨_, _, rfl, intact, rfl, (arguments _ rfl).1⟩

end Session

end ChannelTuning

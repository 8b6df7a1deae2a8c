import ChannelTuning.Proofs.Opening.Failures
import ChannelTuning.Proofs.Session.Records

namespace ChannelTuning

namespace Request

theorem perform_of_missing (target tls : Value) (backend : Backend) {choice : Choice}
    (missing : choice.IsMissing) :
    let explicit := perform ⟨target, .options .standard, tls, backend⟩
    perform ⟨target, choice, tls, backend⟩ =
      { explicit with records := .built .standard :: explicit.records } := by
  intro explicit
  obtain ⟨chosen, records⟩ := missing.stands_for_standard
  have given : (Choice.options .standard).options? = some .standard := rfl
  have silent : (Choice.options .standard).records = [] := rfl
  cases accepted : Options.standard.arguments with
  | error fault => simp only [explicit, perform, chosen, given, records, silent, accepted]
  | ok arguments =>
    cases came : (backend.connect tls.isTruthy target arguments).outcome <;>
      simp only [explicit, perform, chosen, given, records, silent, accepted, came,
        List.cons_append, List.nil_append]

variable {target tls : Value} {backend : Backend} {o : Options} {arguments : Arguments}

theorem perform_of_no_incident (accepted : o.arguments = .ok arguments)
    (well : ∀ attempt ∈ Attempt.path (backend.plan tls.isTruthy target arguments),
      backend.incident? attempt = none) :
    let opening := perform ⟨target, .options o, tls, backend⟩
    (∃ channel, opening.result = .ok channel) ∧
      opening.calls = backend.plan tls.isTruthy target arguments ∧
      opening.records = [.opened tls.isTruthy target o] := by
  intro opening
  obtain ⟨channel, came⟩ := Backend.connect_ok_iff.mpr well
  have calls : opening.calls = (backend.connect tls.isTruthy target arguments).calls :=
    calls_perform rfl accepted
  refine ⟨(channel_iff rfl accepted).mpr well, calls.trans (Backend.calls_connect_of_ok came), ?_⟩
  simp only [opening, perform, Choice.options?, Choice.records, accepted, came, List.nil_append]

theorem records_of_error {fault : Fault}
    (failed : (perform ⟨target, .options o, tls, backend⟩).result = .error fault) :
    (perform ⟨target, .options o, tls, backend⟩).records = [] := by
  rcases perform_cases ⟨target, .options o, tls, backend⟩ with
    ⟨-, -, records⟩ | ⟨-, -, channel, -, opened, -⟩
  · exact records
  · rw [opened] at failed
    cases failed

end Request

namespace Session

theorem connect_of_missing {session : Session} {passed : Passed} {choice : Choice}
    (chosen : session.choice passed = .ok choice) (missing : choice.IsMissing) (slot : String)
    (target tls : Value) (backend : Backend) :
    let fallback := session.step (.connect target passed tls backend)
    let made := session.step (.standard slot)
    let explicit := made.session.step (.connect target (.slot slot) tls backend)
    fallback.answer = explicit.answer ∧ fallback.records = made.records ++ explicit.records := by
  intro fallback made explicit
  have held : made.session.choice (.slot slot) = .ok (.options .standard) := by
    simp only [made, Session.step, storeNew, store, Except.map, putStored, Session.choice, option?,
      stored?, Slots.get?_put_self, Stored.ofOptions]
  have same := Request.perform_of_missing target tls backend missing
  have first : made.records = [.built .standard] := rfl
  simp only [fallback, explicit, Session.step, chosen, held, same, first, List.cons_append,
    List.nil_append, and_self]

/-- A missing option and the standard option are one. With nothing passed, or with a value that
    counts as false, the same calls are made and the same comes of them as with the standard option
    passed, and the log tells of one more option built, also if no channel is opened. An option that
    is passed is the one that is used, whatever its fields hold: every call that hands over
    arguments hands over its own, and no option is built, so that nothing but an opening is ever
    recorded. Any other value is refused before anything else is done, and before the backend is
    loaded. -/
theorem options_are_never_swapped :
    (∀ (target tls : Value) (choice : Choice) (backend : Backend), choice.IsMissing →
      let explicit := Request.perform ⟨target, .options .standard, tls, backend⟩
      Request.perform ⟨target, choice, tls, backend⟩ =
        { explicit with records := .built .standard :: explicit.records }) ∧
    (∀ (target tls : Value) (backend : Backend) (o : Options),
      let opening := Request.perform ⟨target, .options o, tls, backend⟩
      (∀ fault, o.arguments = .error fault → opening.calls = []) ∧
      (∀ arguments, o.arguments = .ok arguments →
        let plan := backend.plan tls.isTruthy target arguments
        (∀ c ∈ opening.calls, c = .credentials ∨ c.arguments? = some arguments) ∧
          ((∀ attempt ∈ Attempt.path plan, backend.incident? attempt = none) →
            (∃ channel, opening.result = .ok channel) ∧ opening.calls = plan ∧
              opening.records = [.opened tls.isTruthy target o])) ∧
      ∀ fault, opening.result = .error fault → opening.records = []) ∧
    (∀ (target v tls : Value) (backend : Backend), ¬ v.IsFalse →
      Request.perform ⟨target, .value v, tls, backend⟩ = ⟨[], [], .error .notOptions⟩ ∧
        Fault.notOptions.className = "AttributeError") ∧
    ∀ (session : Session) (passed : Passed) (choice : Choice) (slot : String) (target tls : Value)
      (backend : Backend), session.choice passed = .ok choice → choice.IsMissing →
        let fallback := session.step (.connect target passed tls backend)
        let made := session.step (.standard slot)
        let explicit := made.session.step (.connect target (.slot slot) tls backend)
        fallback.answer = explicit.answer ∧
          fallback.records = made.records ++ explicit.records := by
  refine ⟨fun target tls _ backend => Request.perform_of_missing target tls backend, ?_,
    fun _ _ _ _ counts => ⟨Request.perform_of_true_value counts, rfl⟩, ?_⟩
  · intro target tls backend o opening
    refine ⟨fun fault refused => ?_, fun arguments accepted => ⟨fun c made => ?_, ?_⟩,
      fun fault => Request.records_of_error⟩
    · exact congrArg Opening.calls (Request.perform_of_refused_arguments rfl refused)
    · exact Request.arguments?_of_mem_calls rfl accepted made
    · exact Request.perform_of_no_incident accepted
  · intro session passed choice slot target tls backend chosen missing
    exact connect_of_missing chosen missing slot target tls backend

/-- A negative zero stands for the standard option, which is built although there is no backend to
    open a channel with. An option of no use is an option, and a tuple that holds nothing of use is
    refused all the same. -/
theorem options_of_negative_zero :
    let zero : Value := .float (.finite true ⟨0, 0, .inr ⟨rfl, rfl⟩⟩)
    let useless : Options := { Options.standard with keepAliveTime := .int 0, transport := .null }
    let absent := Backend.withFaults true [] none
    Request.perform ⟨.text "h:1", .value zero, .null, absent⟩ =
      ⟨[], [.built .standard], .error (.backendMissing Backend.missingIncident)⟩ ∧
    (Request.perform ⟨.text "h:1", .options useless, .null, .working⟩).records =
      [.opened false (.text "h:1") useless] ∧
    Request.perform ⟨.text "h:1", .value (.tuple [.null]), .null, absent⟩ =
      ⟨[], [], .error .notOptions⟩ ∧
    (start.step (.connect (.text "h:1") (.value zero) .null absent)).records =
      [.built .standard] := by
  intro zero useless absent
  have falsy : zero.IsFalse := .float (by decide +kernel)
  obtain ⟨missing, own, refused, session⟩ := options_are_never_swapped
  refine ⟨missing _ _ _ _ (.value falsy), ?_, (refused _ (.tuple [.null]) _ _ nofun).1, ?_⟩
  · obtain ⟨-, sent, -⟩ := own (.text "h:1") .null .working useless
    have well (arguments : Arguments) :
        ∀ attempt ∈ Attempt.path (Backend.working.plan false (.text "h:1") arguments),
          Backend.working.incident? attempt = none := by
      intro attempt listed
      rcases listed with _ | ⟨_, _ | ⟨_, _ | ⟨_, none⟩⟩⟩
      · rfl
      · rfl
      · rfl
      · cases none
    exact ((sent _ rfl).2 (well _)).2.2
  · exact (session start (.value zero) _ "o" _ _ _ rfl (.value falsy)).2

end Session

end ChannelTuning

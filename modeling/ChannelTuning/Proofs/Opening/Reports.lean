import ChannelTuning.Proofs.Opening.Calls

namespace ChannelTuning

namespace Incident

def isStop : Incident → Bool
  | .stop _ _ => true
  | _ => false

/-- Whether an incident can be reported. Its text is part of the report, unless the backend could
    not be loaded, and an error of the library has a text only if its code has a name. -/
def isReportable : Incident → Bool
  | .own failure => failure.code.label?.isSome
  | .other _ text => text.toOption.isSome
  | _ => true

end Incident

structure Fault.Reports (fault : Fault) (incident : Incident) : Prop where
  cause : fault.cause? = some incident
  failure : ∃ failure, fault.failure? = some failure ∧ failure.kind = .connection ∧
    failure.code = .code .unavailable

namespace Incident

theorem display?_of_reportable {incident : Incident} (reportable : incident.isReportable = true) :
    ∃ text, incident.display? = some text := by
  cases incident with
  | missingKey arguments => rcases arguments with _ | ⟨key, _ | _⟩ <;> exact ⟨_, rfl⟩
  | own failure =>
    obtain ⟨label, named⟩ := Option.isSome_iff_exists.mp reportable
    exact ⟨_, by rw [display?, Failure.display?, named]; rfl⟩
  | other className text => exact Option.isSome_iff_exists.mp reportable
  | _ => exact ⟨_, rfl⟩

theorem fault_of_display? {incident : Incident} {text : String} (target : Value)
    (goesOn : incident.isStop = false)
    (loaded : ∀ className arguments, incident ≠ .unloadable className arguments)
    (shown : incident.display? = some text) :
    incident.fault target = .notOpened target text incident := by
  cases incident with
  | unloadable className arguments => exact absurd rfl (loaded className arguments)
  | stop className arguments => cases goesOn
  | other className made =>
    cases made with
    | error failed => cases shown
    | ok _ => simp only [fault, shown]
  | _ => simp only [fault, shown]

theorem reports_fault {incident : Incident} (target : Value) (goesOn : incident.isStop = false)
    (reportable : incident.isReportable = true) : (incident.fault target).Reports incident := by
  by_cases unloaded : ∃ className arguments, incident = .unloadable className arguments
  · obtain ⟨className, arguments, rfl⟩ := unloaded
    exact ⟨rfl, _, rfl, rfl, rfl⟩
  · obtain ⟨text, shown⟩ := display?_of_reportable reportable
    have loaded : ∀ className arguments, incident ≠ .unloadable className arguments :=
      fun className arguments same => unloaded ⟨className, arguments, same⟩
    rw [fault_of_display? target goesOn loaded shown]
    exact ⟨rfl, _, rfl, rfl, rfl⟩

theorem failure?_fault_of_silent {incident : Incident} (target : Value)
    (silent : incident.isReportable = false) :
    (incident.fault target).failure? = none := by
  cases incident with
  | own failure =>
    have nameless : failure.code.label? = none :=
      Option.isNone_iff_eq_none.mp (Option.isSome_eq_false_iff.mp silent)
    have textless : failure.display? = none := by rw [Failure.display?, nameless]; rfl
    simp only [fault, display?, textless]
    rfl
  | other className text =>
    cases text with
    | error failed => rfl
    | ok text => cases silent
  | _ => cases silent

end Incident

namespace Request

/-- Whether everything that goes wrong on the path of a request is reported as an error about the
    connection depends on the incident alone: an error whose text cannot be made gives way to the
    error that making the text ends in. -/
theorem connection_error_iff_reportable (target tls : Value) (choice : Choice) (backend : Backend)
    (o : Options) (arguments : Arguments) (incident : Incident)
    (chosen : choice.options? = some o) (accepted : o.arguments = .ok arguments)
    (first : (Attempt.path (backend.plan tls.isTruthy target arguments)).findSome?
      backend.incident? = some incident)
    (goesOn : incident.isStop = false) :
    ∃ fault, (perform ⟨target, choice, tls, backend⟩).result = .error fault ∧
      (fault.Reports incident ↔ incident.isReportable = true) ∧
      (incident.isReportable = false → fault.failure? = none) := by
  have came := Backend.outcome_connect_of_first first
  refine ⟨incident.fault target, ?_, ⟨fun reports => ?_, incident.reports_fault target goesOn⟩,
    incident.failure?_fault_of_silent target⟩
  · rw [result_perform chosen accepted, came]
  · obtain ⟨-, failure, reported, -⟩ := reports
    cases silent : incident.isReportable with
    | true => rfl
    | false =>
      rw [incident.failure?_fault_of_silent target silent] at reported
      cases reported

/-- A transport has a name, so an error with a transport for its code has a text. -/
theorem connection_error_of_transport_code :
    let incident := Incident.ofClass "GrpcOptionsError" [.text "x", .transport .epoll]
    let backend := Backend.withFaults false [.secure] (some (.insecure, incident))
    ∃ fault, (perform ⟨.text "h:1", .nothing, .null, backend⟩).result = .error fault ∧
      fault.Reports incident := by
  intro incident backend
  obtain ⟨fault, ended, reports, -⟩ := connection_error_iff_reportable (.text "h:1") .null .nothing
    backend .standard _ incident rfl rfl rfl rfl
  exact ⟨fault, ended, reports.mpr rfl⟩

/-- A number has no name, so an error with a number for its code is not reported. -/
theorem no_connection_error_of_numeric_code :
    let incident := Incident.ofClass "GrpcOptionsError" [.text "x", .int 1]
    let backend := Backend.withFaults false [] (some (.insecure, incident))
    let opening := perform ⟨.text "h:1", .nothing, .bool false, backend⟩
    incident.isStop = false ∧ opening.calls.map Call.function = [.insecure] ∧
      opening.result = .error .namelessCode ∧
      Fault.namelessCode.className = "AttributeError" ∧
      ¬ ∃ fault, opening.result = .error fault ∧ fault.Reports incident := by
  intro incident backend opening
  have ended : opening.result = .error .namelessCode := rfl
  refine ⟨rfl, rfl, ended, rfl, ?_⟩
  rintro ⟨fault, result, -, failure, reported, -⟩
  rw [ended] at result
  cases result
  cases reported

end Request

end ChannelTuning

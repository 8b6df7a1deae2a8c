import ChannelTuning.Proofs.Arguments.Clamping
import ChannelTuning.Proofs.Opening.Reports

namespace ChannelTuning

/-- A fault is an error about the connection with the given message and cause, rendered with its
    code in front. -/
structure Fault.Carries (fault : Fault) (message : String) (cause : Incident) : Prop where
  cause : fault.cause? = some cause
  failure : fault.failure? = some (.connection (.text message))
  text : fault.failure?.bind Failure.display? = some ("[UNAVAILABLE] " ++ message)

namespace Incident

def isUnloadable : Incident → Bool
  | .unloadable _ _ => true
  | _ => false

theorem fault_of_isUnloadable {incident : Incident} (target : Value)
    (missing : incident.isUnloadable = true) :
    incident.fault target = .backendMissing incident := by
  cases incident with
  | unloadable className arguments => rfl
  | _ => cases missing

theorem fault_of_isStop {incident : Incident} (target : Value) (stops : incident.isStop = true) :
    incident.fault target = .stopped incident := by
  cases incident with
  | stop className arguments => rfl
  | _ => cases stops

/-- The classes of errors, each with those derived from it. Left out are classes whose errors make
    their texts by rules of their own, and the built-in class that shares its name with one of the
    library; what is derived from that one stands with the system errors. -/
def derivedClasses : List (String × List String) :=
  [("BaseException", ["Exception", "GeneratorExit", "KeyboardInterrupt", "SystemExit"]),
    ("Exception", ["ArithmeticError", "AssertionError", "AttributeError", "BufferError", "EOFError",
      "GrpcOptionsError", "ImportError", "LookupError", "MemoryError", "NameError", "OSError",
      "ReferenceError", "RuntimeError", "StopAsyncIteration", "StopIteration", "SystemError",
      "TypeError", "ValueError", "Warning"]),
    ("ImportError", ["ModuleNotFoundError"]),
    ("GrpcOptionsError", ["InvalidArgumentError", "MissingValueError", "UnknownChannelTypeError",
      "ConnectionError"]),
    ("ArithmeticError", ["FloatingPointError", "OverflowError", "ZeroDivisionError"]),
    ("LookupError", ["IndexError", "KeyError"]),
    ("NameError", ["UnboundLocalError"]),
    ("OSError", ["BlockingIOError", "BrokenPipeError", "ChildProcessError",
      "ConnectionAbortedError", "ConnectionRefusedError", "ConnectionResetError",
      "FileExistsError", "FileNotFoundError", "InterruptedError", "IsADirectoryError",
      "NotADirectoryError", "PermissionError", "ProcessLookupError", "TimeoutError"]),
    ("RuntimeError", ["NotImplementedError", "RecursionError"]),
    ("ValueError", ["UnicodeError"]),
    ("Warning", ["BytesWarning", "DeprecationWarning", "EncodingWarning", "FutureWarning",
      "ImportWarning", "PendingDeprecationWarning", "ResourceWarning", "RuntimeWarning",
      "SyntaxWarning", "UnicodeWarning", "UserWarning"])]

inductive DerivesFrom : String → String → Prop
  | self (className : String) : DerivesFrom className className
  | parent {className parent ancestor : String} {children : List String}
      (listed : (parent, children) ∈ derivedClasses) (child : className ∈ children)
      (above : DerivesFrom parent ancestor) : DerivesFrom className ancestor

def unloadableClasses : List String := ["ImportError", "ModuleNotFoundError"]

def stopClasses : List String :=
  ["BaseException", "GeneratorExit", "KeyboardInterrupt", "SystemExit"]

theorem derivesFrom_importError_iff {className : String} :
    DerivesFrom className "ImportError" ↔ className ∈ unloadableClasses := by
  constructor
  · intro derives
    have closed : ∀ entry ∈ derivedClasses, entry.1 ∈ unloadableClasses →
        ∀ child ∈ entry.2, child ∈ unloadableClasses := by decide
    generalize same : "ImportError" = ancestor at derives
    induction derives with
    | self =>
      subst same
      decide
    | parent listed child _ previous => exact closed _ listed (previous same) _ child
  · intro listed
    simp only [unloadableClasses, List.mem_cons, List.not_mem_nil, or_false] at listed
    have children : ("ImportError", ["ModuleNotFoundError"]) ∈ derivedClasses := by decide
    rcases listed with rfl | rfl
    · exact .self _
    · exact .parent children (.head _) (.self _)

theorem derivesFrom_exception_iff {className : String}
    (known : DerivesFrom className "BaseException") :
    DerivesFrom className "Exception" ↔ className ∉ stopClasses := by
  constructor
  · clear known
    intro derives
    have closed : ∀ entry ∈ derivedClasses, entry.1 ∉ stopClasses →
        ∀ child ∈ entry.2, child ∉ stopClasses := by decide
    generalize same : "Exception" = ancestor at derives
    induction derives with
    | self =>
      subst same
      decide
    | parent listed child _ previous => exact closed _ listed (previous same) _ child
  · have above : ∀ entry ∈ derivedClasses, ∀ child ∈ entry.2, child ∉ stopClasses →
        child = "Exception" ∨ entry.1 ∉ stopClasses := by decide
    generalize same : "BaseException" = ancestor at known
    induction known with
    | self =>
      subst same
      intro goesOn
      exact absurd (by decide) goesOn
    | parent listed child _ previous =>
      intro goesOn
      rcases above _ listed _ child goesOn with rfl | parentGoesOn
      · exact .self _
      · exact .parent listed child (previous same parentGoesOn)

def IsPlain (incident : Incident) : Prop :=
  incident.isUnloadable = false ∧ incident.isStop = false

theorem fault_of_isPlain {incident : Incident} {text : String} (target : Value)
    (plain : incident.IsPlain) (shown : incident.display? = some text) :
    incident.fault target = .notOpened target text incident := by
  refine fault_of_display? target plain.2 ?_ shown
  rintro className arguments rfl
  cases plain.1

theorem isPlain_of_countFault? {v : Value} {incident : Incident}
    (wrong : countFault? v = some incident) : incident.IsPlain := by
  unfold countFault? at wrong
  split at wrong
  · cases wrong
    exact ⟨rfl, rfl⟩
  · split at wrong
    · cases wrong
    · cases wrong
      exact ⟨rfl, rfl⟩
  · cases wrong

theorem isPlain_ofSystem (className : String) (arguments : List Value) :
    (ofSystem className arguments).IsPlain := by
  unfold ofSystem
  split
  · cases counted : arguments[2]?.bind countFault? with
    | none => exact ⟨rfl, rfl⟩
    | some incident =>
      obtain ⟨v, -, wrong⟩ := Option.bind_eq_some_iff.mp counted
      exact isPlain_of_countFault? wrong
  · exact ⟨rfl, rfl⟩

theorem ofClass_of_mem_unloadableClasses {className : String}
    (listed : className ∈ unloadableClasses) (arguments : List Value) :
    ofClass className arguments = .unloadable className arguments := by
  simp only [unloadableClasses, List.mem_cons, List.not_mem_nil, or_false] at listed
  rcases listed with rfl | rfl <;> rfl

theorem ofClass_of_mem_stopClasses {className : String} (listed : className ∈ stopClasses)
    (arguments : List Value) : ofClass className arguments = .stop className arguments := by
  simp only [stopClasses, List.mem_cons, List.not_mem_nil, or_false] at listed
  rcases listed with rfl | rfl | rfl | rfl <;> rfl

theorem isPlain_ofClass {className : String} (loads : className ∉ unloadableClasses)
    (goesOn : className ∉ stopClasses) (arguments : List Value) :
    (ofClass className arguments).IsPlain := by
  unfold ofClass
  split
  · split <;> exact ⟨rfl, rfl⟩
  · split
    · exact absurd ‹_› loads
    · split
      · exact absurd ‹_› goesOn
      · split
        · exact ⟨rfl, rfl⟩
        · split
          · exact isPlain_ofSystem _ _
          · split
            · exact isPlain_ofSystem _ _
            · exact ⟨rfl, rfl⟩

theorem isUnloadable_ofClass_iff {className : String} {arguments : List Value} :
    (ofClass className arguments).isUnloadable = true ↔ className ∈ unloadableClasses := by
  constructor
  · intro missing
    refine Decidable.byContradiction fun loads => ?_
    by_cases stop : className ∈ stopClasses
    · rw [ofClass_of_mem_stopClasses stop] at missing
      cases missing
    · rw [(isPlain_ofClass loads stop arguments).1] at missing
      cases missing
  · intro listed
    rw [ofClass_of_mem_unloadableClasses listed]
    rfl

theorem isStop_ofClass_iff {className : String} {arguments : List Value} :
    (ofClass className arguments).isStop = true ↔ className ∈ stopClasses := by
  constructor
  · intro stops
    refine Decidable.byContradiction fun goesOn => ?_
    by_cases unloadable : className ∈ unloadableClasses
    · rw [ofClass_of_mem_unloadableClasses unloadable] at stops
      cases stops
    · rw [(isPlain_ofClass unloadable goesOn arguments).2] at stops
      cases stops
  · intro listed
    rw [ofClass_of_mem_stopClasses listed]
    rfl

end Incident

theorem Fault.carries_backendMissing (cause : Incident) :
    (backendMissing cause).Carries "gRPC not available. Install with: pip install grpcio" cause :=
  ⟨rfl, rfl, rfl⟩

theorem Fault.carries_notOpened (target : Value) (text : String) (cause : Incident) :
    (notOpened target text cause).Carries
      ("Failed to open channel to " ++ target.display ++ ": " ++ text) cause :=
  ⟨rfl, rfl, rfl⟩

theorem Choice.source_of_mem_records {choice : Choice} {record : Record}
    (listed : record ∈ choice.records) : record.source = .options := by
  unfold records at listed
  split at listed
  · obtain rfl := List.mem_singleton.mp listed
    rfl
  · cases listed
  · split at listed
    · cases listed
    · obtain rfl := List.mem_singleton.mp listed
      rfl

namespace Request

variable {request : Request} {o : Options} {arguments : Arguments}

theorem perform_of_first {incident : Incident} (chosen : request.choice.options? = some o)
    (accepted : o.arguments = .ok arguments)
    (first : (Attempt.path (request.backend.plan request.tls.isTruthy request.target
      arguments)).findSome? request.backend.incident? = some incident) :
    request.perform.result = .error (incident.fault request.target) ∧
      request.perform.records = request.choice.records := by
  have came := Backend.outcome_connect_of_first first
  simp only [perform, chosen, accepted, came, and_self]

theorem perform_of_refused_arguments {fault : Fault} (chosen : request.choice.options? = some o)
    (refused : o.arguments = .error fault) :
    request.perform = ⟨[], request.choice.records, .error fault⟩ := by
  simp only [perform, chosen, refused]

theorem perform_of_true_value {target v tls : Value} {backend : Backend} (counts : ¬ v.IsFalse) :
    perform ⟨target, .value v, tls, backend⟩ = ⟨[], [], .error .notOptions⟩ := by
  have truthy := Value.isTruthy_eq_true_iff.mpr counts
  simp only [perform, Choice.options?, Choice.records, truthy, if_true]

/-- The first incident on the path of a request decides what the request ends in. If the backend
    could not be loaded, at whatever point, the error says so; a request to stop passes through as
    it is; anything else is reported with its text. Both errors have the incident as their cause,
    and no opening is recorded. Options without arguments, and what is no option at all, end the
    request before the backend is asked for anything. -/
theorem failures_are_told_apart :
    (∀ (target tls : Value) (choice : Choice) (backend : Backend) (o : Options)
      (arguments : Arguments) (incident : Incident),
      choice.options? = some o → o.arguments = .ok arguments →
      (Attempt.path (backend.plan tls.isTruthy target arguments)).findSome? backend.incident? =
        some incident →
        let opening := perform ⟨target, choice, tls, backend⟩
        (∀ record ∈ opening.records, record.source ≠ .channel) ∧
          ∃ fault, opening.result = .error fault ∧
            (incident.isUnloadable = true →
              fault.Carries "gRPC not available. Install with: pip install grpcio" incident) ∧
            (incident.isStop = true → fault = .stopped incident) ∧
            (incident.IsPlain → ∀ text, incident.display? = some text →
              fault.Carries ("Failed to open channel to " ++ target.display ++ ": " ++ text)
                incident)) ∧
    (∀ (className : String) (arguments : List Value),
      Incident.DerivesFrom className "BaseException" →
        ((Incident.ofClass className arguments).isUnloadable = true ↔
          Incident.DerivesFrom className "ImportError") ∧
        ((Incident.ofClass className arguments).isStop = true ↔
          ¬ Incident.DerivesFrom className "Exception")) ∧
    (∀ incident : Incident, incident.isReportable = true →
      ∃ text, incident.display? = some text) ∧
    (∀ (target tls : Value) (choice : Choice) (backend : Backend) (o : Options) (fault : Fault),
      choice.options? = some o → o.arguments = .error fault →
        perform ⟨target, choice, tls, backend⟩ = ⟨[], choice.records, .error fault⟩ ∧
          fault.className = "TypeError" ∧ ∃ key, fault = .notANumber key) ∧
    ∀ (target v tls : Value) (backend : Backend), ¬ v.IsFalse →
      perform ⟨target, .value v, tls, backend⟩ = ⟨[], [], .error .notOptions⟩ ∧
        Fault.notOptions.className = "AttributeError" := by
  refine ⟨?_, fun className arguments known => ?_, fun _ => Incident.display?_of_reportable, ?_,
    fun _ _ _ _ counts => ⟨perform_of_true_value counts, rfl⟩⟩
  · intro target tls choice backend o arguments incident chosen accepted first opening
    obtain ⟨ended, records⟩ : opening.result = .error (incident.fault target) ∧
        opening.records = choice.records := perform_of_first chosen accepted first
    refine ⟨fun record listed => ?_, incident.fault target, ended, fun missing => ?_,
      incident.fault_of_isStop target, fun plain text shown => ?_⟩
    · rw [Choice.source_of_mem_records (records ▸ listed)]
      decide
    · rw [incident.fault_of_isUnloadable target missing]
      exact Fault.carries_backendMissing incident
    · rw [incident.fault_of_isPlain target plain shown]
      exact Fault.carries_notOpened target text incident
  · rw [Incident.isUnloadable_ofClass_iff, Incident.isStop_ofClass_iff,
      Incident.derivesFrom_importError_iff, Incident.derivesFrom_exception_iff known, not_not]
    exact ⟨Iff.rfl, Iff.rfl⟩
  · intro target tls choice backend o fault chosen refused
    obtain ⟨key, -, -, -, -, rfl⟩ := Options.exists_of_arguments_error refused
    exact ⟨perform_of_refused_arguments chosen refused, rfl, key, rfl⟩

/-- What goes wrong in the last call, or in looking up the function for it, is reported with its own
    text. An error of this library has its code in it, a missing key is quoted, and several
    arguments are shown as a tuple. The backend counts as missing also if the last call says so, and
    a request to stop is not reported at all. -/
theorem failures_of_secure_channels :
    let request (backend : Backend) : Request :=
      ⟨.tuple [.text "h", .int 1], .nothing, .int 1, backend⟩
    let failing (incident : Incident) : Backend := .withFaults false [] (some (.secure, incident))
    let ends (backend : Backend) (message : String) (incident : Incident) : Prop :=
      ∃ fault, (request backend).perform.result = .error fault ∧ fault.Carries message incident
    let unknown := Incident.ofClass "UnknownChannelTypeError" [.text "udp"]
    let key := Incident.ofClass "KeyError" [.text "udp"]
    let several := Incident.ofClass "RuntimeError" [.text "a", .int 1]
    let missing := Incident.ofClass "ModuleNotFoundError" [.text "ssl"]
    let stop := Incident.ofClass "KeyboardInterrupt" []
    ends (failing unknown) ("Failed to open channel to ('h', 1): " ++
      "[UNKNOWN_CHANNEL_TYPE] Unknown channel type: 'udp'") unknown ∧
    ends (failing key) "Failed to open channel to ('h', 1): 'udp'" key ∧
    ends (failing several) "Failed to open channel to ('h', 1): ('a', 1)" several ∧
    ends (.withFaults false [.secure] none) ("Failed to open channel to ('h', 1): " ++
      "module 'grpc' has no attribute 'secure_channel'") (.absent .secure) ∧
    ends (failing missing) "gRPC not available. Install with: pip install grpcio" missing ∧
    (request (failing stop)).perform.result = .error (.stopped stop) ∧
    ∀ arguments, (Incident.ofClass "GeneratorExit" arguments).isStop = true := by
  intro request failing ends unknown key several missing stop
  have told (backend : Backend) (incident : Incident) :=
    failures_are_told_apart.1 (.tuple [.text "h", .int 1]) (.int 1) .nothing backend .standard _
      incident rfl rfl
  refine ⟨?_, ?_, ?_, ?_, ?_, ?_, fun arguments => ?_⟩
  · obtain ⟨-, fault, ended, -, -, carries⟩ := told (failing unknown) unknown rfl
    exact ⟨fault, ended, carries ⟨rfl, rfl⟩ _ rfl⟩
  · obtain ⟨-, fault, ended, -, -, carries⟩ := told (failing key) key rfl
    exact ⟨fault, ended, carries ⟨rfl, rfl⟩ _ rfl⟩
  · obtain ⟨-, fault, ended, -, -, carries⟩ := told (failing several) several rfl
    exact ⟨fault, ended, carries ⟨rfl, rfl⟩ _ rfl⟩
  · obtain ⟨-, fault, ended, -, -, carries⟩ :=
      told (.withFaults false [.secure] none) (.absent .secure) rfl
    exact ⟨fault, ended, carries ⟨rfl, rfl⟩ _ rfl⟩
  · obtain ⟨-, fault, ended, carries, -⟩ := told (failing missing) missing rfl
    exact ⟨fault, ended, carries rfl⟩
  · obtain ⟨-, fault, ended, -, stopped, -⟩ := told (failing stop) stop rfl
    rw [stopped rfl] at ended
    exact ended
  · have known : Incident.DerivesFrom "GeneratorExit" "BaseException" :=
      .parent (.head _) (by decide) (.self _)
    have noFailure : ¬ Incident.DerivesFrom "GeneratorExit" "Exception" := by
      rw [Incident.derivesFrom_exception_iff known]
      decide
    exact (failures_are_told_apart.2.1 "GeneratorExit" arguments known).2.mpr noFailure

end Request

end ChannelTuning

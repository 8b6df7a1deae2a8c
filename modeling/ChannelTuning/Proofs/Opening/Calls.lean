import ChannelTuning.Proofs.Opening.Path
import ChannelTuning.Proofs.Value.Kinds

namespace ChannelTuning

namespace Backend

theorem calls_connect_isPrefix (backend : Backend) (tls : Bool) (target : Value)
    (arguments : Arguments) :
    (backend.connect tls target arguments).calls <+: backend.plan tls target arguments := by
  have calls := (Follows.connect backend tls target arguments).calls
  have tried := backend.tried_isPrefix (Attempt.path (backend.plan tls target arguments))
  have made := tried.filterMap Attempt.call?
  rw [← calls, Attempt.filterMap_call?_path] at made
  exact made

theorem connect_ok_iff {backend : Backend} {tls : Bool} {target : Value} {arguments : Arguments} :
    (∃ channel, (backend.connect tls target arguments).outcome = .ok channel) ↔
      ∀ attempt ∈ Attempt.path (backend.plan tls target arguments),
        backend.incident? attempt = none := by
  have incident := (Follows.connect backend tls target arguments).incident
  rw [← List.findSome?_eq_none_iff, ← incident]
  cases came : (backend.connect tls target arguments).outcome <;>
    simp [Exchange.incident?, came]

theorem outcome_connect_of_first {backend : Backend} {tls : Bool} {target : Value}
    {arguments : Arguments} {incident : Incident}
    (first : (Attempt.path (backend.plan tls target arguments)).findSome? backend.incident? =
      some incident) :
    (backend.connect tls target arguments).outcome = .error incident := by
  have ended := (Follows.connect backend tls target arguments).incident
  rw [first, Exchange.incident?] at ended
  split at ended
  · rename_i came
    rw [came, Option.some.inj ended]
  · cases ended

theorem calls_connect_of_ok {backend : Backend} {tls : Bool} {target : Value}
    {arguments : Arguments} {channel : Handle}
    (came : (backend.connect tls target arguments).outcome = .ok channel) :
    (backend.connect tls target arguments).calls = backend.plan tls target arguments := by
  have well := List.findSome?_eq_none_iff.mpr (connect_ok_iff.mp ⟨channel, came⟩)
  rw [(Follows.connect backend tls target arguments).calls, tried_of_no_incident well,
    Attempt.filterMap_call?_path]

theorem connect_of_ok {backend : Backend} {tls : Bool} {target : Value} {arguments : Arguments}
    {channel : Handle} (came : (backend.connect tls target arguments).outcome = .ok channel) :
    ∃ c, (backend.connect tls target arguments).calls.getLast? = some c ∧
      backend.call c = .ok channel := by
  cases tls with
  | false =>
    obtain ⟨-, -, opened, calls⟩ := Exchange.andThen_of_ok came
    obtain ⟨made, only⟩ := invoke_of_ok opened
    have all : (backend.connect false target arguments).calls = [.insecure target arguments] :=
      calls.trans only
    exact ⟨_, by rw [all]; rfl, made⟩
  | true =>
    obtain ⟨-, -, opened, calls⟩ := Exchange.andThen_of_ok came
    obtain ⟨handle, -, last, both⟩ := Exchange.andThen_of_ok opened
    obtain ⟨made, only⟩ := invoke_of_ok last
    have all : (backend.connect true target arguments).calls =
        (backend.invoke .credentials).calls ++ [.secure target handle arguments] :=
      calls.trans (both.trans (congrArg _ only))
    exact ⟨_, by rw [all, List.getLast?_concat], made⟩

theorem call_credentials_of_secure_mem {backend : Backend} {tls : Bool} {target : Value}
    {arguments : Arguments} {credentials : Handle}
    (made : Call.secure target credentials arguments ∈
      (backend.connect tls target arguments).calls) :
    backend.call .credentials = .ok credentials := by
  have planned := (calls_connect_isPrefix backend tls target arguments).subset made
  cases tls with
  | false => simp [plan] at planned
  | true =>
    have same : credentials = backend.credentials := by simpa [plan] using planned
    rw [(Follows.connect backend true target arguments).calls] at made
    obtain ⟨attempt, tried, asked⟩ := List.mem_filterMap.mp made
    have steps : Attempt.path (backend.plan true target arguments) =
        [.load, .find .credentials, .call .credentials] ++
          Attempt.ofCall (.secure target backend.credentials arguments) := rfl
    rw [steps, Attempt.call?_eq_some_iff.mp asked] at tried
    have well := no_incident_before tried (by simp) (.call .credentials) (by simp)
    cases came : backend.call .credentials with
    | ok handle => rw [same, credentials_of_call came]
    | error incident => simp [incident?, outcome, came, Except.map] at well

end Backend

namespace Choice

/-- No option was passed: either nothing at all, or a value that counts as false. -/
inductive IsMissing : Choice → Prop
  | nothing : IsMissing .nothing
  | value {v : Value} (falsy : v.IsFalse) : IsMissing (.value v)

theorem isMissing_value_iff {v : Value} : (value v).IsMissing ↔ v.isTruthy = false :=
  ⟨fun | .value falsy => Value.isTruthy_eq_false_iff.mpr falsy,
    fun counts => .value (Value.isTruthy_eq_false_iff.mp counts)⟩

instance : DecidablePred IsMissing
  | .nothing => .isTrue .nothing
  | .options _ => .isFalse nofun
  | .value _ => decidable_of_iff _ isMissing_value_iff.symm

def used? : Choice → Option Options
  | .options o => some o
  | choice => if choice.IsMissing then some .standard else none

theorem options?_eq_used? (choice : Choice) : choice.options? = choice.used? := by
  cases choice with
  | nothing => rfl
  | options o => rfl
  | value v => cases counts : v.isTruthy <;> simp [options?, used?, isMissing_value_iff, counts]

theorem records_eq (choice : Choice) :
    choice.records = if choice.IsMissing then [.built .standard] else [] := by
  cases choice with
  | nothing => rfl
  | options o => rfl
  | value v => cases counts : v.isTruthy <;> simp [records, isMissing_value_iff, counts]

theorem IsMissing.stands_for_standard {choice : Choice} (missing : choice.IsMissing) :
    choice.options? = some .standard ∧ choice.records = [.built .standard] := by
  refine ⟨choice.options?_eq_used?.trans ?_, choice.records_eq.trans (if_pos missing)⟩
  cases missing with
  | nothing => rfl
  | value falsy => exact if_pos (.value falsy)

end Choice

namespace Request

variable {request : Request} {o : Options} {arguments : Arguments}

theorem calls_perform (chosen : request.choice.options? = some o)
    (accepted : o.arguments = .ok arguments) :
    request.perform.calls =
      (request.backend.connect request.tls.isTruthy request.target arguments).calls := by
  simp only [perform, chosen, accepted]
  split <;> rfl

theorem result_perform (chosen : request.choice.options? = some o)
    (accepted : o.arguments = .ok arguments) :
    request.perform.result =
      match (request.backend.connect request.tls.isTruthy request.target arguments).outcome with
      | .error incident => .error (incident.fault request.target)
      | .ok channel => .ok channel := by
  cases came : (request.backend.connect request.tls.isTruthy request.target arguments).outcome <;>
    simp only [perform, chosen, accepted, came]

theorem perform_congr {target tls : Value} {choice : Choice} {backend other : Backend}
    (chosen : choice.options? = some o) (accepted : o.arguments = .ok arguments)
    (same : other.connect tls.isTruthy target arguments =
      backend.connect tls.isTruthy target arguments) :
    perform ⟨target, choice, tls, other⟩ = perform ⟨target, choice, tls, backend⟩ := by
  simp only [perform, chosen, accepted, same]

theorem channel_iff (chosen : request.choice.options? = some o)
    (accepted : o.arguments = .ok arguments) :
    (∃ channel, request.perform.result = .ok channel) ↔
      ∀ attempt ∈ Attempt.path
          (request.backend.plan request.tls.isTruthy request.target arguments),
        request.backend.incident? attempt = none := by
  rw [← Backend.connect_ok_iff, result_perform chosen accepted]
  cases (request.backend.connect request.tls.isTruthy request.target arguments).outcome <;> simp

theorem channel_of_last_call {channel : Handle} (chosen : request.choice.options? = some o)
    (accepted : o.arguments = .ok arguments) (opened : request.perform.result = .ok channel) :
    ∃ c, request.perform.calls.getLast? = some c ∧ request.backend.call c = .ok channel := by
  rw [result_perform chosen accepted] at opened
  rw [calls_perform chosen accepted]
  apply Backend.connect_of_ok
  cases came : (request.backend.connect request.tls.isTruthy request.target arguments).outcome with
  | error incident => rw [came] at opened; cases opened
  | ok handle => rw [came] at opened; cases opened; rfl

/-- No downgrade, and an exact account of the calls. A request with a true value for `tls` never
    makes an insecure call, and one with a false value never makes a secure call or asks for
    credentials. The calls are the ones among the attempts on the path of the request, up to the
    first that goes wrong; a channel is returned if none does, the one that the last call handed
    out; and how the backend behaves apart from these attempts makes no difference. -/
theorem calls_stay_on_path (target tls : Value) (choice : Choice) (backend : Backend) (o : Options)
    (arguments : Arguments) (chosen : choice.options? = some o)
    (accepted : o.arguments = .ok arguments) :
    let opening := Request.perform ⟨target, choice, tls, backend⟩
    let path := Attempt.path (backend.plan tls.isTruthy target arguments)
    (¬ tls.IsFalse →
      path = Attempt.path [.credentials, .secure target backend.credentials arguments] ∧
        (∀ c ∈ opening.calls, c.function ≠ .insecure) ∧
        opening.calls <+: [.credentials, .secure target backend.credentials arguments] ∧
        (Call.secure target backend.credentials arguments ∈ opening.calls →
          backend.call .credentials = .ok backend.credentials)) ∧
    (tls.IsFalse →
      path = Attempt.path [.insecure target arguments] ∧
        (∀ c ∈ opening.calls, c.function ≠ .credentials ∧ c.function ≠ .secure) ∧
        opening.calls <+: [.insecure target arguments]) ∧
    opening.calls = (backend.tried path).filterMap Attempt.call? ∧
    ((∃ channel, opening.result = .ok channel) ↔
      ∀ attempt ∈ path, backend.incident? attempt = none) ∧
    (∀ channel, opening.result = .ok channel →
      ∃ c, opening.calls.getLast? = some c ∧ backend.call c = .ok channel) ∧
    ∀ other : Backend,
      (∀ attempt ∈ backend.tried path, other.outcome attempt = backend.outcome attempt) →
        Request.perform ⟨target, choice, tls, other⟩ = opening := by
  intro opening path
  have follows := Follows.connect backend tls.isTruthy target arguments
  have calls : opening.calls = (backend.connect tls.isTruthy target arguments).calls :=
    calls_perform chosen accepted
  have planned := backend.calls_connect_isPrefix tls.isTruthy target arguments
  rw [← calls] at planned
  refine ⟨?_, ?_, calls.trans follows.calls, channel_iff chosen accepted,
    fun _ => channel_of_last_call chosen accepted, ?_⟩
  · intro counts
    have secure := Value.isTruthy_eq_true_iff.mpr counts
    rw [Backend.plan, if_pos secure] at planned
    refine ⟨?_, ?_, planned, ?_⟩
    · simp only [path, Backend.plan, if_pos secure]
    · intro c made
      rcases List.mem_cons.mp (planned.subset made) with rfl | last
      · simp [Call.function]
      · obtain rfl := List.mem_singleton.mp last
        simp [Call.function]
    · intro made
      rw [calls] at made
      exact Backend.call_credentials_of_secure_mem made
  · intro falsy
    have insecure : ¬ tls.isTruthy = true := fun secure => Value.isTruthy_eq_true_iff.mp secure falsy
    rw [Backend.plan, if_neg insecure] at planned
    refine ⟨?_, ?_, planned⟩
    · simp only [path, Backend.plan, if_neg insecure]
    · intro c made
      obtain rfl := List.mem_singleton.mp (planned.subset made)
      simp [Call.function]
  · intro other alike
    exact perform_congr chosen accepted (follows.frame other alike)

/-- Credentials are handed over to the call that opens a secure channel. If this call fails, nothing
    less secure is tried, and a channel that is not to be secure needs no other function. -/
theorem calls_of_secure_channels :
    let refusing := Backend.withFaults false [] (some (.secure, .ofClass "RuntimeError" [.text "no"]))
    let bare := Backend.withFaults false [.credentials, .secure] none
    let opening (tls : Value) (backend : Backend) : Opening :=
      Request.perform ⟨.text "h:1", .options .standard, tls, backend⟩
    ∃ arguments, Options.standard.arguments = .ok arguments ∧
      (opening (.text "yes") .working).calls =
        [.credentials, .secure (.text "h:1") (Backend.handed .credentials) arguments] ∧
      (opening (.text "yes") .working).result = .ok (Backend.handed .secure) ∧
      (opening (.text "yes") refusing).calls =
        [.credentials, .secure (.text "h:1") (Backend.handed .credentials) arguments] ∧
      (¬ ∃ channel, (opening (.text "yes") refusing).result = .ok channel) ∧
      (opening (.text "") bare).calls = [.insecure (.text "h:1") arguments] ∧
      (opening (.text "") bare).calls <+: [.insecure (.text "h:1") arguments] := by
  intro refusing bare opening
  obtain ⟨arguments, accepted⟩ : ∃ arguments, Options.standard.arguments = .ok arguments := ⟨_, rfl⟩
  have stays (tls : Value) (backend : Backend) :=
    calls_stay_on_path (.text "h:1") tls (.options .standard) backend .standard arguments rfl accepted
  obtain ⟨-, -, calls, channel, handed, -⟩ := stays (.text "yes") .working
  obtain ⟨-, -, refusedCalls, refusedChannel, -, -⟩ := stays (.text "yes") refusing
  obtain ⟨-, insecure, bareCalls, -, -, -⟩ := stays (.text "") bare
  have made : (opening (.text "yes") .working).calls =
      [.credentials, .secure (.text "h:1") (Backend.handed .credentials) arguments] :=
    calls.trans rfl
  refine ⟨arguments, accepted, made, ?_, refusedCalls.trans rfl, fun opened => ?_, bareCalls.trans rfl,
    (insecure .text).2.2⟩
  · have well : ∀ attempt ∈ Attempt.path [.credentials, .secure (.text "h:1") ⟨0⟩ arguments],
        Backend.working.incident? attempt = none := by
      simp only [Attempt.path, Attempt.ofCall, List.flatMap_cons, List.flatMap_nil,
        List.cons_append, List.nil_append, List.forall_mem_cons]
      exact ⟨rfl, rfl, rfl, rfl, rfl, List.forall_mem_nil _⟩
    obtain ⟨handle, opened⟩ := channel.mpr well
    obtain ⟨c, last, came⟩ := handed handle opened
    have opener := last.symm.trans (congrArg List.getLast? made)
    cases opener
    cases came
    exact opened
  · have well := refusedChannel.mp opened (.call (.secure (.text "h:1") ⟨0⟩ arguments))
      (.tail _ (.tail _ (.tail _ (.tail _ (.head _)))))
    cases well

end Request

end ChannelTuning

import ChannelTuning.Proofs.Builder.Runs

namespace ChannelTuning

def leastAccepted : List (String × Int) :=
  [("keep_alive_time", 1), ("keep_alive_timeout", 1), ("max_header_list_size", 1),
    ("max_inbound_message_size", 1), ("connect_timeout", 1), ("write_buffer_high_water_mark", 1),
    ("write_buffer_low_water_mark", 1), ("flow_control_window", 65535), ("max_trace_event", 0),
    ("limit_count", 0), ("limit_time", 0)]

/-- The setter of a name accepts a value, and stores another one for it, which is the same except
    that the name of a transport stands for the transport. -/
inductive Takes : String → Value → Value → Prop
  | integer {name : String} {least n : Int} (listed : (name, least) ∈ leastAccepted)
      (bound : least ≤ n) : Takes name (.int n) (.int n)
  | transport (t : Transport) : Takes "channel_type" (.transport t) (.transport t)
  | transportName {s : String} {t : Transport} (named : Transport.ofName (.text s) = .ok t) :
      Takes "channel_type" (.text s) (.transport t)

def refusalKind? (name : String) (v : Value) : Option FailureKind :=
  if name ∈ leastAccepted.map Prod.fst then some .invalidArgument
  else if name = "channel_type" then
    match v with
    | .null => some .missingValue
    | _ => some .unknownTransport
  else none

theorem mem_leastAccepted (a : Amount) : (a.name, a.bound.least) ∈ leastAccepted := by
  cases a <;> decide

theorem exists_amount_of_mem_leastAccepted {name : String} {least : Int}
    (listed : (name, least) ∈ leastAccepted) :
    ∃ a : Amount, a.name = name ∧ a.bound.least = least := by
  have order : leastAccepted = [Amount.keepAliveTime, .keepAliveTimeout, .maxHeaderListSize,
      .maxInboundMessageSize, .connectTimeout, .writeBufferHighWaterMark,
      .writeBufferLowWaterMark, .flowControlWindow, .maxTraceEvent, .limitCount,
      .limitTime].map fun a => (a.name, a.bound.least) := rfl
  rw [order] at listed
  obtain ⟨a, -, same⟩ := List.mem_map.mp listed
  exact ⟨a, Prod.mk.inj same⟩

theorem name_mem_leastAccepted (a : Amount) : a.name ∈ leastAccepted.map Prod.fst :=
  List.mem_map_of_mem (mem_leastAccepted a)

namespace Builder

variable {b next : Builder} {name : String} {v w : Value} {fault : Fault}

theorem takes_of_set (done : b.set name v = .ok next) : ∃ w, Takes name v w := by
  rcases set_cases done with ⟨a, n, rfl, rfl, bound, -⟩ | ⟨t, rfl, accepted, -⟩
  · exact ⟨_, .integer (mem_leastAccepted a) bound⟩
  · cases v with
    | transport u => exact ⟨_, .transport u⟩
    | text s => exact ⟨_, .transportName accepted⟩
    | _ => cases accepted

theorem exists_set_of_takes (b : Builder) (takes : Takes name v w) :
    ∃ s : Setting, s.name = name ∧ ∃ next, b.set name v = .ok next ∧
      next.value s = w ∧ ∀ t, t ≠ s → next.value t = b.value t := by
  cases takes with
  | integer listed bound =>
    obtain ⟨a, rfl, rfl⟩ := exists_amount_of_mem_leastAccepted listed
    rename_i n
    have accepted : a.accept (.int n) = .ok n := Amount.accept_eq_ok_iff.mpr ⟨rfl, bound⟩
    refine ⟨.amount a, rfl, b.putAmount a n, ?_, ?_, fun t other => ?_⟩
    · rw [set_amount, accepted]
      rfl
    · rw [value_putAmount, if_pos rfl]
    · rw [value_putAmount, if_neg other]
  | transport t =>
    refine ⟨.transport, rfl, b.putTransport t, b.set_transport _, ?_, fun u other => ?_⟩
    · rw [value_putTransport, if_pos rfl]
    · rw [value_putTransport, if_neg other]
  | transportName named =>
    rename_i s t
    have accepted : Transport.accept (.text s) = .ok t := named
    refine ⟨.transport, rfl, b.putTransport t, ?_, ?_, fun u other => ?_⟩
    · exact (b.set_transport _).trans (by rw [accepted]; rfl)
    · rw [value_putTransport, if_pos rfl]
    · rw [value_putTransport, if_neg other]

theorem exists_takes_iff (b : Builder) :
    (∃ w, Takes name v w) ↔ ∃ next, b.set name v = .ok next := by
  constructor
  · rintro ⟨w, takes⟩
    obtain ⟨s, -, next, done, -⟩ := b.exists_set_of_takes takes
    exact ⟨next, done⟩
  · rintro ⟨next, done⟩
    exact takes_of_set done

instance (name : String) (v : Value) : Decidable (∃ w, Takes name v w) :=
  decidable_of_iff ((fresh.set name v).isOk = true) <| by
    rw [fresh.exists_takes_iff]
    cases fresh.set name v <;> simp [Except.isOk, Except.toBool]

theorem set_error_cases (failed : b.set name v = .error fault) :
    (∃ a : Amount, a.name = name ∧ a.accept v = .error fault) ∨
      (Setting.transport.name = name ∧ Transport.accept v = .error fault) ∨
      (Setting.named? name = none ∧ fault = .noSetter name) := by
  unfold set at failed
  split at failed
  · rename_i a found
    cases taken : a.accept v with
    | ok n => rw [taken] at failed; cases failed
    | error reason =>
      rw [taken] at failed
      cases failed
      exact .inl ⟨a, Setting.name_of_named? found, taken⟩
  · rename_i found
    cases taken : Transport.accept v with
    | ok t => rw [taken] at failed; cases failed
    | error reason =>
      rw [taken] at failed
      cases failed
      exact .inr (.inl ⟨Setting.name_of_named? found, rfl⟩)
  · rename_i unknown
    cases failed
    exact .inr (.inr ⟨unknown, rfl⟩)

theorem set_error_congr (c : Builder) (failed : b.set name v = .error fault) :
    c.set name v = .error fault := by
  rcases set_error_cases failed with ⟨a, rfl, refused⟩ | ⟨rfl, refused⟩ | ⟨unknown, rfl⟩
  · rw [set_amount, refused]
    rfl
  · rw [set_transport, refused]
    rfl
  · simp only [set, unknown]

theorem refusalKind?_amount (a : Amount) (v : Value) :
    refusalKind? a.name v = some .invalidArgument :=
  if_pos (name_mem_leastAccepted a)

theorem not_mem_leastAccepted_of_unknown (unknown : Setting.named? name = none) :
    name ∉ leastAccepted.map Prod.fst := by
  intro listed
  obtain ⟨⟨name, least⟩, held, rfl⟩ := List.mem_map.mp listed
  obtain ⟨a, rfl, -⟩ := exists_amount_of_mem_leastAccepted held
  have known := Setting.named?_name (.amount a)
  rw [Setting.name, unknown] at known
  cases known

theorem refusalKind?_of_unknown (unknown : Setting.named? name = none) (v : Value) :
    refusalKind? name v = none := by
  have noTransport : name ≠ "channel_type" := by
    rintro rfl
    cases unknown
  exact (if_neg (not_mem_leastAccepted_of_unknown unknown)).trans (if_neg noTransport)

theorem kind_of_refused (failed : b.set name v = .error fault) :
    fault.failure?.map Failure.kind = refusalKind? name v := by
  rcases set_error_cases failed with ⟨a, rfl, refused⟩ | ⟨rfl, refused⟩ | ⟨unknown, rfl⟩
  · rw [refusalKind?_amount]
    cases v with
    | int n =>
      simp only [Amount.accept] at refused
      split at refused <;> cases refused
      rfl
    | _ =>
      cases refused
      rfl
  · cases v with
    | transport t => cases refused
    | text s =>
      obtain rfl := Transport.fault_of_refused refused
      rfl
    | _ =>
      cases refused
      rfl
  · rw [refusalKind?_of_unknown unknown]
    rfl

theorem eq_noSetter_of_refused (failed : b.set name v = .error fault)
    (noKind : refusalKind? name v = none) : fault = .noSetter name := by
  rcases set_error_cases failed with ⟨a, rfl, -⟩ | ⟨rfl, -⟩ | ⟨-, same⟩
  · rw [refusalKind?_amount] at noKind
    cases noKind
  · simp only [refusalKind?] at noKind
    split at noKind
    · cases noKind
    · cases v <;> cases noKind
  · exact same

theorem className_of_refused (failed : b.set name v = .error fault) :
    fault.className = (refusalKind? name v).elim "AttributeError" FailureKind.name := by
  have kind := kind_of_refused failed
  cases expected : refusalKind? name v with
  | none =>
    obtain rfl := eq_noSetter_of_refused failed expected
    rfl
  | some k =>
    rw [expected] at kind
    obtain ⟨failure, reported, rfl⟩ := Option.map_eq_some_iff.mp kind
    exact Fault.className_of_failure? reported

theorem chain_singleton_eq_ok_iff :
    b.chain [(name, v)] = (next, none) ↔ b.set name v = .ok next := by
  cases done : b.set name v <;> simp [chain, done]

theorem chain_singleton_eq_error_iff :
    b.chain [(name, v)] = (b, some fault) ↔ b.set name v = .error fault := by
  cases done : b.set name v <;> simp [chain, done]

/-- A setter accepts the values of its domain and no others, whatever the builder holds. A call
    that is accepted writes the one setting of its name. A call that is refused leaves the builder
    as it was, and what it ends in follows from the name and the value alone: an error of a kind of
    its own if there is a setter of this name, and otherwise the lack of one. -/
theorem setters_accept_exactly_their_domains :
    (∀ (b : Builder) (name : String) (v : Value),
      (∃ next, b.chain [(name, v)] = (next, none)) ↔ ∃ w, Takes name v w) ∧
    (∀ (b : Builder) (name : String) (v w : Value), Takes name v w →
      ∃ (s : Setting) (next : Builder), s.name = name ∧ b.chain [(name, v)] = (next, none) ∧
        next.value s = w ∧ ∀ t, t ≠ s → next.value t = b.value t) ∧
    ∀ (name : String) (v : Value), (¬ ∃ w, Takes name v w) →
      ∃ fault, (∀ b : Builder, b.chain [(name, v)] = (b, some fault)) ∧
        fault.failure?.map Failure.kind = refusalKind? name v ∧
        (refusalKind? name v = none → fault = .noSetter name) ∧
        fault.className = (refusalKind? name v).elim "AttributeError" FailureKind.name := by
  refine ⟨?_, ?_, ?_⟩
  · intro b name v
    rw [b.exists_takes_iff]
    exact exists_congr fun next => chain_singleton_eq_ok_iff
  · intro b name v w takes
    obtain ⟨s, named, next, done, stored, frame⟩ := b.exists_set_of_takes takes
    exact ⟨s, next, named, chain_singleton_eq_ok_iff.mpr done, stored, frame⟩
  · intro name v outside
    cases failed : fresh.set name v with
    | ok next => exact absurd (takes_of_set failed) outside
    | error fault =>
      exact ⟨fault, fun b => chain_singleton_eq_error_iff.mpr (set_error_congr b failed),
        kind_of_refused failed, eq_noSetter_of_refused failed, className_of_refused failed⟩

/-- A window of exactly the smallest size is accepted, and so is a name of a transport with blanks
    around it. A truth value is no duration, and the withheld fields have no setters. -/
theorem domains_at_their_bounds :
    (∃ next, fresh.chain [("flow_control_window", .int 65535)] = (next, none)) ∧
      (∃ next, fresh.chain [("channel_type", .text " epoll ")] = (next, none) ∧
        next.value .transport = .transport .epoll) ∧
      (∃ fault, (∀ b : Builder, b.chain [("limit_time", .bool true)] = (b, some fault)) ∧
        fault.failure?.map Failure.kind = some .invalidArgument) ∧
      ∀ b : Builder, b.chain [("idle_timeout_millis", .int 1)] =
        (b, some (.noSetter "idle_timeout_millis")) := by
  obtain ⟨domain, writes, refused⟩ := setters_accept_exactly_their_domains
  refine ⟨?_, ?_, ?_, ?_⟩
  · have least : ("flow_control_window", 65535) ∈ leastAccepted := by decide
    exact (domain fresh _ _).mpr ⟨_, .integer least (Int.le_refl _)⟩
  · have named : Transport.ofName (.text " epoll ") = .ok .epoll := rfl
    obtain ⟨s, next, same, done, stored, -⟩ := writes fresh _ _ _ (.transportName named)
    obtain rfl : s = .transport := Setting.name_injective same
    exact ⟨next, done, stored⟩
  · have noInteger : ∀ name w, ¬ Takes name (.bool true) w := by
      intro name w takes
      cases takes
    obtain ⟨fault, same, kind, -⟩ :=
      refused "limit_time" (.bool true) fun ⟨w, takes⟩ => noInteger _ w takes
    exact ⟨fault, same, kind.trans (refusalKind?_amount .limitTime _)⟩
  · have named : ∀ name n w, Takes name (.int n) w → name ∈ leastAccepted.map Prod.fst := by
      intro name n w takes
      cases takes with
      | integer listed => exact List.mem_map_of_mem listed
    obtain ⟨fault, same, -, noSetter, -⟩ :=
      refused "idle_timeout_millis" (.int 1) fun ⟨w, takes⟩ =>
        absurd (named _ _ w takes) (by decide)
    rw [← noSetter (refusalKind?_of_unknown rfl _)]
    exact same

end Builder

end ChannelTuning

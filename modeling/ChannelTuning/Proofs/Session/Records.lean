import ChannelTuning.Proofs.Builder.Domains
import ChannelTuning.Proofs.Diagnostics
import ChannelTuning.Proofs.Opening.Calls
import ChannelTuning.Proofs.Session.Frame

namespace ChannelTuning

/-- The setting that a chain of setters stops at, with the value that is refused. -/
def stoppedAt? (settings : List (String × Value)) : Option (String × Value) :=
  settings.find? fun (name, v) => decide (¬ ∃ w, Takes name v w)

def refusalRecords (settings : List (String × Value)) : List Record :=
  match stoppedAt? settings with
  | none => []
  | some (name, v) =>
    if name ∈ leastAccepted.map Prod.fst then
      [⟨.options, "Rejected " ++ name ++ "=" ++ v.literal ++ v.complaint⟩]
    else []

/-- What the log has to say of a channel: that it was opened, if it was, and by which call. -/
def openedRecords (target : Value) (used : Options) (calls : List Call) :
    Except Fault Handle → List Record
  | .error _ => []
  | .ok _ =>
    match calls.getLast? with
    | some (.secure _ _ _) =>
      [⟨.channel, "Opened TLS channel to " ++ target.display ++ " with " ++ used.display⟩]
    | some (.insecure _ _) =>
      [⟨.channel, "Opened insecure channel to " ++ target.display ++ " with " ++ used.display⟩]
    | _ => []

def Record.verb (record : Record) : String :=
  String.ofList (record.text.toList.takeWhile (· != ' '))

namespace Session

def built? (session : Session) : Step → Option (String × Options)
  | .build b o => (session.builders.get? b).map fun builder => (o, builder.build)
  | .standard o => some (o, .standard)
  | _ => none

def passed? (session : Session) : Passed → Option Choice
  | .nothing => some .nothing
  | .slot name => (session.options.get? name).map fun stored => .options stored.options
  | .value v => some (.value v)

/-- What the log has to say of a step, told from what was asked for. -/
def account (session : Session) : Step → List Record
  | .chain b settings => (session.builders.get? b).elim [] fun _ => refusalRecords settings
  | .connect target passed tls backend =>
    (session.passed? passed).elim [] fun choice =>
      let opening := Request.perform ⟨target, choice, tls, backend⟩
      (if choice.IsMissing then [⟨.options, "Built " ++ Options.standard.display⟩] else []) ++
        choice.used?.elim [] fun used => openedRecords target used opening.calls opening.result
  | step =>
    (session.built? step).elim [] fun (_, option) => [⟨.options, "Built " ++ option.display⟩]

def log (session : Session) (steps : List Step) : List Record :=
  (session.run steps).1.flatMap Prod.snd

def verbs (session : Session) : Step → List String
  | .chain b settings =>
    match session.builders.get? b, stoppedAt? settings with
    | some _, some (name, _) => if name ∈ leastAccepted.map Prod.fst then ["Rejected"] else []
    | _, _ => []
  | .connect target passed tls backend =>
    (session.passed? passed).elim [] fun choice =>
      (if choice.IsMissing then ["Built"] else []) ++
        if (Request.perform ⟨target, choice, tls, backend⟩).result.isOk then ["Opened"] else []
  | step => (session.built? step).elim [] fun _ => ["Built"]

/-- The steps of a run, each with the session as it is before it. -/
def moments (session : Session) : List Step → List (Session × Step)
  | [] => []
  | step :: rest => (session, step) :: (session.step step).session.moments rest

end Session

namespace Builder

theorem records_of_refused {b : Builder} {name : String} {v : Value} {fault : Fault}
    (failed : b.set name v = .error fault) :
    Record.ofFault fault =
      if name ∈ leastAccepted.map Prod.fst then
        [⟨.options, "Rejected " ++ name ++ "=" ++ v.literal ++ v.complaint⟩]
      else [] := by
  rcases set_error_cases failed with ⟨a, rfl, refused⟩ | ⟨rfl, refused⟩ | ⟨unknown, rfl⟩
  · rw [if_pos (name_mem_leastAccepted a)]
    exact Amount.record_of_refused refused
  · rw [if_neg (by decide)]
    cases v with
    | transport t => cases refused
    | text s =>
      obtain rfl := Transport.fault_of_refused refused
      rfl
    | _ =>
      cases refused
      rfl
  · rw [if_neg (not_mem_leastAccepted_of_unknown unknown)]
    rfl

theorem chain_stops (b : Builder) (settings : List (String × Value)) :
    (stoppedAt? settings = none ∧ (b.chain settings).2 = none) ∨
      ∃ name v fault, stoppedAt? settings = some (name, v) ∧
        (b.chain settings).2 = some fault ∧ ∀ c : Builder, c.set name v = .error fault := by
  induction settings generalizing b with
  | nil => exact .inl ⟨rfl, rfl⟩
  | cons setting rest previous =>
    obtain ⟨name, v⟩ := setting
    have domain : (∃ w, Takes name v w) ↔ ∃ next, b.set name v = .ok next := b.exists_takes_iff
    cases done : b.set name v with
    | ok next =>
      have taken := domain.mpr ⟨next, done⟩
      have passed : stoppedAt? ((name, v) :: rest) = stoppedAt? rest :=
        List.find?_cons_of_neg (by simpa using taken)
      rw [chain_of_accepted done, passed]
      exact previous next
    | error fault =>
      have refused : ¬ ∃ w, Takes name v w := by
        rw [domain, done]
        rintro ⟨next, impossible⟩
        cases impossible
      have stopped : stoppedAt? ((name, v) :: rest) = some (name, v) :=
        List.find?_cons_of_pos (by simpa using refused)
      rw [chain_of_refused done]
      exact .inr ⟨name, v, fault, stopped, rfl, fun c => set_error_congr c done⟩

theorem records_chain (b : Builder) (settings : List (String × Value)) :
    (b.chain settings).2.elim [] Record.ofFault = refusalRecords settings := by
  rcases b.chain_stops settings with ⟨none, done⟩ | ⟨name, v, fault, stopped, failed, refused⟩
  · rw [done, refusalRecords, none]
    rfl
  · rw [failed, refusalRecords, stopped]
    exact records_of_refused (refused b)

end Builder

namespace Session

theorem choice_of_passed? {session : Session} {passed : Passed} {choice : Choice}
    (chosen : session.passed? passed = some choice) : session.choice passed = .ok choice := by
  cases passed with
  | nothing =>
    cases chosen
    rfl
  | value v =>
    cases chosen
    rfl
  | slot name =>
    obtain ⟨stored, held, rfl⟩ := Option.map_eq_some_iff.mp chosen
    simp only [Session.choice, option?, stored?, held, Except.map]

theorem step_connect_of_none {session : Session} {passed : Passed}
    (empty : session.passed? passed = none) (target tls : Value) (backend : Backend) :
    ∃ fault, session.step (.connect target passed tls backend) = ⟨.fault fault, [], session⟩ := by
  cases passed with
  | slot name =>
    have held := Option.map_eq_none_iff.mp empty
    exact ⟨.emptySlot name, by
      simp only [Session.step, Session.choice, option?, stored?, held, Except.map]⟩
  | _ => cases empty

theorem step_connect {session : Session} {passed : Passed} {choice : Choice}
    (chosen : session.passed? passed = some choice) (target tls : Value) (backend : Backend) :
    let opening := Request.perform ⟨target, choice, tls, backend⟩
    session.step (.connect target passed tls backend) =
      ⟨.opening opening.calls opening.result, opening.records, session⟩ := by
  simp only [Session.step, choice_of_passed? chosen]

theorem records_answer (session : Session) (answer : Except Fault Answer) :
    (session.answer answer).records = [] := by
  cases answer <;> rfl

end Session

namespace Request

theorem perform_cases (request : Request) :
    (∃ fault, request.perform.result = .error fault ∧
      request.perform.records = request.choice.records) ∨
    ∃ used arguments channel, request.choice.options? = some used ∧
      request.perform.result = .ok channel ∧
      request.perform.calls =
        request.backend.plan request.tls.isTruthy request.target arguments ∧
      request.perform.records =
        request.choice.records ++ [.opened request.tls.isTruthy request.target used] := by
  cases chosen : request.choice.options? with
  | none => exact .inl ⟨.notOptions, by simp only [perform, chosen, and_self]⟩
  | some used =>
    cases accepted : used.arguments with
    | error fault => exact .inl ⟨fault, by simp only [perform, chosen, accepted, and_self]⟩
    | ok arguments =>
      cases came :
          (request.backend.connect request.tls.isTruthy request.target arguments).outcome with
      | error incident =>
        exact .inl ⟨incident.fault request.target, by
          simp only [perform, chosen, accepted, came, and_self]⟩
      | ok channel =>
        have calls := Backend.calls_connect_of_ok came
        refine .inr ⟨used, arguments, channel, rfl, ?_⟩
        simp only [perform, chosen, accepted, came, calls, and_self]

theorem records_perform (request : Request) :
    request.perform.records = request.choice.records ++
      request.choice.used?.elim [] fun used =>
        openedRecords request.target used request.perform.calls request.perform.result := by
  rcases request.perform_cases with
    ⟨fault, failed, records⟩ | ⟨used, arguments, channel, chosen, opened, calls, records⟩
  · rw [records, failed]
    cases request.choice.used? <;> simp [openedRecords]
  · rw [records, ← request.choice.options?_eq_used?, chosen, opened, calls, Option.elim_some]
    cases request.tls.isTruthy <;> rfl

end Request

namespace Session

theorem records_step (session : Session) (step : Step) :
    (session.step step).records = session.account step := by
  cases step with
  | build b o =>
    simp only [Session.step, storeNew, builder?, account, built?]
    cases session.builders.get? b <;> rfl
  | standard o => rfl
  | chain b settings =>
    simp only [Session.step, builder?, account]
    cases session.builders.get? b with
    | none => rfl
    | some builder => exact builder.records_chain settings
  | construct o entries =>
    simp only [Session.step, storeNew]
    cases Options.construct entries <;> rfl
  | replace source o entries =>
    simp only [Session.step, storeNew]
    cases (session.option? source).bind fun option => option.replace entries <;> rfl
  | force o field v =>
    simp only [Session.step]
    cases (session.stored? o).bind fun stored => stored.force field v <;> rfl
  | connect target passed tls backend =>
    cases chosen : session.passed? passed with
    | none =>
      obtain ⟨fault, same⟩ := step_connect_of_none chosen target tls backend
      rw [same, account, chosen]
      rfl
    | some choice =>
      rw [step_connect chosen, account, chosen, Option.elim_some, Request.records_perform,
        choice.records_eq]
      rfl
  | builder b => rfl
  | _ => exact session.records_answer _

theorem verb_append {start word : String} {more : List Char}
    (opening : start.toList = word.toList ++ ' ' :: more) (isWord : Text.IsWord word.toList)
    (source : LogSource) (rest : String) : Record.verb ⟨source, start ++ rest⟩ = word := by
  rw [Record.verb, String.toList_append, opening, List.append_assoc, List.cons_append,
    takeWhile_separator (isWord.ne_of_mem ' ' rfl), String.ofList_toList]

theorem verb_built (source : LogSource) (rest : String) :
    Record.verb ⟨source, "Built " ++ rest⟩ = "Built" := by
  have opening : "Built ".toList = "Built".toList ++ ' ' :: [] := by decide
  exact verb_append opening (List.all_eq_true.mp rfl) source rest

theorem verb_rejected (source : LogSource) (rest : String) :
    Record.verb ⟨source, "Rejected " ++ rest⟩ = "Rejected" := by
  have opening : "Rejected ".toList = "Rejected".toList ++ ' ' :: [] := by decide
  exact verb_append opening (List.all_eq_true.mp rfl) source rest

theorem verb_opened (tls : Bool) (target : Value) (used : Options) :
    (Record.opened tls target used).verb = "Opened" := by
  have opening : "Opened ".toList = "Opened".toList ++ ' ' :: [] := by decide
  simp only [Record.opened, String.append_assoc]
  exact verb_append opening (List.all_eq_true.mp rfl) _ _

theorem verbs_refusalRecords (settings : List (String × Value)) :
    (refusalRecords settings).map Record.verb =
      match stoppedAt? settings with
      | none => []
      | some (name, _) => if name ∈ leastAccepted.map Prod.fst then ["Rejected"] else [] := by
  unfold refusalRecords
  split
  · rfl
  · split
    · simp only [List.map_cons, List.map_nil, String.append_assoc, verb_rejected]
    · rfl

theorem verbs_step (session : Session) (step : Step) :
    (session.step step).records.map Record.verb = session.verbs step := by
  cases step with
  | chain b settings =>
    rw [records_step, account, verbs]
    cases session.builders.get? b with
    | none => rfl
    | some builder =>
      refine (verbs_refusalRecords settings).trans ?_
      cases stoppedAt? settings <;> rfl
  | connect target passed tls backend =>
    cases chosen : session.passed? passed with
    | none =>
      obtain ⟨fault, same⟩ := step_connect_of_none chosen target tls backend
      rw [same, verbs, chosen]
      rfl
    | some choice =>
      rw [step_connect chosen, verbs, chosen, Option.elim_some]
      have built :
          choice.records.map Record.verb = if choice.IsMissing then ["Built"] else [] := by
        rw [choice.records_eq]
        split
        · simp [verb_built, Record.built]
        · rfl
      rcases Request.perform_cases ⟨target, choice, tls, backend⟩ with
        ⟨fault, failed, records⟩ | ⟨used, arguments, channel, -, opened, -, records⟩
      · simp [failed, records, built, Except.isOk, Except.toBool]
      · simp [opened, records, built, verb_opened, Except.isOk, Except.toBool]
  | build b o =>
    simp only [records_step, account, verbs, built?]
    cases session.builders.get? b with
    | none => rfl
    | some builder => exact congrArg ([·]) (verb_built _ _)
  | standard o => exact congrArg ([·]) (verb_built _ _)
  | _ =>
    rw [records_step]
    rfl

theorem log_cons (session : Session) (step : Step) (rest : List Step) :
    session.log (step :: rest) =
      (session.step step).records ++ (session.step step).session.log rest :=
  rfl

theorem log_eq_accounts (session : Session) (steps : List Step) :
    session.log steps =
      (session.moments steps).flatMap fun (before, step) => before.account step := by
  induction steps generalizing session with
  | nil => rfl
  | cons step rest previous =>
    rw [log_cons, moments, List.flatMap_cons, previous, records_step]

theorem verbs_log (session : Session) (steps : List Step) :
    (session.log steps).map Record.verb =
      (session.moments steps).flatMap fun (before, step) => before.verbs step := by
  induction steps generalizing session with
  | nil => rfl
  | cons step rest previous =>
    rw [log_cons, moments, List.map_append, List.flatMap_cons, verbs_step, previous]

theorem step_of_built {session : Session} {step : Step} {o : String} {option : Options}
    (builds : session.built? step = some (o, option)) :
    (session.step step).answer = .fields option.entries ∧
      (session.step step).session.options.get? o = some (.ofOptions option) := by
  cases step with
  | build b slot =>
    simp only [built?] at builds
    cases held : session.builders.get? b with
    | none => rw [held] at builds; cases builds
    | some builder =>
      rw [held] at builds
      cases builds
      simp only [Session.step, storeNew, builder?, held]
      exact ⟨rfl, session.options.get?_put_self _ _⟩
  | standard slot =>
    cases builds
    exact ⟨rfl, session.options.get?_put_self _ _⟩
  | _ => cases builds

/-- The log is the history, and no more. Each step records exactly what the account of it says, and
    the account is given by the session and what is asked of it. It speaks of what was done: of the
    option that is answered and stored, of the value that a chain stopped at, which every builder
    refuses, and of the calls that were made and the channel that came of them. The log of a run
    consists of the accounts of its steps, in order, and so tells how often and in which order an
    option was built, a value was rejected and a channel was opened. -/
theorem log_tells_the_history :
    (∀ (session : Session) (step : Step), (session.step step).records = session.account step) ∧
    (∀ (session : Session) (step : Step) (o : String) (option : Options),
      session.built? step = some (o, option) →
        (session.step step).answer = .fields option.entries ∧
          (session.step step).session.options.get? o = some (.ofOptions option)) ∧
    (∀ (session : Session) (b : String) (builder : Builder) (settings : List (String × Value)),
      session.builders.get? b = some builder →
        ∃ stop text, (session.step (.chain b settings)).answer = .chained stop text ∧
          (stoppedAt? settings = none → stop = none) ∧
          ∀ name v, stoppedAt? settings = some (name, v) →
            ∃ fault, stop = some fault ∧ ∀ c : Builder, c.set name v = .error fault) ∧
    (∀ (session : Session) (target : Value) (passed : Passed) (choice : Choice) (tls : Value)
      (backend : Backend), session.passed? passed = some choice →
        let opening := Request.perform ⟨target, choice, tls, backend⟩
        (session.step (.connect target passed tls backend)).answer =
          .opening opening.calls opening.result) ∧
    ∀ (session : Session) (steps : List Step),
      session.log steps =
        (session.moments steps).flatMap (fun (before, step) => before.account step) ∧
      (session.log steps).map Record.verb =
        (session.moments steps).flatMap fun (before, step) => before.verbs step := by
  refine ⟨records_step, fun _ _ _ _ => step_of_built, ?_, ?_, ?_⟩
  · intro session b builder settings held
    refine ⟨_, _, congrArg Report.answer (step_chain held settings), ?_⟩
    rcases builder.chain_stops settings with
      ⟨none, done⟩ | ⟨name, v, fault, stopped, failed, refused⟩
    · rw [none]
      exact ⟨fun _ => done, nofun⟩
    · rw [stopped]
      refine ⟨nofun, fun _ _ same => ?_⟩
      cases same
      exact ⟨fault, failed, refused⟩
  · intro session target passed choice tls backend chosen
    exact congrArg Report.answer (step_connect chosen target tls backend)
  · exact fun session steps => ⟨session.log_eq_accounts steps, session.verbs_log steps⟩

/-- A run in which a chain stops at an amount and another one at a transport, which is recorded
    nowhere, an option is built, and a channel is opened twice, once with nothing passed. -/
theorem log_of_refusals_and_openings :
    let target : Value := .text "h:1"
    let builder : Session := (start.step (.builder "b")).session
    let chain : Step := .chain "b" [("limit_count", .int 3), ("limit_time", .null)]
    let chained : Session := (builder.step chain).session
    let build : Step := .build "b" "o"
    let built : Session := (chained.step build).session
    (start.log [.builder "b", chain, .chain "b" [("channel_type", .null)], build,
      .connect target .nothing .null .working,
      .connect target (.slot "o") (.int 1) .working]).map Record.verb =
        ["Rejected", "Built", "Built", "Opened", "Opened"] ∧
    (builder.step chain).records =
      [⟨.options, "Rejected limit_time=None: not an integer"⟩] ∧
    (∃ stop text, (builder.step chain).answer = .chained stop text ∧ ∃ fault, stop = some fault ∧
      ∀ c : Builder, c.set "limit_time" .null = .error fault) ∧
    (∃ option, (chained.step build).session.options.get? "o" = some (.ofOptions option) ∧
      option.limitCount = .int 3 ∧
      (chained.step build).records = [⟨.options, "Built " ++ option.display⟩] ∧
      (built.step (.connect target (.slot "o") (.int 1) .working)).records =
        [⟨.channel, "Opened TLS channel to h:1 with " ++ option.display⟩]) ∧
    ∃ calls channel, (built.step (.connect target .nothing .null .working)).answer =
      .opening calls (.ok channel) ∧ calls.map Call.function = [.insecure] := by
  intro target builder chain chained build built
  obtain ⟨records, stored, chains, connects, log⟩ := log_tells_the_history
  refine ⟨(log _ _).2.trans rfl, (records _ _).trans rfl, ?_, ?_, ?_⟩
  · obtain ⟨stop, text, answer, -, stops⟩ :=
      chains builder "b" _ [("limit_count", .int 3), ("limit_time", .null)] rfl
    exact ⟨stop, text, answer, stops _ _ rfl⟩
  · exact ⟨_, (stored chained build _ _ rfl).2, rfl, (records _ _).trans rfl,
      (records _ _).trans rfl⟩
  · exact ⟨_, _, connects built target .nothing _ .null .working rfl, rfl⟩

end Session

end ChannelTuning

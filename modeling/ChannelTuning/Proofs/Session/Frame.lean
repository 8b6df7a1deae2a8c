import ChannelTuning.Session
import ChannelTuning.Proofs.Builder.Writes
import Mathlib.Data.Sum.Basic

namespace ChannelTuning

inductive Place where
  | builder (name : String)
  | option (name : String)
  deriving DecidableEq

def Step.target? : Step → Option Place
  | .builder b => some (.builder b)
  | .chain b _ => some (.builder b)
  | .build _ o => some (.option o)
  | .standard o => some (.option o)
  | .construct o _ => some (.option o)
  | .replace _ o _ => some (.option o)
  | .force o _ _ => some (.option o)
  | _ => none

def Answer.fault? : Answer → Option Fault
  | .fault cause => some cause
  | .chained stop _ => stop
  | .opening _ (.error cause) => some cause
  | _ => none

namespace Builder

theorem chain_of_fault {b : Builder} {settings : List (String × Value)} {fault : Fault}
    (failed : (b.chain settings).2 = some fault) :
    ∃ accepted name v rest, settings = accepted ++ (name, v) :: rest ∧
      (b.trace (chainUses accepted)).map Prod.snd = List.replicate accepted.length .accepted ∧
      (b.chain settings).1 = b.after (chainUses accepted) ∧
      (b.after (chainUses accepted)).set name v = .error fault := by
  induction settings generalizing b with
  | nil => cases failed
  | cons setting rest previous =>
    obtain ⟨name, v⟩ := setting
    cases done : b.set name v with
    | ok next =>
      have made := use_of_accepted done
      rw [chain_of_accepted done] at failed ⊢
      obtain ⟨accepted, last, w, later, rfl, accepts, state, stopped⟩ := previous failed
      refine ⟨(name, v) :: accepted, last, w, later, rfl, ?_, ?_, ?_⟩
      · simp only [chainUses, List.map_cons, trace, made, List.length_cons, List.replicate_succ]
        exact congrArg (Response.accepted :: ·) accepts
      · simp only [chainUses, List.map_cons, after, made]
        exact state
      · simp only [chainUses, List.map_cons, after, made]
        exact stopped
    | error stop =>
      rw [chain_of_refused done] at failed ⊢
      cases failed
      exact ⟨[], name, v, rest, rfl, rfl, rfl, done⟩

end Builder

namespace Session

def content? (session : Session) : Place → Option (Builder ⊕ Stored)
  | .builder b => (session.builders.get? b).map .inl
  | .option o => (session.options.get? o).map .inr

theorem content?_putBuilder_of_ne (session : Session) {b : String} {place : Place}
    (builder : Builder) (apart : place ≠ .builder b) :
    (session.putBuilder b builder).content? place = session.content? place := by
  cases place with
  | builder c =>
    have other : c ≠ b := fun same => apart (congrArg Place.builder same)
    simp only [content?, putBuilder, session.builders.get?_put_of_ne builder other]
  | option o => rfl

theorem content?_putStored_of_ne (session : Session) {o : String} {place : Place}
    (stored : Stored) (apart : place ≠ .option o) :
    (session.putStored o stored).content? place = session.content? place := by
  cases place with
  | builder b => rfl
  | option p =>
    have other : p ≠ o := fun same => apart (congrArg Place.option same)
    simp only [content?, putStored, session.options.get?_put_of_ne stored other]

theorem session_answer (session : Session) (answer : Except Fault Answer) :
    (session.answer answer).session = session := by
  cases answer <;> rfl

theorem session_of_no_target (session : Session) {step : Step} (looks : step.target? = none) :
    (session.step step).session = session := by
  cases step with
  | connect target passed tls backend =>
    simp only [Session.step]
    split <;> rfl
  | builder | chain | build | standard | construct | replace | force => cases looks
  | _ => exact session.session_answer _

theorem step_of_option_target (session : Session) {step : Step} {o : String}
    (directed : step.target? = some (.option o)) :
    ∃ records made, session.step step = session.store o records made := by
  cases step with
  | build | standard | construct | replace | force =>
    cases directed
    simp only [Session.step, storeNew]
    exact ⟨_, _, rfl⟩
  | _ => cases directed

theorem session_of_builder_target (session : Session) {step : Step} {b : String}
    (directed : step.target? = some (.builder b)) :
    (session.step step).session = session ∨
      ∃ builder, (session.step step).session = session.putBuilder b builder := by
  cases step with
  | builder =>
    cases directed
    exact .inr ⟨_, rfl⟩
  | chain _ settings =>
    cases directed
    simp only [Session.step]
    split
    · exact .inl rfl
    · exact .inr ⟨_, rfl⟩
  | _ => cases directed

theorem step_chain {session : Session} {b : String} {before : Builder}
    (held : session.builders.get? b = some before) (settings : List (String × Value)) :
    let (after, stop) := before.chain settings
    session.step (.chain b settings) =
      ⟨.chained stop after.display, stop.elim [] Record.ofFault, session.putBuilder b after⟩ := by
  simp only [Session.step, builder?, held]

theorem content?_step_of_ne (session : Session) {step : Step} {place : Place}
    (apart : step.target? ≠ some place) :
    (session.step step).session.content? place = session.content? place := by
  cases target : step.target? with
  | none => rw [session.session_of_no_target target]
  | some directed =>
    have other : place ≠ directed := fun same => apart (target.trans (congrArg some same.symm))
    cases directed with
    | option o =>
      obtain ⟨records, made, same⟩ := session.step_of_option_target target
      rw [same]
      cases made with
      | error fault => rfl
      | ok stored => exact session.content?_putStored_of_ne stored other
    | builder b =>
      rcases session.session_of_builder_target target with same | ⟨builder, same⟩
      · rw [same]
      · rw [same]
        exact session.content?_putBuilder_of_ne builder other

theorem session_of_option_fault (session : Session) {step : Step} {o : String}
    (directed : step.target? = some (.option o))
    (failed : (session.step step).answer.fault? ≠ none) : (session.step step).session = session := by
  obtain ⟨records, made, same⟩ := session.step_of_option_target directed
  rw [same] at failed ⊢
  cases made with
  | error fault => rfl
  | ok stored => exact absurd rfl failed

theorem session_of_fault (session : Session) {step : Step}
    (failed : (session.step step).answer.fault? ≠ none)
    (single : ∀ b settings, step ≠ .chain b settings) : (session.step step).session = session := by
  cases target : step.target? with
  | none => exact session.session_of_no_target target
  | some directed =>
    cases directed with
    | option o => exact session.session_of_option_fault target failed
    | builder b =>
      cases step with
      | builder => exact absurd rfl failed
      | chain c settings => exact absurd rfl (single c settings)
      | _ => cases target

theorem session_of_chain_fault {session : Session} {b : String} {before : Builder}
    {settings : List (String × Value)} {fault : Fault}
    (held : session.builders.get? b = some before)
    (failed : (session.step (.chain b settings)).answer.fault? = some fault) :
    ∃ accepted name v rest, settings = accepted ++ (name, v) :: rest ∧
      (before.trace (Builder.chainUses accepted)).map Prod.snd =
        List.replicate accepted.length .accepted ∧
      (before.after (Builder.chainUses accepted)).set name v = .error fault ∧
      (session.step (.chain b settings)).session =
        session.putBuilder b (before.after (Builder.chainUses accepted)) := by
  rw [step_chain held] at failed
  obtain ⟨accepted, name, v, rest, split, accepts, last, stopped⟩ := Builder.chain_of_fault failed
  refine ⟨accepted, name, v, rest, split, accepts, stopped, ?_⟩
  rw [step_chain held, last]

theorem options_get?_step (session : Session) {step : Step} {o : String}
    (kept : step.target? = some (.option o) → (session.step step).answer.fault? ≠ none) :
    (session.step step).session.options.get? o = session.options.get? o := by
  by_cases directed : step.target? = some (.option o)
  · rw [session.session_of_option_fault directed (kept directed)]
  · have frame := session.content?_step_of_ne directed
    exact Option.map_injective Sum.inr_injective frame

def history (session : Session) (steps : List Step) : List (Step × Answer) :=
  steps.zip ((session.run steps).1.map Prod.fst)

theorem history_cons (session : Session) (step : Step) (rest : List Step) :
    session.history (step :: rest) =
      (step, (session.step step).answer) :: (session.step step).session.history rest :=
  rfl

theorem options_get?_run (session : Session) (steps : List Step) {o : String}
    (kept : ∀ entry ∈ session.history steps,
      entry.1.target? = some (.option o) → entry.2.fault? ≠ none) :
    (session.run steps).2.options.get? o = session.options.get? o := by
  induction steps generalizing session with
  | nil => rfl
  | cons step rest previous =>
    rw [history_cons] at kept
    have first := session.options_get?_step (kept _ (.head _))
    have later := previous (session.step step).session fun entry listed =>
      kept entry (.tail _ listed)
    exact later.trans first

theorem answer_edit {session : Session} {o : String} {stored : Stored}
    (held : session.options.get? o = some stored) (edit : Edit) (name : String) :
    (session.step (.edit o edit name)).answer = .fault (.frozen edit name) := by
  simp only [Session.step, option?, stored?, held, Except.map, Except.bind, answer]

theorem answer_of_edit_mem_history {session : Session} {steps : List Step} {o name : String}
    {stored : Stored} {edit : Edit} {answer : Answer}
    (held : session.options.get? o = some stored)
    (kept : ∀ entry ∈ session.history steps,
      entry.1.target? = some (.option o) → entry.2.fault? ≠ none)
    (tried : (Step.edit o edit name, answer) ∈ session.history steps) :
    answer = .fault (.frozen edit name) := by
  induction steps generalizing session with
  | nil => cases tried
  | cons step rest previous =>
    rw [history_cons] at kept tried
    have first := session.options_get?_step (kept _ (.head _))
    rcases List.mem_cons.mp tried with here | there
    · obtain ⟨rfl, rfl⟩ := Prod.mk.inj here
      exact answer_edit held edit name
    · exact previous (first.trans held) (fun entry listed => kept entry (.tail _ listed)) there

/-- Slots keep apart, and options in them do not change. A step changes at most the slot it is
    directed at, and none if it fails, except that a chain leaves its builder with the calls before
    the failing one made. So the option in a slot stays what it is for as long as every step
    directed at the slot fails, whatever is done to the builder it came from and to other options,
    and however often it is assigned to or deleted from, which always fails. -/
theorem slots_keep_apart :
    (∀ (session : Session) (step : Step) (place : Place), step.target? ≠ some place →
      (session.step step).session.content? place = session.content? place) ∧
    (∀ (session : Session) (step : Step), (session.step step).answer.fault? ≠ none →
      (∀ b settings, step ≠ .chain b settings) → (session.step step).session = session) ∧
    (∀ (session : Session) (b : String) (before : Builder) (settings : List (String × Value))
      (fault : Fault), session.builders.get? b = some before →
      (session.step (.chain b settings)).answer.fault? = some fault →
        ∃ accepted name v rest, settings = accepted ++ (name, v) :: rest ∧
          (before.trace (Builder.chainUses accepted)).map Prod.snd =
            List.replicate accepted.length .accepted ∧
          (before.after (Builder.chainUses accepted)).set name v = .error fault ∧
          (session.step (.chain b settings)).session =
            session.putBuilder b (before.after (Builder.chainUses accepted))) ∧
    ∀ (session : Session) (steps : List Step) (o : String) (stored : Stored),
      session.options.get? o = some stored →
      (∀ entry ∈ session.history steps,
        entry.1.target? = some (.option o) → entry.2.fault? ≠ none) →
        (session.run steps).2.options.get? o = some stored ∧
          ∀ edit name answer, (Step.edit o edit name, answer) ∈ session.history steps →
            answer = .fault (.frozen edit name) ∧
              (Fault.frozen edit name).className = "FrozenInstanceError" := by
  refine ⟨fun session _ _ => session.content?_step_of_ne, fun session _ => session.session_of_fault,
    fun _ _ _ _ _ => session_of_chain_fault, ?_⟩
  intro session steps o stored held kept
  refine ⟨?_, fun edit name answer tried => ⟨answer_of_edit_mem_history held kept tried, rfl⟩⟩
  rw [session.options_get?_run steps kept]
  exact held

/-- A snapshot outlives a construction in its place that fails, changes to its builder and to a copy
    of it, and an assignment to one of its fields. -/
theorem slot_of_shared_snapshot :
    let before := (start.run [.builder "b", .build "b" "o"]).2
    let steps : List Step := [.construct "o" [("limit_time", .int 7)],
      .chain "b" [("limit_time", .int 7), ("limit_time", .text "7")],
      .replace "o" "p" [("limit_count", .list [])], .force "p" "idle_timeout_millis" .null,
      .edit "o" .assign "limit_time"]
    (before.run steps).2.options.get? "o" = some (.ofOptions .standard) ∧
      (before.run steps).2.builders.get? "b" = some { Builder.fresh with limitTime := 7 } := by
  intro before steps
  obtain ⟨-, -, -, snapshot⟩ := slots_keep_apart
  obtain ⟨same, -⟩ := snapshot before steps "o" (.ofOptions .standard) rfl (by
    intro entry listed directed
    simp only [steps, history_cons, List.mem_cons] at listed
    -- the construction is the only step directed at the slot
    rcases listed with rfl | rfl | rfl | rfl | rfl | none
    · exact Option.some_ne_none Fault.wrongNames
    all_goals simp_all [Step.target?, history, run])
  exact ⟨same, rfl⟩

end Session

end ChannelTuning

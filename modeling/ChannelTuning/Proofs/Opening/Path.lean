import ChannelTuning.Opening

namespace ChannelTuning

inductive Attempt where
  | load
  | find (function : BackendFunction)
  | call (call : Call)

namespace Attempt

def call? : Attempt → Option Call
  | call c => some c
  | _ => none

def ofCall (c : Call) : List Attempt := [.find c.function, .call c]

def path (calls : List Call) : List Attempt := .load :: calls.flatMap ofCall

theorem call?_eq_some_iff {attempt : Attempt} {c : Call} :
    attempt.call? = some c ↔ attempt = .call c := by
  cases attempt <;> simp [call?]

theorem filterMap_call?_flatMap_ofCall (calls : List Call) :
    (calls.flatMap ofCall).filterMap call? = calls := by
  induction calls with
  | nil => rfl
  | cons c rest previous =>
    rw [List.flatMap_cons, List.filterMap_append, previous]
    rfl

theorem filterMap_call?_path (calls : List Call) : (path calls).filterMap call? = calls :=
  filterMap_call?_flatMap_ofCall calls

end Attempt

theorem Exchange.andThen_of_ok {α β : Type} {exchange : Exchange α} {next : α → Exchange β} {b : β}
    (came : (exchange.andThen next).outcome = .ok b) :
    ∃ a, exchange.outcome = .ok a ∧ (next a).outcome = .ok b ∧
      (exchange.andThen next).calls = exchange.calls ++ (next a).calls := by
  unfold andThen at came ⊢
  cases outcome : exchange.outcome with
  | error incident => rw [outcome] at came; cases came
  | ok a =>
    rw [outcome] at came
    exact ⟨a, rfl, came, rfl⟩

namespace Backend

/-- The credentials that a backend hands out, or any if it hands out none. -/
def credentials (backend : Backend) : Handle :=
  match backend.call .credentials with
  | .ok handle => handle
  | .error _ => ⟨0⟩

def plan (backend : Backend) (tls : Bool) (target : Value) (arguments : Arguments) : List Call :=
  if tls then [.credentials, .secure target backend.credentials arguments]
  else [.insecure target arguments]

def outcome (backend : Backend) : Attempt → Except Incident (Option Handle)
  | .load => backend.load.map fun () => none
  | .find function => (backend.find function).map fun () => none
  | .call c => (backend.call c).map some

def incident? (backend : Backend) (attempt : Attempt) : Option Incident :=
  match backend.outcome attempt with
  | .error incident => some incident
  | .ok _ => none

def tried (backend : Backend) : List Attempt → List Attempt
  | [] => []
  | attempt :: rest =>
    match backend.incident? attempt with
    | some _ => [attempt]
    | none => attempt :: backend.tried rest

theorem credentials_of_call {backend : Backend} {handle : Handle}
    (came : backend.call .credentials = .ok handle) : backend.credentials = handle := by
  simp only [credentials, came]

theorem invoke_of_ok {backend : Backend} {c : Call} {handle : Handle}
    (came : (backend.invoke c).outcome = .ok handle) :
    backend.call c = .ok handle ∧ (backend.invoke c).calls = [c] := by
  obtain ⟨-, -, made, calls⟩ := Exchange.andThen_of_ok came
  exact ⟨made, calls⟩

theorem tried_singleton (backend : Backend) (attempt : Attempt) :
    backend.tried [attempt] = [attempt] := by
  unfold tried
  split <;> rfl

theorem tried_isPrefix (backend : Backend) (attempts : List Attempt) :
    backend.tried attempts <+: attempts := by
  induction attempts with
  | nil => exact List.prefix_refl _
  | cons attempt rest previous =>
    unfold tried
    split
    · exact (List.prefix_cons_inj attempt).mpr (List.nil_prefix)
    · exact (List.prefix_cons_inj attempt).mpr previous

theorem tried_append_of_no_incident {backend : Backend} {first : List Attempt}
    (well : first.findSome? backend.incident? = none) (second : List Attempt) :
    backend.tried (first ++ second) = first ++ backend.tried second := by
  induction first with
  | nil => rfl
  | cons attempt rest previous =>
    rw [List.findSome?_cons] at well
    cases here : backend.incident? attempt with
    | some incident => rw [here] at well; cases well
    | none =>
      rw [here] at well
      simp only [List.cons_append, tried, here, previous well]

theorem tried_of_no_incident {backend : Backend} {attempts : List Attempt}
    (well : attempts.findSome? backend.incident? = none) : backend.tried attempts = attempts := by
  have whole := tried_append_of_no_incident well []
  rw [List.append_nil] at whole
  rw [whole, tried, List.append_nil]

theorem tried_append_of_incident {backend : Backend} {first : List Attempt} {incident : Incident}
    (wrong : first.findSome? backend.incident? = some incident) (second : List Attempt) :
    backend.tried (first ++ second) = backend.tried first := by
  induction first with
  | nil => cases wrong
  | cons attempt rest previous =>
    rw [List.findSome?_cons] at wrong
    cases here : backend.incident? attempt with
    | some _ => simp only [List.cons_append, tried, here]
    | none =>
      rw [here] at wrong
      simp only [List.cons_append, tried, here, previous wrong]

theorem no_incident_before {backend : Backend} {before later : List Attempt} {attempt : Attempt}
    (tried : attempt ∈ backend.tried (before ++ later)) (first : attempt ∉ before) :
    ∀ earlier ∈ before, backend.incident? earlier = none := by
  cases found : before.findSome? backend.incident? with
  | none => exact List.findSome?_eq_none_iff.mp found
  | some incident =>
    rw [tried_append_of_incident found] at tried
    exact absurd ((backend.tried_isPrefix before).subset tried) first

end Backend

def Exchange.incident? {α : Type} (exchange : Exchange α) : Option Incident :=
  match exchange.outcome with
  | .error incident => some incident
  | .ok _ => none

/-- Dealings follow attempts if they consist in trying these up to the first that goes wrong: they
    make the calls among those tried and end in what went wrong. Nothing else about the backend
    matters to them. -/
structure Follows {α : Type} (dealings : Backend → Exchange α) (backend : Backend)
    (attempts : List Attempt) : Prop where
  calls : (dealings backend).calls = (backend.tried attempts).filterMap Attempt.call?
  incident : (dealings backend).incident? = attempts.findSome? backend.incident?
  frame : ∀ other : Backend,
    (∀ attempt ∈ backend.tried attempts, other.outcome attempt = backend.outcome attempt) →
      dealings other = dealings backend

namespace Follows

theorem single {α : Type} {dealings : Backend → Exchange α} {backend : Backend} {attempt : Attempt}
    (calls : (dealings backend).calls = [attempt].filterMap Attempt.call?)
    (incident : (dealings backend).incident? = backend.incident? attempt)
    (frame : ∀ other : Backend, other.outcome attempt = backend.outcome attempt →
      dealings other = dealings backend) :
    Follows dealings backend [attempt] where
  calls := by rw [calls, Backend.tried_singleton]
  incident := by rw [incident, List.findSome?_singleton]
  frame other same := by
    rw [Backend.tried_singleton] at same
    exact frame other (same attempt (.head _))

theorem load (backend : Backend) :
    Follows (fun backend => ⟨[], backend.load⟩) backend [.load] := by
  apply single rfl
  · cases loaded : backend.load <;>
      simp [Exchange.incident?, Backend.incident?, Backend.outcome, loaded, Except.map]
  · intro other same
    have alike : other.load = backend.load := (map_inj_right fun _ => rfl).mp same
    simp only [alike]

theorem find (backend : Backend) (function : BackendFunction) :
    Follows (fun backend => ⟨[], backend.find function⟩) backend [.find function] := by
  apply single rfl
  · cases found : backend.find function <;>
      simp [Exchange.incident?, Backend.incident?, Backend.outcome, found, Except.map]
  · intro other same
    have alike : other.find function = backend.find function :=
      (map_inj_right fun _ => rfl).mp same
    simp only [alike]

theorem call (backend : Backend) (c : Call) :
    Follows (fun backend => ⟨[c], backend.call c⟩) backend [.call c] := by
  apply single rfl
  · cases made : backend.call c <;>
      simp [Exchange.incident?, Backend.incident?, Backend.outcome, made, Except.map]
  · intro other same
    have alike : other.call c = backend.call c := (map_inj_right Option.some.inj).mp same
    simp only [alike]

theorem andThen {α β : Type} {dealings : Backend → Exchange α} {next : Backend → α → Exchange β}
    {backend : Backend} {first second : List Attempt} (before : Follows dealings backend first)
    (later : ∀ a, (dealings backend).outcome = .ok a →
      Follows (fun backend => next backend a) backend second) :
    Follows (fun backend => (dealings backend).andThen (next backend)) backend (first ++ second) := by
  have ended := before.incident
  cases came : (dealings backend).outcome with
  -- once the first dealings have gone wrong, nothing of the second is tried
  | error incident =>
    have wrong : first.findSome? backend.incident? = some incident := by
      rw [← ended, Exchange.incident?, came]
    have only := Backend.tried_append_of_incident wrong second
    constructor
    · simp only [Exchange.andThen, came, only, before.calls]
    · simp only [Exchange.andThen, Exchange.incident?, came, List.findSome?_append, wrong,
        Option.some_or]
    · intro other same
      rw [only] at same
      simp only [before.frame other same, Exchange.andThen, came]
  | ok a =>
    have well : first.findSome? backend.incident? = none := by
      rw [← ended, Exchange.incident?, came]
    have both := Backend.tried_append_of_no_incident well second
    have rest := later a came
    constructor
    · simp only [Exchange.andThen, came, both, List.filterMap_append, before.calls,
        Backend.tried_of_no_incident well, rest.calls]
    · rw [List.findSome?_append, well, Option.none_or, ← rest.incident]
      simp only [Exchange.andThen, Exchange.incident?, came]
    · intro other same
      rw [both] at same
      have alike := before.frame other fun attempt member =>
        same attempt (List.mem_append_left _ (Backend.tried_of_no_incident well ▸ member))
      have equal := rest.frame other fun attempt member =>
        same attempt (List.mem_append_right _ member)
      simp only [Exchange.andThen, alike, came, equal]

theorem invoke (backend : Backend) (c : Call) :
    Follows (fun backend => backend.invoke c) backend (Attempt.ofCall c) :=
  (find backend c.function).andThen fun _ _ => call backend c

theorem connect (backend : Backend) (tls : Bool) (target : Value) (arguments : Arguments) :
    Follows (fun backend => backend.connect tls target arguments) backend
      (Attempt.path (backend.plan tls target arguments)) := by
  cases tls with
  | false => exact (load backend).andThen fun _ _ => invoke backend (.insecure target arguments)
  | true =>
    have steps : Attempt.path (backend.plan true target arguments) =
        [.load] ++ (Attempt.ofCall .credentials ++
          Attempt.ofCall (.secure target backend.credentials arguments)) := rfl
    rw [steps]
    apply (load backend).andThen
    intro _ _
    apply (invoke backend .credentials).andThen
    intro handle came
    have same : backend.credentials = handle :=
      Backend.credentials_of_call (Backend.invoke_of_ok came).1
    rw [same]
    exact invoke backend (.secure target handle arguments)

end Follows

end ChannelTuning

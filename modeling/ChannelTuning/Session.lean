import ChannelTuning.Opening
import ChannelTuning.Options.Construction

namespace ChannelTuning

structure Slots (α : Type) where
  entries : List (String × α)

namespace Slots

variable {α : Type}

def empty : Slots α := ⟨[]⟩

def get? (slots : Slots α) (name : String) : Option α := slots.entries.lookup name

def put (slots : Slots α) (name : String) (a : α) : Slots α := ⟨(name, a) :: slots.entries⟩

theorem get?_put_self (slots : Slots α) (name : String) (a : α) :
    (slots.put name a).get? name = some a := by
  simp [get?, put]

theorem get?_put_of_ne (slots : Slots α) {name other : String} (a : α) (apart : other ≠ name) :
    (slots.put name a).get? other = slots.get? other := by
  have differs : (other == name) = false := by simpa using apart
  simp [get?, put, List.lookup_cons, differs]

end Slots

/-- An option in a slot, with the values that were forced on it under names that no field has. They
    can be read back, and matter to nothing else. -/
structure Stored where
  options : Options
  extras : Slots Value

namespace Stored

def ofOptions (o : Options) : Stored := ⟨o, .empty⟩

def get (stored : Stored) (name : String) : Except Fault Value :=
  match Field.named? name, stored.extras.get? name with
  | some f, _ => .ok (stored.options.get f)
  | none, some v => .ok v
  | none, none => .error (.noField name)

/-- The names under which every object holds what makes it one. All values are refused under them.
    A dictionary that takes the place of `__dict__`, and any value in the place of
    `__dataclass_fields__`, would change an option beyond its fields; these two cases are left out. -/
def reservedNames : List String :=
  ["__class__", "__dict__", "__weakref__", "__dataclass_fields__"]

def force (stored : Stored) (name : String) (v : Value) : Except Fault Stored :=
  match Field.named? name with
  | some f => .ok { stored with options := stored.options.put f v }
  | none =>
    if name ∈ reservedNames then .error (.reserved name)
    else .ok { stored with extras := stored.extras.put name v }

end Stored

structure Session where
  builders : Slots Builder
  options : Slots Stored

inductive Passed where
  | nothing
  | slot (name : String)
  | value (v : Value)

inductive Step where
  | builder (b : String)
  | chain (b : String) (settings : List (String × Value))
  | state (b : String)
  | build (b o : String)
  | standard (o : String)
  | construct (o : String) (entries : List (String × Value))
  | replace (source o : String) (entries : List (String × Value))
  | fields (o : String)
  | get (o field : String)
  | edit (o : String) (edit : Edit) (field : String)
  | force (o field : String) (v : Value)
  | display (o : String)
  | literal (o : String)
  | arguments (o : String)
  | equal (o p : String)
  | distinct (names : List String)
  | resolve (name : Value)
  | connect (target : Value) (passed : Passed) (tls : Value) (backend : Backend)

inductive Answer where
  | state (text : String)
  | chained (fault : Option Fault) (text : String)
  | fields (entries : List (String × Value))
  | value (v : Value)
  | display (text : String)
  | literal (text : String)
  | arguments (arguments : Arguments)
  | equal (same : Bool)
  | distinct (count : Nat)
  | transport (t : Transport)
  | opening (calls : List Call) (result : Except Fault Handle)
  | fault (fault : Fault)

structure Report where
  answer : Answer
  records : List Record
  session : Session

namespace Session

def start : Session := ⟨.empty, .empty⟩

def builder? (session : Session) (name : String) : Except Fault Builder :=
  match session.builders.get? name with
  | some b => .ok b
  | none => .error (.emptySlot name)

def stored? (session : Session) (name : String) : Except Fault Stored :=
  match session.options.get? name with
  | some stored => .ok stored
  | none => .error (.emptySlot name)

def option? (session : Session) (name : String) : Except Fault Options :=
  (session.stored? name).map Stored.options

def putBuilder (session : Session) (name : String) (b : Builder) : Session :=
  { session with builders := session.builders.put name b }

def putStored (session : Session) (name : String) (stored : Stored) : Session :=
  { session with options := session.options.put name stored }

def answer (session : Session) : Except Fault Answer → Report
  | .ok answer => ⟨answer, [], session⟩
  | .error fault => ⟨.fault fault, [], session⟩

def store (session : Session) (name : String) (records : Options → List Record) :
    Except Fault Stored → Report
  | .ok stored =>
    ⟨.fields stored.options.entries, records stored.options, session.putStored name stored⟩
  | .error fault => ⟨.fault fault, [], session⟩

def storeNew (session : Session) (name : String) (records : Options → List Record)
    (made : Except Fault Options) : Report :=
  session.store name records (made.map .ofOptions)

def choice (session : Session) : Passed → Except Fault Choice
  | .nothing => .ok .nothing
  | .slot name => (session.option? name).map .options
  | .value v => .ok (.value v)

def step (session : Session) : Step → Report
  | .builder b => ⟨.state Builder.fresh.display, [], session.putBuilder b .fresh⟩
  | .chain b settings =>
    match session.builder? b with
    | .error fault => ⟨.fault fault, [], session⟩
    | .ok builder =>
      let (after, fault) := builder.chain settings
      ⟨.chained fault after.display, fault.elim [] Record.ofFault, session.putBuilder b after⟩
  | .state b => session.answer ((session.builder? b).map fun builder => .state builder.display)
  | .build b o =>
    session.storeNew o (fun option => [.built option]) ((session.builder? b).map Builder.build)
  | .standard o => session.storeNew o (fun option => [.built option]) (.ok .standard)
  | .construct o entries => session.storeNew o (fun _ => []) (Options.construct entries)
  | .replace source o entries =>
    session.storeNew o (fun _ => [])
      ((session.option? source).bind fun option => option.replace entries)
  | .fields o => session.answer ((session.option? o).map fun option => .fields option.entries)
  | .get o field =>
    session.answer ((session.stored? o).bind fun stored => (stored.get field).map .value)
  | .edit o edit field =>
    session.answer ((session.option? o).bind fun _ => .error (.frozen edit field))
  | .force o field v =>
    session.store o (fun _ => []) ((session.stored? o).bind fun stored => stored.force field v)
  | .display o => session.answer ((session.option? o).map fun option => .display option.display)
  | .literal o => session.answer ((session.option? o).map fun option => .literal option.literal)
  | .arguments o =>
    session.answer ((session.option? o).bind fun option => option.arguments.map .arguments)
  | .equal o p =>
    session.answer do
      let left ← session.option? o
      let right ← session.option? p
      return .equal (left.equal right)
  | .distinct names =>
    session.answer ((names.mapM session.option?).bind fun options =>
      (Options.setSize options).map .distinct)
  | .resolve name => session.answer ((Transport.ofName name).map .transport)
  | .connect target passed tls backend =>
    match session.choice passed with
    | .error fault => ⟨.fault fault, [], session⟩
    | .ok choice =>
      let opening := Request.perform ⟨target, choice, tls, backend⟩
      ⟨.opening opening.calls opening.result, opening.records, session⟩

def run (session : Session) : List Step → List (Answer × List Record) × Session
  | [] => ([], session)
  | step :: rest =>
    let report := session.step step
    let (later, last) := report.session.run rest
    ((report.answer, report.records) :: later, last)

end Session

end ChannelTuning

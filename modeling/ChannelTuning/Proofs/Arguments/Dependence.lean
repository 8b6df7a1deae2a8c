import ChannelTuning.Proofs.Arguments.Limits
import ChannelTuning.Proofs.Builder.Writes

namespace ChannelTuning

def channelAmounts : List Amount :=
  [.keepAliveTime, .keepAliveTimeout, .maxHeaderListSize, .maxInboundMessageSize,
    .flowControlWindow]

/-- Two options hold integers for an amount that are the same once what is above the largest C int
    has been cut to it. -/
def Options.Agree (o p : Options) (a : Amount) : Prop :=
  ∃ n m : Int, o.get (Setting.amount a) = .int n ∧ p.get (Setting.amount a) = .int m ∧
    min n 2147483647 = min m 2147483647

theorem Arguments.ofAmounts_eq_iff {first second : Amount → Int} :
    ofAmounts first = ofAmounts second ↔ ∀ a ∈ channelAmounts, first a = second a := by
  simp only [ofAmounts, channelAmounts, List.cons.injEq, Prod.mk.injEq, Value.int.injEq, true_and,
    and_true, List.forall_mem_cons, List.not_mem_nil, false_implies, implies_true]
  constructor
  · rintro ⟨time, timeout, -, headers, messages, window⟩
    exact ⟨time, timeout, headers, messages, window⟩
  · rintro ⟨time, timeout, headers, messages, window⟩
    exact ⟨time, timeout, time, headers, messages, window⟩

theorem Setting.written?_of_ne {s : Setting} {u : Use} (other : ∀ v, u ≠ .set s.name v)
    (response : Response) : s.written? (u, response) = none := by
  cases u with
  | set name v =>
    have apart : name ≠ s.name := by
      rintro rfl
      exact other v rfl
    cases response with
    | accepted => exact if_neg apart
    | _ => rfl
  | build => rfl
  | display => rfl

namespace Builder

theorem get_amount_build (b : Builder) (a : Amount) :
    b.build.get (Setting.amount a) = .int (b.amount a) :=
  b.get_build (.amount a)

theorem agree_build_iff (b c : Builder) (a : Amount) : b.build.Agree c.build a ↔
    min (b.amount a) largestArgument = min (c.amount a) largestArgument := by
  constructor
  · rintro ⟨n, m, first, second, same⟩
    rw [get_amount_build] at first second
    cases first
    cases second
    exact same
  · intro same
    exact ⟨_, _, b.get_amount_build a, c.get_amount_build a, same⟩

theorem arguments_eq_iff (b c : Builder) :
    b.build.arguments = c.build.arguments ↔ ∀ a ∈ channelAmounts, b.build.Agree c.build a := by
  rw [arguments_build, arguments_build, Except.ok.injEq, Arguments.ofAmounts_eq_iff]
  exact forall₂_congr fun a _ => (agree_build_iff b c a).symm

theorem value_after_of_unset {b : Builder} {uses : List Use} {s : Setting}
    (unset : ∀ v, Use.set s.name v ∉ uses) : (b.after uses).value s = b.value s := by
  induction uses generalizing b with
  | nil => rfl
  | cons u rest previous =>
    have here : ∀ v, u ≠ .set s.name v := by
      rintro v rfl
      exact unset v (.head _)
    have later : ∀ v, Use.set s.name v ∉ rest := fun v listed => unset v (.tail _ listed)
    rw [after, previous later, value_use, Setting.written?_of_ne here, Option.getD_none]

theorem arguments_after_of_unset (b : Builder) {uses : List Use}
    (unset : ∀ a ∈ channelAmounts, ∀ v, Use.set a.name v ∉ uses) :
    (b.after uses).build.arguments = b.build.arguments := by
  rw [arguments_eq_iff]
  intro a listed
  have kept : (b.after uses).value (.amount a) = b.value (.amount a) :=
    value_after_of_unset (unset a listed)
  rw [agree_build_iff, Value.int.inj kept]

theorem arguments_ne_of_amount_ne {b c : Builder} {a : Amount} (listed : a ∈ channelAmounts)
    (apart : b.amount a ≠ c.amount a) (fits : b.amount a ≤ largestArgument)
    (fits' : c.amount a ≤ largestArgument) : b.build.arguments ≠ c.build.arguments := by
  intro same
  have cut := (agree_build_iff b c a).mp ((arguments_eq_iff b c).mp same a listed)
  rw [Int.min_eq_left fits, Int.min_eq_left fits'] at cut
  exact apart cut

end Builder

namespace Request

theorem perform_of_same_arguments {o p : Options} {arguments : Arguments}
    (accepted : o.arguments = .ok arguments) (same : p.arguments = .ok arguments)
    (target tls : Value) (backend : Backend) :
    let first := perform ⟨target, .options o, tls, backend⟩
    let second := perform ⟨target, .options p, tls, backend⟩
    first.calls = second.calls ∧ first.result = second.result := by
  intro first second
  have made : first.calls = _ := calls_perform rfl accepted
  have ended : first.result = _ := result_perform rfl accepted
  have made' : second.calls = _ := calls_perform rfl same
  have ended' : second.result = _ := result_perform rfl same
  exact ⟨made.trans made'.symm, ended.trans ended'.symm⟩

theorem calls_perform_working {o : Options} {arguments : Arguments}
    (accepted : o.arguments = .ok arguments) (target : Value) :
    (perform ⟨target, .options o, .null, .working⟩).calls = [.insecure target arguments] :=
  calls_perform rfl accepted

end Request

namespace Builder

theorem agree_iff_same_openings (b c : Builder) :
    (∀ a ∈ channelAmounts, b.build.Agree c.build a) ↔
      ∀ (target tls : Value) (backend : Backend),
        let first := Request.perform ⟨target, .options b.build, tls, backend⟩
        let second := Request.perform ⟨target, .options c.build, tls, backend⟩
        first.calls = second.calls ∧ first.result = second.result := by
  rw [← arguments_eq_iff]
  constructor
  · intro same
    exact Request.perform_of_same_arguments b.arguments_build (same.symm.trans b.arguments_build)
  · intro same
    -- a backend that works is handed the arguments
    have calls := (same .null .null .working).1
    rw [Request.calls_perform_working b.arguments_build,
      Request.calls_perform_working c.arguments_build] at calls
    obtain ⟨-, sent⟩ := Call.insecure.inj (List.singleton_inj.mp calls)
    rw [b.arguments_build, c.arguments_build, sent]

/-- What channels depend on, exactly. The options that two runs of calls build give the same
    arguments if and only if they agree in five amounts. So no call for another setting makes a
    difference, every change of one of the five shows unless it goes beyond what an argument can
    hold, and the same calls with the same outcome are all that is seen of two options, whatever the
    backend does, if and only if they agree. -/
theorem channels_depend_on_five_amounts (uses others : List Use) :
    let o := (fresh.after uses).build
    let p := (fresh.after others).build
    (∃ sent given, o.arguments = .ok sent ∧ p.arguments = .ok given ∧
      (sent = given ↔ ∀ a ∈ channelAmounts, o.Agree p a)) ∧
    (∀ more : List Use, (∀ a ∈ channelAmounts, ∀ v, Use.set a.name v ∉ more) →
      (fresh.after (uses ++ more)).build.arguments = o.arguments) ∧
    (∀ a ∈ channelAmounts, ∀ n m : Int, o.get (Setting.amount a) = .int n →
      p.get (Setting.amount a) = .int m → n ≠ m → n ≤ 2147483647 → m ≤ 2147483647 →
        o.arguments ≠ p.arguments) ∧
    ((∀ a ∈ channelAmounts, o.Agree p a) ↔
      ∀ (target tls : Value) (backend : Backend),
        let first := Request.perform ⟨target, .options o, tls, backend⟩
        let second := Request.perform ⟨target, .options p, tls, backend⟩
        first.calls = second.calls ∧ first.result = second.result) := by
  intro o p
  refine ⟨⟨_, _, arguments_build _, arguments_build _, ?_⟩, fun more unset => ?_, ?_,
    agree_iff_same_openings _ _⟩
  · rw [← arguments_eq_iff, arguments_build, arguments_build, Except.ok.injEq]
  · rw [after_append]
    exact arguments_after_of_unset _ unset
  · intro a listed n m first second apart fits fits'
    rw [get_amount_build] at first second
    cases first
    cases second
    exact arguments_ne_of_amount_ne listed apart fits fits'

/-- Two intervals that are both too large cannot be told apart, though one of the two runs also sets
    a timeout and the other one a transport; the smallest window can be told from the standard
    one. -/
theorem dependence_on_too_large_intervals :
    let uses : List Use := [.set "keep_alive_time" (.int 2147483648),
      .set "connect_timeout" (.int 1)]
    let others : List Use := [.set "channel_type" (.text "nio"), .build,
      .set "keep_alive_time" (.int 4294967296), .set "keep_alive_time" (.bool true)]
    let narrow : List Use := [.set "flow_control_window" (.int 65535)]
    let o := (fresh.after uses).build
    let p := (fresh.after others).build
    o.arguments = p.arguments ∧
      (∀ (target : Value) (backend : Backend),
        (Request.perform ⟨target, .options o, .int 1, backend⟩).result =
          (Request.perform ⟨target, .options p, .int 1, backend⟩).result) ∧
      (fresh.after (uses ++ [.set "limit_time" (.int 0)])).build.arguments = o.arguments ∧
      (fresh.after narrow).build.arguments ≠ (fresh.after []).build.arguments := by
  intro uses others narrow o p
  have agree : ∀ a ∈ channelAmounts, o.Agree p a := by
    simp only [channelAmounts, List.forall_mem_cons]
    exact ⟨⟨_, _, rfl, rfl, rfl⟩, ⟨_, _, rfl, rfl, rfl⟩, ⟨_, _, rfl, rfl, rfl⟩,
      ⟨_, _, rfl, rfl, rfl⟩, ⟨_, _, rfl, rfl, rfl⟩, List.forall_mem_nil _⟩
  obtain ⟨⟨sent, given, accepted, same, iff⟩, unset, -, openings⟩ :=
    channels_depend_on_five_amounts uses others
  refine ⟨?_, fun target backend => (openings.mp agree target (.int 1) backend).2, ?_, ?_⟩
  · rw [accepted, same, iff.mpr agree]
  · have apart : ∀ a ∈ channelAmounts, a.name ≠ "limit_time" := by decide
    refine unset _ fun a listed v set => ?_
    exact apart a listed (Use.set.inj (List.mem_singleton.mp set)).1
  · obtain ⟨-, -, shows, -⟩ := channels_depend_on_five_amounts narrow []
    exact shows .flowControlWindow (by decide) 65535 1048576 rfl rfl (by decide) (by decide)
      (by decide)

end Builder

end ChannelTuning

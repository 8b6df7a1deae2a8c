import ChannelTuning.Proofs.Options.Copying

namespace ChannelTuning

namespace Options

variable {entries others : List (String × Value)}

theorem nodup_settingNames : settingNames.Nodup := by decide

theorem nodup_names_singleton (entry : String × Value) : ([entry].map Prod.fst).Nodup :=
  List.nodup_singleton _

theorem mem_settingNames_iff {name : String} :
    name ∈ settingNames ↔ ∃ s : Setting, s.name = name := by
  constructor
  · intro listed
    obtain ⟨s, -, same⟩ := List.mem_map.mp listed
    exact ⟨s, same⟩
  · rintro ⟨s, rfl⟩
    exact name_mem_settingNames s

theorem given?_perm (order : others.Perm entries) (distinct : (entries.map Prod.fst).Nodup)
    (name : String) : given? others name = given? entries name := by
  have apart : (others.map Prod.fst).Nodup := (order.map Prod.fst).nodup_iff.mpr distinct
  ext v
  rw [given?_eq_some_iff apart, given?_eq_some_iff distinct, order.mem_iff]

theorem construct_perm (order : others.Perm entries) (distinct : (entries.map Prod.fst).Nodup) :
    construct others = construct entries := by
  simp only [construct, order.all_eq, given?_perm order distinct]

theorem construct_of_missing {s : Setting} (missing : s.name ∉ entries.map Prod.fst) :
    construct entries = .error .wrongNames := by
  rw [construct, if_neg]
  rintro ⟨-, complete⟩
  have given := List.all_eq_true.mp complete s s.mem_all
  rw [given?_eq_none_iff.mpr missing] at given
  cases given

theorem construct_of_wrong_names (distinct : (entries.map Prod.fst).Nodup)
    (wrong : ¬ (entries.map Prod.fst).Perm settingNames) :
    construct entries = .error .wrongNames := by
  rcases known_or_unknown entries with known | unknown
  · by_cases complete : ∀ s : Setting, s.name ∈ entries.map Prod.fst
    · refine absurd ((List.perm_ext_iff_of_nodup distinct nodup_settingNames).mpr ?_) wrong
      intro name
      refine ⟨known name, fun listed => ?_⟩
      obtain ⟨s, rfl⟩ := mem_settingNames_iff.mp listed
      exact complete s
    · obtain ⟨s, missing⟩ := not_forall.mp complete
      exact construct_of_missing missing
  · exact construct_of_unknown unknown

theorem names_of_construct {o : Options} (distinct : (entries.map Prod.fst).Nodup)
    (done : construct entries = .ok o) : (entries.map Prod.fst).Perm settingNames := by
  by_contra wrong
  rw [construct_of_wrong_names distinct wrong] at done
  cases done

theorem construct_of_names (named : (entries.map Prod.fst).Perm settingNames) :
    construct entries =
      requireTransport (ofSettings fun s => (given? entries s.name).getD .null) := by
  refine construct_of_known (fun _ => named.mem_iff.mp) fun s => ?_
  have listed := named.mem_iff.mpr (name_mem_settingNames s)
  cases given : given? entries s.name with
  | none => exact absurd listed (given?_eq_none_iff.mp given)
  | some v => rfl

theorem given?_of_construct {o : Options} (done : construct entries = .ok o) (s : Setting) :
    given? entries s.name = some (o.get s) := by
  unfold construct at done
  split at done
  · rename_i accepted
    obtain ⟨v, given⟩ := Option.isSome_iff_exists.mp
      (List.all_eq_true.mp accepted.2 s s.mem_all)
    unfold requireTransport at done
    split at done
    · cases done
    · cases done
      rw [get_setting_ofSettings, given, Option.getD_some]
  · cases done

theorem stored_of_construct {o : Options} (distinct : (entries.map Prod.fst).Nodup)
    (done : construct entries = .ok o) :
    ∀ entry ∈ entries, ∃ s : Setting, s.name = entry.1 ∧ o.get s = entry.2 := by
  intro entry listed
  have named := names_of_construct distinct done
  obtain ⟨s, same⟩ := mem_settingNames_iff.mp (named.mem_iff.mp (List.mem_map_of_mem listed))
  have given := (given?_eq_some_iff distinct).mpr listed
  rw [← same, given?_of_construct done s] at given
  exact ⟨s, same, Option.some.inj given⟩

theorem construct_of_no_transport (named : (entries.map Prod.fst).Perm settingNames)
    (missing : ("channel_type", .null) ∈ entries) : construct entries = .error .noTransport := by
  have distinct := named.nodup_iff.mpr nodup_settingNames
  rw [construct_of_names named]
  apply requireTransport_of_null
  have given : given? entries Setting.transport.name = some .null :=
    (given?_eq_some_iff distinct).mpr missing
  exact congrArg (Option.getD · .null) given

theorem exists_of_construct (named : (entries.map Prod.fst).Perm settingNames)
    (held : ("channel_type", .null) ∉ entries) : ∃ o, construct entries = .ok o := by
  refine ⟨_, (construct_of_names named).trans (requireTransport_of_ne fun null => held ?_)⟩
  have listed := named.mem_iff.mpr (name_mem_settingNames .transport)
  cases given : given? entries Setting.transport.name with
  | none => exact absurd listed (given?_eq_none_iff.mp given)
  | some v =>
    have same : (given? entries Setting.transport.name).getD .null = v := by
      rw [given, Option.getD_some]
    obtain rfl : v = .null := same.symm.trans null
    exact mem_of_given? given

theorem construct_ok_iff (distinct : (entries.map Prod.fst).Nodup) :
    (∃ o, construct entries = .ok o) ↔
      (entries.map Prod.fst).Perm settingNames ∧ ("channel_type", .null) ∉ entries := by
  constructor
  · rintro ⟨o, done⟩
    have named := names_of_construct distinct done
    refine ⟨named, fun missing => ?_⟩
    rw [construct_of_no_transport named missing] at done
    cases done
  · rintro ⟨named, held⟩
    exact exists_of_construct named held

end Options

namespace Builder

open Options

theorem replace_build_of_set {b next : Builder} {s : Setting} {v : Value}
    (done : b.set s.name v = .ok next) :
    b.build.replace [(s.name, s.taken v)] = .ok next.build := by
  have known : ∀ name ∈ [(s.name, s.taken v)].map Prod.fst, name ∈ settingNames :=
    List.forall_mem_singleton.mpr (name_mem_settingNames s)
  have value : (fun t : Setting => (given? [(s.name, s.taken v)] t.name).getD (b.build.get t)) =
      next.value := by
    funext t
    rw [value_of_set done, get_build]
    by_cases same : s.name = t.name
    · obtain rfl := Setting.name_injective same
      have given : given? [(s.name, s.taken v)] s.name = some (s.taken v) :=
        (given?_eq_some_iff (nodup_names_singleton _)).mpr (.head _)
      rw [if_pos rfl, given, Option.getD_some]
    · have other : t.name ∉ [(s.name, s.taken v)].map Prod.fst :=
        fun listed => same (List.mem_singleton.mp listed).symm
      rw [if_neg same, given?_eq_none_iff.mpr other, Option.getD_none]
  rw [replace_of_known known, value]
  exact requireTransport_of_ne Value.noConfusion

theorem construct_of_set {b next : Builder} {s : Setting} {v : Value}
    (done : b.set s.name v = .ok next) {entries : List (String × Value)}
    (order : entries.Perm (overridden b.build.settingValues [(s.name, s.taken v)])) :
    construct entries = .ok next.build := by
  have distinct := nodup_names_overridden b.build.nodup_names_settingValues
    (nodup_names_singleton (s.name, s.taken v))
  have free : ∀ name ∈ [(s.name, s.taken v)].map Prod.fst, name ∉ withheldNames :=
    List.forall_mem_singleton.mpr (not_mem_withheldNames (name_mem_settingNames s))
  rw [construct_perm order distinct, ← replace_eq_construct free, replace_build_of_set done]

/-- Setting, replacing and constructing are three ways to the same option. The option that a builder
    makes once a setter has accepted a value is the copy of what it made before with the stored
    value in place of the old one, and the option constructed from its other values and that one, in
    any order. Constructing takes any values as long as they are given to all settings and to
    nothing else, and one of them to the transport; wrong names are refused before a missing
    transport is. What is given is stored as it is, and in what order it is given makes no
    difference. -/
theorem setting_replacing_and_constructing_agree :
    (∀ (b next : Builder) (s : Setting) (v : Value), b.set s.name v = .ok next →
      let stored := (s.name, s.taken v)
      b.build.replace [stored] = .ok next.build ∧
      ∀ entries : List (String × Value),
        entries.Perm (overridden b.build.settingValues [stored]) →
          construct entries = .ok next.build) ∧
    ∀ entries : List (String × Value), (entries.map Prod.fst).Nodup →
      let names := entries.map Prod.fst
      ((∃ o, construct entries = .ok o) ↔
        names.Perm settingNames ∧ ("channel_type", .null) ∉ entries) ∧
      (¬ names.Perm settingNames → construct entries = .error .wrongNames ∧
        Fault.wrongNames.className = "TypeError") ∧
      (names.Perm settingNames → ("channel_type", .null) ∈ entries →
        construct entries = .error .noTransport ∧
          Fault.noTransport.className = "MissingValueError") ∧
      (∀ o, construct entries = .ok o → o.Intact ∧
        ∀ entry ∈ entries, ∃ s : Setting, s.name = entry.1 ∧ o.get s = entry.2) ∧
      ∀ others : List (String × Value), others.Perm entries →
        construct others = construct entries := by
  refine ⟨fun b next s v done => ?_, fun entries distinct => ?_⟩
  · exact ⟨replace_build_of_set done, fun entries => construct_of_set done⟩
  · refine ⟨construct_ok_iff distinct, fun wrong => ⟨construct_of_wrong_names distinct wrong, rfl⟩,
      fun named missing => ⟨construct_of_no_transport named missing, rfl⟩, fun o done => ?_,
      fun others order => ?_⟩
    · exact ⟨intact_of_construct done, stored_of_construct distinct done⟩
    · exact construct_perm order distinct

/-- The name of a transport is stored as the transport, so the copy is given the transport as well,
    and the names of the other settings may stand in any order. A name that is withheld is refused
    although the transport is missing too. -/
theorem agreement_on_epoll_transport :
    let b := fresh.putAmount .limitCount 0
    let next := b.putTransport .epoll
    let stored : String × Value := ("channel_type", .transport .epoll)
    let missing := overridden b.build.settingValues [("channel_type", .null)]
    b.set "channel_type" (.text " Epoll ") = .ok next ∧
    b.build.replace [stored] = .ok next.build ∧
    construct (overridden b.build.settingValues [stored]).reverse = .ok next.build ∧
    construct missing.reverse = .error .noTransport ∧
    construct (("idle_timeout_millis", .int 1) :: missing) = .error .wrongNames := by
  intro b next stored missing
  have done : b.set Setting.transport.name (.text " Epoll ") = .ok next := rfl
  obtain ⟨ways, constructing⟩ := setting_replacing_and_constructing_agree
  obtain ⟨copied, made⟩ := ways b next .transport (.text " Epoll ") done
  refine ⟨done, copied, made _ (List.reverse_perm _), ?_, ?_⟩
  · obtain ⟨-, -, refused, -, ordered⟩ := constructing missing (by decide)
    rw [ordered _ (List.reverse_perm _)]
    exact (refused (by decide) (List.mem_append_right _ (.head _))).1
  · exact ((constructing _ (by decide)).2.1 (by decide)).1

end Builder

end ChannelTuning

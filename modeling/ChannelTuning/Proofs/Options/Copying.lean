import ChannelTuning.Proofs.Builder.Validity
import ChannelTuning.Proofs.Session.Withheld
import Mathlib.Data.List.Nodup

namespace ChannelTuning

namespace Options

def withheldNames : List String := ["keep_alive_without_calls", "idle_timeout_millis"]

def settingNames : List String := Setting.all.map Setting.name

/-- Entries with other ones added, which take the place of those of the same name. -/
def overridden (entries others : List (String × Value)) : List (String × Value) :=
  (entries.filter fun entry => entry.1 ∉ others.map Prod.fst) ++ others

theorem isSettingName_iff {name : String} : isSettingName name = true ↔ name ∈ settingNames := by
  simp only [isSettingName, Setting.named?, List.find?_isSome, settingNames, List.mem_map,
    beq_iff_eq]

theorem all_isSettingName_iff {entries : List (String × Value)} :
    (entries.all fun entry => isSettingName entry.1) = true ↔
      ∀ name ∈ entries.map Prod.fst, name ∈ settingNames := by
  rw [List.all_eq_true, List.forall_mem_map]
  exact forall₂_congr fun _ _ => isSettingName_iff

theorem isWithheldName_iff {name : String} : isWithheldName name = true ↔ name ∈ withheldNames := by
  constructor
  · intro withheld
    unfold isWithheldName at withheld
    cases found : Field.named? name with
    | none =>
      rw [found] at withheld
      cases withheld
    | some f =>
      rw [found] at withheld
      obtain rfl := Field.name_of_named? found
      cases f with
      | setting s => cases withheld
      | keepAliveWithoutCalls => exact .head _
      | idleTimeout => exact .tail _ (.head _)
  · intro listed
    simp only [withheldNames, List.mem_cons, List.not_mem_nil, or_false] at listed
    rcases listed with rfl | rfl <;> rfl

section Entries

variable {entries others : List (String × Value)} {name : String}

theorem given?_eq_none_iff : given? entries name = none ↔ name ∉ entries.map Prod.fst := by
  rw [given?, List.lookup_eq_none_iff]
  constructor
  · intro differs listed
    obtain ⟨entry, present, rfl⟩ := List.mem_map.mp listed
    exact bne_iff_ne.mp (differs entry (List.mem_reverse.mpr present)) rfl
  · intro absent entry present
    rw [bne_iff_ne]
    rintro rfl
    exact absent (List.mem_map_of_mem (List.mem_reverse.mp present))

theorem mem_of_given? {v : Value} (given : given? entries name = some v) : (name, v) ∈ entries := by
  obtain ⟨before, rest, same, -⟩ := List.lookup_eq_some_iff.mp given
  rw [← List.mem_reverse, same]
  exact List.mem_append_right _ (.head _)

theorem given?_eq_some_iff (distinct : (entries.map Prod.fst).Nodup) {v : Value} :
    given? entries name = some v ↔ (name, v) ∈ entries := by
  refine ⟨mem_of_given?, fun listed => ?_⟩
  cases given : given? entries name with
  | none => exact absurd (List.mem_map_of_mem listed) (given?_eq_none_iff.mp given)
  | some w =>
    -- with the name given twice, `w` could be from the later entry
    have same := List.inj_on_of_nodup_map distinct (mem_of_given? given) listed rfl
    exact congrArg some (Prod.mk.inj same).2

theorem given?_append (entries others : List (String × Value)) (name : String) :
    given? (entries ++ others) name = (given? others name).or (given? entries name) := by
  rw [given?, List.reverse_append, List.lookup_append, given?, given?]

theorem given?_filter {taken : List String} (kept : name ∉ taken) :
    given? (entries.filter fun entry => entry.1 ∉ taken) name = given? entries name := by
  rw [given?, given?, ← List.filter_reverse]
  induction entries.reverse with
  | nil => rfl
  | cons entry rest previous =>
    obtain ⟨other, v⟩ := entry
    by_cases stays : other ∉ taken
    · rw [List.filter_cons, if_pos (decide_eq_true stays), List.lookup_cons, List.lookup_cons,
        previous]
    · have apart : (name == other) = false := by
        rw [beq_eq_false_iff_ne]
        rintro rfl
        exact stays kept
      rw [List.filter_cons, if_neg (by simpa using stays), List.lookup_cons, apart, previous]

theorem given?_overridden (entries others : List (String × Value)) (name : String) :
    given? (overridden entries others) name = (given? others name).or (given? entries name) := by
  rw [overridden, given?_append]
  cases given : given? others name with
  | some v => rfl
  | none => rw [Option.none_or, Option.none_or, given?_filter (given?_eq_none_iff.mp given)]

theorem names_overridden (entries others : List (String × Value)) :
    (overridden entries others).map Prod.fst =
      (entries.map Prod.fst).filter (· ∉ others.map Prod.fst) ++ others.map Prod.fst := by
  rw [overridden, List.map_append, List.filter_map]
  rfl

theorem mem_names_overridden :
    name ∈ (overridden entries others).map Prod.fst ↔
      name ∈ entries.map Prod.fst ∨ name ∈ others.map Prod.fst := by
  rw [names_overridden, List.mem_append, List.mem_filter, decide_eq_true_iff]
  by_cases taken : name ∈ others.map Prod.fst <;>
    simp only [taken, not_true_eq_false, not_false_eq_true, and_true, and_false, or_true, or_false]

theorem nodup_names_overridden (distinct : (entries.map Prod.fst).Nodup)
    (apart : (others.map Prod.fst).Nodup) : ((overridden entries others).map Prod.fst).Nodup := by
  rw [names_overridden, List.nodup_append]
  refine ⟨distinct.filter _, apart, ?_⟩
  rintro name kept other taken rfl
  exact of_decide_eq_true (List.mem_filter.mp kept).2 taken

end Entries

theorem name_mem_settingNames (s : Setting) : s.name ∈ settingNames :=
  List.mem_map_of_mem s.mem_all

theorem not_mem_withheldNames {name : String} (known : name ∈ settingNames) :
    name ∉ withheldNames := by
  have apart : ∀ name ∈ settingNames, name ∉ withheldNames := by decide
  exact apart name known

theorem known_or_unknown (entries : List (String × Value)) :
    (∀ name ∈ entries.map Prod.fst, name ∈ settingNames) ∨
      ∃ name ∈ entries.map Prod.fst, name ∉ settingNames := by
  by_cases known : ∀ name ∈ entries.map Prod.fst, name ∈ settingNames
  · exact .inl known
  · exact .inr (by simpa using known)

theorem nodup_names_settingValues (o : Options) : (o.settingValues.map Prod.fst).Nodup := by
  have same : o.settingValues.map Prod.fst = standard.settingValues.map Prod.fst := rfl
  rw [same]
  decide

theorem mem_settingNames_of_mem_settingValues {o : Options} {name : String}
    (listed : name ∈ o.settingValues.map Prod.fst) : name ∈ settingNames := by
  obtain ⟨entry, present, rfl⟩ := List.mem_map.mp listed
  obtain ⟨s, rfl⟩ := exists_of_mem_settingValues present
  exact name_mem_settingNames s

section Replacing

variable {o p : Options} {entries others : List (String × Value)}

theorem given?_overridden_settingValues (o : Options) (entries : List (String × Value))
    (s : Setting) : given? (overridden o.settingValues entries) s.name =
      some ((given? entries s.name).getD (o.get s)) := by
  have source : given? o.settingValues s.name = some (o.get s) :=
    (given?_eq_some_iff o.nodup_names_settingValues).mpr (o.mem_settingValues s)
  rw [given?_overridden, source]
  cases given? entries s.name <;> rfl

theorem requireTransport_of_null (missing : o.transport = .null) :
    requireTransport o = .error .noTransport := by
  simp only [requireTransport, missing]

theorem requireTransport_of_ne (held : o.transport ≠ .null) : requireTransport o = .ok o := by
  unfold requireTransport
  split
  · rename_i missing
    exact absurd missing held
  · rfl

theorem construct_of_unknown (unknown : ∃ name ∈ entries.map Prod.fst, name ∉ settingNames) :
    construct entries = .error .wrongNames := by
  obtain ⟨name, listed, unknown⟩ := unknown
  rw [construct, if_neg]
  rintro ⟨known, -⟩
  exact unknown (all_isSettingName_iff.mp known name listed)

theorem construct_of_known {value : Setting → Value}
    (known : ∀ name ∈ entries.map Prod.fst, name ∈ settingNames)
    (given : ∀ s : Setting, given? entries s.name = some (value s)) :
    construct entries = requireTransport (ofSettings value) := by
  have complete : (Setting.all.all fun s => (given? entries s.name).isSome) = true :=
    List.all_eq_true.mpr fun s _ => by rw [given s, Option.isSome_some]
  rw [construct, if_pos ⟨all_isSettingName_iff.mpr known, complete⟩]
  simp only [given, Option.getD_some]

theorem find?_isWithheldName_eq_none_iff :
    (entries.find? fun entry => isWithheldName entry.1) = none ↔
      ∀ name ∈ entries.map Prod.fst, name ∉ withheldNames := by
  rw [List.find?_eq_none, List.forall_mem_map]
  exact forall₂_congr fun _ _ => not_congr isWithheldName_iff

theorem replace_of_first_withheld {entry : String × Value}
    (first : (entries.find? fun entry => isWithheldName entry.1) = some entry) :
    o.replace entries = .error (.withheld entry.1) := by
  simp only [replace, first]

theorem replace_of_withheld (withheld : ∃ name ∈ entries.map Prod.fst, name ∈ withheldNames) :
    ∃ name ∈ withheldNames, o.replace entries = .error (.withheld name) := by
  obtain ⟨name, listed, withheld⟩ := withheld
  obtain ⟨entry, present, rfl⟩ := List.mem_map.mp listed
  cases first : entries.find? fun entry => isWithheldName entry.1 with
  | none =>
    exact absurd (isWithheldName_iff.mpr withheld) (List.find?_eq_none.mp first entry present)
  | some other =>
    have marked := List.find?_some first
    exact ⟨other.1, isWithheldName_iff.mp marked, replace_of_first_withheld first⟩

theorem replace_of_unknown (free : ∀ name ∈ entries.map Prod.fst, name ∉ withheldNames)
    (unknown : ∃ name ∈ entries.map Prod.fst, name ∉ settingNames) :
    o.replace entries = .error .wrongNames := by
  obtain ⟨name, listed, unknown⟩ := unknown
  simp only [replace, find?_isWithheldName_eq_none_iff.mpr free]
  rw [if_neg]
  intro known
  exact unknown (all_isSettingName_iff.mp known name listed)

theorem replace_of_known (known : ∀ name ∈ entries.map Prod.fst, name ∈ settingNames) :
    o.replace entries =
      requireTransport (ofSettings fun s => (given? entries s.name).getD (o.get s)) := by
  have free : ∀ name ∈ entries.map Prod.fst, name ∉ withheldNames :=
    fun name listed => not_mem_withheldNames (known name listed)
  simp only [replace, find?_isWithheldName_eq_none_iff.mpr free, all_isSettingName_iff.mpr known,
    if_true]

theorem replace_eq_construct (free : ∀ name ∈ entries.map Prod.fst, name ∉ withheldNames) :
    o.replace entries = construct (overridden o.settingValues entries) := by
  rcases known_or_unknown entries with known | ⟨name, listed, apart⟩
  · rw [replace_of_known known, construct_of_known _ (given?_overridden_settingValues o entries)]
    intro name listed
    exact (mem_names_overridden.mp listed).elim mem_settingNames_of_mem_settingValues (known name)
  · rw [replace_of_unknown free ⟨name, listed, apart⟩, construct_of_unknown]
    exact ⟨name, mem_names_overridden.mpr (.inr listed), apart⟩

theorem known_of_replace (done : o.replace entries = .ok p) :
    ∀ name ∈ entries.map Prod.fst, name ∈ settingNames := by
  rcases known_or_unknown entries with known | unknown
  · exact known
  · by_cases withheld : ∃ name ∈ entries.map Prod.fst, name ∈ withheldNames
    · obtain ⟨name, -, failed⟩ := replace_of_withheld (o := o) withheld
      rw [failed] at done
      cases done
    · rw [replace_of_unknown (by simpa using withheld) unknown] at done
      cases done

theorem get_setting_of_replace (done : o.replace entries = .ok p) (s : Setting) :
    p.get s = (given? entries s.name).getD (o.get s) := by
  rw [replace_of_known (known_of_replace done)] at done
  unfold requireTransport at done
  split at done
  · cases done
  · cases done
    exact get_setting_ofSettings _ s

theorem find?_isWithheldName_overridden
    (known : ∀ name ∈ entries.map Prod.fst, name ∈ settingNames)
    (others : List (String × Value)) :
    ((overridden entries others).find? fun entry => isWithheldName entry.1) =
      others.find? fun entry => isWithheldName entry.1 := by
  have free : ((entries.filter fun entry => entry.1 ∉ others.map Prod.fst).find?
      fun entry => isWithheldName entry.1) = none := by
    rw [List.find?_eq_none]
    intro entry kept withheld
    have listed : entry.1 ∈ entries.map Prod.fst :=
      List.mem_map_of_mem (List.mem_filter.mp kept).1
    exact not_mem_withheldNames (known _ listed) (isWithheldName_iff.mp withheld)
  rw [overridden, List.find?_append, free, Option.none_or]

theorem replace_of_replace (done : o.replace entries = .ok p) (others : List (String × Value)) :
    p.replace others = o.replace (overridden entries others) := by
  have known := known_of_replace done
  have first := find?_isWithheldName_overridden known others
  -- what the others leave out comes from the first copy, and in it from the entries or from `o`
  have value (s : Setting) : (given? (overridden entries others) s.name).getD (o.get s) =
      (given? others s.name).getD (p.get s) := by
    rw [given?_overridden, get_setting_of_replace done]
    cases given? others s.name <;> rfl
  cases withheld : others.find? fun entry => isWithheldName entry.1 with
  | some entry =>
    rw [replace_of_first_withheld withheld, replace_of_first_withheld (first.trans withheld)]
  | none =>
    have free := find?_isWithheldName_eq_none_iff.mp withheld
    have both := find?_isWithheldName_eq_none_iff.mp (first.trans withheld)
    rcases known_or_unknown others with later | ⟨name, listed, apart⟩
    · rw [replace_of_known later, replace_of_known]
      · simp only [value]
      · intro name listed
        exact (mem_names_overridden.mp listed).elim (known name) (later name)
    · rw [replace_of_unknown free ⟨name, listed, apart⟩, replace_of_unknown both]
      exact ⟨name, mem_names_overridden.mpr (.inr listed), apart⟩

theorem replace_nil_eq_ok_iff : o.replace [] = .ok o ↔ o.Intact := by
  refine ⟨intact_of_replace, fun intact => ?_⟩
  have copy : ofSettings (fun s => o.get s) = o := by
    apply ext_get
    intro f
    cases f with
    | setting s => exact get_setting_ofSettings _ s
    | keepAliveWithoutCalls => exact intact.keepAliveWithoutCalls.symm
    | idleTimeout => exact intact.idleTimeout.symm
  rw [replace_of_known (List.forall_mem_nil _)]
  exact (congrArg requireTransport copy).trans (requireTransport_of_ne intact.transport)

theorem transport_mem_overridden_iff (distinct : (entries.map Prod.fst).Nodup) {v : Value} :
    ("channel_type", v) ∈ overridden o.settingValues entries ↔
      (given? entries "channel_type").getD o.transport = v := by
  have names := nodup_names_overridden o.nodup_names_settingValues distinct
  rw [← given?_eq_some_iff names]
  exact (congrArg (· = some v) (given?_overridden_settingValues o entries .transport)).to_iff.trans
    Option.some_inj

theorem replace_of_no_transport (distinct : (entries.map Prod.fst).Nodup)
    (known : ∀ name ∈ entries.map Prod.fst, name ∈ settingNames)
    (missing : ("channel_type", .null) ∈ overridden o.settingValues entries) :
    o.replace entries = .error .noTransport := by
  rw [replace_of_known known]
  exact requireTransport_of_null ((transport_mem_overridden_iff distinct).mp missing)

theorem exists_of_replace (distinct : (entries.map Prod.fst).Nodup)
    (known : ∀ name ∈ entries.map Prod.fst, name ∈ settingNames)
    (held : ("channel_type", .null) ∉ overridden o.settingValues entries) :
    ∃ p, o.replace entries = .ok p ∧ p.Intact ∧
      ∀ s : Setting, (s.name, p.get s) ∈ overridden o.settingValues entries := by
  have done : o.replace entries = .ok _ := (replace_of_known known).trans
    (requireTransport_of_ne ((transport_mem_overridden_iff distinct).not.mp held))
  refine ⟨_, done, intact_of_replace done, fun s => ?_⟩
  rw [get_setting_of_replace done]
  exact mem_of_given? (given?_overridden_settingValues o entries s)

end Replacing

end Options

namespace Session

theorem step_replace {session : Session} {source : String} {stored : Stored}
    (held : session.options.get? source = some stored) (slot : String)
    (entries : List (String × Value)) :
    session.step (.replace source slot entries) =
      session.storeNew slot (fun _ => []) (stored.options.replace entries) := by
  simp only [Session.step, option?, stored?, held, Except.map, Except.bind]

theorem options_get?_step_replace {session : Session} {source slot : String}
    (apart : source ≠ slot) (entries : List (String × Value)) :
    (session.step (.replace source slot entries)).session.options.get? source =
      session.options.get? source := by
  apply session.options_get?_step
  intro directed
  cases directed
  exact absurd rfl apart

end Session

namespace Options

/-- A copy with changes is a new option made from the source's settings with the changes in their
    place. A withheld name among the changes is refused first, then an unknown one, and then the
    lack of a transport, which the source or the changes may be to blame for. The withheld fields
    are not copied, and the source stays as it is. So changing a copy again comes to the same as
    changing the source once by both, also where it fails, and a copy without changes is the source
    itself exactly if new options could hold what it holds. -/
theorem replacing_is_constructing_anew :
    (∀ (o : Options) (entries : List (String × Value)), (entries.map Prod.fst).Nodup →
      let names := entries.map Prod.fst
      let values := overridden o.settingValues entries
      ((∃ name ∈ names, name ∈ withheldNames) →
        ∃ name ∈ withheldNames, o.replace entries = .error (.withheld name) ∧
          (Fault.withheld name).className = "ValueError") ∧
      ((∀ name ∈ names, name ∉ withheldNames) →
        o.replace entries = construct values ∧
        ((∃ name ∈ names, name ∉ settingNames) → o.replace entries = .error .wrongNames ∧
          Fault.wrongNames.className = "TypeError") ∧
        ((∀ name ∈ names, name ∈ settingNames) →
          (("channel_type", .null) ∈ values → o.replace entries = .error .noTransport ∧
            Fault.noTransport.className = "MissingValueError") ∧
          (("channel_type", .null) ∉ values → ∃ p, o.replace entries = .ok p ∧ p.Intact ∧
            ∀ s : Setting, (s.name, p.get s) ∈ values)))) ∧
    (∀ (o p : Options) (entries others : List (String × Value)), o.replace entries = .ok p →
      p.replace others = o.replace (overridden entries others)) ∧
    (∀ o : Options, o.replace [] = .ok o ↔ o.Intact) ∧
    ∀ (session : Session) (source slot : String) (stored : Stored)
      (entries : List (String × Value)), session.options.get? source = some stored →
        session.step (.replace source slot entries) =
          session.storeNew slot (fun _ => []) (stored.options.replace entries) ∧
        (source ≠ slot →
          (session.step (.replace source slot entries)).session.options.get? source =
            some stored) := by
  refine ⟨fun o entries distinct => ?_, fun _ _ _ others done => replace_of_replace done others,
    fun _ => replace_nil_eq_ok_iff, ?_⟩
  · intro names values
    refine ⟨fun withheld => ?_, fun free => ?_⟩
    · obtain ⟨name, listed, failed⟩ := replace_of_withheld withheld
      exact ⟨name, listed, failed, rfl⟩
    · refine ⟨replace_eq_construct free, fun unknown => ⟨replace_of_unknown free unknown, rfl⟩,
        fun known => ⟨fun missing => ?_, exists_of_replace distinct known⟩⟩
      exact ⟨replace_of_no_transport distinct known missing, rfl⟩
  · intro session source slot stored entries held
    refine ⟨Session.step_replace held slot entries, fun apart => ?_⟩
    rw [Session.options_get?_step_replace apart, held]

/-- An option with nothing for a transport can be copied if the changes bring one, and then the copy
    cannot lose it again. What was forced on its withheld fields is lost. -/
theorem copies_of_forced_option :
    let forced : Options := { standard with
      keepAliveWithoutCalls := .int 1, idleTimeout := .null, transport := .null }
    let named : List (String × Value) := [("limit_time", .null), ("channel_type", .text "udp")]
    let unnamed : List (String × Value) := [("channel_type", .null)]
    (∃ p, forced.replace named = .ok p ∧ p.Intact ∧
      p.replace unnamed = .error .noTransport) ∧
    forced.replace (("nope", .null) :: unnamed) = .error .wrongNames ∧
    (∃ name ∈ withheldNames, forced.replace
      (("nope", .null) :: ("idle_timeout_millis", .null) :: unnamed) = .error (.withheld name) ∧
        (Fault.withheld name).className = "ValueError") ∧
    forced.replace [] ≠ .ok forced ∧
    let session := Session.start.putStored "o" (.ofOptions forced)
    (session.step (.replace "o" "p" named)).session.options.get? "o" =
      some (.ofOptions forced) := by
  intro forced named unnamed
  obtain ⟨copies, again, same, keeps⟩ := replacing_is_constructing_anew
  refine ⟨?_, ?_, ?_, ?_, ?_⟩
  · have first := ((copies forced named (by decide)).2 (by decide)).2.2 (by decide)
    have held : ("channel_type", .null) ∉ overridden forced.settingValues named := by
      simp [overridden, settingValues, named, forced, standard]
    obtain ⟨p, done, intact, -⟩ := first.2 held
    refine ⟨p, done, intact, ?_⟩
    rw [again forced p named unnamed done]
    have both := ((copies forced (overridden named unnamed) (by decide)).2 (by decide)).2.2
      (by decide)
    exact (both.1 (by simp [overridden, unnamed])).1
  · exact (((copies forced _ (by decide)).2 (by decide)).2.1 ⟨"nope", .head _, by decide⟩).1
  · exact (copies forced _ (by decide)).1
      ⟨"idle_timeout_millis", .tail _ (.head _), .tail _ (.head _)⟩
  · intro copied
    cases ((same forced).mp copied).idleTimeout
  · intro session
    have held : session.options.get? "o" = some (.ofOptions forced) := Slots.get?_put_self _ _ _
    exact (keeps session "o" "p" (.ofOptions forced) named held).2 (by decide)

end Options

end ChannelTuning

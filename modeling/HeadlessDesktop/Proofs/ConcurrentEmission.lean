import HeadlessDesktop.Proofs.RecorderRetention
import HeadlessDesktop.Trace.Emission

/-! Records that several threads emit at once. Whatever the order of their steps, each recorder
holds, together with what the calls still have to hand to it, exactly the records that were
numbered; so that in the end every recorder holds one record of every call. -/
namespace HeadlessDesktop.Trace.Emission

open Text (Raw)
open scoped List

variable {tracer after : Tracer} {system next : System} {call : Call} {point : Point}
  {issued : List Record} {place places number : Nat}

/-- What a record says, apart from its number and its time. -/
def subject (record : Record) : Raw × Option Widget × Raw :=
  (record.op, record.widget, record.message)

@[simp] theorem subject_stamp (tracer : Tracer) (content : Record) :
    subject (tracer.stamp content) = subject content := rfl

theorem deliverAt_fst (record : Record) (place : Nat) (sinks : List Sink) :
    (deliverAt record place sinks).1 = sinks.modify place fun sink => (sink.emit record).1 := by
  induction sinks generalizing place with
  | nil => cases place <;> rfl
  | cons sink rest ih =>
    cases place with
    | zero => rfl
    | succ place => simp [deliverAt, ih]

theorem emit_unlimited {recorder : Recorder} (h : recorder.limit ≤ 0) (record : Record) :
    ((Sink.memory recorder).emit record).1 =
      .memory { recorder with records := recorder.records ++ [record] } := by
  simp [Sink.emit, Recorder.emit, Recorder.latest, not_lt.mpr h]

/-! ### Steps -/

/-- What a call may do next: to the tracer, and to itself. -/
inductive Moves (tracer : Tracer) (call : Call) : Tracer → Point → Prop
  | list {content : Record} (hpoint : call.point = .entering)
      (hcontent : call.content = some content) (henabled : tracer.enabled) :
      Moves tracer call tracer (.listed content tracer.sinks.length)
  | pass (hpoint : call.point = .entering) (hquiet : tracer.enabled → call.content = none) :
      Moves tracer call tracer .returned
  | number {content : Record} {sinks : Nat} (hpoint : call.point = .listed content sinks) :
      Moves tracer call { tracer with seq := tracer.seq + 1 }
        (.delivering (tracer.stamp content) sinks 0)
  | deliver {record : Record} {sinks next : Nat}
      (hpoint : call.point = .delivering record sinks next) (hnext : next < sinks) :
      Moves tracer call
        { tracer with sinks := tracer.sinks.modify next fun sink => (sink.emit record).1 }
        (.delivering record sinks (next + 1))
  | finish {record : Record} {sinks next : Nat}
      (hpoint : call.point = .delivering record sinks next) (hnext : sinks ≤ next) :
      Moves tracer call tracer .returned

theorem moves_of_step? {reports : List Report}
    (h : step? tracer call = some (after, point, reports)) : Moves tracer call after point := by
  unfold step? at h
  split at h
  · rename_i hpoint
    simp only [Option.some.injEq, Prod.mk.injEq] at h
    obtain ⟨rfl, rfl, -⟩ := h
    split
    · rename_i content hcontent
      split
      · rename_i henabled
        exact .list hpoint hcontent henabled
      · rename_i henabled
        exact .pass hpoint fun hon => absurd hon henabled
    · rename_i hcontent
      exact .pass hpoint fun _ => hcontent
  · rename_i content sinks hpoint
    simp only [Option.some.injEq, Prod.mk.injEq] at h
    obtain ⟨rfl, rfl, -⟩ := h
    exact .number hpoint
  · rename_i record sinks next hpoint
    split at h
    · rename_i hnext
      simp only [Option.some.injEq, Prod.mk.injEq, deliverAt_fst] at h
      obtain ⟨rfl, rfl, -⟩ := h
      exact .deliver hpoint hnext
    · rename_i hnext
      simp only [Option.some.injEq, Prod.mk.injEq] at h
      obtain ⟨rfl, rfl, -⟩ := h
      exact .finish hpoint (by omega)
  · contradiction

namespace System

theorem act?_cases {action : Action} (h : system.act? action = some next) :
    (∃ content, next = system.enter content) ∨
      (∃ clock, next = { system with tracer := system.tracer.setClock clock }) ∨
      ∃ number call after point reports, system.calls[number]? = some call ∧
        Moves system.tracer call after point ∧
        next =
          { tracer := after, calls := system.calls.set number { call with point }, reports } := by
  cases action with
  | message op text => exact .inl ⟨_, (Option.some.inj h).symm⟩
  | widget op shown => exact .inl ⟨_, (Option.some.inj h).symm⟩
  | tick clock => exact .inr (.inl ⟨clock, (Option.some.inj h).symm⟩)
  | step number =>
    simp only [act?, Option.bind_eq_bind, Option.bind_eq_some_iff, Option.pure_def,
      Option.some.injEq] at h
    obtain ⟨call, hcall, ⟨after, point, reports⟩, hstep, rfl⟩ := h
    exact .inr (.inr ⟨number, call, after, point, _, hcall, moves_of_step? hstep, rfl⟩)

end System

/-! ### Accounts -/

def Call.waiting? (call : Call) : Option Record :=
  match call.point with
  | .entering => call.content
  | .listed content _ => some content
  | _ => none

def Call.due? (place : Nat) (call : Call) : Option Record :=
  match call.point with
  | .delivering record _ next => if next ≤ place then some record else none
  | _ => none

def Call.Serves (places : Nat) (call : Call) : Prop :=
  match call.point with
  | .listed _ sinks | .delivering _ sinks _ => sinks = places
  | _ => True

namespace System

def asked (system : System) : List Record := system.calls.filterMap (·.content)

def waiting (system : System) : List Record := system.calls.filterMap Call.waiting?

def due (system : System) (place : Nat) : List Record := system.calls.filterMap (Call.due? place)

@[simp] theorem asked_enter (system : System) (content : Option Record) :
    (system.enter content).asked = system.asked ++ content.toList := by
  cases content <;> simp [asked, enter]

@[simp] theorem waiting_enter (system : System) (content : Option Record) :
    (system.enter content).waiting = system.waiting ++ content.toList := by
  cases content <;> simp [waiting, enter, Call.waiting?, List.filterMap_cons]

@[simp] theorem due_enter (system : System) (content : Option Record) (place : Nat) :
    (system.enter content).due place = system.due place := by
  simp [due, enter, Call.due?, List.filterMap_cons]

end System

/-- The records that were numbered, in order of their numbers, account for all that was asked and
for all that the recorders hold. -/
structure Accounts (places : Nat) (system : System) (issued : List Record) : Prop where
  enabled : system.tracer.enabled = true
  size : system.tracer.sinks.length = places
  serves : ∀ call ∈ system.calls, call.Serves places
  seq : system.tracer.seq = UInt64.ofNat issued.length
  numbers : issued.map (·.seq) = (List.range' 1 issued.length).map UInt64.ofNat
  subjects : (issued ++ system.waiting).map subject ~ system.asked.map subject
  held : ∀ (place : Nat) (sink : Sink), system.tracer.sinks[place]? = some sink →
    ∃ recorder, sink = .memory recorder ∧ recorder.limit ≤ 0 ∧
      recorder.records ++ system.due place ~ issued

theorem filterMap_set {calls : List Call} (hcall : calls[number]? = some call)
    (f : Call → Option Record) :
    ∃ others, calls.filterMap f ~ (f call).toList ++ others ∧
      ∀ new, (calls.set number new).filterMap f ~ (f new).toList ++ others := by
  obtain ⟨hlt, rfl⟩ := List.getElem?_eq_some_iff.mp hcall
  have hset : ∀ new, (calls.set number new).filterMap f ~
      (f new).toList ++ (calls.take number ++ calls.drop (number + 1)).filterMap f := by
    intro new
    rw [List.set_eq_take_append_cons_drop, if_pos hlt]
    apply (List.perm_middle.filterMap f).trans
    cases hnew : f new <;> simp [hnew]
  have hsame := hset calls[number]
  rw [List.set_getElem_self] at hsame
  exact ⟨_, hsame, hset⟩

theorem filterMap_set_of_eq {calls : List Call} (hcall : calls[number]? = some call)
    (f : Call → Option Record) {new : Call} (h : f new = f call) :
    (calls.set number new).filterMap f ~ calls.filterMap f := by
  obtain ⟨others, hold, hnew⟩ := filterMap_set hcall f
  exact (hnew new).trans (h ▸ hold.symm)

namespace Accounts

theorem initial (henabled : tracer.enabled) (hseq : tracer.seq = 0)
    (hsinks : ∀ sink ∈ tracer.sinks, ∃ limit ≤ 0, sink = .memory { limit }) :
    Accounts tracer.sinks.length { tracer } [] where
  enabled := henabled
  size := rfl
  serves := by simp
  seq := hseq
  numbers := rfl
  subjects := by simp [System.waiting, System.asked]
  held place sink hsink := by
    obtain ⟨limit, hlimit, rfl⟩ := hsinks sink (List.mem_of_getElem? hsink)
    exact ⟨{ limit }, rfl, hlimit, by simp [System.due]⟩

theorem enter (h : Accounts places system issued) (content : Option Record) :
    Accounts places (system.enter content) issued where
  enabled := h.enabled
  size := h.size
  serves call hcall := by
    rcases List.mem_append.mp hcall with hold | hnew
    · exact h.serves call hold
    · rw [List.mem_singleton.mp hnew]
      trivial
  seq := h.seq
  numbers := h.numbers
  subjects := by
    simpa using h.subjects.append_right (content.toList.map subject)
  held place sink hsink := by
    simpa using h.held place sink hsink

theorem tick (h : Accounts places system issued) (clock : Time.Instant) :
    Accounts places { system with tracer := system.tracer.setClock clock } issued :=
  ⟨h.enabled, h.size, h.serves, h.seq, h.numbers, h.subjects, h.held⟩

theorem serves_set (h : Accounts places system issued) {new : Call} (hnew : new.Serves places) :
    ∀ call ∈ system.calls.set number new, call.Serves places := by
  intro call hcall
  rcases List.mem_or_eq_of_mem_set hcall with hold | rfl
  · exact h.serves call hold
  · exact hnew

theorem asked_set (hcall : system.calls[number]? = some call) (point : Point) :
    (system.calls.set number { call with point }).filterMap (·.content) ~ system.asked :=
  filterMap_set_of_eq hcall (·.content) rfl

theorem subjects_set (h : Accounts places system issued) (hcall : system.calls[number]? = some call)
    (hwaiting : { call with point }.waiting? = call.waiting?) :
    let calls := system.calls.set number { call with point }
    (issued ++ calls.filterMap Call.waiting?).map subject ~
      (calls.filterMap (·.content)).map subject := by
  have hsame := filterMap_set_of_eq hcall Call.waiting? hwaiting
  calc
    _ ~ (issued ++ system.waiting).map subject := (hsame.append_left issued).map subject
    _ ~ system.asked.map subject := h.subjects
    _ ~ _ := (asked_set hcall point).symm.map subject

theorem stay (h : Accounts places system issued) (hcall : system.calls[number]? = some call)
    (hserves : { call with point }.Serves places)
    (hwaiting : { call with point }.waiting? = call.waiting?)
    (hdue : ∀ place < places, { call with point }.due? place = call.due? place)
    (reports : List Report) :
    Accounts places
      { tracer := system.tracer, calls := system.calls.set number { call with point }, reports }
      issued where
  enabled := h.enabled
  size := h.size
  serves := h.serves_set hserves
  seq := h.seq
  numbers := h.numbers
  subjects := h.subjects_set hcall hwaiting
  held place sink hsink := by
    obtain ⟨recorder, rfl, hlimit, hrecords⟩ := h.held place sink hsink
    have hplace : place < places := h.size ▸ (List.getElem?_eq_some_iff.mp hsink).1
    have hsame := filterMap_set_of_eq hcall (Call.due? place) (hdue place hplace)
    exact ⟨recorder, rfl, hlimit, (hsame.append_left recorder.records).trans hrecords⟩

theorem issue {content : Record} {sinks : Nat} (h : Accounts places system issued)
    (hcall : system.calls[number]? = some call) (hpoint : call.point = .listed content sinks)
    (reports : List Report) :
    let record := system.tracer.stamp content
    Accounts places
      { tracer := { system.tracer with seq := system.tracer.seq + 1 },
        calls := system.calls.set number { call with point := .delivering record sinks 0 },
        reports }
      (issued ++ [record]) where
  enabled := h.enabled
  size := h.size
  serves := by
    apply h.serves_set
    simpa [Call.Serves, hpoint] using h.serves call (List.mem_of_getElem? hcall)
  seq := by simp [h.seq, UInt64.ofNat_add]
  numbers := by
    simp [Tracer.stamp, h.numbers, h.seq, List.range'_1_concat, UInt64.ofNat_add, UInt64.add_comm]
  subjects := by
    obtain ⟨others, hold, hnew⟩ := filterMap_set hcall Call.waiting?
    have hrest := hnew { call with point := .delivering (system.tracer.stamp content) sinks 0 }
    simp only [Call.waiting?, hpoint, Option.toList_some, Option.toList_none,
      List.singleton_append, List.nil_append] at hold hrest
    calc
      _ ~ (issued ++ [system.tracer.stamp content] ++ others).map subject :=
        (hrest.append_left _).map subject
      _ ~ (issued ++ content :: others).map subject := by simp
      _ ~ (issued ++ system.waiting).map subject := (hold.symm.append_left issued).map subject
      _ ~ system.asked.map subject := h.subjects
      _ ~ _ := (asked_set hcall _).symm.map subject
  held place sink hsink := by
    obtain ⟨recorder, rfl, hlimit, hrecords⟩ := h.held place sink hsink
    obtain ⟨others, hold, hnew⟩ := filterMap_set hcall (Call.due? place)
    have hmore := hnew { call with point := .delivering (system.tracer.stamp content) sinks 0 }
    simp only [Call.due?, hpoint, Nat.zero_le, if_true, Option.toList_some, Option.toList_none,
      List.singleton_append, List.nil_append] at hold hmore
    refine ⟨recorder, rfl, hlimit, ?_⟩
    calc
      _ ~ recorder.records ++ system.tracer.stamp content :: system.due place :=
        (hmore.trans (hold.symm.cons _)).append_left _
      _ ~ system.tracer.stamp content :: (recorder.records ++ system.due place) :=
        List.perm_middle
      _ ~ system.tracer.stamp content :: issued := hrecords.cons _
      _ ~ issued ++ [system.tracer.stamp content] := (List.perm_append_singleton _ _).symm

theorem deliver {record : Record} {sinks next : Nat} (h : Accounts places system issued)
    (hcall : system.calls[number]? = some call)
    (hpoint : call.point = .delivering record sinks next) (reports : List Report) :
    Accounts places
      { tracer :=
          { system.tracer with
            sinks := system.tracer.sinks.modify next fun sink => (sink.emit record).1 },
        calls := system.calls.set number { call with point := .delivering record sinks (next + 1) },
        reports }
      issued where
  enabled := h.enabled
  size := by simp [h.size]
  serves := by
    apply h.serves_set
    simpa [Call.Serves, hpoint] using h.serves call (List.mem_of_getElem? hcall)
  seq := h.seq
  numbers := h.numbers
  subjects := h.subjects_set hcall (by simp [Call.waiting?, hpoint])
  held place sink hsink := by
    obtain ⟨others, hold, hnew⟩ := filterMap_set hcall (Call.due? place)
    have hnow := hnew { call with point := .delivering record sinks (next + 1) }
    simp only [Call.due?, hpoint] at hold hnow
    rw [List.getElem?_modify] at hsink
    by_cases hplace : next = place
    · subst hplace
      obtain ⟨before, hbefore, rfl⟩ := Option.map_eq_some_iff.mp (by simpa using hsink)
      obtain ⟨recorder, rfl, hlimit, hrecords⟩ := h.held next before hbefore
      simp only [Nat.le_refl, Nat.not_succ_le_self, if_true, if_false, Option.toList_some,
        Option.toList_none, List.singleton_append, List.nil_append] at hold hnow
      refine ⟨_, emit_unlimited hlimit record, hlimit, ?_⟩
      calc
        _ ~ recorder.records ++ [record] ++ others := hnow.append_left _
        _ ~ recorder.records ++ record :: others := by simp
        _ ~ recorder.records ++ system.due next := hold.symm.append_left _
        _ ~ issued := hrecords
    · obtain ⟨recorder, rfl, hlimit, hrecords⟩ := h.held place sink (by simpa [hplace] using hsink)
      have hstill : next + 1 ≤ place ↔ next ≤ place := by omega
      simp only [hstill] at hnow
      exact ⟨recorder, rfl, hlimit, ((hnow.trans hold.symm).append_left _).trans hrecords⟩

theorem move (h : Accounts places system issued) (hcall : system.calls[number]? = some call)
    (hmoves : Moves system.tracer call after point) (reports : List Report) :
    ∃ more, Accounts places
      { tracer := after, calls := system.calls.set number { call with point }, reports }
      (issued ++ more) := by
  have hserves := h.serves call (List.mem_of_getElem? hcall)
  cases hmoves with
  | list hpoint hcontent henabled =>
    refine ⟨[], ?_⟩
    rw [List.append_nil]
    apply h.stay hcall
    · exact h.size
    · simp [Call.waiting?, hpoint, hcontent]
    · simp [Call.due?, hpoint]
  | pass hpoint hquiet =>
    refine ⟨[], ?_⟩
    rw [List.append_nil]
    apply h.stay hcall
    · trivial
    · simp [Call.waiting?, hpoint, hquiet h.enabled]
    · simp [Call.due?, hpoint]
  | number hpoint => exact ⟨_, h.issue hcall hpoint reports⟩
  | deliver hpoint hnext => exact ⟨[], by simpa using h.deliver hcall hpoint reports⟩
  | @finish record sinks next hpoint hnext =>
    refine ⟨[], ?_⟩
    rw [List.append_nil]
    apply h.stay hcall
    · trivial
    · simp [Call.waiting?, hpoint]
    · intro place hplace
      have hsinks : sinks = places := by simpa [Call.Serves, hpoint] using hserves
      have hserved : ¬ next ≤ place := by omega
      simp [Call.due?, hpoint, hserved]

theorem act {action : System.Action} (h : Accounts places system issued)
    (hact : system.act? action = some next) : ∃ more, Accounts places next (issued ++ more) := by
  rcases System.act?_cases hact with ⟨content, rfl⟩ | ⟨clock, rfl⟩ |
    ⟨number, call, after, point, reports, hcall, hmoves, rfl⟩
  · exact ⟨[], by simpa using h.enter content⟩
  · exact ⟨[], by simpa using h.tick clock⟩
  · exact h.move hcall hmoves reports

theorem length_issued_le (h : Accounts places system issued) :
    issued.length ≤ system.asked.length := by
  have hlength := h.subjects.length_eq
  simp only [List.length_map, List.length_append] at hlength
  omega

theorem nodup_seq (h : Accounts places system issued) (few : issued.length ≤ UInt64.size) :
    (issued.map (·.seq)).Nodup := by
  rw [h.numbers]
  apply List.Nodup.map_on _ (List.nodup_range' 1)
  intro left hleft right hright heq
  have hmod := congrArg UInt64.toNat heq
  have hsize : UInt64.size = 2 ^ 64 := rfl
  simp only [List.mem_range'_1, UInt64.toNat_ofNat'] at hleft hright hmod
  omega

theorem exists_held (h : Accounts places system issued) {recorder : Recorder}
    (hrecorder : recorder ∈ system.tracer.recorders) :
    ∃ place < places, recorder.records ++ system.due place ~ issued := by
  obtain ⟨place, hplace⟩ := Tracer.sinks_of_mem_recorders hrecorder
  obtain ⟨_, heq, -, hrecords⟩ := h.held place _ hplace
  rw [← Sink.memory.inj heq] at hrecords
  exact ⟨place, h.size ▸ (List.getElem?_eq_some_iff.mp hplace).1, hrecords⟩

theorem length_recorders (h : Accounts places system issued) :
    system.tracer.recorders.length = places := by
  rw [← h.size]
  apply List.filterMap_length_eq_length.mpr
  intro sink hsink
  obtain ⟨place, hplace⟩ := List.mem_iff_getElem?.mp hsink
  obtain ⟨recorder, rfl, -⟩ := h.held place sink hplace
  rfl

end Accounts

namespace System

def Done (system : System) : Prop := ∀ call ∈ system.calls, call.point = .returned

theorem Done.waiting (done : system.Done) : system.waiting = [] := by
  apply List.filterMap_eq_nil_iff.mpr
  intro call hcall
  simp [Call.waiting?, done call hcall]

theorem Done.due (done : system.Done) (place : Nat) : system.due place = [] := by
  apply List.filterMap_eq_nil_iff.mpr
  intro call hcall
  simp [Call.due?, done call hcall]

theorem Reachable.accounts (reachable : Reachable tracer system) (henabled : tracer.enabled)
    (hseq : tracer.seq = 0)
    (hsinks : ∀ sink ∈ tracer.sinks, ∃ limit ≤ 0, sink = .memory { limit }) :
    ∃ issued, Accounts tracer.sinks.length system issued := by
  induction reachable with
  | initial => exact ⟨[], .initial henabled hseq hsinks⟩
  | act action _ hact ih =>
    obtain ⟨issued, haccounts⟩ := ih
    obtain ⟨more, hmore⟩ := haccounts.act hact
    exact ⟨issued ++ more, hmore⟩

/-- Nothing is lost and nothing comes twice, in whatever order the calls take their steps. Numbers
stay apart as long as there are fewer records than 64 bits can count. -/
theorem records_arrive_once (tracer : Tracer) (henabled : tracer.enabled) (hseq : tracer.seq = 0)
    (hsinks : ∀ sink ∈ tracer.sinks, ∃ limit ≤ 0, sink = .memory { limit })
    (system : System) (reachable : Reachable tracer system) :
    let count := system.asked.length
    system.tracer.recorders.length = tracer.sinks.length ∧
    (count ≤ UInt64.size → ∀ recorder ∈ system.tracer.recorders,
      (recorder.records.map (·.seq)).Nodup) ∧
    (system.Done → ∀ recorder ∈ system.tracer.recorders,
      recorder.records.length = count ∧
      recorder.records.map (·.seq) ~ (List.range' 1 count).map UInt64.ofNat ∧
      recorder.records.map subject ~ system.asked.map subject ∧
      ∀ other ∈ system.tracer.recorders, recorder.records ~ other.records) := by
  intro count
  obtain ⟨issued, haccounts⟩ := reachable.accounts henabled hseq hsinks
  refine ⟨haccounts.length_recorders, ?_, ?_⟩
  · intro hfew recorder hrecorder
    obtain ⟨place, -, hrecords⟩ := haccounts.exists_held hrecorder
    have hnodup := haccounts.nodup_seq (haccounts.length_issued_le.trans hfew)
    have hall := ((hrecords.map (·.seq)).nodup_iff).mpr hnodup
    rw [List.map_append] at hall
    exact hall.of_append_left
  · intro hdone recorder hrecorder
    have hcomplete : ∀ recorder ∈ system.tracer.recorders, recorder.records ~ issued := by
      intro recorder hrecorder
      obtain ⟨place, -, hrecords⟩ := haccounts.exists_held hrecorder
      simpa [hdone.due place] using hrecords
    have hsubjects : issued.map subject ~ system.asked.map subject := by
      simpa [hdone.waiting] using haccounts.subjects
    have hcount : issued.length = count := by simpa using hsubjects.length_eq
    have hrecords := hcomplete recorder hrecorder
    refine ⟨hrecords.length_eq.trans hcount, ?_, (hrecords.map subject).trans hsubjects, ?_⟩
    · rw [← hcount, ← haccounts.numbers]
      exact hrecords.map (·.seq)
    · intro other hother
      exact hrecords.trans (hcomplete other hother).symm

def follow? (system : System) : List Action → Option System
  | [] => some system
  | action :: rest => (system.act? action).bind fun next => next.follow? rest

theorem Reachable.follow? (reachable : Reachable tracer system) (actions : List Action)
    {last : System} (h : system.follow? actions = some last) : Reachable tracer last := by
  induction actions generalizing system with
  | nil => exact Option.some.inj h ▸ reachable
  | cons action rest ih =>
    obtain ⟨next, hact, hrest⟩ := Option.bind_eq_some_iff.mp h
    exact ih (reachable.act action hact) hrest

def overtaking : System :=
  let first : Record := { seq := 1, op := "a", message := "m" }
  let second : Record := { seq := 2, op := "b", widget := some {}, time := fakeClockStart }
  { tracer :=
      { seq := 2
        clock := fakeClockStart
        sinks := [.memory { records := [second, first] }, .memory { records := [first, second] }] }
    calls :=
      [{ content := some { op := "a", message := "m" }, point := .returned },
        { content := some { op := "b", widget := some {} }, point := .returned },
        { content := none, point := .returned }] }

theorem overtaking_reachable :
    Reachable { sinks := [.memory {}, .memory {}] } overtaking :=
  Reachable.initial.follow?
    [.message "a" "m", .widget "b" (some {}), .step 1, .step 0, .step 0, .tick fakeClockStart,
      .step 1, .step 1, .widget "c" none, .step 0, .step 0, .step 0, .step 2, .step 1, .step 1] rfl

theorem records_arrive_once_overtaking :
    overtaking.Done ∧ overtaking.asked.length = 2 ∧
      overtaking.tracer.recorders.map (fun recorder => recorder.records.map (·.seq)) =
        [[2, 1], [1, 2]] ∧
      ∀ recorder ∈ overtaking.tracer.recorders,
        recorder.records.length = 2 ∧
        recorder.records.map (·.seq) ~ (List.range' 1 2).map UInt64.ofNat ∧
        recorder.records.map subject ~ overtaking.asked.map subject ∧
        ∀ other ∈ overtaking.tracer.recorders, recorder.records ~ other.records := by
  have hdone : overtaking.Done := by simp [Done, overtaking]
  have hsinks : ∀ sink ∈ [Sink.memory {}, Sink.memory {}],
      ∃ limit ≤ 0, sink = .memory { limit } := by
    intro sink hsink
    refine ⟨0, le_rfl, ?_⟩
    simpa using hsink
  have h := records_arrive_once _ rfl rfl hsinks overtaking overtaking_reachable
  exact ⟨hdone, rfl, rfl, h.2.2 hdone⟩

end System

end HeadlessDesktop.Trace.Emission

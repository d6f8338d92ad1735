import HeadlessDesktop.Proofs.FaithfulTrace
import HeadlessDesktop.Proofs.FramedStream
import Mathlib.Data.List.DropRight

/-! What a tracer hands on and what its recorders keep of it. The records that are emitted follow
from what callers ask for and set; every sink receives them in order from the moment of its
attachment, and a recorder holds the last of those that came since it was last empty. -/
namespace HeadlessDesktop

open Text (Raw)
open Trace Time

namespace Trace

def Sink.limit? (sink : Sink) : Option Int := sink.recorder?.map (·.limit)

theorem Sink.limit?_emit (sink : Sink) (record : Record) :
    (sink.emit record).1.limit? = sink.limit? := by
  unfold emit
  split
  · rfl
  · split <;> rfl
  · rfl

@[simp] theorem Sink.limit?_emitAll (sink : Sink) (records : List Record) :
    (sink.emitAll records).1.limit? = sink.limit? := by
  induction records generalizing sink with
  | nil => rfl
  | cons record rest ih => exact (ih _).trans (sink.limit?_emit record)

@[simp] theorem Sink.limit?_reset (sink : Sink) : sink.reset.limit? = sink.limit? := by
  cases sink <;> rfl

theorem Sink.reset_of_limit? {sink : Sink} {limit : Int} (h : sink.limit? = some limit) :
    sink.reset = .memory { limit } := by
  cases sink with
  | memory recorder =>
    obtain rfl := Option.some.inj h
    rfl
  | _ => contradiction

theorem Sink.reset_of_limit?_none {sink : Sink} (h : sink.limit? = none) : sink.reset = sink := by
  cases sink with
  | memory recorder => contradiction
  | _ => rfl

theorem Sink.eq_of_limit? {sink : Sink} {limit : Int} (h : sink.limit? = some limit)
    (fresh : ∀ recorder, sink = .memory recorder → recorder.records = []) :
    sink = .memory { limit } := by
  cases sink with
  | memory recorder =>
    obtain rfl := Option.some.inj h
    have hempty := fresh recorder rfl
    cases recorder
    simp_all
  | _ => contradiction

namespace Recorder

theorem latest_suffix (limit : Int) (records : List Record) : latest limit records <:+ records := by
  unfold latest
  split
  · exact List.drop_suffix _ _
  · exact List.suffix_rfl

theorem latest_append (limit : Int) (kept more : List Record) :
    latest limit (latest limit kept ++ more) = latest limit (kept ++ more) := by
  unfold latest
  split
  · rw [← List.drop_append_of_le_length (Nat.sub_le _ _), List.drop_drop]
    congr 1
    simp only [List.length_drop, List.length_append]
    omega
  · rfl

theorem emitAll_memory (limit : Int) (kept more : List Record) :
    ((Sink.memory { limit, records := latest limit kept }).emitAll more).1 =
      .memory { limit, records := latest limit (kept ++ more) } := by
  induction more generalizing kept with
  | nil => simp [Sink.emitAll]
  | cons record rest ih =>
    change ((Sink.memory { limit, records := latest limit (latest limit kept ++ [record]) }).emitAll
      rest).1 = _
    rw [latest_append, ih, List.append_assoc, List.singleton_append]

end Recorder

end Trace

namespace Tracer

/-- What callers do to a tracer, and to a recorder at its place among the sinks. A clock that runs
is set again for each record. -/
inductive Action
  | message (op text : Raw)
  | widget (op : Raw) (shown : Option Widget)
  | setEnabled (on : Bool)
  | setClock (clock : Instant)
  | addSink (sink : Option Sink)
  | reset (place : Nat)

namespace Action

def content? : Action → Option Record
  | .message op text => some { op, message := text }
  | .widget op (some shown) => some { op, widget := some shown }
  | _ => none

def attaches : Action → Bool
  | .addSink (some _) => true
  | _ => false

theorem exists_of_attaches {action : Action} (h : action.attaches) :
    ∃ sink, action = .addSink (some sink) := by
  unfold attaches at h
  split at h
  · exact ⟨_, rfl⟩
  · contradiction

end Action

def act (tracer : Tracer) : Action → Tracer
  | .message op text => (tracer.message op text).1
  | .widget op shown => (tracer.widget op shown).1
  | .setEnabled on => tracer.setEnabled on
  | .setClock clock => tracer.setClock clock
  | .addSink sink => tracer.addSink sink
  | .reset place => { tracer with sinks := tracer.sinks.modify place Sink.reset }

def actAll (tracer : Tracer) (actions : List Action) : Tracer := actions.foldl act tracer

@[simp] theorem actAll_cons (tracer : Tracer) (action : Action) (rest : List Action) :
    tracer.actAll (action :: rest) = (tracer.act action).actAll rest := rfl

theorem actAll_append (tracer : Tracer) (first second : List Action) :
    tracer.actAll (first ++ second) = (tracer.actAll first).actAll second :=
  List.foldl_append

/-! ### What is emitted -/

/-- What callers have set, and how many records were emitted. -/
structure Standing where
  enabled : Bool
  clock : Instant
  count : Nat := 0

namespace Standing

def stamp? (standing : Standing) (content : Record) : Option Record :=
  if standing.enabled then
    some { content with seq := UInt64.ofNat (standing.count + 1), time := standing.clock }
  else none

def record? (standing : Standing) (action : Action) : Option Record :=
  action.content?.bind standing.stamp?

def next (standing : Standing) (action : Action) : Standing :=
  match action with
  | .setEnabled on => { standing with enabled := on }
  | .setClock clock => { standing with clock }
  | action => { standing with count := standing.count + (standing.record? action).toList.length }

def after (standing : Standing) (actions : List Action) : Standing := actions.foldl next standing

def emitted (standing : Standing) : List Action → List Record
  | [] => []
  | action :: rest => (standing.record? action).toList ++ (standing.next action).emitted rest

theorem emitted_append (standing : Standing) (first second : List Action) :
    standing.emitted (first ++ second) =
      standing.emitted first ++ (standing.after first).emitted second := by
  induction first generalizing standing with
  | nil => rfl
  | cons action rest ih => simp [emitted, after, ih]

theorem count_next (standing : Standing) (action : Action) :
    (standing.next action).count =
      standing.count + (standing.record? action).toList.length := by
  cases action <;> rfl

theorem count_after (standing : Standing) (actions : List Action) :
    (standing.after actions).count = standing.count + (standing.emitted actions).length := by
  induction actions generalizing standing with
  | nil => rfl
  | cons action rest ih =>
    change ((standing.next action).after rest).count = _
    rw [ih, count_next, emitted, List.length_append]
    omega

theorem map_seq_emitted (standing : Standing) (actions : List Action) :
    (standing.emitted actions).map (·.seq) =
      (List.range' (standing.count + 1) (standing.emitted actions).length).map UInt64.ofNat := by
  induction actions generalizing standing with
  | nil => rfl
  | cons action rest ih =>
    have hcount := standing.count_next action
    cases hrecord : standing.record? action with
    | none =>
      rw [hrecord] at hcount
      have hsame : (standing.next action).count = standing.count := hcount
      simp [emitted, hrecord, ih, hsame]
    | some record =>
      rw [hrecord] at hcount
      have hmore : (standing.next action).count = standing.count + 1 := hcount
      have hseq : record.seq = UInt64.ofNat (standing.count + 1) := by
        obtain ⟨content, -, hstamped⟩ := Option.bind_eq_some_iff.mp hrecord
        unfold stamp? at hstamped
        split at hstamped
        · rw [← Option.some.inj hstamped]
        · contradiction
      simp [emitted, hrecord, ih, hmore, hseq, List.range'_succ]

theorem map_toNat_emitted (standing : Standing) (actions : List Action)
    (few : standing.count + (standing.emitted actions).length < UInt64.size) :
    (standing.emitted actions).map (·.seq.toNat) =
      List.range' (standing.count + 1) (standing.emitted actions).length := by
  have hseq := congrArg (List.map UInt64.toNat) (standing.map_seq_emitted actions)
  rw [List.map_map, List.map_map] at hseq
  refine hseq.trans ?_
  conv_rhs => rw [← List.map_id (List.range' _ _)]
  apply List.map_congr_left
  intro number hnumber
  have hbound := List.mem_range'_1.mp hnumber
  exact UInt64.toNat_ofNat_of_lt (by omega)

end Standing

def Numbered (records : List Record) : Prop :=
  records.map (·.seq.toNat) = List.range' 1 records.length

namespace Numbered

variable {records : List Record}

theorem seq_of_getElem? (h : Numbered records) {number : Nat} {record : Record}
    (hrecord : records[number]? = some record) : record.seq.toNat = number + 1 := by
  have hnumber := congrArg (·[number]?) h
  have hlt := (List.getElem?_eq_some_iff.mp hrecord).1
  simp only [List.getElem?_map, hrecord, List.getElem?_range' hlt, Option.map_some,
    Option.some.injEq] at hnumber
  omega

theorem consecutive_of_suffix (h : Numbered records) {last : List Record}
    (hlast : last <:+ records) :
    ∃ first, last.map (·.seq.toNat) = List.range' first last.length := by
  refine ⟨1 + (records.length - last.length), ?_⟩
  have hle := hlast.length_le
  rw [List.suffix_iff_eq_drop.mp hlast, List.map_drop, h, List.drop_range', List.length_drop]
  congr 1
  omega

end Numbered

/-! ### What a tracer does -/

structure Stands (tracer : Tracer) (standing : Standing) : Prop where
  enabled : tracer.enabled = standing.enabled
  clock : tracer.clock = standing.clock
  seq : tracer.seq = UInt64.ofNat standing.count

variable {tracer : Tracer} {standing : Standing} {action : Action} {actions : List Action}

theorem act_of_content? {content : Record} (h : action.content? = some content) :
    tracer.act action = (tracer.emit content).1 := by
  unfold Action.content? at h
  split at h
  · rw [← Option.some.inj h]
    rfl
  · rw [← Option.some.inj h]
    rfl
  · contradiction

theorem Stands.emit (h : tracer.Stands standing) (content : Record) :
    let records := (standing.stamp? content).toList
    (tracer.emit content).1 = { tracer with
      seq := UInt64.ofNat (standing.count + records.length)
      sinks := tracer.sinks.map fun sink => (sink.emitAll records).1 } := by
  unfold Tracer.emit Standing.stamp? stamp
  rw [← h.enabled, ← h.clock, h.seq]
  split
  · simp [Sink.emitAll]
  · simp [Sink.emitAll, ← h.seq]

theorem Stands.act (h : tracer.Stands standing) (action : Action) :
    (tracer.act action).Stands (standing.next action) := by
  have hkept : tracer.Stands { standing with count := standing.count + 0 } := h
  cases hcontent : action.content? with
  | some content =>
    have hnext : standing.next action = { standing with
        count := standing.count + (standing.stamp? content).toList.length } := by
      cases action with
      | message | widget => simp [Standing.next, Standing.record?, hcontent]
      | _ => contradiction
    rw [act_of_content? hcontent, h.emit, hnext]
    exact ⟨h.enabled, h.clock, rfl⟩
  | none =>
    cases action with
    | message op text => contradiction
    | widget op shown =>
      cases shown with
      | some shown => contradiction
      | none => exact hkept
    | setEnabled on => exact ⟨rfl, h.clock, h.seq⟩
    | setClock clock => exact ⟨h.enabled, rfl, h.seq⟩
    | addSink sink => exact ⟨h.enabled, h.clock, h.seq⟩
    | reset place => exact ⟨h.enabled, h.clock, h.seq⟩

theorem Stands.actAll (h : tracer.Stands standing) (actions : List Action) :
    (tracer.actAll actions).Stands (standing.after actions) := by
  induction actions generalizing tracer standing with
  | nil => exact h
  | cons action rest ih => exact ih (h.act action)

/-! ### What one sink receives -/

variable {place : Nat} {sink : Sink}

theorem sinks_act_reset (hsink : tracer.sinks[place]? = some sink) :
    (tracer.act (.reset place)).sinks[place]? = some sink.reset := by
  change (tracer.sinks.modify place Sink.reset)[place]? = _
  simp [hsink]

theorem Stands.sinks_act (h : tracer.Stands standing) (hsink : tracer.sinks[place]? = some sink)
    (hkept : action = .reset place → sink.limit? = none) :
    (tracer.act action).sinks[place]? =
      some (sink.emitAll (standing.record? action).toList).1 := by
  cases hcontent : action.content? with
  | some content =>
    rw [act_of_content? hcontent, h.emit]
    simp [Standing.record?, hcontent, hsink]
  | none =>
    have hquiet : standing.record? action = none := by simp [Standing.record?, hcontent]
    rw [hquiet]
    change _ = some sink
    cases action with
    | message op text => contradiction
    | widget op shown =>
      cases shown with
      | some shown => contradiction
      | none => exact hsink
    | setEnabled on => exact hsink
    | setClock clock => exact hsink
    | addSink added =>
      change (tracer.sinks ++ added.toList)[place]? = some sink
      rw [List.getElem?_append_left (List.getElem?_eq_some_iff.mp hsink).1, hsink]
    | reset other =>
      by_cases hother : other = place
      · subst hother
        rw [sinks_act_reset hsink, Sink.reset_of_limit?_none (hkept rfl)]
      · change (tracer.sinks.modify other Sink.reset)[place]? = some sink
        simp [hother, hsink]

theorem Stands.sinks_actAll (h : tracer.Stands standing)
    (hsink : tracer.sinks[place]? = some sink)
    (hkept : ∀ action ∈ actions, action = .reset place → sink.limit? = none) :
    (tracer.actAll actions).sinks[place]? = some (sink.emitAll (standing.emitted actions)).1 := by
  induction actions generalizing tracer standing sink with
  | nil => exact hsink
  | cons action rest ih =>
    have hfirst := h.sinks_act hsink (hkept action List.mem_cons_self)
    rw [actAll_cons, ih (h.act action) hfirst, Standing.emitted, Sink.emitAll_append]
    intro other hother hreset
    rw [Sink.limit?_emitAll]
    exact hkept other (List.mem_cons_of_mem _ hother) hreset

theorem length_sinks_act (tracer : Tracer) (action : Action) :
    (tracer.act action).sinks.length =
      tracer.sinks.length + if action.attaches then 1 else 0 := by
  have hemit (content : Record) : (tracer.emit content).1.sinks.length = tracer.sinks.length := by
    unfold emit
    split <;> simp
  cases action with
  | message op text => exact hemit _
  | widget op shown =>
    cases shown with
    | some shown => exact hemit _
    | none => rfl
  | setEnabled on => rfl
  | setClock clock => rfl
  | addSink added => cases added <;> simp [act, addSink, Action.attaches]
  | reset place => simp [act, Action.attaches]

theorem length_sinks_actAll (tracer : Tracer) (actions : List Action) :
    (tracer.actAll actions).sinks.length =
      tracer.sinks.length + actions.countP Action.attaches := by
  induction actions generalizing tracer with
  | nil => rfl
  | cons action rest ih =>
    rw [actAll_cons, ih, length_sinks_act, List.countP_cons]
    omega

/-! ### Recorders -/

/-- A sink was given to the tracer at its start, or attached by the last of some actions. -/
inductive Attached (sinks : List Sink) (sink : Sink) : Nat → List Action → Prop
  | given {place : Nat} (h : sinks[place]? = some sink) : Attached sinks sink place []
  | added (before : List Action) :
    Attached sinks sink (sinks.length + before.countP Action.attaches)
      (before ++ [.addSink (some sink)])

/-- A recorder was attached or reset by the last of some actions. -/
inductive Emptied (sinks : List Sink) (limit : Int) (place : Nat) : List Action → Prop
  | attached {before : List Action} (h : Attached sinks (.memory { limit }) place before) :
    Emptied sinks limit place before
  | reset {before : List Action} (h : Emptied sinks limit place before) (between : List Action) :
    Emptied sinks limit place (before ++ between ++ [.reset place])

variable {before : List Action} {limit : Int}

theorem Attached.sinks (h : Attached tracer.sinks sink place before) :
    (tracer.actAll before).sinks[place]? = some sink := by
  cases h with
  | given h => exact h
  | added before =>
    rw [actAll_append, ← tracer.length_sinks_actAll before]
    change ((tracer.actAll before).sinks ++ [sink])[_]? = some sink
    simp

theorem Stands.limit?_act (h : tracer.Stands standing) (hsink : tracer.sinks[place]? = some sink)
    (action : Action) :
    ∃ later, (tracer.act action).sinks[place]? = some later ∧ later.limit? = sink.limit? := by
  by_cases hreset : action = .reset place
  · subst hreset
    exact ⟨sink.reset, sinks_act_reset hsink, sink.limit?_reset⟩
  · have hnext := h.sinks_act hsink fun heq => absurd heq hreset
    exact ⟨_, hnext, sink.limit?_emitAll _⟩

theorem Stands.limit?_actAll (h : tracer.Stands standing)
    (hsink : tracer.sinks[place]? = some sink) (actions : List Action) :
    ∃ later, (tracer.actAll actions).sinks[place]? = some later ∧ later.limit? = sink.limit? := by
  induction actions generalizing tracer standing sink with
  | nil => exact ⟨sink, hsink, rfl⟩
  | cons action rest ih =>
    obtain ⟨next, hnext, hlimit⟩ := h.limit?_act hsink action
    obtain ⟨later, hlater, hkept⟩ := ih (h.act action) hnext
    exact ⟨later, hlater, hkept.trans hlimit⟩

theorem Emptied.sinks (h : Emptied tracer.sinks limit place before)
    (hstands : tracer.Stands standing) :
    (tracer.actAll before).sinks[place]? = some (.memory { limit }) := by
  induction h with
  | attached h => exact h.sinks
  | @reset before h between ih =>
    obtain ⟨later, hlater, hlimit⟩ := (hstands.actAll before).limit?_actAll ih between
    rw [actAll_append, actAll_append]
    change ((Tracer.actAll _ between).act (.reset place)).sinks[place]? = _
    rw [sinks_act_reset hlater, Sink.reset_of_limit? hlimit]

/-- From the last time that it was empty a recorder holds the latest records. -/
theorem Emptied.sinks_actAll (h : Emptied tracer.sinks limit place before)
    (hstands : tracer.Stands standing) {after : List Action}
    (hkept : ∀ action ∈ after, action ≠ .reset place) :
    (tracer.actAll (before ++ after)).sinks[place]? = some (.memory
      { limit, records := Recorder.latest limit ((standing.after before).emitted after) }) := by
  have hempty : Recorder.latest limit [] = [] := List.suffix_nil.mp (Recorder.latest_suffix _ _)
  have hrun := (hstands.actAll before).sinks_actAll (h.sinks hstands) fun action haction heq =>
    absurd heq (hkept action haction)
  rw [actAll_append, hrun]
  have hlatest := Recorder.emitAll_memory limit [] ((standing.after before).emitted after)
  rw [hempty] at hlatest
  rw [hlatest, List.nil_append]

theorem Stands.exists_emptied (h : tracer.Stands standing)
    (fresh : ∀ recorder, .memory recorder ∈ tracer.sinks ∨
      .addSink (some (.memory recorder)) ∈ actions → recorder.records = [])
    (hsink : (tracer.actAll actions).sinks[place]? = some sink)
    (hlimit : sink.limit? = some limit) :
    ∃ before after, actions = before ++ after ∧ Emptied tracer.sinks limit place before ∧
      ∀ action ∈ after, action ≠ .reset place := by
  induction actions using List.reverseRecOn generalizing sink with
  | nil =>
    have hnew : sink = .memory { limit } := by
      apply Sink.eq_of_limit? hlimit
      rintro recorder rfl
      exact fresh recorder (.inl (List.mem_of_getElem? hsink))
    subst hnew
    exact ⟨[], [], rfl, .attached (.given hsink), by simp⟩
  | append_singleton rest action ih =>
    rw [actAll_append] at hsink
    change ((tracer.actAll rest).act action).sinks[place]? = some sink at hsink
    cases hold : (tracer.actAll rest).sinks[place]? with
    | some old =>
      obtain ⟨later, hlater, hsame⟩ := (h.actAll rest).limit?_act hold action
      obtain rfl : later = sink := Option.some.inj (hlater.symm.trans hsink)
      have hfresh : ∀ recorder, .memory recorder ∈ tracer.sinks ∨
          .addSink (some (.memory recorder)) ∈ rest → recorder.records = [] :=
        fun recorder hmem => fresh recorder (hmem.imp_right (List.mem_append_left _))
      obtain ⟨before, after, rfl, hemptied, hkept⟩ := ih hfresh hold (hsame.symm.trans hlimit)
      by_cases hreset : action = .reset place
      · subst hreset
        exact ⟨_, [], by simp, hemptied.reset after, by simp⟩
      · refine ⟨before, after ++ [action], by simp, hemptied, ?_⟩
        intro other hother
        rcases List.mem_append.mp hother with hearlier | hlast
        · exact hkept other hearlier
        · rwa [List.mem_singleton.mp hlast]
    | none =>
      -- A place that was not there before is the one of the sink that is added.
      have hbehind := List.getElem?_eq_none_iff.mp hold
      have hwithin := (List.getElem?_eq_some_iff.mp hsink).1
      rw [length_sinks_act] at hwithin
      have hattaches : action.attaches := by
        by_contra hnone
        rw [if_neg hnone] at hwithin
        omega
      obtain ⟨added, rfl⟩ := Action.exists_of_attaches hattaches
      rw [if_pos hattaches] at hwithin
      obtain rfl : place = (tracer.actAll rest).sinks.length := by omega
      change ((tracer.actAll rest).sinks ++ [added])[_]? = some sink at hsink
      obtain rfl : added = sink := by simpa using hsink
      have hnew : added = .memory { limit } := by
        apply Sink.eq_of_limit? hlimit
        rintro recorder rfl
        exact fresh recorder (.inr (by simp))
      subst hnew
      rw [length_sinks_actAll]
      exact ⟨_, [], by simp, .attached (.added rest), by simp⟩

theorem Stands.records_suffix (h : tracer.Stands standing)
    (fresh : ∀ recorder, .memory recorder ∈ tracer.sinks ∨
      .addSink (some (.memory recorder)) ∈ actions → recorder.records = [])
    {recorder : Recorder}
    (hsink : (tracer.actAll actions).sinks[place]? = some (.memory recorder)) :
    recorder.records <:+ standing.emitted actions := by
  obtain ⟨before, after, rfl, hemptied, hkept⟩ := h.exists_emptied fresh hsink rfl
  have hheld := hemptied.sinks_actAll h hkept
  have hrecorder := Sink.memory.inj (Option.some.inj (hsink.symm.trans hheld))
  rw [congrArg Recorder.records hrecorder, Standing.emitted_append]
  exact (Recorder.latest_suffix _ _).trans (List.suffix_append _ _)

theorem sinks_of_mem_recorders {recorder : Recorder} (h : recorder ∈ tracer.recorders) :
    ∃ place : Nat, tracer.sinks[place]? = some (.memory recorder) := by
  obtain ⟨sink, hsink, hrecorded⟩ := List.mem_filterMap.mp h
  obtain rfl : sink = .memory recorder := by
    cases sink with
    | memory held => rw [Option.some.inj hrecorded]
    | _ => contradiction
  exact List.mem_iff_getElem?.mp hsink

/-- Recorders that are new when they are attached hold the latest records, which every sink
receives under the same numbers. -/
theorem recorders_hold_latest (enabled : Bool) (clock : Instant) (sinks : List Sink)
    (actions : List Action)
    (fresh : ∀ recorder, .memory recorder ∈ sinks ∨
      .addSink (some (.memory recorder)) ∈ actions → recorder.records = [])
    (few : (Standing.emitted { enabled, clock } actions).length < UInt64.size) :
    let standing : Standing := { enabled, clock }
    let all := standing.emitted actions
    let final := ({ enabled, clock, sinks } : Tracer).actAll actions
    (final.seq.toNat = all.length ∧
      ∀ number record, all[number]? = some record → record.seq.toNat = number + 1) ∧
    (∀ place sink before after, actions = before ++ after → Attached sinks sink place before →
      sink.recorder? = none →
      final.sinks[place]? =
        some (sink.emitAll (all.drop (standing.emitted before).length)).1) ∧
    (∀ place limit before after, actions = before ++ after → Emptied sinks limit place before →
      (∀ action ∈ after, action ≠ .reset place) →
      let since := all.drop (standing.emitted before).length
      final.sinks[place]? = some (.memory
        { limit, records := if 0 < limit then since.rtake limit.toNat else since })) ∧
    (∀ place recorder, final.sinks[place]? = some (.memory recorder) →
      (∃ before after, actions = before ++ after ∧ Emptied sinks recorder.limit place before ∧
        ∀ action ∈ after, action ≠ .reset place) ∧
      ∃ first, recorder.records.map (·.seq.toNat) =
        List.range' first recorder.records.length) ∧
    ∀ one ∈ final.recorders, ∀ other ∈ final.recorders,
      one.records <:+ other.records ∨ other.records <:+ one.records := by
  intro standing all final
  let start : Tracer := { enabled, clock, sinks }
  have hstart : start.Stands standing := ⟨rfl, rfl, rfl⟩
  have hnumbered : Numbered all :=
    standing.map_toNat_emitted actions (by simpa [standing] using few)
  have hsince {before after : List Action} (hactions : actions = before ++ after) :
      all.drop (standing.emitted before).length = (standing.after before).emitted after := by
    change (standing.emitted actions).drop _ = _
    rw [hactions, Standing.emitted_append, List.drop_left]
  refine ⟨⟨?_, ?_⟩, ?_, ?_, ?_, ?_⟩
  · have hcount : (standing.after actions).count = all.length := by
      rw [Standing.count_after, Nat.zero_add]
    rw [(hstart.actAll actions).seq, hcount]
    exact UInt64.toNat_ofNat_of_lt few
  · intro number record hrecord
    exact hnumbered.seq_of_getElem? hrecord
  · intro place sink before after hactions hattached hstream
    have hkept : sink.limit? = none := by simp [Sink.limit?, hstream]
    rw [hsince hactions]
    change (start.actAll actions).sinks[place]? = _
    rw [hactions, actAll_append]
    exact (hstart.actAll before).sinks_actAll hattached.sinks fun _ _ _ => hkept
  · intro place limit before after hactions hemptied hkept since
    change (start.actAll actions).sinks[place]? = _
    rw [show since = _ from hsince hactions, hactions]
    exact hemptied.sinks_actAll hstart hkept
  · intro place recorder hsink
    have hsuffix : recorder.records <:+ all := hstart.records_suffix fresh hsink
    exact ⟨hstart.exists_emptied fresh hsink rfl, hnumbered.consecutive_of_suffix hsuffix⟩
  · intro one hone other hother
    have hend {recorder : Recorder} (hrecorder : recorder ∈ final.recorders) :
        recorder.records <:+ all := by
      obtain ⟨place, hplace⟩ := sinks_of_mem_recorders hrecorder
      exact hstart.records_suffix fresh hplace
    exact List.suffix_or_suffix_of_suffix (hend hone) (hend hother)

theorem recorders_hold_latest_mixed :
    let sinks : List Sink := [.memory { limit := 2 }]
    let first : List Action := [.message "a" "", .reset 0]
    let second : List Action := [.message "b" "", .addSink (some (.memory {}))]
    let third : List Action :=
      [.setEnabled false, .message "lost" "", .setEnabled true, .widget "none" none,
        .widget "c" (some {}), .message "d" "", .message "e" ""]
    let actions := first ++ second ++ third
    let all := Standing.emitted { enabled := true, clock := .zero } actions
    let final := ({ sinks } : Tracer).actAll actions
    (∀ recorder, .memory recorder ∈ sinks ∨
      .addSink (some (.memory recorder)) ∈ actions → recorder.records = []) ∧
    all.length < UInt64.size ∧
    all.map (fun record => (record.seq, record.op)) =
      [(1, .text "a"), (2, .text "b"), (3, .text "c"), (4, .text "d"), (5, .text "e")] ∧
    final.sinks[0]? = some (.memory { limit := 2, records := (all.drop 1).rtake 2 }) ∧
    final.sinks[1]? = some (.memory { records := all.drop 2 }) := by
  intro sinks first second third actions all final
  have hfresh : ∀ recorder, .memory recorder ∈ sinks ∨
      .addSink (some (.memory recorder)) ∈ actions → recorder.records = [] := by
    rintro recorder (hgiven | hadded)
    · rw [Sink.memory.inj (List.mem_singleton.mp hgiven)]
    · have hrecorder : recorder = {} := by
        simpa [actions, first, second, third] using hadded
      rw [hrecorder]
  have hfew : all.length < UInt64.size := by decide
  obtain ⟨-, -, hheld, -⟩ := recorders_hold_latest true .zero sinks actions hfresh hfew
  have hreset : Emptied sinks 2 0 ([] ++ [.message "a" ""] ++ [.reset 0]) :=
    .reset (.attached (.given rfl)) [.message "a" ""]
  have hadded : Emptied sinks 0 1 (first ++ second) :=
    .attached (.added (first ++ [.message "b" ""]))
  have hlimited := hheld 0 2 first (second ++ third) rfl hreset (by simp [second, third])
  have hunlimited := hheld 1 0 (first ++ second) third rfl hadded (by simp [third])
  exact ⟨hfresh, hfew, by decide +kernel, hlimited, hunlimited⟩

end Tracer

end HeadlessDesktop

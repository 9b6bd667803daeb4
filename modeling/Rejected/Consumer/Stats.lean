import Rejected.Consumer.Lifecycle

/-!
# Measurements over a run

`execute` points `_measurement` at the measurement it is handed, and nothing points it
anywhere else: `_clear` leaves it. The stats methods test only that it is set, so a
call made from outside any execution, between two messages or after the last one,
writes to the measurement of the last message executed, which its caller has already
handed off. The end of a `stats_track_duration` context is such a call, made with the
measurement current at the end; its start only reads the clock.
-/
namespace Rejected

/-- What a consumer does next: execute a message, or run one of the stats methods from
outside any execution. `trackDuration` is the end of a `stats_track_duration` context
entered at `startTime`. -/
inductive Event where
  | execute (m : Message) (i : Nat) (clock : Clock) (hooks : Hooks)
  | addDuration (key : String) (duration : ℚ)
  | incr (key : String) (value : Int)
  | setTag (key : String) (value : StatValue)
  | setValue (key : String) (value : StatValue)
  | trackDuration (key : String) (startTime now : ℚ)

/-- The measurement an event hands to the consumer. -/
def Event.measurement? : Event → Option Nat
  | .execute _ i _ _ => some i
  | _ => none

/-- The measurement of the last execution of a run. -/
def lastMeasurement : List Event → Option Nat
  | [] => none
  | e :: es => (lastMeasurement es).or e.measurement?

namespace State

/-- One event. -/
def step (cfg : Settings) (s : State) : Event → State
  | .execute m i clock hooks => (s.execute cfg m i clock hooks).1
  | .addDuration key duration => s.statsAddDuration key duration
  | .incr key value => s.statsIncr key value
  | .setTag key value => s.statsSetTag key value
  | .setValue key value => s.statsSetValue key value
  | .trackDuration key startTime now => s.statsTrackDuration key startTime now

/-- The consumer after a run of events. -/
def runEvents (s : State) (cfg : Settings) (es : List Event) : State := es.foldl (step cfg) s

@[simp] theorem catchEnding_measurement (s : State) (cfg m i) (r : Ending) :
    (s.catchEnding cfg m i r).1.measurement = s.measurement := by
  unfold catchEnding; split
  · rfl
  · split <;> simp

theorem processHooks_measurement (s : State) (cfg m i) (hooks : Hooks) :
    (s.processHooks cfg m i hooks).1.measurement = s.measurement := by
  simp [processHooks, finishUp_inv State.measurement (fun _ => rfl)]

theorem execute_measurement (s : State) (cfg m i clock hooks) :
    (s.execute cfg m i clock hooks).1.measurement = some i := by
  unfold execute; dsimp only
  split
  · exact begin_measurement s cfg m i clock
  · rw [afterBegin_inv State.measurement (fun _ _ => rfl) (processHooks_measurement · cfg m i hooks),
      begin_measurement]

theorem step_measurement (cfg : Settings) (s : State) (e : Event) :
    (s.step cfg e).measurement = e.measurement?.or s.measurement := by
  cases e <;> simp [step, Event.measurement?, execute_measurement, statsAddDuration, statsIncr,
    statsSetTag, statsSetValue, statsTrackDuration]

/-- Over every run the consumer points at the measurement of the last message it
executed. -/
theorem runEvents_measurement (s : State) (cfg : Settings) (es : List Event) :
    (s.runEvents cfg es).measurement = (lastMeasurement es).or s.measurement := by
  induction es generalizing s with
  | nil => rfl
  | cons e es ih =>
      rw [runEvents, List.foldl_cons, ← runEvents, ih, step_measurement, lastMeasurement,
        Option.or_assoc]

/-- `t` is `s` with updates made to the measurement `i` only. -/
def WritesTo (i : Nat) (s t : State) : Prop :=
  ∃ us : List Update, t.updates = s.updates ++ us.map (i, ·)

namespace WritesTo

variable {i : Nat} {s t u : State}

theorem of_eq (h : t.updates = s.updates) : WritesTo i s t := ⟨[], by simp [h]⟩

theorem trans (h1 : WritesTo i s t) (h2 : WritesTo i t u) : WritesTo i s u := by
  obtain ⟨us, h1⟩ := h1
  obtain ⟨vs, h2⟩ := h2
  exact ⟨us ++ vs, by simp [h2, h1]⟩

theorem record (s : State) (i : Nat) (u : Update) : WritesTo i s (s.record i u) := ⟨[u], rfl⟩

theorem stat (h : s.measurement = some i) (v : Update) : WritesTo i s (s.stat v) := by
  rw [stat_of_some h]; exact record s i v

theorem foldl_stat (h : s.measurement = some i) (vs : List Update) :
    WritesTo i s (vs.foldl State.stat s) := by
  induction vs generalizing s with
  | nil => exact of_eq rfl
  | cons v vs ih => exact (stat h v).trans (ih (by rw [stat_measurement, h]))

theorem finish (h : s.measurement = some i) (oh : OnFinish) : WritesTo i s (s.finish oh).1 := by
  unfold State.finish; split
  · exact of_eq rfl
  · exact (of_eq rfl).trans (foldl_stat (by simpa using h) _)

theorem publishMessage {V : Type} (h : s.measurement = some i) (exchange routingKey properties)
    (body : PyVal V) (channel connection elapsed) :
    WritesTo i s (s.publishMessage exchange routingKey properties body channel connection elapsed).1 := by
  unfold State.publishMessage
  rw [h]
  split
  · exact of_eq rfl
  · exact of_eq rfl
  · rename_i heq
    obtain rfl := Option.some.inj heq
    dsimp only
    split
    · exact record s _ _
    · split <;> exact (of_eq rfl).trans (record _ _ _)

theorem foldl_act (oh : OnFinish) (h : s.measurement = some i) (as : List Action) :
    WritesTo i s (as.foldl (act oh) s) := by
  induction as generalizing s with
  | nil => exact of_eq rfl
  | cons a as ih =>
      have hm : (act oh s a).measurement = some i := by cases a <;> simp [act, h]
      have ha : WritesTo i s (act oh s a) := by
        cases a
        · exact finish h oh
        · exact stat h _
        · exact publishMessage h ..
      exact ha.trans (ih hm)

theorem runHook (h : s.measurement = some i) (oh c) (hook : Hook) :
    WritesTo i s (s.runHook oh c hook).1 :=
  foldl_act oh (by simp [h]) hook.actions

theorem tryHooks (h : s.measurement = some i) (hooks : Hooks) :
    WritesTo i s (s.tryHooks hooks).1 := by
  have hp := runHook h hooks.onFinish .prepare hooks.prepare
  unfold State.tryHooks; dsimp only
  split
  · exact hp
  · split
    · exact hp
    · exact hp.trans (runHook (by simp [h]) _ _ _)

theorem handle (s : State) (cfg m i e) (hd : Handler) : WritesTo i s (s.handle cfg m i e hd) := by
  have ht : ∀ t : State, WritesTo i t (t.tagError i e) := fun t => by
    unfold tagError setTag; split
    · exact (record _ _ _).trans (record _ _ _)
    · exact record _ _ _
  cases hd
  case processing => exact (ht s).trans (of_eq rfl)
  all_goals first | exact record _ _ _ | exact ht s

theorem processHooks (h : s.measurement = some i) (cfg m) (hooks : Hooks) :
    WritesTo i s (s.processHooks cfg m i hooks).1 := by
  have h1 := tryHooks h hooks
  have h2 : WritesTo i (s.tryHooks hooks).1
      ((s.tryHooks hooks).1.catchEnding cfg m i (s.tryHooks hooks).2).1 := by
    unfold catchEnding; split
    · exact of_eq rfl
    · split
      · exact handle _ _ _ _ _ _
      · exact of_eq rfl
  have h3 := finish (by simp [h] : ((s.tryHooks hooks).1.catchEnding cfg m i
    (s.tryHooks hooks).2).1.measurement = some i) hooks.onFinish
  exact h1.trans (h2.trans (h3.trans (of_eq (finishUp_inv State.updates (fun _ => rfl) _ _ _))))

end WritesTo

/-- An execution writes to no measurement but its own. -/
theorem execute_writes_own_measurement (s : State) (cfg : Settings) (m : Message) (i : Nat)
    (clock : Clock) (hooks : Hooks) : WritesTo i s (s.execute cfg m i clock hooks).1 := by
  have ha : WritesTo i s (s.assign cfg m i clock) := by
    unfold assign recordAge; dsimp only; split
    · split
      · exact .record _ _ _
      · exact .of_eq rfl
    · exact .of_eq rfl
  have hb : WritesTo i s (s.begin cfg m i clock).1 :=
    ha.trans (.of_eq (begin_inv State.updates (fun _ _ => rfl) s cfg m i clock))
  unfold execute; dsimp only
  split
  · exact hb
  · refine hb.trans ?_
    unfold afterBegin; split
    · exact .of_eq (checkType_inv State.updates (fun _ _ => rfl) ‹_›)
    · split
      · exact .of_eq (checkRetries_inv State.updates (fun _ _ => rfl) ‹_›)
      · exact .processHooks (begin_measurement s cfg m i clock) cfg m hooks

/-- A stats call made from outside any execution writes to the measurement of the last
message executed, however long ago, and is dropped only before the first. -/
theorem stat_outside_execution (s : State) (hs : s.measurement = none) (cfg : Settings)
    (es : List Event) (u : Update) :
    ((s.runEvents cfg es).stat u).updates =
      (s.runEvents cfg es).updates ++ ((lastMeasurement es).map (·, u)).toList := by
  have hm := runEvents_measurement s cfg es
  cases h : lastMeasurement es with
  | none => simp [stat_of_none (by simpa [h, hs] using hm)]
  | some i => simp [stat_of_some (by simpa [h] using hm), record]

theorem stat_outside_execution_after_two :
    ({} : State).measurement = none ∧
      ((({} : State).runEvents { name := "C" }
          [.execute ⟨"c", 0, "x", "rk", false, [], {}⟩ 0 {} {}, .incr "k" 1,
            .execute ⟨"c", 1, "x", "rk", false, [], {}⟩ 1 {} {}]).stat (.incr "k" 1)).updates =
        (({} : State).runEvents { name := "C" }
          [.execute ⟨"c", 0, "x", "rk", false, [], {}⟩ 0 {} {}, .incr "k" 1,
            .execute ⟨"c", 1, "x", "rk", false, [], {}⟩ 1 {} {}]).updates ++
          ((lastMeasurement [.execute ⟨"c", 0, "x", "rk", false, [], {}⟩ 0 {} {}, .incr "k" 1,
            .execute ⟨"c", 1, "x", "rk", false, [], {}⟩ 1 {} {}]).map (·, .incr "k" 1)).toList :=
  ⟨rfl, stat_outside_execution {} rfl _ _ _⟩

/-- `stats_incr` called after `execute(m, meas)` has returned still increments in
`meas`. -/
theorem stats_incr_after_execute_writes_measurement :
    (({ connections := [{ name := "c" }] } : State).runEvents { name := "C" }
      [.execute ⟨"c", 0, "x", "rk", false, [], {}⟩ 0 {} {}, .incr "k" 1]).updates =
      [(0, .incr "k" 1)] :=
  rfl

end State

end Rejected

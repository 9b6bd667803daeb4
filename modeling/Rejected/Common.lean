import Rejected.Data

/-!
# The process state mixin

`rejected.common.State` holds the state of the master control program and of each
consumer process: one of eight constants, and the time it was entered. `set_state`
checks the new value against `_STATES` before it touches anything, and raises
`ValueError` for a value that is not a key. It then looks both values up for its debug
line, so a current value that is not a key would raise `KeyError`.

An object starts in `STATE_INITIALIZING`, and `set_state` never stores a value that is
not a key. So every state reachable from `__init__` is one of the eight: neither
`set_state` nor `state_description` raises `KeyError`. Over any run of `set_state`
calls whose `ValueError`s the caller catches, the object ends with the last valid value
asked for, and the time of that call. State values are Python `int`s.
-/
namespace Rejected

namespace Common

def stateInitializing : Int := 0x01
def stateConnecting : Int := 0x02
def stateIdle : Int := 0x03
def stateActive : Int := 0x04
def stateSleeping : Int := 0x05
def stateStopRequested : Int := 0x06
def stateShuttingDown : Int := 0x07
def stateStopped : Int := 0x08

/-- `_STATES`, for the reverse lookup. -/
def states : List (Int × String) :=
  [(0x01, "Initializing"), (0x02, "Connecting"), (0x03, "Idle"), (0x04, "Active"),
   (0x05, "Sleeping"), (0x06, "Stop Requested"), (0x07, "Shutting down"), (0x08, "Stopped")]

/-- The attributes `_state` and `_state_start`. -/
structure State where
  state : Int
  stateStart : ℚ
  deriving DecidableEq

namespace State

/-- `__init__`, at time `now`. -/
def init (now : ℚ) : State := ⟨stateInitializing, now⟩

/-- `_STATES[key]`. -/
def lookup (key : Int) : Except PyExc String :=
  match states.lookup key with
  | some d => .ok d
  | none => .error keyError

/-- `set_state(new_state)` at time `now`. -/
def setState (s : State) (newState : Int) (now : ℚ) : Except PyExc State :=
  if (states.lookup newState).isNone then .error (valueError s!"Invalid state value: {newState}")
  else do
    let _ ← lookup s.state
    let _ ← lookup newState
    pure ⟨newState, now⟩

def isConnecting (s : State) : Bool := s.state == stateConnecting
def isIdle (s : State) : Bool := s.state == stateIdle
def isRunning (s : State) : Bool := [stateIdle, stateActive, stateSleeping].contains s.state
def isShuttingDown (s : State) : Bool := s.state == stateShuttingDown
def isSleeping (s : State) : Bool := s.state == stateSleeping
def isStopped (s : State) : Bool := s.state == stateStopped
def isWaitingToShutdown (s : State) : Bool := s.state == stateStopRequested

/-- `state_description`. -/
def stateDescription (s : State) : Except PyExc String := lookup s.state

/-- A state whose value is a key of `_STATES`. -/
def Valid (s : State) : Prop := (states.lookup s.state).isSome

instance : DecidablePred Valid := fun _ => inferInstanceAs (Decidable (_ = true))

theorem lookup_of_valid {key : Int} (h : (states.lookup key).isSome) :
    ∃ d, lookup key = .ok d := by
  rcases hk : states.lookup key with _ | d
  · simp [hk] at h
  · exact ⟨d, by simp [lookup, hk]⟩

/-- From a valid state, `set_state` raises only for a value that is not a key, and then
with the value in its message. -/
theorem setState_of_valid {s : State} (hs : s.Valid) (newState : Int) (now : ℚ) :
    s.setState newState now =
      if (states.lookup newState).isSome then .ok ⟨newState, now⟩
      else .error (valueError s!"Invalid state value: {newState}") := by
  obtain ⟨d, hd⟩ := lookup_of_valid hs
  rcases hn : states.lookup newState with _ | e
  · simp [setState, hn]
  · obtain ⟨e', he'⟩ := lookup_of_valid (show (states.lookup newState).isSome from by simp [hn])
    simp [setState, hn, hd, he', bind, Except.bind, pure, Except.pure]

/-- `set_state` calls, each a value and the time of the call, made by a caller that
catches their `ValueError`s: the object after them, and what each call did. -/
def run (s : State) : List (Int × ℚ) → State × List (Except PyExc Unit)
  | [] => (s, [])
  | (newState, now) :: calls =>
      match s.setState newState now with
      | .ok t => let r := t.run calls; (r.1, .ok () :: r.2)
      | .error e => let r := s.run calls; (r.1, .error e :: r.2)

/-- What a call should leave, as the docstring describes it: a key of `_STATES` is
taken, with the time of the call; anything else leaves the object alone. -/
def assign (s : State) (call : Int × ℚ) : State :=
  if (states.lookup call.1).isSome then ⟨call.1, call.2⟩ else s

/-- What a call should return: nothing for a key of `_STATES`, `ValueError` naming the
value otherwise. -/
def check (newState : Int) : Except PyExc Unit :=
  if (states.lookup newState).isSome then .ok ()
  else .error (valueError s!"Invalid state value: {newState}")

theorem valid_init (now : ℚ) : (init now).Valid := rfl

theorem valid_assign {s : State} (hs : s.Valid) (call : Int × ℚ) : (s.assign call).Valid := by
  unfold assign
  split <;> assumption

theorem valid_foldl_assign {s : State} (hs : s.Valid) (calls : List (Int × ℚ)) :
    (calls.foldl assign s).Valid := by
  induction calls generalizing s with
  | nil => exact hs
  | cons call calls ih => exact ih (valid_assign hs call)

/-- From a valid state, a run is the last-valid-value model, call by call. -/
theorem run_of_valid {s : State} (hs : s.Valid) (calls : List (Int × ℚ)) :
    s.run calls = (calls.foldl assign s, calls.map (check ·.1)) := by
  induction calls generalizing s with
  | nil => rfl
  | cons call calls ih =>
      obtain ⟨newState, now⟩ := call
      rw [run, setState_of_valid hs]
      by_cases hn : (states.lookup newState).isSome
      · have ht : (State.mk newState now).Valid := hn
        simp only [hn, if_true, ih ht, List.foldl_cons, List.map_cons, assign, check]
      · simp only [hn, if_false, Bool.false_eq_true, ih hs, List.foldl_cons, List.map_cons,
          assign, check]

/-- Over every run of `set_state` calls from `__init__` whose `ValueError`s the caller
catches, each call raises exactly when its value is not a key of `_STATES`, and then
`ValueError` with the value in the message, never `KeyError`; the object ends with the
last valid value asked for and the time of that call (or as `__init__` left it), and
`state_description` returns its name. -/
theorem run_from_init (now : ℚ) (calls : List (Int × ℚ)) :
    (init now).run calls = (calls.foldl assign (init now), calls.map (check ·.1)) ∧
      ∃ d, ((init now).run calls).1.stateDescription = .ok d := by
  have hrun := run_of_valid (valid_init now) calls
  rw [hrun]
  exact ⟨rfl, lookup_of_valid (valid_foldl_assign (valid_init now) calls)⟩

end State

end Common

end Rejected

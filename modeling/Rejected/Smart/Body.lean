import Rejected.Smart.Codec

/-!
# The body cache

`SmartConsumer.body` keeps what it decoded in `_message_body` and returns it on later
reads, but it tests the cache with `if self._message_body:`, and writes it twice: the
decompressed bytes, then the deserialized value. A value that is false in Python is
decoded again on every read, and a deserializer that raises leaves the bytes behind,
so the next read returns them.

An execution starts with `_clear`, which empties the cache, so each execution's reads
depend on its message alone. The codec calls are recorded as they are made.
-/
namespace Rejected

/-- A call `body` makes into a codec. -/
inductive LibCall where
  | decompress (module : String)
  | load
  deriving DecidableEq

/-- What `body` reads and writes: the current message, `_message_body`, and the codec
calls made so far. -/
structure BodyState (V : Type) where
  message : Message
  messageBody : PyVal V := .none
  calls : List LibCall := []

namespace BodyState

variable {V : Type} (lib : Library V)

/-- The `body` property. -/
def body (s : BodyState V) : BodyState V × Except PyExc (PyVal V) :=
  if s.messageBody.truthy lib.truthy then (s, .ok s.messageBody)
  else
    let d := Smart.maybeDecompressBody lib s.message
    let s := { s with calls := s.calls ++ (d.1.map LibCall.decompress).toList }
    match d.2 with
    | .error e => (s, .error e)
    | .ok b =>
        let r := Smart.maybeDeserializeBody lib s.message b
        let s := { s with messageBody := b, calls := s.calls ++ if r.1 then [.load] else [] }
        match r.2 with
        | .error e => (s, .error e)
        | .ok v => ({ s with messageBody := v }, .ok v)

/-- What a read that finds the cache false leaves in it: the decoded value, the
decompressed bytes when deserializing raised, or what was there when decompressing
raised. -/
def cacheAfter (m : Message) (old : PyVal V) : PyVal V :=
  match (Smart.maybeDecompressBody lib m).2 with
  | .error _ => old
  | .ok b =>
      match (Smart.maybeDeserializeBody lib m b).2 with
      | .error _ => b
      | .ok v => v

/-- The codec calls decoding `m` makes. -/
def decodeCalls (m : Message) : List LibCall :=
  ((Smart.maybeDecompressBody lib m).1.map LibCall.decompress).toList ++
    match (Smart.maybeDecompressBody lib m).2 with
    | .error _ => []
    | .ok b => if (Smart.maybeDeserializeBody lib m b).1 then [.load] else []

theorem body_of_truthy {s : BodyState V} (h : s.messageBody.truthy lib.truthy = true) :
    s.body lib = (s, .ok s.messageBody) := by
  simp [body, h]

theorem body_of_falsy {s : BodyState V} (h : s.messageBody.truthy lib.truthy = false) :
    s.body lib =
      ({ s with
          messageBody := cacheAfter lib s.message s.messageBody
          calls := s.calls ++ decodeCalls lib s.message },
        Smart.decodeBody lib s.message) := by
  simp only [body, h, Bool.false_eq_true, if_false, cacheAfter, decodeCalls, Smart.decodeBody]
  rcases Smart.maybeDecompressBody lib s.message with ⟨mod, _ | b⟩
  · simp [bind, Except.bind]
  · rcases hr : Smart.maybeDeserializeBody lib s.message b with ⟨called, _ | v⟩ <;>
      simp [hr, bind, Except.bind]

/-- `n` reads of `body`, and what each returned. -/
def reads (s : BodyState V) : Nat → BodyState V × List (Except PyExc (PyVal V))
  | 0 => (s, [])
  | n + 1 =>
      let r := s.body lib
      let t := r.1.reads n
      (t.1, r.2 :: t.2)

theorem cacheAfter_of_decoded {m : Message} {v : PyVal V} (h : Smart.decodeBody lib m = .ok v)
    (old : PyVal V) : cacheAfter lib m old = v := by
  unfold cacheAfter
  unfold Smart.decodeBody at h
  rcases hd : Smart.maybeDecompressBody lib m with ⟨mod, _ | b⟩ <;>
    simp only [hd, bind, Except.bind] at h ⊢
  · cases h
  · rcases hr : Smart.maybeDeserializeBody lib m b with ⟨called, _ | w⟩ <;>
      simp only [hr] at h ⊢
    · cases h
    · cases h; rfl

/-- What a read leaves in the cache does not depend on what was there, unless
decompressing raised, when it is what was there. -/
@[simp] theorem cacheAfter_cacheAfter (m : Message) (old : PyVal V) :
    cacheAfter lib m (cacheAfter lib m old) = cacheAfter lib m old := by
  unfold cacheAfter
  rcases Smart.maybeDecompressBody lib m with ⟨mod, _ | b⟩ <;> rfl

theorem reads_of_truthy {s : BodyState V} (h : s.messageBody.truthy lib.truthy = true) (n : Nat) :
    s.reads lib n = (s, List.replicate n (.ok s.messageBody)) := by
  induction n with
  | zero => rfl
  | succ n ih => simp [reads, body_of_truthy lib h, ih, List.replicate_succ]

/-- A read that leaves a true value in the cache is the last to decode: every later
read returns that value. -/
theorem reads_of_cached {s : BodyState V} (h : s.messageBody.truthy lib.truthy = false)
    (hc : (cacheAfter lib s.message s.messageBody).truthy lib.truthy = true) (n : Nat) :
    s.reads lib (n + 1) =
      ({ s with
          messageBody := cacheAfter lib s.message s.messageBody
          calls := s.calls ++ decodeCalls lib s.message },
        Smart.decodeBody lib s.message ::
          List.replicate n (.ok (cacheAfter lib s.message s.messageBody))) := by
  let t : BodyState V :=
    { s with
      messageBody := cacheAfter lib s.message s.messageBody
      calls := s.calls ++ decodeCalls lib s.message }
  rw [reads, body_of_falsy lib h]
  simp only [reads_of_truthy lib (show t.messageBody.truthy lib.truthy = true from hc)]

/-- A read that leaves a false value in the cache is followed by reads that decode the
message again, codecs and all. -/
theorem reads_of_uncached {s : BodyState V} (h : s.messageBody.truthy lib.truthy = false)
    (hc : (cacheAfter lib s.message s.messageBody).truthy lib.truthy = false) (n : Nat) :
    s.reads lib (n + 1) =
      ({ s with
          messageBody := cacheAfter lib s.message s.messageBody
          calls := s.calls ++ (List.replicate (n + 1) (decodeCalls lib s.message)).flatten },
        List.replicate (n + 1) (Smart.decodeBody lib s.message)) := by
  induction n generalizing s with
  | zero => simp [reads, body_of_falsy lib h]
  | succ n ih =>
      let t : BodyState V :=
        { s with
          messageBody := cacheAfter lib s.message s.messageBody
          calls := s.calls ++ decodeCalls lib s.message }
      have ht := @ih t hc (by simpa [t] using hc)
      rw [reads, body_of_falsy lib h]
      simp only [ht, t, cacheAfter_cacheAfter, List.replicate_succ, List.flatten_cons,
        List.append_assoc]

/-- `_clear()` and `self._message = message_in` at the start of `execute`. -/
def begin (s : BodyState V) (m : Message) : BodyState V :=
  { s with message := m, messageBody := .none }

/-- Executions one after another, each reading the body some number of times: what
the reads returned and the codec calls made, execution by execution. -/
def run (s : BodyState V) : List (Message × Nat) →
    List (List (Except PyExc (PyVal V)) × List LibCall)
  | [] => []
  | (m, n) :: rest =>
      let t := (s.begin m).reads lib n
      (t.2, t.1.calls.drop s.calls.length) :: t.1.run rest

/-- A message that decodes to `v` reads as `v` every time during its execution. -/
theorem reads_of_decoded (s : BodyState V) {m : Message} {v : PyVal V}
    (h : Smart.decodeBody lib m = .ok v) (n : Nat) :
    ((s.begin m).reads lib n).2 = List.replicate n (.ok v) := by
  have h0 : (s.begin m).messageBody.truthy lib.truthy = false := rfl
  cases n with
  | zero => rfl
  | succ n =>
      cases hc : (cacheAfter lib m .none).truthy lib.truthy
      · rw [reads_of_uncached lib h0 hc]
        simp [begin, h]
      · rw [reads_of_cached lib h0 hc]
        simp [begin, h, cacheAfter_of_decoded lib h, List.replicate_succ]

/-- A delivery of the bytes `abc` as `application/x-plist`. -/
def unreadablePlist : Message :=
  { connection := "c", deliveryTag := 0, exchange := "x", routingKey := "r",
    body := [97, 98, 99], properties := { contentType := some "application/x-plist" } }

theorem body_returns_bytes_after_load_error (s : BodyState Unit) :
    ((s.begin unreadablePlist).reads sampleLibrary 2).2 =
      [.error (messageException (valueError "Invalid file") "serialization-load"),
       .ok (.bytes [97, 98, 99])] := by
  rfl

/-- Each execution reads as it would on a consumer that had never read a body: its
reads and the codec calls they make depend only on its message. -/
theorem run_eq_fresh (s : BodyState V) (execs : List (Message × Nat)) :
    s.run lib execs = execs.map fun e =>
      let t := ({ message := e.1 } : BodyState V).reads lib e.2
      (t.2, t.1.calls) := by
  induction execs generalizing s with
  | nil => rfl
  | cons e execs ih =>
      obtain ⟨m, _ | n⟩ := e
      · simp [run, reads, begin, ih]
      · have h0 : ∀ t : BodyState V, (t.begin m).messageBody.truthy lib.truthy = false :=
          fun _ => rfl
        have hf : ({ message := m } : BodyState V).reads lib (n + 1) =
            (({ message := m } : BodyState V).begin m).reads lib (n + 1) := rfl
        rw [run, List.map_cons, hf, ih]
        cases hc : (cacheAfter lib m .none).truthy lib.truthy
        · rw [reads_of_uncached lib (h0 s) hc, reads_of_uncached lib (h0 _) hc]
          simp [begin]
        · rw [reads_of_cached lib (h0 s) hc, reads_of_cached lib (h0 _) hc]
          simp [begin]

end BodyState

end Rejected

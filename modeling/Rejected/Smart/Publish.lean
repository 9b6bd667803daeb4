import Rejected.Smart.Body
import Rejected.Consumer.State

/-!
# Publishing a value and reading it back

`SmartConsumer.publish_message` serializes a body that is not already a string by the
`content_type` of the properties, compresses it by their `content_encoding`, and hands
it to `Consumer.publish_message`; `body` undoes the two steps on the delivered message.

The two sides do not normalise alike. The reader lower-cases `content_type` and
`content_encoding` before it looks them up, and decodes a text body by the `charset`
parameter. The writer parses `content_type` as given, looks `content_encoding` up as
given, and sends a text body as UTF-8. An encoding the writer does not know but the
reader knows once lower-cased, such as `GZIP`, is published uncompressed and then
handed to the decompressor when read.

The round trip holds when the two sides pick the same compressor, the loader inverts
the dumper, the decompressor inverts the compressor, and the charset decodes the UTF-8
the text travelled as.
-/
namespace Rejected

namespace Smart

variable {V : Type} (lib : Library V)

/-- The body `publish_message` hands on: serialized when it is not a string and the
properties have a true `content_type`, then compressed when their `content_encoding`
is a key of `_CODEC_MAP`. -/
def encodeBody (properties : Properties) (body : PyVal V) (noSerialization noEncoding : Bool) :
    Except PyExc (PyVal V) := do
  let body ← if !noSerialization && !body.isString && truthy properties.contentType then
      lib.parseContentType (properties.contentType.getD "") >>= serialize lib body
    else pure body
  match if noEncoding then none else properties.contentEncoding.bind (codecMap.lookup ·) with
  | some moduleName => compress lib body moduleName
  | none => pure body

/-- `SmartConsumer.publish_message`. The base method receives `channel or connection`
in the place of its `channel`. -/
def publishMessage (s : State) (exchange : String) (routingKey : Option String)
    (properties : Properties) (body : PyVal V) (noSerialization noEncoding : Bool)
    (channel connection : Option String) (elapsed : ℚ) : State × Except PyExc (Option Nat) :=
  match encodeBody lib properties body noSerialization noEncoding with
  | .error e => (s, .error e)
  | .ok body =>
      s.publishMessage exchange routingKey properties body (orElse channel connection) none elapsed

/-- A publish that returned has sent the encoded body, as it travels, with the
properties asked for. -/
theorem publishMessage_sent {s : State} {exchange : String} {routingKey : Option String}
    {properties : Properties} {body : PyVal V} {noSerialization noEncoding : Bool}
    {channel connection : Option String} {elapsed : ℚ} {r : Option Nat}
    (h : (publishMessage lib s exchange routingKey properties body noSerialization noEncoding
      channel connection elapsed).2 = .ok r) :
    ∃ w c wb, encodeBody lib properties body noSerialization noEncoding = .ok w ∧
      w.isString = true ∧ wb.toBytes = carried w ∧
      (publishMessage lib s exchange routingKey properties body noSerialization noEncoding
        channel connection elapsed).1.published =
          s.published ++ [⟨c, exchange, routingKey, wb, properties⟩] := by
  unfold publishMessage at h ⊢
  rcases he : encodeBody lib properties body noSerialization noEncoding with e | w <;>
    simp only [he] at h ⊢
  · cases h
  · obtain ⟨c, wb, hw, hp⟩ := State.publishMessage_of_ok h
    refine ⟨w, c, wb, rfl, ?_, ?_, hp⟩ <;> cases w <;> cases hw <;> rfl

section RoundTrip

variable {lib} {v w : PyVal V} {properties : Properties} {ct : String} {pct : ContentType}
  {entry : Serialization}

/-- What the reader of a message with `properties` decodes from the bytes a value `w`
travelled as, when the writer dumped `w` with a module codec. -/
theorem decodeBody_of_carried (m : Message) (hm : m.properties = properties)
    (hct : properties.contentType = some ct) (hpct : lib.parseContentType (lib.lower ct) = .ok pct)
    (hlne : lib.lower ct ≠ "") (he : (registry lib).lookup pct.key = some entry)
    (hen : entry.enabled = true) (hcommon : entry.common = true)
    (himport : lib.importModule entry.module = .ok ())
    (hkind : if entry.binary then ∃ b, w = .bytes b
      else ∃ x, w = .str x ∧ lib.decode pct.charset x.toUTF8.data.toList = .ok x)
    (hbody : (maybeDecompressBody lib m).2 = .ok (.bytes (carried w))) :
    decodeBody lib m = (lib.call entry.module entry.load w).mapError
      (asMessageException "serialization-load") := by
  have hl : lowered lib m.properties.contentType = some (lib.lower ct) := by
    simp [lowered, hm, hct, hlne]
  rw [decodeBody, hbody]
  simp only [bind, Except.bind, maybeDeserializeBody_of_common lib hl hpct he hen hcommon himport]
  cases hb : entry.binary <;> simp only [hb, Bool.false_eq_true, if_false, if_true] at hkind ⊢
  · obtain ⟨x, rfl, hx⟩ := hkind
    simp only [maybeDecode, carried, hx, Functor.map, Except.map]
    rfl
  · obtain ⟨b, rfl⟩ := hkind
    rfl

/-- A consumer with the connection `c` open, during the execution of a message whose
measurement is `0`. -/
def sampleState : State := { measurement := some 0, connections := [{ name := "c" }] }

/-- JSON compressed by the given `content_encoding`. -/
def jsonProperties (encoding : String) : Properties :=
  { contentType := some "application/json", contentEncoding := some encoding }

/-- Published under `GZIP`, JSON goes out uncompressed, and reading it hands the
uncompressed bytes to `zlib.decompress`. -/
theorem publish_upper_case_encoding_fails_to_read :
    (publishMessage sampleLibrary sampleState "x" (some "r") (jsonProperties "GZIP") .none
        false false (some "c") none 0).2 = .ok none ∧
      (publishMessage sampleLibrary sampleState "x" (some "r") (jsonProperties "GZIP") .none
        false false (some "c") none 0).1.published =
          [⟨"c", "x", some "r", .text "null", jsonProperties "GZIP"⟩] ∧
      ∀ (st : BodyState Unit) (t : Nat),
        ((st.begin (Publish.deliver ⟨"c", "x", some "r", .text "null", jsonProperties "GZIP"⟩ t)).reads
          sampleLibrary 2).2 = [.error zlibError, .error zlibError] :=
  ⟨rfl, rfl, fun _ _ => rfl⟩

end RoundTrip

/-- A content type whose entry is disabled, such as `application/msgpack` without
`u-msgpack-python`, is refused on one side and let through on the other. Publishing a
value that is not a string under it raises `ValueError` and sends nothing. A message
that arrives under it reads as whatever decompressing gave, bytes or error, and no
loader is called. -/
theorem disabled_type_refused_on_publish_passed_on_read {s : State} {exchange : String}
    {routingKey : Option String} {properties : Properties} {body : PyVal V} {noEncoding : Bool}
    {channel connection : Option String} {elapsed : ℚ} {ct : String} {pct : ContentType}
    {entry : Serialization} (hct : properties.contentType = some ct) (hne : ct ≠ "")
    (hlower : lib.lower ct = ct) (hpct : lib.parseContentType ct = .ok pct)
    (he : (registry lib).lookup pct.key = some entry) (hoff : entry.enabled = false)
    (hv : body.isString = false) :
    publishMessage lib s exchange routingKey properties body false noEncoding channel connection
        elapsed = (s, .error (valueError ("Disabled content-type: " ++ pct.key))) ∧
      ∀ m : Message, m.properties = properties →
        decodeBody lib m = (maybeDecompressBody lib m).2 ∧
        (∀ w, (maybeDeserializeBody lib m w).1 = false) ∧
        ∀ (w : PyVal V) (st : BodyState V) (n : Nat), (maybeDecompressBody lib m).2 = .ok w →
          ((st.begin m).reads lib n).2 = List.replicate n (.ok w) := by
  have hdes : ∀ m : Message, m.properties = properties → ∀ w,
      maybeDeserializeBody lib m w = (false, .ok w) := fun m hm w => by
    simp [maybeDeserializeBody, lowered, hm, hct, hlower, hne, hpct, he, hoff]
  have hdec : ∀ m : Message, m.properties = properties →
      decodeBody lib m = (maybeDecompressBody lib m).2 := fun m hm => by
    rw [decodeBody]
    cases (maybeDecompressBody lib m).2 <;> simp [bind, Except.bind, hdes m hm]
  refine ⟨?_, fun m hm => ⟨hdec m hm, fun w => by rw [hdes m hm], fun w st n hw =>
    BodyState.reads_of_decoded lib st ((hdec m hm).trans hw) n⟩⟩
  simp [publishMessage, encodeBody, hv, truthy, orElse, hct, hne, hpct, serialize, he, hoff,
    bind, Except.bind]
  exact congrArg (fun x => valueError x) (String.append_empty _)

/-- `application/msgpack` with the package missing. -/
theorem msgpack_without_package :
    publishMessage sampleLibrary sampleState "x" (some "r")
        { contentType := some "application/msgpack" } .none false false (some "c") none 0 =
      (sampleState, .error (valueError ("Disabled content-type: " ++
        ({ contentType := "application", contentSubtype := "msgpack" } : ContentType).key))) ∧
      ∀ m : Message, m.properties = { contentType := some "application/msgpack" } →
        decodeBody sampleLibrary m = (maybeDecompressBody sampleLibrary m).2 ∧
        (∀ w, (maybeDeserializeBody sampleLibrary m w).1 = false) ∧
        ∀ (w : PyVal Unit) (st : BodyState Unit) (n : Nat),
          (maybeDecompressBody sampleLibrary m).2 = .ok w →
          ((st.begin m).reads sampleLibrary n).2 = List.replicate n (.ok w) :=
  disabled_type_refused_on_publish_passed_on_read sampleLibrary rfl (by decide) rfl rfl rfl rfl rfl

end Smart

end Rejected

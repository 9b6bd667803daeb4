import Rejected.Smart.Library
import Mathlib.Data.List.Sort

/-!
# Serializing, compressing and their inverses

The functions of `SmartConsumer` that turn a Python value into a body and a body
back into a value, each with the library calls it makes. An `Exception` a codec raises
while loading or dumping becomes a `MessageException` whose metric names the step; a
failed import, a malformed content type and a failed decompression pass through
unchanged, as in the source, where those calls sit outside the `try`.

The reading side lower-cases `content_encoding` and `content_type` before it looks
them up; the publishing side looks up `content_encoding` as given.
-/
namespace Rejected

inductive MethodType where
  | load
  | dump
  deriving DecidableEq

def MethodType.name : MethodType → String
  | .load => "load"
  | .dump => "dump"

/-- The function an entry names for loading or dumping. -/
def Serialization.method (entry : Serialization) : MethodType → String
  | .load => entry.load
  | .dump => entry.dump

/-- `except Exception as err: raise MessageException(str(err), metric)`. -/
def asMessageException (metric : String) (err : PyExc) : PyExc :=
  if err.cls.exception then messageException err metric else err

namespace Smart

variable {V : Type} (lib : Library V)

/-- `_maybe_decode(value, encoding)`: bytes are decoded, anything else is returned. -/
def maybeDecode (value : PyVal V) (encoding : String) : Except PyExc (PyVal V) :=
  match value with
  | .bytes b => (PyVal.str <$> lib.decode encoding b).mapError
      (asMessageException s!"decoding-{encoding}")
  | value => .ok value

/-- `sorted(set([k for r in rows for k in r.keys()]))`. The keys are distinct, so every
sort gives the same list; an insertion sort is taken. -/
def fieldnames {α : Type} (rows : List (List (String × α))) : List String :=
  (rows.flatMap (·.map Prod.fst)).dedup.insertionSort fun a b => (String.decLE a b).decide = true

/-- `_dump_csv(rows)`. -/
def dumpCsv (rows : PyVal V) : Except PyExc (PyVal V) := do
  lib.importModule "csv"
  let rs ← lib.csvRows rows
  PyVal.str <$> Csv.excel.writeDicts (fieldnames rs) (rs.map (·.map fun kv => (kv.1, kv.2.cell lib.str)))

/-- `_load_csv(value)`: the dialect is sniffed from the first 1024 characters. -/
def loadCsv (value : PyVal V) : Except PyExc (PyVal V) := do
  lib.importModule "csv"
  match value with
  | .str s => do
      let dialect ← Csv.sniff lib.guessQuoteAndDelimiter ⟨s.data.take 1024⟩
      pure (.obj (lib.dictReader s dialect))
  | _ => throw typeError

/-- `_load_bs4(value, markup)`. -/
def loadBs4 (value : PyVal V) (markup : String) : Except PyExc (PyVal V) := do
  lib.importModule "bs4"
  lib.beautifulSoup value (if markup = "html" then "lxml" else "lxml-xml")

/-- `_dump_bs4(value)`. -/
def dumpBs4 (value : PyVal V) : Except PyExc (PyVal V) := .ok (.str (lib.str value))

/-- `getattr(self, name)(value)` for the loaders and dumpers the consumer defines. -/
def ownMethod (name : String) (value : PyVal V) : Except PyExc (PyVal V) :=
  if name = "_load_csv" then loadCsv lib value
  else if name = "_dump_csv" then dumpCsv lib value
  else if name = "_load_html" then loadBs4 lib value "html"
  else if name = "_load_xml" then loadBs4 lib value "xml"
  else if name = "_dump_bs4" then dumpBs4 lib value
  else .error attributeError

/-- `_maybe_invoke_serialization(value, method_type, key)` for the entry of `key`:
whether the loader or dumper was called, and what came of it. -/
def maybeInvokeSerialization (value : PyVal V) (methodType : MethodType)
    (entry : Serialization) : Bool × Except PyExc (PyVal V) :=
  let kind := methodType.name
  let guard (r : Except PyExc (PyVal V)) := r.mapError (asMessageException s!"serialization-{kind}")
  if entry.common then
    match lib.importModule entry.module with
    | .error e => (false, .error e)
    | .ok () => (true, guard (lib.call entry.module (entry.method methodType) value))
  else (true, guard (ownMethod lib (entry.method methodType) value))

/-- The registry as `__init__` leaves it. -/
def registry : List (String × Serialization) :=
  serializationMap lib.msgpackInstalled lib.bs4Installed

/-- `_serialize(value, ct)`. -/
def serialize (value : PyVal V) (ct : ContentType) : Except PyExc (PyVal V) :=
  let key := ct.key
  match (registry lib).lookup key with
  | none => .error (valueError s!"Unsupported content-type: {key}")
  | some entry =>
      if entry.enabled then do
        let value ← maybeDecode lib value ct.charset
        (maybeInvokeSerialization lib value .dump entry).2
      else .error (valueError s!"Disabled content-type: {key}")

/-- `_compress(value, module_name)`: a `str` is encoded as UTF-8 first. -/
def compress (value : PyVal V) (moduleName : String) : Except PyExc (PyVal V) := do
  let b ← match value with
    | .bytes b => pure b
    | .str s => pure s.toUTF8.data.toList
    | _ => throw attributeError
  lib.importModule moduleName
  lib.call moduleName "compress" (.bytes b)

/-- `(value or '').lower() or None`, as the `content_encoding` and `content_type`
properties read the message. -/
def lowered (value : Option String) : Option String :=
  let v := lib.lower (value.getD "")
  if v = "" then none else some v

/-- `_maybe_decompress_body()`: the module whose `decompress` was called, if one was,
and the bytes. -/
def maybeDecompressBody (m : Message) : Option String × Except PyExc (PyVal V) :=
  match lowered lib m.properties.contentEncoding with
  | some encoding =>
      match codecMap.lookup encoding with
      | some moduleName =>
          match lib.importModule moduleName with
          | .error e => (none, .error e)
          | .ok () => (some moduleName, lib.call moduleName "decompress" (.bytes m.body))
      | none => (none, .ok (.bytes m.body))
  | none => (none, .ok (.bytes m.body))

/-- `_maybe_deserialize_body()`, on the value `_message_body` holds: whether a loader
was called, and the value. -/
def maybeDeserializeBody (m : Message) (messageBody : PyVal V) :
    Bool × Except PyExc (PyVal V) :=
  match lowered lib m.properties.contentType with
  | none => (false, .ok messageBody)
  | some contentType =>
      match lib.parseContentType contentType with
      | .error e => (false, .error e)
      | .ok ct =>
          match (registry lib).lookup ct.key with
          | none => (false, .ok messageBody)
          | some entry =>
              if !entry.enabled then (false, .ok messageBody)
              else
                let value := if entry.binary then .ok messageBody
                  else maybeDecode lib messageBody ct.charset
                match value with
                | .error e => (false, .error e)
                | .ok value => maybeInvokeSerialization lib value .load entry

/-- What reading `m` decodes to: decompressed, then deserialized. -/
def decodeBody (m : Message) : Except PyExc (PyVal V) := do
  let b ← (maybeDecompressBody lib m).2
  (maybeDeserializeBody lib m b).2

@[simp] theorem mapError_eq_ok {ε ε' α : Type} {f : ε → ε'} {x : Except ε α} {a : α} :
    x.mapError f = .ok a ↔ x = .ok a := by
  cases x <;> simp [Except.mapError]

/-- The bytes a `str` or `bytes` value travels as, a `str` as its UTF-8 encoding, as
`_compress` and `pika` both send it. -/
def carried : PyVal V → List UInt8
  | .bytes b => b
  | .str x => x.toUTF8.data.toList
  | _ => []

/-- A value that is not a string, serialized by a module codec: the module was imported
and its dumper returned the result. -/
theorem serialize_of_ok {value w : PyVal V} {ct : ContentType} {entry : Serialization}
    (he : (registry lib).lookup ct.key = some entry) (hc : entry.common = true)
    (hv : value.isString = false) (h : serialize lib value ct = .ok w) :
    lib.importModule entry.module = .ok () ∧ lib.call entry.module entry.dump value = .ok w := by
  have hd : maybeDecode lib value ct.charset = .ok value := by
    cases value <;> simp_all [maybeDecode, PyVal.isString]
  unfold serialize at h
  simp only [he] at h
  split at h
  · simp only [hd, bind, Except.bind, maybeInvokeSerialization, hc, if_true] at h
    rcases hi : lib.importModule entry.module with e | ⟨⟩ <;> simp only [hi] at h
    · cases h
    · exact ⟨rfl, mapError_eq_ok.mp h⟩
  · cases h

/-- A compression that returned: the value was a string, the module was imported, and
its `compress` was called on the bytes the value travels as. -/
theorem compress_of_ok {value y : PyVal V} {moduleName : String}
    (h : compress lib value moduleName = .ok y) :
    value.isString = true ∧ lib.importModule moduleName = .ok () ∧
      lib.call moduleName "compress" (.bytes (carried value)) = .ok y := by
  unfold compress at h
  rcases value with _ | x | b | v <;>
    rcases hi : lib.importModule moduleName with e | ⟨⟩ <;>
    simp only [hi, bind, Except.bind, pure, Except.pure] at h <;>
    first | cases h | exact ⟨rfl, rfl, h⟩

/-- Reading decompresses with the module `_CODEC_MAP` gives the lower-cased
`content_encoding`, if it gives one. -/
theorem maybeDecompressBody_snd (m : Message) :
    (maybeDecompressBody lib m).2 =
      match (lowered lib m.properties.contentEncoding).bind (codecMap.lookup ·) with
      | some moduleName =>
          lib.importModule moduleName >>= fun _ => lib.call moduleName "decompress" (.bytes m.body)
      | none => .ok (.bytes m.body) := by
  unfold maybeDecompressBody
  rcases lowered lib m.properties.contentEncoding with _ | encoding
  · rfl
  · rcases hm : codecMap.lookup encoding with _ | moduleName <;> simp only [hm, Option.bind]
    rcases lib.importModule moduleName with e | ⟨⟩ <;> rfl

/-- Reading deserializes with the module codec the lower-cased `content_type` names:
a text codec is handed the body decoded by the `charset` parameter. -/
theorem maybeDeserializeBody_of_common {m : Message} {c : String} {ct : ContentType}
    {entry : Serialization} (hl : lowered lib m.properties.contentType = some c)
    (hp : lib.parseContentType c = .ok ct) (he : (registry lib).lookup ct.key = some entry)
    (hen : entry.enabled = true) (hc : entry.common = true)
    (hi : lib.importModule entry.module = .ok ()) (b : PyVal V) :
    (maybeDeserializeBody lib m b).2 =
      ((if entry.binary then .ok b else maybeDecode lib b ct.charset) >>= fun x =>
        (lib.call entry.module entry.load x).mapError (asMessageException "serialization-load")) := by
  unfold maybeDeserializeBody
  simp only [hl, hp, he, hen, Bool.not_true, Bool.false_eq_true, if_false]
  rcases (if entry.binary then .ok b else maybeDecode lib b ct.charset : Except PyExc (PyVal V))
    with e | x
  · rfl
  · simp only [maybeInvokeSerialization, hc, if_true, hi, MethodType.name, Serialization.method]
    rfl

end Smart

end Rejected

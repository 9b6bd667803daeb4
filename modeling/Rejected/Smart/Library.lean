import Rejected.Csv.Sniffer

/-!
# The libraries `SmartConsumer` calls

`SmartConsumer` serializes and compresses what it publishes, and decompresses and
deserializes what it reads, by calling modules it imports by name: the codecs of
`_CODEC_MAP` and of `_SERIALIZATION_MAP`, `ietfparse` for content types, `csv` and
`bs4` for its own loaders and dumpers. What those libraries do is not in the
repository, so it is a record of functions, `Library`, on Python values drawn from a
type `V` of objects. The round-trip laws a theorem assumes of them are hypotheses of the
theorems, never fields of the record. Of `csv`, which the `Csv` modules model, only
the regular-expression step of the sniffer and the reader object stay in the record.

The two maps are data: a registry entry names the module and the functions to call,
whether the codec works on bytes, whether it is enabled, and whether the functions
are the module's or the consumer's own.
-/
namespace Rejected

/-- `ietfparse.datastructures.ContentType`. -/
structure ContentType where
  contentType : String
  contentSubtype : String
  parameters : List (String × String) := []
  deriving DecidableEq

/-- `'{}/{}'.format(ct.content_type, ct.content_subtype)`. -/
def ContentType.key (ct : ContentType) : String := ct.contentType ++ "/" ++ ct.contentSubtype

/-- `ct.parameters.get('charset', 'utf-8')`. -/
def ContentType.charset (ct : ContentType) : String := (ct.parameters.lookup "charset").getD "utf-8"

/-- What `SmartConsumer` calls outside the repository, on Python values drawn from `V`. -/
structure Library (V : Type) where
  /-- `ietfparse.headers.parse_content_type`, which raises on a malformed value. -/
  parseContentType : String → Except PyExc ContentType
  /-- `str.lower`. -/
  lower : String → String
  /-- `bytes.decode(encoding)`. -/
  decode : String → List UInt8 → Except PyExc String
  /-- `importlib.import_module(name)`, which raises when the package is missing. -/
  importModule : String → Except PyExc Unit
  /-- `getattr(module, name)(value)`. -/
  call : String → String → PyVal V → Except PyExc (PyVal V)
  /-- The truth value of an object. -/
  truthy : V → Bool
  /-- `str(value)`. -/
  str : PyVal V → String
  /-- Whether `u-msgpack-python` is installed. -/
  msgpackInstalled : Bool
  /-- Whether `beautifulsoup4` and `lxml` are installed. -/
  bs4Installed : Bool
  /-- `bs4.BeautifulSoup(value, features)`. -/
  beautifulSoup : PyVal V → String → Except PyExc (PyVal V)
  /-- The rows `_dump_csv` iterates, each as the keys and values of its dict. -/
  csvRows : PyVal V → Except PyExc (List (List (String × PyVal V)))
  /-- `csv.Sniffer()._guess_quote_and_delimiter(sample, None)`. -/
  guessQuoteAndDelimiter : String → Csv.QuoteGuess
  /-- `csv.DictReader(buff, dialect=dialect)` over a buffer holding a text: the reader,
  whose rows are `Csv.readDicts dialect text`. -/
  dictReader : String → Csv.Dialect → V

/-- The text the csv writer makes of a value: `''` for `None`, a `str` itself, and
`str(value)` for anything else. -/
def PyVal.cell {V : Type} (str : PyVal V → String) : PyVal V → String
  | .none => ""
  | .str s => s
  | v => str v

/-- Python truth of a value. -/
def PyVal.truthy {V : Type} (isTrue : V → Bool) : PyVal V → Bool
  | .none => false
  | .str s => decide (s ≠ "")
  | .bytes b => !b.isEmpty
  | .obj v => isTrue v

/-- `isinstance(body, str) or isinstance(body, bytes)`. -/
def PyVal.isString {V : Type} : PyVal V → Bool
  | .str _ | .bytes _ => true
  | _ => false

/-- An entry of `_SERIALIZATION_MAP`. -/
structure Serialization where
  module : String
  load : String
  dump : String
  binary : Bool := false
  enabled : Bool := true
  common : Bool := true
  deriving DecidableEq

/-- `_SERIALIZATION_MAP`, with the `enabled` flags `__init__` sets from the installed
packages. -/
def serializationMap (msgpack bs4 : Bool) : List (String × Serialization) :=
  [("application/json", { module := "json", load := "loads", dump := "dumps" }),
   ("application/msgpack",
     { module := "umsgpack", load := "unpackb", dump := "packb", binary := true,
       enabled := msgpack }),
   ("application/pickle", { module := "pickle", load := "loads", dump := "dumps", binary := true }),
   ("application/x-pickle",
     { module := "pickle", load := "loads", dump := "dumps", binary := true }),
   ("application/x-plist",
     { module := "plistlib", load := "loads", dump := "dumps", binary := true }),
   ("application/vnd.python.pickle",
     { module := "pickle", load := "loads", dump := "dumps", binary := true }),
   ("application/x-vnd.python.pickle",
     { module := "pickle", load := "loads", dump := "dumps", binary := true }),
   ("text/csv", { module := "csv", load := "_load_csv", dump := "_dump_csv", common := false }),
   ("text/html",
     { module := "bs4", load := "_load_html", dump := "_dump_bs4", common := false,
       enabled := bs4 }),
   ("text/xml",
     { module := "bs4", load := "_load_xml", dump := "_dump_bs4", common := false,
       enabled := bs4 }),
   ("text/yaml", { module := "yaml", load := "load", dump := "dump" })]

/-- `_CODEC_MAP`: content encodings and the modules that compress them. -/
def codecMap : List (String × String) := [("bzip2", "bz2"), ("gzip", "zlib"), ("zlib", "zlib")]

/-- The class `MessageException`. -/
def messageExceptionClass : ExcClass :=
  { name := "MessageException", message := true, exception := true, handled := fun _ => rfl }

/-- `MessageException(str(err), metric)`. Modelled from the docstring of
`MessageException`, as its base class `errors.RejectedException` is not among the
sources: the first argument is the value, the second the metric. -/
def messageException (err : PyExc) (metric : String) : PyExc :=
  ⟨messageExceptionClass, some metric, err.message⟩

/-- `zlib.error`, as `zlib.decompress` raises it on bytes without a zlib header. -/
def zlibError : PyExc :=
  { cls := .builtin "zlib.error"
    message := "Error -3 while decompressing data: incorrect header check" }

/-- A small library to run the model on. `json` writes `None` as `null`; `zlib` marks
what it compresses with the byte `0x78` and refuses bytes without it; every other codec
raises `ValueError('Invalid file')`, as `plistlib.loads` does on bytes that are not a
property list. Content types split at the first `/`, bytes decode one to a character,
and no sample holds a quoted field. -/
def sampleLibrary : Library Unit where
  parseContentType s := match s.data.span (· != '/') with
    | (t, _ :: st) => .ok { contentType := ⟨t⟩, contentSubtype := ⟨st⟩ }
    | _ => .error (valueError "")
  lower s := ⟨s.data.map Char.toLower⟩
  decode _ b := .ok ⟨b.map fun x => Char.ofNat x.toNat⟩
  importModule _ := .ok ()
  call module name value := match module, name, value with
    | "json", "dumps", .none => .ok (.str "null")
    | "json", "loads", .str "null" => .ok .none
    | "zlib", "compress", .bytes b => .ok (.bytes (0x78 :: b))
    | "zlib", "decompress", .bytes (h :: b) => if h = 0x78 then .ok (.bytes b) else .error zlibError
    | "zlib", "decompress", _ => .error zlibError
    | _, _, _ => .error (valueError "Invalid file")
  truthy _ := true
  str _ := "null"
  msgpackInstalled := false
  bs4Installed := false
  beautifulSoup _ _ := .error attributeError
  csvRows _ := .ok []
  guessQuoteAndDelimiter _ := .none
  dictReader _ _ := ()

end Rejected

import Rejected.Smart.Publish
import Rejected.Csv.Reader
import Mathlib.Data.List.Dedup

/-!
# A table through `text/csv`

`_dump_csv` writes a list of dicts with `csv.DictWriter` in the `excel` dialect, under
the sorted keys. `_load_csv` guesses a dialect from the first 1024 characters with
`csv.Sniffer().sniff`, and returns a `csv.DictReader` over the whole text. The two
sides agree when the sniffer settles on `excel`'s comma, finds no quoting and does not
skip initial spaces.

That takes a table of at least two columns, each row with the same keys, and no key or
value holding `,`, a quote character or a line break. The sniffer reads the lines of
its sample ten at a time: each of the first ten must hold all its commas, which fails
only when the cut at 1024 characters falls before the last comma of one of them, and
a space must not follow every comma of the first. Both hold when the header and the
first nine rows take at most 1024 characters and some key after the first, in sorted
order, does not start with a space. The rows `DictReader` yields are then the rows
written, as dicts. With one column the lines hold no comma, so the sniffer takes another
character that every line holds equally often, such as a space.

`body` keeps the reader, which Python counts as true, so every later read returns the
same reader without decoding again: a one-pass iterator, already consumed if it was
iterated. The model records a reader by its text and dialect, and gives the rows a
first iteration yields.

The writing side needs none of this: for any rows, ragged or holding quotes and line
breaks, `DictWriter` never raises, since the header holds every key of every row and
`excel` doubles quote characters.
-/
namespace Rejected

namespace Smart

open Csv

/-- A character the writer never quotes for and the sniffer never takes for a quote or a
line break. -/
def PlainChar (c : Char) : Prop := c ≠ ',' ∧ c ≠ '"' ∧ c ≠ '\'' ∧ c ≠ '\r' ∧ c ≠ '\n'

instance : DecidablePred PlainChar := fun _ => inferInstanceAs (Decidable (_ ∧ _))

/-- Dicts of `str` values that `_dump_csv` and `_load_csv` agree on. -/
structure Table where
  keys : List String
  rows : List (List (String × String))
  keys_nodup : keys.Nodup
  two_keys : 2 ≤ keys.length
  rows_ne_nil : rows ≠ []
  row_keys : ∀ r ∈ rows, (r.map Prod.fst).Perm keys
  plain : ∀ r ∈ rows, ∀ kv ∈ r, (∀ c ∈ kv.1.data, PlainChar c) ∧ ∀ c ∈ kv.2.data, PlainChar c

/-- A dict `DictReader` yields equals a dict of `str` values: the same entries, in any
order. -/
def DictEq (out : List (Option String × Cell)) (r : List (String × String)) : Prop :=
  out.Perm (r.map fun kv => (some kv.1, .text kv.2))

namespace Table

variable (t : Table)

/-- The rows as `_dump_csv` iterates them. -/
def pyRows {V : Type} : List (List (String × PyVal V)) :=
  t.rows.map (·.map fun kv => (kv.1, .str kv.2))

/-- The header `DictWriter` writes: the sorted keys. -/
def header : List String := fieldnames t.rows

/-- The lines of the text `_dump_csv` writes: the header, then each row's values. -/
def lines : List (List String) := t.header :: t.rows.map (Dialect.values t.header)

/-- The text `_dump_csv` writes. -/
def text : String := ⟨t.lines.flatMap excel.line⟩

theorem header_perm : t.header.Perm t.keys := by
  refine (List.perm_insertionSort _ _).trans ((List.perm_ext_iff_of_nodup (List.nodup_dedup _)
    t.keys_nodup).mpr fun k => ?_)
  obtain ⟨r₀, hr₀⟩ := List.exists_mem_of_ne_nil _ t.rows_ne_nil
  simp only [List.mem_dedup, List.mem_flatMap]
  exact ⟨fun ⟨r, hr, hk⟩ => (t.row_keys r hr).subset hk,
    fun hk => ⟨r₀, hr₀, (t.row_keys r₀ hr₀).symm.subset hk⟩⟩

theorem lookup_of_mem {r : List (String × String)} (hr : r ∈ t.rows) {kv : String × String}
    (h : kv ∈ r) : r.lookup kv.1 = some kv.2 := by
  have hn : (r.map Prod.fst).Nodup := (t.row_keys r hr).nodup_iff.mpr t.keys_nodup
  clear hr
  induction r with
  | nil => cases h
  | cons e r ih =>
      obtain ⟨k, b⟩ := e
      rcases List.mem_cons.mp h with rfl | h
      · exact List.lookup_cons_self
      · have hne : kv.1 ≠ k := fun he =>
          (List.nodup_cons.mp hn).1 (List.mem_map.mpr ⟨kv, h, he⟩)
        rw [List.lookup_cons, beq_false_of_ne hne]
        exact ih h (List.nodup_cons.mp hn).2

theorem values_of_mem {r : List (String × String)} (hr : r ∈ t.rows) {k : String}
    (hk : k ∈ t.header) : ∃ kv ∈ r, kv.1 = k ∧ (r.lookup k).getD "" = kv.2 := by
  obtain ⟨kv, hkv, rfl⟩ := List.mem_map.mp ((t.row_keys r hr).symm.subset (t.header_perm.subset hk))
  exact ⟨kv, hkv, rfl, by rw [t.lookup_of_mem hr hkv]; rfl⟩

theorem lines_length : ∀ fs ∈ t.lines, fs.length = t.keys.length := by
  simp only [lines, List.mem_cons, List.mem_map, Dialect.values]
  rintro fs (rfl | ⟨r, -, rfl⟩) <;> simp [t.header_perm.length_eq]

theorem lines_ne_single {fs : List String} (h : fs ∈ t.lines) (x : String) : fs ≠ [x] :=
  fun hx => absurd (t.lines_length fs h ▸ t.two_keys) (by rw [hx]; simp)

theorem lines_plain : ∀ fs ∈ t.lines, ∀ f ∈ fs, ∀ c ∈ f.data, PlainChar c := by
  obtain ⟨r₀, hr₀⟩ := List.exists_mem_of_ne_nil _ t.rows_ne_nil
  simp only [lines, List.mem_cons, List.mem_map, Dialect.values]
  rintro fs (rfl | ⟨r, hr, rfl⟩) f hf
  · obtain ⟨kv, hkv, rfl, -⟩ := t.values_of_mem hr₀ hf
    exact (t.plain r₀ hr₀ kv hkv).1
  · obtain ⟨k, hk, rfl⟩ := List.mem_map.mp hf
    obtain ⟨kv, hkv, -, hv⟩ := t.values_of_mem hr hk
    rw [hv]
    exact (t.plain r hr kv hkv).2

theorem text_no_quote : '"' ∉ t.text.data ∧ '\'' ∉ t.text.data := by
  have hc : ∀ c ∈ t.text.data, c ≠ '"' ∧ c ≠ '\'' := fun c hc => by
    rcases excel.mem_flatMap_line hc with rfl | hc | ⟨fs, hfs, f, hf, hc⟩
    · decide
    · simp only [excel, List.mem_cons, List.mem_singleton, List.not_mem_nil, or_false] at hc
      rcases hc with rfl | rfl <;> decide
    · exact ⟨(t.lines_plain fs hfs f hf c hc).2.1, (t.lines_plain fs hfs f hf c hc).2.2.1⟩
  exact ⟨fun h => (hc _ h).1 rfl, fun h => (hc _ h).2 rfl⟩

theorem dumpCsv_eq {V : Type} {lib : Library V} {v : PyVal V} (himport : lib.importModule "csv" = .ok ())
    (hrows : lib.csvRows v = .ok t.pyRows) : dumpCsv lib v = .ok (.str t.text) := by
  have hcell : (t.pyRows : List (List (String × PyVal V))).map
      (·.map fun kv => (kv.1, kv.2.cell lib.str)) = t.rows := by
    simp [pyRows, Function.comp_def, PyVal.cell]
  have hnames : fieldnames (t.pyRows : List (List (String × PyVal V))) = t.header := by
    simp [pyRows, header, fieldnames, List.flatMap, Function.comp_def]
  have hwrite : excel.writeDicts t.header t.rows = .ok t.text := by
    refine Dialect.writeDicts_of_plain (fun r hr k hk => ?_) fun fs hfs => ⟨fun f hf c hc => ?_, ?_⟩
    · obtain ⟨kv, hkv, rfl⟩ := List.mem_map.mp hk
      exact t.header_perm.symm.subset ((t.row_keys r hr).subset (List.mem_map_of_mem _ hkv))
    · obtain ⟨h1, h2, -, h4, h5⟩ := t.lines_plain fs hfs f hf c hc
      simp [Dialect.special, excel, h1, h2, h4, h5]
    · exact t.lines_ne_single hfs ""
  simp only [dumpCsv, himport, hrows, hcell, hnames, hwrite, bind, Except.bind, Functor.map,
    Except.map]

/-- `DictReader` over the text, in the dialect the sniffer guesses, yields a dict equal
to each row. -/
theorem readDicts_text : ∃ out, readDicts sniffedComma t.text = .ok out ∧
    List.Forall₂ DictEq out t.rows := by
  have hsimple : sniffedComma.Simple := ⟨by decide, by decide, by decide, rfl, rfl⟩
  have hline : sniffedComma.line = excel.line := rfl
  have hord : ∀ fs ∈ t.lines, fs ≠ [""] ∧ ∀ f ∈ fs, sniffedComma.Ordinary f := fun fs hfs =>
    ⟨t.lines_ne_single hfs "", fun f hf c hc => by
        obtain ⟨h1, h2, -, h4, h5⟩ := t.lines_plain fs hfs f hf c hc
        exact ⟨h1, h2, h5, h4⟩⟩
  have hrecords : records sniffedComma (ioLines t.text.data) {} = .ok t.lines := by
    rw [text, ← hline, ioLines_flatMap hsimple fun fs hfs f hf h =>
      (t.lines_plain fs hfs f hf '\n' h).2.2.2.2 rfl]
    exact records_lines hsimple hord
  have hnodup : t.header.Nodup := t.header_perm.nodup_iff.mpr t.keys_nodup
  have hfilter : (t.rows.map (Dialect.values t.header)).filter (· ≠ []) =
      t.rows.map (Dialect.values t.header) := List.filter_eq_self.mpr fun fs hfs => by
    have := t.lines_length fs (List.mem_cons_of_mem _ hfs) ▸ t.two_keys
    simpa using List.ne_nil_of_length_pos (by omega)
  refine ⟨_, by simp only [readDicts, hrecords, lines, bind, Except.bind, hfilter]; rfl, ?_⟩
  rw [List.forall₂_map_left_iff, List.forall₂_map_left_iff]
  refine List.forall₂_same.mpr fun r hr => ?_
  have hvalues : (t.header.zip (Dialect.values t.header r)).map
      (fun kv => (some kv.1, Cell.text kv.2)) =
        t.header.map fun k => (some k, .text ((r.lookup k).getD "")) := by
    simp only [Dialect.values]
    induction t.header <;> simp_all
  rw [DictEq, dictRow_of_length hnodup (by simp [Dialect.values]), hvalues]
  have hperm : t.header.Perm (r.map Prod.fst) := t.header_perm.trans (t.row_keys r hr).symm
  refine (hperm.map _).trans ?_
  have hlookup : r.map ((fun k => (some k, Cell.text ((r.lookup k).getD ""))) ∘ Prod.fst) =
      r.map fun kv => (some kv.1, Cell.text kv.2) :=
    List.map_congr_left fun kv hkv => by simp [t.lookup_of_mem hr hkv]
  rw [List.map_map, hlookup]

theorem text_data : t.text.data = commaLine t.header ++
    '\n' :: (t.rows.map (Dialect.values t.header)).flatMap excel.line := by
  simp only [text, lines, List.flatMap_cons, excel_line, List.append_assoc, List.singleton_append]

theorem header_ne_nil : t.header ≠ [] :=
  List.ne_nil_of_length_pos (by have := t.two_keys; rw [t.header_perm.length_eq]; omega)

theorem sample_ne_nil : sampleLines (t.text.data.take 1024) ≠ [] := by
  obtain ⟨a, c, hc⟩ := List.exists_cons_of_ne_nil (commaLine_ne_nil t.header)
  have ha : a ≠ '\n' := fun h => newline_not_mem_commaLine
    (fun f hf h' => (t.lines_plain _ (List.mem_cons_self _ _) f hf _ h').2.2.2.2 rfl)
    (hc ▸ h ▸ List.mem_cons_self a c)
  rw [text_data, hc, List.cons_append, List.take_succ_cons]
  exact Csv.sampleLines_ne_nil ha _

/-- The sample of a table whose header and first nine rows take at most `n` characters:
those ten lines, then whatever the cut leaves of the rest. -/
theorem sampleLines_take {n : Nat} (hn : ((t.lines.take 10).flatMap excel.line).length ≤ n) :
    sampleLines (t.text.data.take n) = (t.lines.take 10).map commaLine ++ sampleLines
      (((t.lines.drop 10).flatMap excel.line).take (n - ((t.lines.take 10).flatMap excel.line).length)) := by
  have hsplit : t.text.data =
      (t.lines.take 10).flatMap excel.line ++ (t.lines.drop 10).flatMap excel.line := by
    rw [← List.flatMap_append, List.take_append_drop]; rfl
  rw [hsplit, List.take_append_eq_append_take, List.take_of_length_le hn]
  exact sampleLines_flatMap_line_append (fun fs hfs f hf h =>
    (t.lines_plain fs (List.mem_of_mem_take hfs) f hf '\n' h).2.2.2.2 rfl) _

/-- A table whose header and first nine rows take at most 1024 characters, and some key
of which after the first, in sorted order, does not start with a space, is read by the
sniffer as comma lines: the first ten lines of its sample hold all their commas, and a
space does not follow every comma of the first. -/
theorem sample_of_short (hsize : ((t.lines.take 10).flatMap excel.line).length ≤ 1024)
    (hspace : ∃ k ∈ t.header.tail, k.data.head? ≠ some ' ') :
    (∀ l ∈ (sampleLines (t.text.data.take 1024)).take 10, l.count ',' = t.keys.length - 1) ∧
      countSpaced ((sampleLines (t.text.data.take 1024)).headD []) ',' < t.keys.length - 1 := by
  have hfirst : (sampleLines (t.text.data.take 1024)).take 10 = (t.lines.take 10).map commaLine := by
    rw [t.sampleLines_take hsize]
    by_cases hlen : 10 ≤ t.lines.length
    · exact List.take_left' (by simp [hlen])
    · rw [List.drop_eq_nil_of_le (by omega), List.flatMap_nil, List.take_nil,
        show sampleLines [] = [] from rfl, List.append_nil, List.take_of_length_le (by simp)]
  have hcomma : ∀ fs ∈ t.lines, ∀ f ∈ fs, ',' ∉ f.data := fun fs hfs f hf h =>
    (t.lines_plain fs hfs f hf ',' h).1 rfl
  refine ⟨fun l hl => ?_, ?_⟩
  · rw [hfirst] at hl
    obtain ⟨fs, hfs, rfl⟩ := List.mem_map.mp hl
    rw [count_commaLine (hcomma fs (List.mem_of_mem_take hfs)),
      t.lines_length fs (List.mem_of_mem_take hfs)]
  · have hhead : (sampleLines (t.text.data.take 1024)).head? = some (commaLine t.header) := by
      simpa [lines, List.head?_take] using congrArg List.head? hfirst
    obtain ⟨f, gs, hh⟩ := List.exists_cons_of_ne_nil t.header_ne_nil
    have hlen : gs.length = t.keys.length - 1 := by
      rw [← t.header_perm.length_eq, hh, List.length_cons, Nat.add_sub_cancel]
    have hh' := hcomma _ (List.mem_cons_self _ _)
    rw [hh] at hh' hspace hhead
    rw [List.headD_eq_head?_getD, hhead, Option.getD_some,
      countSpaced_commaLine (hh' f (List.mem_cons_self f gs)) fun g hg => hh' g (List.mem_cons_of_mem f hg),
      ← hlen]
    exact List.length_filter_lt_length_iff_exists.mpr (by simpa using hspace)

end Table

theorem registry_csv {V : Type} (lib : Library V) : (registry lib).lookup "text/csv" =
    some { module := "csv", load := "_load_csv", dump := "_dump_csv", common := false } := rfl

section RoundTrip

variable {V : Type} {lib : Library V} {properties : Properties} {v : PyVal V} {pct : ContentType}
  (t : Table)

theorem encodeBody_table (hv : v.isString = false) (hrows : lib.csvRows v = .ok t.pyRows)
    (himport : lib.importModule "csv" = .ok ()) (hct : properties.contentType = some "text/csv")
    (henc : properties.contentEncoding = none) (hparse : lib.parseContentType "text/csv" = .ok pct)
    (hkey : pct.key = "text/csv") :
    encodeBody lib properties v false false = .ok (.str t.text) := by
  have hd : maybeDecode lib v pct.charset = .ok v := by
    cases v <;> simp_all [maybeDecode, PyVal.isString]
  simp [encodeBody, hv, hct, henc, hparse, serialize, hkey, registry_csv, hd,
    maybeInvokeSerialization, ownMethod, Serialization.method, t.dumpCsv_eq himport hrows, bind,
    Except.bind, Except.mapError, pure, Except.pure]

/-- Reading a text published under `text/csv` with no `content_encoding` gives a
`DictReader` over it in the dialect sniffed from its first 1024 characters. -/
theorem decodeBody_csv (m : Message) {text : String} {d : Dialect} (hm : m.properties = properties)
    (hbody : m.body = text.toUTF8.data.toList) (hct : properties.contentType = some "text/csv")
    (henc : properties.contentEncoding = none) (hparse : lib.parseContentType "text/csv" = .ok pct)
    (hkey : pct.key = "text/csv") (hlower : lib.lower "text/csv" = "text/csv")
    (hempty : lib.lower "" = "") (himport : lib.importModule "csv" = .ok ())
    (hdecode : lib.decode pct.charset text.toUTF8.data.toList = .ok text)
    (hsniff : sniff lib.guessQuoteAndDelimiter ⟨text.data.take 1024⟩ = .ok d) :
    decodeBody lib m = .ok (.obj (lib.dictReader text d)) := by
  have hlowered : lowered lib m.properties.contentEncoding = none := by
    simp [lowered, hm, henc, hempty]
  have hcsv : lowered lib m.properties.contentType = some "text/csv" := by
    simp [lowered, hm, hct, hlower]
  simp [decodeBody, maybeDecompressBody, hlowered, maybeDeserializeBody, hcsv, hparse, hkey,
    registry_csv, hbody, maybeDecode, hdecode, maybeInvokeSerialization, ownMethod,
    Serialization.method, loadCsv, himport, hsniff, bind, Except.bind, Functor.map, Except.map,
    Except.mapError, pure, Except.pure]

theorem decodeCalls_csv (m : Message) {text : String} (hm : m.properties = properties)
    (hbody : m.body = text.toUTF8.data.toList) (hct : properties.contentType = some "text/csv")
    (henc : properties.contentEncoding = none) (hparse : lib.parseContentType "text/csv" = .ok pct)
    (hkey : pct.key = "text/csv") (hlower : lib.lower "text/csv" = "text/csv")
    (hempty : lib.lower "" = "")
    (hdecode : lib.decode pct.charset text.toUTF8.data.toList = .ok text) :
    BodyState.decodeCalls lib m = [.load] := by
  have hlowered : lowered lib m.properties.contentEncoding = none := by
    simp [lowered, hm, henc, hempty]
  have hcsv : lowered lib m.properties.contentType = some "text/csv" := by
    simp [lowered, hm, hct, hlower]
  simp [BodyState.decodeCalls, maybeDecompressBody, hlowered, maybeDeserializeBody, hcsv, hparse,
    hkey, registry_csv, hbody, maybeDecode, hdecode, maybeInvokeSerialization, Except.mapError]

/-- The sniffer settles on `,`, with no quoting and no initial spaces to skip, when each
of the first ten lines of its sample holds all its commas and a space does not follow
every comma of the first, and the quote step finds nothing in a text with no quote
character. -/
theorem sniff_text
    (hquote : ∀ x : String, '"' ∉ x.data → '\'' ∉ x.data → lib.guessQuoteAndDelimiter x = .none)
    (hsample : ∀ l ∈ (sampleLines (t.text.data.take 1024)).take 10, l.count ',' = t.keys.length - 1)
    (hspace : countSpaced ((sampleLines (t.text.data.take 1024)).headD []) ',' < t.keys.length - 1) :
    sniff lib.guessQuoteAndDelimiter ⟨t.text.data.take 1024⟩ = .ok sniffedComma :=
  sniff_of_commas (hquote _ (fun h => t.text_no_quote.1 (List.mem_of_mem_take h))
    fun h => t.text_no_quote.2 (List.mem_of_mem_take h)) (by have := t.two_keys; omega)
    t.sample_ne_nil hsample hspace

end RoundTrip

/-- Values of the library the table examples run on: the rows handed to
`publish_message`, or a `DictReader` over a text in a dialect. -/
inductive TableValue where
  | rows (rows : List (List (String × String)))
  | reader (text : String) (dialect : Dialect)

/-- `sampleLibrary`'s text handling, with lists of dicts of `str` values as the rows
`_dump_csv` iterates, and a `DictReader` recorded with its text and dialect. -/
def tableLibrary : Library TableValue where
  parseContentType := sampleLibrary.parseContentType
  lower := sampleLibrary.lower
  decode := sampleLibrary.decode
  importModule := sampleLibrary.importModule
  call _ _ _ := .error (valueError "Invalid file")
  truthy _ := true
  str _ := ""
  msgpackInstalled := false
  bs4Installed := false
  beautifulSoup _ _ := .error attributeError
  csvRows v := match v with
    | .obj (.rows rows) => .ok (rows.map (·.map fun kv => (kv.1, .str kv.2)))
    | _ => .error typeError
  guessQuoteAndDelimiter := sampleLibrary.guessQuoteAndDelimiter
  dictReader := .reader

/-- `text/csv`, with no `content_encoding`. -/
def csvProperties : Properties := { contentType := some "text/csv" }

/-- Two columns, the second row's keys in the other order. -/
def pairTable : Table where
  keys := ["id", "name"]
  rows := [[("id", "1"), ("name", "ann")], [("name", "bo"), ("id", "2")]]
  keys_nodup := by decide
  two_keys := by decide
  rows_ne_nil := by decide
  row_keys := by decide
  plain := by decide

end Smart

end Rejected

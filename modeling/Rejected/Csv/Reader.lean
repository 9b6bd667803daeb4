import Rejected.Csv.Writer

/-!
# Reading CSV

`csv.reader` and `csv.DictReader`, after CPython's `Modules/_csv.c` and `Lib/csv.py`.
The reader is the state machine of `parse_process_char`, fed each line of its input
and then an end-of-line mark; a record is returned once the machine is back at the
start of a record after a line. With no escape character the escape states are never
entered, and `strict` is not set. The input is a `StringIO` buffer, whose lines end
after each `\n`.

`DictReader` takes the first record as the field names, skips empty records, and makes
a dict of every other: a value per field name, the extra values of a long record under
the key `None`, and `None` for the field names a short record lacks.
-/
namespace Rejected

namespace Csv

inductive ParseState where
  | startRecord
  | startField
  | inField
  | inQuotedField
  | quoteInQuotedField
  | eatCrnl
  deriving DecidableEq, Repr

/-- The reader within a record: its state, the fields saved, the field being read. -/
structure Parser where
  state : ParseState := .startRecord
  fields : List String := []
  field : List Char := []
  deriving DecidableEq

namespace Parser

/-- `parse_save_field`. -/
def save (p : Parser) : Parser := { p with fields := p.fields ++ [⟨p.field⟩], field := [] }

/-- `parse_add_char`. -/
def add (p : Parser) (c : Char) : Parser := { p with field := p.field ++ [c] }

/-- `p` moved to state `s`. -/
def goto (p : Parser) (s : ParseState) : Parser := { p with state := s }

/-- The end of a record at a line break, `none` being the end of a line. -/
def endRecord (p : Parser) (c : Option Char) : Parser :=
  p.save.goto (if c = none then .startRecord else .eatCrnl)

variable (d : Dialect)

/-- The `START_FIELD` case, which `START_RECORD` falls through to. -/
def startField (p : Parser) (c : Option Char) : Parser :=
  match c with
  | some c =>
      if c = '\n' ∨ c = '\r' then p.endRecord (some c)
      else if c = d.quotechar then p.goto .inQuotedField
      else if c = ' ' ∧ d.skipinitialspace then p
      else if c = d.delimiter then p.save
      else (p.add c).goto .inField
  | none => p.endRecord none

/-- `parse_process_char`, with `none` for the end of a line. -/
def step (p : Parser) (c : Option Char) : Except PyExc Parser :=
  match p.state with
  | .startRecord =>
      match c with
      | none => .ok p
      | some '\n' | some '\r' => .ok (p.goto .eatCrnl)
      | some c => .ok (startField d (p.goto .startField) (some c))
  | .startField => .ok (startField d p c)
  | .inField =>
      match c with
      | some c =>
          if c = '\n' ∨ c = '\r' then .ok (p.endRecord (some c))
          else if c = d.delimiter then .ok (p.save.goto .startField)
          else .ok (p.add c)
      | none => .ok (p.endRecord none)
  | .inQuotedField =>
      match c with
      | none => .ok p
      | some c =>
          if c = d.quotechar then
            .ok (p.goto (if d.doublequote then .quoteInQuotedField else .inField))
          else .ok (p.add c)
  | .quoteInQuotedField =>
      match c with
      | some c =>
          if c = d.quotechar then .ok ((p.add c).goto .inQuotedField)
          else if c = d.delimiter then .ok (p.save.goto .startField)
          else if c = '\n' ∨ c = '\r' then .ok (p.endRecord (some c))
          else .ok ((p.add c).goto .inField)
      | none => .ok (p.endRecord none)
  | .eatCrnl =>
      match c with
      | some '\n' | some '\r' => .ok p
      | none => .ok (p.goto .startRecord)
      | some _ =>
          .error (error ("new-line character seen in unquoted field - " ++
            "do you need to open the file with newline=''?"))

end Parser

/-- One line through the reader: its characters, then the end of the line. -/
def readLine (d : Dialect) (p : Parser) (line : List Char) : Except PyExc Parser :=
  (line.map some ++ [none]).foldlM (Parser.step d) p

/-- The records `csv.reader` returns from the lines of its input, the parser holding
the part of a record read so far. At the end of the input a record in progress is
returned if a field is open. -/
def records (d : Dialect) : List (List Char) → Parser → Except PyExc (List (List String))
  | [], p => .ok (if p.field ≠ [] ∨ p.state = .inQuotedField then [p.save.fields] else [])
  | line :: rest, p => do
      let p ← readLine d p line
      if p.state = .startRecord then
        let rs ← records d rest {}
        pure (p.fields :: rs)
      else records d rest p

/-- The lines of a `StringIO` buffer, each ending after its `\n`. -/
def ioLines (text : List Char) : List (List Char) := go text []
where
  go : List Char → List Char → List (List Char)
    | [], [] => []
    | [], acc => [acc.reverse]
    | c :: t, acc => if c = '\n' then (c :: acc).reverse :: go t [] else go t (c :: acc)

/-- A value of a dict `DictReader` builds. -/
inductive Cell where
  | text (s : String)
  | none
  | list (values : List String)
  deriving DecidableEq, Repr

/-- `dict[key] = value`: the entry keeps its place, a new key goes last. -/
def dictSet {κ : Type} [DecidableEq κ] : List (κ × Cell) → κ → Cell → List (κ × Cell)
  | [], k, v => [(k, v)]
  | (k', v') :: es, k, v => if k' = k then (k, v) :: es else (k', v') :: dictSet es k v

/-- The dict `DictReader.__next__` builds from a record. -/
def dictRow (fieldnames row : List String) : List (Option String × Cell) :=
  let d := (fieldnames.zip row).foldl (fun d kv => dictSet d (some kv.1) (.text kv.2)) []
  if fieldnames.length < row.length then dictSet d none (.list (row.drop fieldnames.length))
  else (fieldnames.drop row.length).foldl (fun d k => dictSet d (some k) .none) d

/-- The rows `csv.DictReader` over a buffer holding `text` yields, read to the end. -/
def readDicts (d : Dialect) (text : String) : Except PyExc (List (List (Option String × Cell))) := do
  match ← records d (ioLines text.data) {} with
  | [] => pure []
  | header :: rest => pure ((rest.filter (· ≠ [])).map (dictRow header))

namespace Dialect

/-- What reading a record of plain fields needs of a dialect. -/
structure Simple (d : Dialect) : Prop where
  delimiter_ne_lf : d.delimiter ≠ '\n'
  delimiter_ne_cr : d.delimiter ≠ '\r'
  delimiter_ne_quote : d.delimiter ≠ d.quotechar
  no_skip : d.skipinitialspace = false
  crlf : d.lineterminator = "\r\n"

/-- A field the reader reads back as written: no delimiter, quote character or line
break. -/
def Ordinary (d : Dialect) (f : String) : Prop :=
  ∀ c ∈ f.data, c ≠ d.delimiter ∧ c ≠ d.quotechar ∧ c ≠ '\n' ∧ c ≠ '\r'

end Dialect

namespace Parser

variable {d : Dialect}

theorem foldlM_inField {p : Parser} (hp : p.state = .inField) {cs : List Char}
    (h : ∀ c ∈ cs, c ≠ d.delimiter ∧ c ≠ '\n' ∧ c ≠ '\r') :
    (cs.map some).foldlM (step d) p = .ok { p with field := p.field ++ cs } := by
  induction cs generalizing p with
  | nil => simp [pure, Except.pure]
  | cons c cs ih =>
      obtain ⟨hd, hn, hr⟩ := h c (List.mem_cons_self c cs)
      have hstep : step d p (some c) = .ok (p.add c) := by simp [step, hp, hd, hn, hr]
      rw [List.map_cons, List.foldlM_cons, hstep]
      simpa [add, List.append_assoc] using @ih (p.add c) hp fun c' hc' =>
        h c' (List.mem_cons_of_mem c hc')

theorem step_startField_of_ordinary (hd : d.Simple) {p : Parser} (hp : p.state = .startField)
    {x : Char} (hx : x ≠ d.delimiter ∧ x ≠ d.quotechar ∧ x ≠ '\n' ∧ x ≠ '\r') :
    step d p (some x) = .ok ((p.add x).goto .inField) := by
  obtain ⟨h1, h2, h3, h4⟩ := hx
  simp [step, startField, hp, h1, h2, h3, h4, hd.no_skip]

theorem step_end (hd : d.Simple) (p : Parser) (hp : p.state = .startField ∨ p.state = .inField)
    {c : Char} (hc : c = d.delimiter ∨ c = '\r') :
    step d p (some c) = .ok (p.save.goto (if c = '\r' then .eatCrnl else .startField)) := by
  have hq := hd.delimiter_ne_quote
  have hl := hd.delimiter_ne_lf
  have hr := hd.delimiter_ne_cr
  rcases hc with rfl | rfl <;> rcases hp with hp | hp <;>
    simp [step, startField, endRecord, hp, hq, hl, hr, hd.no_skip, Ne.symm hr, save, goto]

/-- A field read from the start of a field up to the delimiter or `\r` after it. -/
theorem foldlM_field (hd : d.Simple) {p : Parser} (hp : p.state = .startField)
    (hf : p.field = []) {f : String} (h : d.Ordinary f) {c : Char}
    (hc : c = d.delimiter ∨ c = '\r') :
    (f.data.map some ++ [some c]).foldlM (step d) p =
      .ok ⟨if c = '\r' then .eatCrnl else .startField, p.fields ++ [f], []⟩ := by
  obtain ⟨data⟩ := f
  cases data with
  | nil =>
      simp only [List.map_nil, List.nil_append, List.foldlM_cons, List.foldlM_nil,
        step_end hd p (.inl hp) hc]
      cases p
      simp_all [save, goto, pure, Except.pure, bind, Except.bind]
  | cons x xs =>
      have hx := h x (List.mem_cons_self x xs)
      have hxs : ∀ c ∈ xs, c ≠ d.delimiter ∧ c ≠ '\n' ∧ c ≠ '\r' := fun c hc' =>
        have := h c (List.mem_cons_of_mem x hc'); ⟨this.1, this.2.2⟩
      simp only [List.map_cons, List.cons_append, List.foldlM_cons,
        step_startField_of_ordinary hd hp hx, bind, Except.bind]
      have hmid : (xs.map some).foldlM (step d) ((p.add x).goto .inField) =
          .ok ⟨.inField, p.fields, x :: xs⟩ := by
        rw [foldlM_inField rfl hxs]
        cases p
        simp_all [add, goto]
      rw [List.foldlM_append, hmid]
      simp only [bind, Except.bind, List.foldlM_cons, List.foldlM_nil,
        step_end hd ⟨.inField, p.fields, x :: xs⟩ (.inr rfl) hc]
      rfl

/-- The fields of a record and the line break after it, from the start of a field. -/
theorem foldlM_fields (hd : d.Simple) {p : Parser} (hp : p.state = .startField)
    (hf : p.field = []) {fs : List String} (hne : fs ≠ []) (h : ∀ f ∈ fs, d.Ordinary f) :
    (([d.delimiter].intercalate (fs.map String.data)).map some ++ [some '\r', some '\n', none]).foldlM
      (step d) p = .ok ⟨.startRecord, p.fields ++ fs, []⟩ := by
  induction fs generalizing p with
  | nil => exact absurd rfl hne
  | cons f fs ih =>
      have hf' := h f (List.mem_cons_self f fs)
      cases fs with
      | nil =>
          have hsplit : ([d.delimiter].intercalate ([f].map String.data)).map some ++
              [some '\r', some '\n', none] =
              (f.data.map some ++ [some '\r']) ++ [some '\n', none] := by simp [List.intercalate]
          rw [hsplit, List.foldlM_append, foldlM_field hd hp hf hf' (.inr rfl)]
          rfl
      | cons g gs =>
          have hsplit : ([d.delimiter].intercalate ((f :: g :: gs).map String.data)).map some ++
              [some '\r', some '\n', none] = (f.data.map some ++ [some d.delimiter]) ++
                (([d.delimiter].intercalate ((g :: gs).map String.data)).map some ++
                  [some '\r', some '\n', none]) := by
            simp [intercalate_cons₂]
          rw [hsplit, List.foldlM_append, foldlM_field hd hp hf hf' (.inl rfl)]
          simp only [bind, Except.bind, if_neg hd.delimiter_ne_cr]
          rw [ih rfl rfl (List.cons_ne_nil g gs) fun x hx => h x (List.mem_cons_of_mem f hx)]
          simp

theorem foldlM_startRecord {p : Parser} (hp : p.state = .startRecord) {c : Char}
    (hc : c ≠ '\n' ∧ c ≠ '\r') (rest : List (Option Char)) :
    (some c :: rest).foldlM (step d) p = (some c :: rest).foldlM (step d) (p.goto .startField) := by
  simp only [List.foldlM_cons]
  congr 1
  simp only [step, hp, goto]
  split <;> simp_all

end Parser

open Parser in
/-- A line of ordinary fields, other than one empty field, reads as its fields. -/
theorem readLine_line {d : Dialect} (hd : d.Simple) {fs : List String} (hne : fs ≠ [""])
    (h : ∀ f ∈ fs, d.Ordinary f) : readLine d {} (d.line fs) = .ok ⟨.startRecord, fs, []⟩ := by
  have hline : (d.line fs).map some ++ [none] =
      ([d.delimiter].intercalate (fs.map String.data)).map some ++ [some '\r', some '\n', none] := by
    simp [Dialect.line, hd.crlf]
  rw [readLine, hline]
  rcases fs with _ | ⟨f, gs⟩
  · rfl
  · -- the line starts with the first field's first character, or with a delimiter
    have hfirst : ∃ c rest, ([d.delimiter].intercalate ((f :: gs).map String.data)).map some =
        some c :: rest ∧ c ≠ '\n' ∧ c ≠ '\r' := by
      rcases hf : f.data with _ | ⟨c, cs⟩
      · rcases gs with _ | ⟨g, gs⟩
        · exact absurd (by rw [String.ext_iff.mpr hf]) hne
        · exact ⟨d.delimiter, ([d.delimiter].intercalate ((g :: gs).map String.data)).map some,
            by simp [intercalate_cons₂, hf], hd.delimiter_ne_lf, hd.delimiter_ne_cr⟩
      · have hc := h f (List.mem_cons_self f gs) c (by simp [hf])
        rcases gs with _ | ⟨g, gs⟩
        · exact ⟨c, cs.map some, by simp [List.intercalate, hf], hc.2.2.1, hc.2.2.2⟩
        · exact ⟨c, (cs ++ [d.delimiter] ++ [d.delimiter].intercalate ((g :: gs).map String.data)).map some,
            by simp [intercalate_cons₂, hf], hc.2.2.1, hc.2.2.2⟩
    obtain ⟨c, rest, heq, hc⟩ := hfirst
    rw [heq, List.cons_append, foldlM_startRecord rfl hc, ← List.cons_append, ← heq]
    exact foldlM_fields hd rfl rfl (List.cons_ne_nil f gs) h

/-- Lines of ordinary fields read as records, each line one record. -/
theorem records_lines {d : Dialect} (hd : d.Simple) {lines : List (List String)}
    (h : ∀ fs ∈ lines, fs ≠ [""] ∧ ∀ f ∈ fs, d.Ordinary f) :
    records d (lines.map d.line) {} = .ok lines := by
  induction lines with
  | nil => rfl
  | cons fs lines ih =>
      obtain ⟨hne, hfs⟩ := h fs (List.mem_cons_self fs lines)
      simp only [List.map_cons, records, readLine_line hd hne hfs, bind, Except.bind, if_true,
        ih fun x hx => h x (List.mem_cons_of_mem fs hx)]
      rfl

theorem ioLines_go_append {l : List Char} (hl : '\n' ∉ l) (rest acc : List Char) :
    ioLines.go (l ++ '\n' :: rest) acc = (acc.reverse ++ l ++ ['\n']) :: ioLines.go rest [] := by
  induction l generalizing acc with
  | nil => simp [ioLines.go]
  | cons c l ih =>
      have hc : c ≠ '\n' := fun h' => hl (h' ▸ List.mem_cons_self c l)
      rw [List.cons_append, ioLines.go, if_neg hc, ih (fun h' => hl (List.mem_cons_of_mem c h'))]
      simp

theorem ioLines_flatMap {d : Dialect} (hd : d.Simple) {lines : List (List String)}
    (h : ∀ fs ∈ lines, ∀ f ∈ fs, '\n' ∉ f.data) :
    ioLines (lines.flatMap d.line) = lines.map d.line := by
  unfold ioLines
  induction lines with
  | nil => rfl
  | cons fs lines ih =>
      have hbody : '\n' ∉ [d.delimiter].intercalate (fs.map String.data) ++ ['\r'] := by
        refine List.not_mem_append (not_mem_intercalate (Ne.symm hd.delimiter_ne_lf) ?_) (by simp)
        simpa using h fs (List.mem_cons_self fs lines)
      have hline : d.line fs = ([d.delimiter].intercalate (fs.map String.data) ++ ['\r']) ++ ['\n'] := by
        simp [Dialect.line, hd.crlf]
      rw [List.flatMap_cons, hline, List.append_assoc, List.singleton_append, ioLines_go_append hbody,
        ih fun x hx => h x (List.mem_cons_of_mem fs hx)]
      simp [hline]

theorem dictSet_of_not_mem {κ : Type} [DecidableEq κ] {acc : List (κ × Cell)} {k : κ}
    (h : k ∉ acc.map Prod.fst) (v : Cell) : dictSet acc k v = acc ++ [(k, v)] := by
  induction acc with
  | nil => rfl
  | cons e acc ih =>
      have hne : e.1 ≠ k := fun he => h (he ▸ List.mem_cons_self _ _)
      simp only [dictSet, hne, if_false, List.cons_append,
        ih fun h' => h (List.mem_cons_of_mem _ h')]

theorem foldl_dictSet {κ : Type} [DecidableEq κ] {acc l : List (κ × Cell)}
    (h : ((acc ++ l).map Prod.fst).Nodup) :
    l.foldl (fun d kv => dictSet d kv.1 kv.2) acc = acc ++ l := by
  induction l generalizing acc with
  | nil => simp
  | cons e l ih =>
      have hk : e.1 ∉ acc.map Prod.fst := by
        simp only [List.map_append, List.map_cons] at h
        exact fun he => (List.nodup_append.mp h).2.2 he (List.mem_cons_self _ _)
      rw [List.foldl_cons, dictSet_of_not_mem hk, ih (by simpa using h)]
      simp

/-- A record with one value per field name, the names distinct, makes the dict of the
names and the values, in order. -/
theorem dictRow_of_length {fieldnames row : List String} (hn : fieldnames.Nodup)
    (hl : row.length = fieldnames.length) :
    dictRow fieldnames row = (fieldnames.zip row).map fun kv => (some kv.1, .text kv.2) := by
  have hfold := @foldl_dictSet _ _ [] ((fieldnames.zip row).map fun kv => (some kv.1, Cell.text kv.2))
    (by
      rw [List.nil_append, List.map_map]
      show (List.map (some ∘ Prod.fst) _).Nodup
      rw [← List.map_map, List.map_fst_zip _ _ hl.ge]
      exact hn.map (Option.some_injective _))
  simp only [List.foldl_map, List.nil_append] at hfold
  simp [dictRow, hl, hfold]

end Csv

end Rejected

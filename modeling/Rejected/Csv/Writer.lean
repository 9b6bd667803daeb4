import Rejected.Data
import Mathlib.Data.String.Basic

/-!
# Writing CSV

The parts of Python's `csv` module that `SmartConsumer._dump_csv` calls, after
CPython's `Modules/_csv.c` and `Lib/csv.py`, which are not among the sources: a
dialect, the writer's `writerow`, and `DictWriter`. A dialect here quotes minimally
and has no escape character, as `excel` and every dialect `Sniffer.sniff` builds do.

A field is quoted when it holds the delimiter, the quote character or a character of
the line terminator. A quote character inside it is doubled when `doublequote` is set,
and otherwise needs the escape character the dialect does not have. A record of one
empty field is written as two quote characters, so that it reads back as a field.
Text is handled as lists of characters.
-/
namespace Rejected

namespace Csv

/-- A `csv` dialect with `QUOTE_MINIMAL` quoting and no escape character. -/
structure Dialect where
  delimiter : Char
  quotechar : Char
  doublequote : Bool
  skipinitialspace : Bool
  lineterminator : String := "\r\n"
  deriving DecidableEq, Repr

/-- `csv.excel`. -/
def excel : Dialect :=
  { delimiter := ',', quotechar := '"', doublequote := true, skipinitialspace := false }

/-- `_csv.Error(message)`. -/
def error (message : String) : PyExc := { cls := .builtin "_csv.Error", message }

theorem intercalate_cons₂ {α : Type} (sep a b : List α) (l : List (List α)) :
    sep.intercalate (a :: b :: l) = a ++ (sep ++ sep.intercalate (b :: l)) := rfl

theorem mem_intercalate {α : Type} {c s : α} {ls : List (List α)} (h : c ∈ [s].intercalate ls) :
    c = s ∨ ∃ l ∈ ls, c ∈ l := by
  induction ls with
  | nil => simp [List.intercalate] at h
  | cons a ls ih =>
      rcases ls with _ | ⟨b, ls⟩
      · exact .inr ⟨a, List.mem_cons_self a [], by simpa [List.intercalate] using h⟩
      · rw [intercalate_cons₂] at h
        rcases List.mem_append.mp h with h | h
        · exact .inr ⟨a, List.mem_cons_self _ _, h⟩
        rcases List.mem_cons.mp h with h | h
        · exact .inl h
        rcases ih h with h | ⟨l, hl, hc⟩
        · exact .inl h
        · exact .inr ⟨l, List.mem_cons_of_mem a hl, hc⟩

theorem not_mem_intercalate {α : Type} {c s : α} {ls : List (List α)} (hs : c ≠ s)
    (h : ∀ l ∈ ls, c ∉ l) : c ∉ [s].intercalate ls := fun hm =>
  (mem_intercalate hm).elim hs fun ⟨l, hl, hc⟩ => h l hl hc

theorem intercalate_cons {α : Type} (s : α) (a : List α) (ls : List (List α)) :
    [s].intercalate (a :: ls) = a ++ ls.flatMap (s :: ·) := by
  induction ls generalizing a with
  | nil => simp [List.intercalate]
  | cons b ls ih => rw [intercalate_cons₂, ih]; rfl

theorem count_intercalate {α : Type} [DecidableEq α] {c s : α} {ls : List (List α)}
    (h : ∀ l ∈ ls, c ∉ l) :
    ([s].intercalate ls).count c = if s = c then ls.length - 1 else 0 := by
  induction ls with
  | nil => simp [List.intercalate]
  | cons a ls ih =>
      have ha := List.count_eq_zero.mpr (h a (List.mem_cons_self a ls))
      rcases ls with _ | ⟨b, ls⟩
      · simp [List.intercalate, ha]
      · rw [intercalate_cons₂, List.count_append, List.singleton_append, List.count_cons,
          ih fun l hl => h l (List.mem_cons_of_mem a hl), ha]
        by_cases hs : s = c <;> simp [hs]

theorem mapM_ok {α β ε : Type} {f : α → Except ε β} {l : List α} (h : ∀ x ∈ l, ∃ y, f x = .ok y) :
    ∃ ys, l.mapM f = .ok ys := by
  induction l with
  | nil => exact ⟨[], rfl⟩
  | cons x l ih =>
      obtain ⟨y, hy⟩ := h x (List.mem_cons_self x l)
      obtain ⟨ys, hys⟩ := ih fun x hx => h x (List.mem_cons_of_mem _ hx)
      exact ⟨y :: ys, by rw [List.mapM_cons, hy, hys]; rfl⟩

namespace Dialect

variable (d : Dialect)

/-- A character that makes the writer quote the field it is in. -/
def special (c : Char) : Bool :=
  c == d.delimiter || c == d.quotechar || d.lineterminator.data.contains c

/-- `join_append` for one field. -/
def quoteField (field : List Char) : Except PyExc (List Char) :=
  if field.any d.special then
    if !d.doublequote && field.contains d.quotechar then
      .error (error "need to escape, but no escapechar set")
    else
      .ok (d.quotechar :: field.flatMap (fun c => if c == d.quotechar then [c, c] else [c]) ++
        [d.quotechar])
  else .ok field

/-- `writer.writerow(fields)`: the text it writes. -/
def writeRow (fields : List String) : Except PyExc String := do
  let quoted ← fields.mapM fun f => d.quoteField f.data
  let record := if fields = [""] then [d.quotechar, d.quotechar] else [d.delimiter].intercalate quoted
  pure ⟨record ++ d.lineterminator.data⟩

/-- The text of a record whose fields need no quoting. -/
def line (fields : List String) : List Char :=
  [d.delimiter].intercalate (fields.map String.data) ++ d.lineterminator.data

/-- `DictWriter.writerow(rowdict)`. A missing key takes `restval`, `''`. A key that is
not a field name raises `ValueError` (`extrasaction='raise'`), naming the keys by
`repr` in an order Python leaves to a set, taken here as the row's. -/
def writeDict (fieldnames : List String) (r : List (String × String)) : Except PyExc String := do
  let wrong := (r.map Prod.fst).filter (· ∉ fieldnames)
  if wrong ≠ [] then
    throw (valueError ("dict contains fields not in fieldnames: " ++
      ", ".intercalate (wrong.map fun k => "'" ++ k ++ "'")))
  d.writeRow (fieldnames.map fun k => (r.lookup k).getD "")

/-- `DictWriter(f, fieldnames, dialect)`, then `writeheader()` and `writerows(rows)`:
the text written. -/
def writeDicts (fieldnames : List String) (rows : List (List (String × String))) :
    Except PyExc String := do
  let header ← d.writeRow fieldnames
  let records ← rows.mapM (d.writeDict fieldnames)
  pure (header ++ String.join records)

variable {d}

/-- A field with no character the writer quotes for. -/
def Plain (field : String) : Prop := ∀ c ∈ field.data, d.special c = false

theorem quoteField_of_plain {field : String} (h : d.Plain field) :
    d.quoteField field.data = .ok field.data := by
  have : field.data.any d.special = false := List.any_eq_false.mpr fun c hc => by simp [h c hc]
  simp [quoteField, this]

theorem mapM_quoteField_of_plain {fields : List String} (h : ∀ f ∈ fields, d.Plain f) :
    fields.mapM (fun f => d.quoteField f.data) = .ok (fields.map String.data) := by
  induction fields with
  | nil => rfl
  | cons f fs ih =>
      simp only [List.mapM_cons, quoteField_of_plain (h f (List.mem_cons_self f fs)),
        ih fun g hg => h g (List.mem_cons_of_mem f hg), List.map_cons]
      rfl

/-- A record of plain fields, other than one empty field, is written as the fields
joined by the delimiter. -/
theorem writeRow_of_plain {fields : List String} (h : ∀ f ∈ fields, d.Plain f)
    (hne : fields ≠ [""]) : d.writeRow fields = .ok ⟨d.line fields⟩ := by
  simp only [writeRow, mapM_quoteField_of_plain h, hne, if_false, line]
  rfl

/-- The fields `DictWriter` writes for a row. -/
def values (fieldnames : List String) (r : List (String × String)) : List String :=
  fieldnames.map fun k => (r.lookup k).getD ""

theorem writeDict_eq {fieldnames : List String} {r : List (String × String)}
    (hk : ∀ k ∈ r.map Prod.fst, k ∈ fieldnames) :
    d.writeDict fieldnames r = d.writeRow (values fieldnames r) := by
  have hw : (r.map Prod.fst).filter (· ∉ fieldnames) = [] :=
    List.filter_eq_nil_iff.mpr fun k hk' => by simpa using hk k hk'
  simp only [writeDict, hw, ne_eq, not_true_eq_false, if_false]
  rfl

theorem writeDict_of_plain {fieldnames : List String} {r : List (String × String)}
    (hk : ∀ k ∈ r.map Prod.fst, k ∈ fieldnames) (h : ∀ f ∈ values fieldnames r, d.Plain f)
    (hne : values fieldnames r ≠ [""]) :
    d.writeDict fieldnames r = .ok ⟨d.line (values fieldnames r)⟩ :=
  (writeDict_eq hk).trans (writeRow_of_plain h hne)

/-- `DictWriter` over rows whose keys are field names and whose fields need no quoting
writes one line per record, the header first. -/
theorem writeDicts_of_plain {fieldnames : List String} {rows : List (List (String × String))}
    (hk : ∀ r ∈ rows, ∀ k ∈ r.map Prod.fst, k ∈ fieldnames)
    (h : ∀ fs ∈ fieldnames :: rows.map (values fieldnames), (∀ f ∈ fs, d.Plain f) ∧ fs ≠ [""]) :
    d.writeDicts fieldnames rows =
      .ok ⟨(fieldnames :: rows.map (values fieldnames)).flatMap d.line⟩ := by
  have hrows : ∀ rs ⊆ rows, rs.mapM (d.writeDict fieldnames) =
      .ok (rs.map fun r => ⟨d.line (values fieldnames r)⟩) := by
    intro rs hrs
    induction rs with
    | nil => rfl
    | cons r rs ih =>
        have hr := hrs (List.mem_cons_self r rs)
        obtain ⟨hp, hne⟩ := h _ (List.mem_cons_of_mem _ (List.mem_map_of_mem _ hr))
        simp only [List.mapM_cons, writeDict_of_plain (hk r hr) hp hne,
          ih fun x hx => hrs (List.mem_cons_of_mem r hx), List.map_cons]
        rfl
  obtain ⟨hp, hne⟩ := h fieldnames (List.mem_cons_self _ _)
  simp only [writeDicts, writeRow_of_plain hp hne, hrows rows (List.Subset.refl rows)]
  simp [String.join_eq, List.flatMap, Function.comp_def]
  rfl

theorem quoteField_ok (hq : d.doublequote = true) (field : List Char) :
    ∃ r, d.quoteField field = .ok r := by
  unfold quoteField
  split
  · rw [if_neg (by simp [hq])]
    exact ⟨_, rfl⟩
  · exact ⟨_, rfl⟩

theorem writeRow_ok (hq : d.doublequote = true) (fields : List String) :
    ∃ t, d.writeRow fields = .ok t := by
  obtain ⟨qs, hqs⟩ := mapM_ok fun f (_ : f ∈ fields) => d.quoteField_ok hq f.data
  exact ⟨_, by simp only [writeRow, hqs, bind, Except.bind, pure, Except.pure]; rfl⟩

/-- `DictWriter` with `doublequote` writes every list of rows whose keys are field
names. -/
theorem writeDicts_ok (hq : d.doublequote = true) {fieldnames : List String}
    {rows : List (List (String × String))} (hk : ∀ r ∈ rows, ∀ k ∈ r.map Prod.fst, k ∈ fieldnames) :
    ∃ t, d.writeDicts fieldnames rows = .ok t := by
  obtain ⟨h, hh⟩ := d.writeRow_ok hq fieldnames
  obtain ⟨rs, hrs⟩ := mapM_ok fun r hr => (d.writeDict_eq (hk r hr)).symm ▸ d.writeRow_ok hq _
  exact ⟨_, by simp only [writeDicts, hh, hrs, bind, Except.bind, pure, Except.pure]; rfl⟩

theorem mem_flatMap_line {lines : List (List String)} {c : Char} (h : c ∈ lines.flatMap d.line) :
    c = d.delimiter ∨ c ∈ d.lineterminator.data ∨ ∃ fs ∈ lines, ∃ f ∈ fs, c ∈ f.data := by
  obtain ⟨fs, hfs, hc⟩ := List.mem_flatMap.mp h
  rcases List.mem_append.mp hc with hc | hc
  · rcases mem_intercalate hc with hc | ⟨l, hl, hcl⟩
    · exact .inl hc
    · obtain ⟨f, hf, rfl⟩ := List.mem_map.mp hl
      exact .inr (.inr ⟨fs, hfs, f, hf, hcl⟩)
  · exact .inr (.inl hc)

end Dialect

end Csv

end Rejected

import Rejected.Csv.Writer

/-!
# Guessing a dialect

`csv.Sniffer().sniff(sample)`, after CPython's `Lib/csv.py`. It first looks for quoted
fields with regular expressions (`_guess_quote_and_delimiter`); that step is an input
here, a function of the sample, since only its result when the sample holds no quote
character is used. When it finds no delimiter, `_guess_delimiter` counts, for every
7-bit character, how often it occurs on each line, and takes as delimiters the
characters whose commonest count is positive and held by enough lines, reading the
lines ten at a time until one delimiter stands out. Of several it prefers `,`, `\t`,
`;`, ` ` and `:`, in that order.

Python compares the share of consistent lines with `1.0, 0.99, …, 0.91`, floats
obtained by subtracting `0.01`; the shares are ratios of line counts below 1025, which
never fall between those floats and the decimals they approximate, so the comparison
is made here exactly, in integers. The dicts of the source are lists: `delims` in
character order, which no step of the guess depends on.

When each of the first ten lines of the sample holds the same positive number of commas,
`,` is a delimiter of the first pass at full consistency: the only one, or, with others,
the first of the preferred. `skipinitialspace` is read off the first line, and set when
a space follows every comma there. `DictWriter` with the `excel` dialect writes a table
of fields that hold no `,`, `\r` or `\n` as such lines: fields joined by `,` and ended
by `\r\n`, which keep their `\r` when the sample is split on `\n`.
-/
namespace Rejected

namespace Csv

/-- What `_guess_quote_and_delimiter` found: the quote character (`''` when none),
`doublequote`, the delimiter if one, and `skipinitialspace`. -/
structure QuoteGuess where
  quotechar : Option Char
  doublequote : Bool
  delimiter : Option Char
  skipinitialspace : Bool
  deriving DecidableEq

/-- `('', False, None, 0)`, the guess for a sample with no quoted field. -/
def QuoteGuess.none : QuoteGuess := ⟨.none, false, .none, false⟩

/-- `list(filter(None, data.split('\n')))`. -/
def sampleLines (sample : List Char) : List (List Char) :=
  (sample.splitOn '\n').filter (· ≠ [])

/-- One more line with frequency `f` in a table of frequencies and their line counts,
kept in order of first appearance. -/
def bump : List (Nat × Nat) → Nat → List (Nat × Nat)
  | [], f => [(f, 1)]
  | (g, n) :: t, f => if g = f then (g, n + 1) :: t else (g, n) :: bump t f

/-- `charFrequency[char]` after the lines whose frequencies of `char` are `freqs`. -/
def tally (freqs : List Nat) : List (Nat × Nat) := freqs.foldl bump []

/-- `max(items, key=lambda x: x[1])`: the first entry with the largest count. -/
def firstMax : List (Nat × Nat) → Option (Nat × Nat)
  | [] => .none
  | i :: items => some (items.foldl (fun m j => if m.2 < j.2 then j else m) i)

/-- `modes[char]`: the commonest frequency, its count less the counts of the others;
`none` for a character that never occurs. -/
def mode (items : List (Nat × Nat)) : Option (Nat × Int) :=
  match items with
  | [] => .none
  | [(0, _)] => .none
  | [(f, n)] => some (f, n)
  | items => (firstMax items).map fun m =>
      (m.1, (m.2 : Int) - (((items.erase m).map (·.2)).foldr (· + ·) 0 : Nat))

/-- `[chr(c) for c in range(127)]`. -/
def ascii : List Char := (List.range 127).map Char.ofNat

/-- The modes of the 7-bit characters over `lines`. -/
def modes (lines : List (List Char)) : List (Char × Nat × Int) :=
  ascii.filterMap fun c => (mode (tally (lines.map (·.count c)))).map fun v => (c, v)

/-- The characters whose mode is held by a share of at least `1 - k/100` of `total`
lines. -/
def candidatesAt (ms : List (Char × Nat × Int)) (total k : Nat) : List (Char × Nat × Int) :=
  ms.filter fun m => 0 < m.2.1 ∧ 0 < m.2.2 ∧ ((100 - k : Nat) : Int) * total ≤ 100 * m.2.2

/-- The `while len(delims) == 0 and consistency >= threshold` loop from no delimiter:
the candidates at the first threshold that has any. -/
def candidates (ms : List (Char × Nat × Int)) (total : Nat) : List (Char × Nat × Int) :=
  (((List.range 10).map (candidatesAt ms total)).find? (· ≠ [])).getD []

/-- The `while start < len(data)` loop from its `iteration`-th pass on, with `delims` as
the passes before left it: the delimiter it returns, or the `delims` it ends with.
`fuel` bounds the passes; `data.length + 1` is more than the loop makes. -/
def guessLoop (data : List (List Char)) (chunk : Nat) :
    Nat → Nat → List (Char × Nat × Int) → Char ⊕ List (Char × Nat × Int)
  | 0, _, delims => .inr delims
  | fuel + 1, iteration, delims =>
      if chunk * iteration < data.length then
        let seen := chunk * (iteration + 1)
        let delims := if delims = [] then candidates (modes (data.take seen)) (min seen data.length)
          else delims
        match delims with
        | [(d, _)] => .inl d
        | delims => guessLoop data chunk fuel (iteration + 1) delims
      else .inr delims

/-- `Sniffer().preferred`. -/
def preferred : List Char := [',', '\t', ';', ' ', ':']

/-- `line.count("%c " % delim)`: non-overlapping occurrences of `d` followed by a space. -/
def countSpaced : List Char → Char → Nat
  | a :: b :: t, d => if a = d ∧ b = ' ' then countSpaced t d + 1 else countSpaced (b :: t) d
  | _, _ => 0

/-- Python's order on the items `(mode, char)`: by frequency, then count, then
character. -/
def before (a b : Char × Nat × Int) : Bool :=
  a.2.1 < b.2.1 || (a.2.1 = b.2.1 && (a.2.2 < b.2.2 || (a.2.2 = b.2.2 && a.1 < b.1)))

/-- The last of the sorted items, `items.sort()` and `items[-1]`. -/
def largest : List (Char × Nat × Int) → Option Char
  | [] => .none
  | m :: ms => some (ms.foldl (fun a b => if before a b then b else a) m).1

/-- `_guess_delimiter(data, None)`: the delimiter and `skipinitialspace`, `none` for
`('', 0)`. -/
def guessDelimiter (sample : List Char) : Option (Char × Bool) :=
  let data := sampleLines sample
  let skip (d : Char) := (data.headD []).count d == countSpaced (data.headD []) d
  match guessLoop data (min 10 data.length) (data.length + 1) 0 [] with
  | .inl d => some (d, skip d)
  | .inr [] => .none
  | .inr delims =>
      match preferred.find? fun p => delims.any (·.1 = p) with
      | some p => some (p, skip p)
      | .none => (largest delims).map fun d => (d, skip d)

/-- `Sniffer().sniff(sample)`, given what `_guess_quote_and_delimiter` finds. -/
def sniff (guessQuote : String → QuoteGuess) (sample : String) : Except PyExc Dialect :=
  let g := guessQuote sample
  let found := match g.delimiter with
    | some d => some (d, g.skipinitialspace)
    | .none => guessDelimiter sample.data
  match found with
  | .none => .error (error "Could not determine delimiter")
  | some (d, skip) =>
      .ok { delimiter := d, quotechar := g.quotechar.getD '"', doublequote := g.doublequote,
            skipinitialspace := skip }

theorem sampleLines_ne_nil {a : Char} (ha : a ≠ '\n') (x : List Char) : sampleLines (a :: x) ≠ [] := by
  unfold sampleLines List.splitOn
  rw [List.splitOnP_cons, if_neg (by simpa using ha)]
  obtain ⟨l, ls, h⟩ := List.exists_cons_of_ne_nil (List.splitOnP_ne_nil (· == '\n') x)
  simp [h, List.modifyHead]

theorem tally_replicate (f n : Nat) : tally (List.replicate (n + 1) f) = [(f, n + 1)] := by
  have hfold : ∀ k m, (List.replicate m f).foldl bump [(f, k)] = [(f, k + m)] := by
    intro k m
    induction m generalizing k with
    | zero => rfl
    | succ m ih => rw [List.replicate_succ, List.foldl_cons, bump, if_pos rfl, ih]; simp_arith
  rw [tally, List.replicate_succ, List.foldl_cons]
  exact (hfold 1 n).trans (by rw [Nat.add_comm])

theorem mem_ascii {c : Char} (h : c.toNat < 127) : c ∈ ascii :=
  List.mem_map.mpr ⟨c.toNat, List.mem_range.mpr h, Char.ofNat_toNat c⟩

/-- A 7-bit character that every line holds the same positive number of times is a
candidate at full consistency. -/
theorem mem_candidatesAt {lines : List (List Char)} {c : Char} {f : Nat} (hc : c.toNat < 127)
    (hf : 0 < f) (hne : lines ≠ []) (h : ∀ l ∈ lines, l.count c = f) :
    (c, f, (lines.length : Int)) ∈ candidatesAt (modes lines) lines.length 0 := by
  obtain ⟨k, hk⟩ : ∃ k, lines.length = k + 1 :=
    ⟨lines.length - 1, by have := List.length_pos.mpr hne; omega⟩
  have hmap : lines.map (·.count c) = List.replicate (k + 1) f :=
    List.eq_replicate_iff.mpr ⟨by simp [hk], by simpa using h⟩
  obtain ⟨g, rfl⟩ : ∃ g, f = g + 1 := ⟨f - 1, by omega⟩
  refine List.mem_filter.mpr ⟨List.mem_filterMap.mpr ⟨c, mem_ascii hc, ?_⟩, ?_⟩
  · rw [hmap, tally_replicate, hk]
    rfl
  · simp [hk]

theorem candidates_of_mem {ms : List (Char × Nat × Int)} {total : Nat} {m : Char × Nat × Int}
    (h : m ∈ candidatesAt ms total 0) : candidates ms total = candidatesAt ms total 0 := by
  simp [candidates, List.range_succ_eq_map, List.ne_nil_of_mem h]

theorem guessLoop_of_many {data : List (List Char)} {chunk : Nat} {delims : List (Char × Nat × Int)}
    (hne : delims ≠ []) (hmany : ∀ x, delims ≠ [x]) (fuel iteration : Nat) :
    guessLoop data chunk fuel iteration delims = .inr delims := by
  induction fuel generalizing iteration with
  | zero => rfl
  | succ fuel ih =>
      unfold guessLoop
      split
      · simp only [hne, if_false]
        split
        · exact absurd rfl (hmany _)
        · exact ih _
      · rfl

/-- `_guess_delimiter` on a sample whose first ten lines hold the same positive number of
commas: the delimiter `,`, with `skipinitialspace` read off the first line. -/
theorem guessDelimiter_of_commas {sample : List Char} {k : Nat} (hk : 0 < k)
    (hne : sampleLines sample ≠ []) (hc : ∀ l ∈ (sampleLines sample).take 10, l.count ',' = k) :
    guessDelimiter sample = some (',', ((sampleLines sample).headD []).count ',' ==
      countSpaced ((sampleLines sample).headD []) ',') := by
  unfold guessDelimiter
  generalize sampleLines sample = data at hne hc ⊢
  have hpos : 0 < data.length := List.length_pos.mpr hne
  have hchunk : data.take (min 10 data.length) = data.take 10 := by
    rw [← List.take_take, List.take_length]
  have h1 := mem_candidatesAt (by decide) hk (by simpa using hne) hc
  rw [List.length_take, ← candidates_of_mem h1] at h1
  simp only [guessLoop, Nat.mul_zero, hpos, if_true, Nat.zero_add, Nat.mul_one, if_pos,
    Nat.min_eq_left (Nat.min_le_right 10 data.length), hchunk]
  generalize candidates (modes (data.take 10)) (min 10 data.length) = delims at h1 ⊢
  rcases delims with _ | ⟨x, _ | ⟨y, delims⟩⟩
  · cases h1
  · rw [List.mem_singleton] at h1
    rw [← h1]
  · dsimp only
    rw [guessLoop_of_many (List.cons_ne_nil x (y :: delims)) (fun _ h => by simp at h)]
    have hfind : preferred.find? (fun p => (x :: y :: delims).any (·.1 = p)) = some ',' := by
      rw [preferred, List.find?_cons_of_pos]
      exact List.any_eq_true.mpr ⟨_, h1, by simp⟩
    simp only [hfind]

/-- The dialect `sniff` builds when it settles on `,` and finds no quote character. -/
def sniffedComma : Dialect :=
  { delimiter := ',', quotechar := '"', doublequote := false, skipinitialspace := false }

/-- `Sniffer().sniff` on a sample whose first ten lines hold the same positive number of
commas, not all of them followed by a space on the first line, when the quote step finds
nothing. -/
theorem sniff_of_commas {guessQuote : String → QuoteGuess} {sample : String} {k : Nat}
    (hq : guessQuote sample = .none) (hk : 0 < k) (hne : sampleLines sample.data ≠ [])
    (hc : ∀ l ∈ (sampleLines sample.data).take 10, l.count ',' = k)
    (hspace : countSpaced ((sampleLines sample.data).headD []) ',' < k) :
    sniff guessQuote sample = .ok sniffedComma := by
  obtain ⟨l, ls, hl⟩ := List.exists_cons_of_ne_nil hne
  have hhead : l.count ',' = k := hc l (by simp [hl])
  simp only [sniff, hq, QuoteGuess.none, guessDelimiter_of_commas hk hne hc, hl, List.headD_cons,
    hhead, show (k == countSpaced l ',') = false from by simpa [hl] using Nat.ne_of_gt hspace]
  rfl

/-- A sample line: the fields joined by `,`, then the `\r` left by the split on `\n`. -/
def commaLine (fs : List String) : List Char := [','].intercalate (fs.map String.data) ++ ['\r']

theorem count_commaLine {fs : List String} (h : ∀ f ∈ fs, ',' ∉ f.data) :
    (commaLine fs).count ',' = fs.length - 1 := by
  rw [commaLine, List.count_append, count_intercalate (by simpa using h), List.length_map]
  simp

theorem excel_line (fs : List String) : excel.line fs = commaLine fs ++ ['\n'] := by
  simp [Dialect.line, commaLine, excel]

theorem commaLine_ne_nil (fs : List String) : commaLine fs ≠ [] := by simp [commaLine]

theorem newline_not_mem_commaLine {fs : List String} (h : ∀ f ∈ fs, '\n' ∉ f.data) :
    '\n' ∉ commaLine fs :=
  List.not_mem_append (not_mem_intercalate (by decide) (by simpa using h)) (by simp)

theorem sampleLines_flatMap_line_append {lines : List (List String)}
    (h : ∀ fs ∈ lines, ∀ f ∈ fs, '\n' ∉ f.data) (r : List Char) :
    sampleLines (lines.flatMap excel.line ++ r) = lines.map commaLine ++ sampleLines r := by
  induction lines with
  | nil => rfl
  | cons fs lines ih =>
      have hn : ∀ x ∈ commaLine fs, ¬(x == '\n') = true := fun x hx hxn =>
        newline_not_mem_commaLine (h fs (List.mem_cons_self fs lines)) (beq_iff_eq.mp hxn ▸ hx)
      have ih' := ih fun x hx => h x (List.mem_cons_of_mem fs hx)
      unfold sampleLines List.splitOn at ih' ⊢
      rw [List.flatMap_cons, excel_line, List.append_assoc, List.append_assoc, List.singleton_append,
        List.splitOnP_first _ _ hn _ (beq_self_eq_true _),
        List.filter_cons_of_pos (by simpa using commaLine_ne_nil fs), ih', List.map_cons,
        List.cons_append]

theorem countSpaced_cons {a d : Char} {l : List Char} (h : a ≠ d ∨ l.head? ≠ some ' ') :
    countSpaced (a :: l) d = countSpaced l d := by
  rcases l with _ | ⟨b, t⟩
  · rfl
  · have hn : ¬(a = d ∧ b = ' ') := fun ⟨h1, h2⟩ => h.elim (· h1) (· (by simp [h2]))
    simp only [countSpaced, hn, if_false]

theorem countSpaced_append_of_not_mem {d : Char} {l : List Char} (h : d ∉ l) (r : List Char) :
    countSpaced (l ++ r) d = countSpaced r d := by
  induction l with
  | nil => rfl
  | cons a l ih =>
      rw [List.cons_append, countSpaced_cons (.inl fun h' => h (List.mem_cons.mpr (.inl h'.symm))),
        ih fun h' => h (List.mem_cons_of_mem a h')]

theorem countSpaced_flatMap {d : Char} (hd : d ≠ ' ') {ks : List (List Char)}
    (hk : ∀ k ∈ ks, d ∉ k) {r : List Char} (hr : r.head? ≠ some ' ') :
    countSpaced (ks.flatMap (d :: ·) ++ r) d =
      (ks.filter (·.head? = some ' ')).length + countSpaced r d := by
  induction ks with
  | nil => simp
  | cons k ks ih =>
      have ih' := ih fun k' hk' => hk k' (List.mem_cons_of_mem k hk')
      have hdk := hk k (List.mem_cons_self k ks)
      rw [List.flatMap_cons, List.append_assoc, List.cons_append]
      rcases k with _ | ⟨c, k⟩
      · have hhead : (ks.flatMap (d :: ·) ++ r).head? ≠ some ' ' := by
          rcases ks with _ | ⟨k', ks⟩
          · simpa using hr
          · simpa using hd
        rw [List.nil_append, countSpaced_cons (.inr hhead), ih']
        simp
      · have hdk' : d ∉ k := fun h => hdk (List.mem_cons_of_mem c h)
        by_cases hc : c = ' '
        · subst hc
          rw [List.cons_append, countSpaced, if_pos ⟨rfl, rfl⟩, countSpaced_append_of_not_mem hdk',
            ih']
          simp only [List.filter_cons, List.head?_cons, if_true, decide_True, List.length_cons]
          omega
        · rw [List.cons_append, countSpaced_cons (.inr (by simpa using hc)), ← List.cons_append,
            countSpaced_append_of_not_mem hdk, ih']
          simp [List.filter_cons, hc]

/-- The commas of a line that a space follows: one before each field but the first that
starts with a space. -/
theorem countSpaced_commaLine {f : String} {gs : List String} (hf : ',' ∉ f.data)
    (hgs : ∀ g ∈ gs, ',' ∉ g.data) :
    countSpaced (commaLine (f :: gs)) ',' = (gs.filter (·.data.head? = some ' ')).length := by
  rw [commaLine, List.map_cons, intercalate_cons, List.append_assoc,
    countSpaced_append_of_not_mem hf, countSpaced_flatMap (by decide) (by simpa using hgs)
      (by simp)]
  simp [List.filter_map, Function.comp_def]
  rfl

end Csv

end Rejected

import Mathlib.Data.List.Sort

/-!
# Python text helpers

The Python built-ins the modules apply to what they read from the target:
`str.split()` with and without a separator, `strip`, `startswith`, `replace`
with a count, `upper`, `isdigit`, `int()` on one token, `sorted()` on
integers and `max`/`min` of a list, and the lines of a file read in text
mode. Text is a list of characters underneath,
so the definitions recurse on `List Char` and the lemmas are proved there.

## Implementation notes

`int()` is modelled on ASCII tokens: an optional sign, then decimal digits
with single underscores between digits. Python also accepts the decimal
digits of other scripts; sysfs never prints them. For the same reason
`upper` maps ASCII letters only and `isdigit` accepts ASCII digits only.
-/

namespace Devlib.Text

/-- The characters `str.isspace()` accepts, as `str.split()` uses them. -/
def isSpace (c : Char) : Bool :=
  c = ' ' || c = '\t' || c = '\n' || c = '\r' || c = '\x0b' || c = '\x0c' ||
  c = '\x1c' || c = '\x1d' || c = '\x1e' || c = '\x1f' || c = '\x85' || c = '\xa0' ||
  c = '\u1680' || ('\u2000' ≤ c && c ≤ '\u200a') || c = '\u2028' || c = '\u2029' ||
  c = '\u202f' || c = '\u205f' || c = '\u3000'

/-- Maximal runs of non-space characters; `acc` holds the current run reversed. -/
def splitChars : List Char → List Char → List (List Char)
  | [], acc => if acc.isEmpty then [] else [acc.reverse]
  | c :: cs, acc =>
    if isSpace c then
      if acc.isEmpty then splitChars cs [] else acc.reverse :: splitChars cs []
    else splitChars cs (c :: acc)

/-- `s.split()`: the whitespace-separated tokens of `s`. -/
def split (s : String) : List String := (splitChars s.data []).map String.mk

/-- The value of a decimal digit. -/
def digitValue (c : Char) : Option ℕ :=
  if c.isDigit then some (c.toNat - '0'.toNat) else none

/-- Digits with single underscores between them, read most significant first. -/
def digitsValue : List Char → ℕ → Option ℕ
  | [], acc => some acc
  | ['_'], _ => none
  | '_' :: c :: cs, acc => if c = '_' then none else digitsValue (c :: cs) acc
  | c :: cs, acc => (digitValue c).bind fun d => digitsValue cs (10 * acc + d)

/-- An unsigned numeral: it starts with a digit. -/
def unsignedValue : List Char → Option ℕ
  | [] => none
  | '_' :: _ => none
  | cs => digitsValue cs 0

/-- `int(token)` for one token of `str.split()`. -/
def parseInt (s : String) : Option ℤ :=
  match s.data with
  | '-' :: cs => (unsignedValue cs).map fun n => -(n : ℤ)
  | '+' :: cs => (unsignedValue cs).map fun n => (n : ℤ)
  | cs => (unsignedValue cs).map fun n => (n : ℤ)

/-- `sorted(xs)` on integers. -/
def sorted (xs : List ℤ) : List ℤ := xs.insertionSort (· ≤ ·)

theorem sorted_perm (xs : List ℤ) : List.Perm (sorted xs) xs := List.perm_insertionSort _ _

theorem sorted_sorted (xs : List ℤ) : List.Sorted (· ≤ ·) (sorted xs) :=
  List.sorted_insertionSort _ _

/-- `sorted` is the only ascending rearrangement. -/
theorem sorted_eq_of_perm {xs ys : List ℤ} (hp : List.Perm xs ys) (hs : List.Sorted (· ≤ ·) ys) :
    sorted xs = ys :=
  List.eq_of_perm_of_sorted ((sorted_perm xs).trans hp) (sorted_sorted xs) hs

/-- The single quote Python's `repr` puts around a string. -/
def quote : String := String.singleton (Char.ofNat 39)

/-- `repr` of a list of strings, as `str.format` prints it. -/
def pyListRepr (xs : List String) : String :=
  "[" ++ ", ".intercalate (xs.map fun x => quote ++ x ++ quote) ++ "]"

/-- `repr` of a list of integers. -/
def pyIntListRepr (xs : List ℤ) : String :=
  "[" ++ ", ".intercalate (xs.map toString) ++ "]"

/-- `int(s)` of a whole string: surrounding whitespace is ignored. -/
def parseIntStrip (s : String) : Option ℤ :=
  match split s with
  | [t] => parseInt t
  | _ => none

/-! ## Further string methods -/

/-- The text without the leading and trailing characters `p` accepts. -/
def stripWith (p : Char → Bool) (s : String) : String :=
  ⟨((s.data.dropWhile p).reverse.dropWhile p).reverse⟩

/-- `s.strip()`. -/
def strip (s : String) : String := stripWith isSpace s

theorem dropWhile_of_forall {p : Char → Bool} {l : List Char} (h : ∀ c ∈ l, p c = false) :
    l.dropWhile p = l := by
  cases l with
  | nil => rfl
  | cons c l => simp [List.dropWhile_cons, h c (List.mem_cons_self _ _)]

/-- A text with none of the stripped characters is left as it is. -/
theorem stripWith_of_forall {p : Char → Bool} {s : String} (h : ∀ c ∈ s.data, p c = false) :
    stripWith p s = s := by
  simp only [stripWith, dropWhile_of_forall h,
    dropWhile_of_forall (l := s.data.reverse) (by simpa using h), List.reverse_reverse]

/-- `s.startswith(p)`. -/
def startswith (s p : String) : Bool := p.data.isPrefixOf s.data

@[simp] theorem startswith_append (p r : String) : startswith (p ++ r) p = true := by
  simp [startswith, List.prefix_append]

/-- `cs` with the first occurrence of `old` replaced by `new`. -/
def replaceFirstChars (old new : List Char) (cs : List Char) : List Char :=
  if old.isPrefixOf cs then new ++ cs.drop old.length
  else match cs with
    | [] => []
    | c :: cs => c :: replaceFirstChars old new cs

/-- `s.replace(old, new, 1)`. -/
def replaceFirst (s old new : String) : String := ⟨replaceFirstChars old.data new.data s.data⟩

/-- `s.upper()`. -/
def upper (s : String) : String := ⟨s.data.map Char.toUpper⟩

/-- `s.lower()` on ASCII letters. -/
def lower (s : String) : String := ⟨s.data.map Char.toLower⟩

/-- `s.isdigit()`: not empty, and decimal digits only. -/
def isdigit (s : String) : Bool := !s.data.isEmpty && s.data.all Char.isDigit

/-- The pieces of `cs` between occurrences of `sep`; `acc` holds the current piece reversed. -/
def splitOnChars (sep : Char) : List Char → List Char → List (List Char)
  | [], acc => [acc.reverse]
  | c :: cs, acc => if c = sep then acc.reverse :: splitOnChars sep cs [] else splitOnChars sep cs (c :: acc)

/-- `s.split(sep)` for a one-character separator: empty pieces are kept. -/
def splitOn (s : String) (sep : Char) : List String := (splitOnChars sep s.data []).map String.mk

/-- `s.split(sep, 1)` for a text holding `sep`: what stands before its first
occurrence, and what follows it. -/
def splitOnce (s : String) (sep : Char) : String × String :=
  (⟨s.data.takeWhile (· ≠ sep)⟩, ⟨(s.data.dropWhile (· ≠ sep)).drop 1⟩)

theorem splitOnChars_piece {sep : Char} {w : List Char} (hw : sep ∉ w) (r acc : List Char) :
    splitOnChars sep (w ++ r) acc = splitOnChars sep r (w.reverse ++ acc) := by
  induction w generalizing acc with
  | nil => rfl
  | cons c w ih =>
    have hc : c ≠ sep := fun h => hw (h ▸ List.mem_cons_self _ _)
    rw [List.cons_append, splitOnChars, if_neg hc, ih fun h => hw (List.mem_cons_of_mem _ h)]
    simp

/-- Two pieces free of the separator, joined by it, split back into the two. -/
theorem splitOn_pair {a b : String} {sep : Char} (ha : sep ∉ a.data) (hb : sep ∉ b.data) :
    splitOn (a ++ String.singleton sep ++ b) sep = [a, b] := by
  have hb' := splitOnChars_piece hb [] []
  rw [List.append_nil] at hb'
  simp [splitOn, String.data_append, splitOnChars_piece ha, splitOnChars, hb']

/-! ## What `split` makes of trimmed and joined texts -/

theorem data_join (l : List String) : (String.join l).data = (l.map String.data).flatten := by
  suffices ∀ s, (l.foldl (· ++ ·) s).data = s.data ++ (l.map String.data).flatten from this ""
  induction l with
  | nil => simp
  | cons x l ih => intro s; simp [ih]

/-- Whitespace alone splits into nothing. -/
theorem splitChars_spaces {sp : List Char} (hsp : ∀ c ∈ sp, isSpace c) (acc : List Char) :
    splitChars sp acc = splitChars [] acc := by
  induction sp generalizing acc with
  | nil => rfl
  | cons c sp ih =>
    simp [splitChars, hsp c (List.mem_cons_self _ _), ih fun x hx => hsp x (List.mem_cons_of_mem _ hx)]

theorem splitChars_append_spaces (cs : List Char) {sp : List Char} (hsp : ∀ c ∈ sp, isSpace c)
    (acc : List Char) : splitChars (cs ++ sp) acc = splitChars cs acc := by
  induction cs generalizing acc with
  | nil => exact splitChars_spaces hsp acc
  | cons c cs ih => simp only [List.cons_append, splitChars, List.append_eq, ih]

theorem splitChars_dropWhile (cs : List Char) : splitChars (cs.dropWhile isSpace) [] = splitChars cs [] := by
  induction cs with
  | nil => rfl
  | cons c cs ih =>
    by_cases hc : isSpace c
    · simp [List.dropWhile_cons, hc, ih, splitChars]
    · simp [List.dropWhile_cons, hc]

/-- `s.strip().split() == s.split()`. -/
@[simp] theorem split_strip (s : String) : split (strip s) = split s := by
  obtain ⟨cs⟩ := s
  set u := cs.dropWhile isSpace
  have hu : (u.reverse.dropWhile isSpace).reverse ++ (u.reverse.takeWhile isSpace).reverse = u := by
    rw [← List.reverse_append, List.takeWhile_append_dropWhile, List.reverse_reverse]
  have hsp : ∀ c ∈ (u.reverse.takeWhile isSpace).reverse, isSpace c := fun c hc =>
    List.mem_takeWhile_imp (List.mem_reverse.mp hc)
  simp only [split, strip, stripWith]
  rw [← splitChars_append_spaces _ hsp, hu, splitChars_dropWhile]

/-- A word ends at the space after it. -/
theorem splitChars_word {w : List Char} (hw : ∀ x ∈ w, isSpace x = false) {c : Char} (hc : isSpace c)
    (r acc : List Char) (hne : acc ≠ [] ∨ w ≠ []) :
    splitChars (w ++ c :: r) acc = (acc.reverse ++ w) :: splitChars r [] := by
  induction w generalizing acc with
  | nil =>
    have : acc.isEmpty = false := by simpa using hne
    simp [splitChars, hc, this]
  | cons x w ih =>
    rw [List.cons_append, splitChars, if_neg (by simp [hw x (List.mem_cons_self _ _)]),
      ih (fun y hy => hw y (List.mem_cons_of_mem _ hy)) _ (.inl (List.cons_ne_nil _ _))]
    simp

/-- Words each followed by a space split back into the words. -/
theorem split_join_words {ws : List String} (hws : ∀ w ∈ ws, w ≠ "" ∧ ∀ c ∈ w.data, isSpace c = false) :
    split (String.join (ws.map (· ++ " ")) ++ "\n") = ws := by
  suffices ∀ r, splitChars ((ws.map fun w => w.data ++ [' ']).flatten ++ r) [] =
      ws.map String.data ++ splitChars r [] by
    simp [split, data_join, Function.comp_def, this, splitChars, show isSpace '\n' from rfl]
  induction ws with
  | nil => simp
  | cons w ws ih =>
    intro r
    have hw := hws w (List.mem_cons_self _ _)
    have hne : w.data ≠ [] := fun h => hw.1 (String.ext h)
    rw [List.map_cons, List.flatten_cons, List.append_assoc, List.append_assoc, List.singleton_append,
      splitChars_word hw.2 (c := ' ') rfl _ _ (.inr hne), ih (fun v hv => hws v (List.mem_cons_of_mem _ hv))]
    simp

/-- A piece of `splitChars` is a nonempty run of non-space characters. -/
theorem mem_splitChars {cs acc : List Char} (hacc : ∀ c ∈ acc, isSpace c = false) {w : List Char}
    (hw : w ∈ splitChars cs acc) : w ≠ [] ∧ ∀ c ∈ w, isSpace c = false := by
  induction cs generalizing acc with
  | nil =>
    cases acc with
    | nil => cases hw
    | cons a acc =>
      obtain rfl : w = (a :: acc).reverse := by simpa [splitChars] using hw
      exact ⟨by simp, fun c hc => hacc c (List.mem_reverse.mp hc)⟩
  | cons c cs ih =>
    unfold splitChars at hw
    split at hw
    · split at hw
      · exact ih (fun _ h => by cases h) hw
      · rcases List.mem_cons.mp hw with rfl | hw
        · exact ⟨by simpa using ‹¬acc.isEmpty›, fun c hc => hacc c (List.mem_reverse.mp hc)⟩
        · exact ih (fun _ h => by cases h) hw
    · exact ih (List.forall_mem_cons.mpr ⟨by simpa using ‹¬isSpace c›, hacc⟩) hw

/-- A token of `s.split()` is nonempty and holds no space. -/
theorem mem_split {s w : String} (hw : w ∈ split s) : w ≠ "" ∧ ∀ c ∈ w.data, isSpace c = false := by
  obtain ⟨l, hl, rfl⟩ := List.mem_map.mp hw
  have := mem_splitChars (fun _ h => by cases h) hl
  exact ⟨fun h => this.1 (congrArg String.data h), this.2⟩

/-- A token of `s.split()` is its own `strip()`. -/
theorem strip_of_mem_split {s w : String} (hw : w ∈ split s) : strip w = w :=
  stripWith_of_forall (mem_split hw).2

/-! ## Lines of a text file -/

/-- The lines of `cs` as iterating over a file opened in text mode yields
them: `\r\n` and `\r` are read as `\n`, each line keeps its `\n`, and a last
line without one is kept too; `acc` holds the current line reversed. -/
def linesChars : List Char → List Char → List (List Char)
  | [], acc => if acc.isEmpty then [] else [acc.reverse]
  | '\r' :: '\n' :: cs, acc | '\r' :: cs, acc | '\n' :: cs, acc => ('\n' :: acc).reverse :: linesChars cs []
  | c :: cs, acc => linesChars cs (c :: acc)

/-- `for line in open(path)`: the lines of a text file. -/
def pyLines (s : String) : List String := (linesChars s.data []).map String.mk

theorem linesChars_line {w : List Char} (hw : ∀ c ∈ w, c ≠ '\r' ∧ c ≠ '\n') (r acc : List Char) :
    linesChars (w ++ '\n' :: r) acc = (acc.reverse ++ w ++ ['\n']) :: linesChars r [] := by
  induction w generalizing acc with
  | nil => simp [linesChars]
  | cons c w ih =>
    obtain ⟨h1, h2⟩ := hw c (List.mem_cons_self _ _)
    rw [List.cons_append, linesChars.eq_def]
    split <;> simp_all

/-- Lines each ended by `\n` are read back as they were written. -/
theorem pyLines_join {ws : List String} (hws : ∀ w ∈ ws, ∀ c ∈ w.data, c ≠ '\r' ∧ c ≠ '\n') :
    pyLines (String.join (ws.map (· ++ "\n"))) = ws.map (· ++ "\n") := by
  suffices linesChars (ws.map fun w => w.data ++ ['\n']).flatten [] = ws.map fun w => w.data ++ ['\n'] by
    have hd : ∀ w : String, (w ++ "\n").data = w.data ++ ['\n'] := fun _ => rfl
    simp only [pyLines, data_join, List.map_map, Function.comp_def, hd, this]
    rfl
  induction ws with
  | nil => rfl
  | cons w ws ih =>
    rw [List.map_cons, List.flatten_cons, List.append_assoc, List.singleton_append,
      linesChars_line (hws w (List.mem_cons_self _ _)), ih fun v hv => hws v (List.mem_cons_of_mem _ hv)]
    simp

/-- The characters `str.splitlines()` ends a line at. -/
def lineBoundaries : List Char :=
  ['\n', '\r', '\x0b', '\x0c', '\x1c', '\x1d', '\x1e', '\x85', '\u2028', '\u2029']

/-- The lines of `cs` as `str.splitlines()` gives them, without their ends;
`\r\n` ends one line, and `acc` holds the current line reversed. -/
def splitlinesChars : List Char → List Char → List (List Char)
  | [], acc => if acc.isEmpty then [] else [acc.reverse]
  | '\r' :: '\n' :: cs, acc => acc.reverse :: splitlinesChars cs []
  | c :: cs, acc =>
    if c ∈ lineBoundaries then acc.reverse :: splitlinesChars cs [] else splitlinesChars cs (c :: acc)

/-- `s.splitlines()`. -/
def splitlines (s : String) : List String := (splitlinesChars s.data []).map String.mk

theorem splitlinesChars_line {w : List Char} (hw : ∀ c ∈ w, c ∉ lineBoundaries) (r acc : List Char) :
    splitlinesChars (w ++ '\n' :: r) acc = (acc.reverse ++ w) :: splitlinesChars r [] := by
  induction w generalizing acc with
  | nil => rw [List.nil_append, List.append_nil]; rfl
  | cons c w ih =>
    have hc := hw c (List.mem_cons_self _ _)
    have hr : c ≠ '\r' := fun h => hc (h ▸ by decide)
    rw [List.cons_append, splitlinesChars.eq_3 _ _ _ fun _ h _ => hr h, if_neg hc,
      ih fun c hc' => hw c (List.mem_cons_of_mem _ hc')]
    simp

/-- Lines each ended by `\n` split back into the lines, whatever follows them. -/
theorem splitlines_join {ws : List String} (hws : ∀ w ∈ ws, ∀ c ∈ w.data, c ∉ lineBoundaries)
    (rest : String) :
    splitlines (String.join (ws.map (· ++ "\n")) ++ rest) = ws ++ splitlines rest := by
  suffices ∀ r, splitlinesChars ((ws.map fun w => w.data ++ ['\n']).flatten ++ r) [] =
      ws.map String.data ++ splitlinesChars r [] by
    have hd : ∀ w : String, (w ++ "\n").data = w.data ++ ['\n'] := fun _ => rfl
    simp only [splitlines, String.data_append, data_join, List.map_map, Function.comp_def, hd, this,
      List.map_append]
    simp
  induction ws with
  | nil => simp
  | cons w ws ih =>
    intro r
    rw [List.map_cons, List.flatten_cons, List.append_assoc, List.append_assoc, List.singleton_append,
      splitlinesChars_line (hws w (List.mem_cons_self _ _)), ih fun v hv => hws v (List.mem_cons_of_mem _ hv)]
    simp

example : pyLines "a b\r\nc d\re\n\nf" = ["a b\n", "c d\n", "e\n", "\n", "f"] := by decide
example : splitlines "a b\r\nc d\re\n\nf" = ["a b", "c d", "e", "", "f"] := by decide
example : split " 100  200\n300 " = ["100", "200", "300"] := by decide
example : parseInt "1_000" = some 1000 ∧ parseInt "-7" = some (-7) ∧ parseInt "1__0" = none := by
  decide
example : replaceFirst "NOX_NO_Y" "NO_" "" = "NOX_Y" ∧ splitOn "a:1\n\nb" '\n' = ["a:1", "", "b"] := by
  decide

end Devlib.Text

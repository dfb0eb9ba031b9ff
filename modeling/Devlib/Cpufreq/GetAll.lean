import Devlib.Sched.Target

/-!
# Reading every CPU at once

`get_all_frequencies` and `get_all_governors` run one shell utility each and
read its output a line at a time: a line splits at single spaces into the CPU
and its value, the first line with an empty first field ends the table, and a
line with no second field raises `IndexError`.

## Implementation notes

Neither method reads a sysfs node: both go through `_execute_util`, whose
answers are the `util` of the target of the sched model, so they are modelled
over that target and its exceptions. The utility's output format is not part
of the sources; `getAll_printed` takes it as a hypothesis.
-/

namespace Devlib.Cpufreq

open Devlib.Text

/-- The loop of `get_all_frequencies` and `get_all_governors` over the output's lines. -/
def getAllLoop : List String → List (String × String) →
    Except Sched.Error (List (String × String))
  | [], d => .ok d
  | x :: xs, d =>
    match splitOn x ' ' with
    | "" :: _ => .ok d
    | k :: v :: _ => getAllLoop xs (dictInsert d (k, v))
    | _ => .error (.indexError "list index out of range")

/-- The two methods: run the utility `command` and read its table. -/
def getAll (t : Sched.Target) (command : String) : Except Sched.Error (List (String × String)) := do
  let output ← t.executeUtil command
  getAllLoop (splitlines output) []

/-- `get_all_frequencies()`. -/
def getAllFrequencies (t : Sched.Target) : Except Sched.Error (List (String × String)) :=
  getAll t "cpufreq_get_all_frequencies"

/-- `get_all_governors()`. -/
def getAllGovernors (t : Sched.Target) : Except Sched.Error (List (String × String)) :=
  getAll t "cpufreq_get_all_governors"

/-! ## The table the loop reads -/

/-- `kv[0] == ''` for the fields `kv` of a line. -/
def emptyFirstField (x : String) : Bool := (splitOn x ' ').head? = some ""

/-- `kv[1]` exists for the fields `kv` of a line. -/
def hasValue (x : String) : Bool := 2 ≤ (splitOn x ' ').length

/-- The entry a line of the table gives: its first field mapped to its second. -/
def rowEntry (x : String) : String × String := ((splitOn x ' ').getD 0 "", (splitOn x ' ').getD 1 "")

/-- What the methods read of an output's lines: the dictionary of the lines
before the first one with an empty first field, or `IndexError` when one of
those lines has no value. -/
def readTable (lines : List String) : Except Sched.Error (List (String × String)) :=
  let rows := lines.takeWhile (!emptyFirstField ·)
  if rows.all hasValue then .ok (pyDict (rows.map rowEntry))
  else .error (.indexError "list index out of range")

/-- One line of the loop: it ends the table, is read into it, or raises. -/
theorem getAllLoop_cons (x : String) (xs : List String) (d : List (String × String)) :
    getAllLoop (x :: xs) d =
      if emptyFirstField x then .ok d
      else if hasValue x then getAllLoop xs (dictInsert d (rowEntry x))
      else .error (.indexError "list index out of range") := by
  simp only [getAllLoop, emptyFirstField, hasValue, rowEntry]
  split
  · simp_all
  · rename_i k v tail _
    by_cases hk : k = "" <;> simp_all
  · rename_i hbreak hrow
    split_ifs with h₁ h₂
    · obtain ⟨tail, htail⟩ := List.head?_eq_some_iff.mp (of_decide_eq_true h₁)
      exact absurd htail (hbreak tail)
    · match hs : splitOn x ' ', h₂ with
      | _ :: _ :: _, _ => exact absurd hs (hrow _ _ _)
    · rfl

/-- The loop computes `readTable`, from any dictionary it starts with. -/
theorem getAllLoop_eq (xs : List String) (d : List (String × String)) :
    getAllLoop xs d =
      let rows := xs.takeWhile (!emptyFirstField ·)
      if rows.all hasValue then .ok ((rows.map rowEntry).foldl dictInsert d)
      else .error (.indexError "list index out of range") := by
  induction xs generalizing d with
  | nil => rfl
  | cons x xs ih =>
    rw [getAllLoop_cons]
    cases hx : emptyFirstField x with
    | true => simp [hx]
    | false =>
      cases hv : hasValue x with
      | false => simp [hx, hv]
      | true => simp [ih, hx, hv]

/-- Both methods read the table of the utility's output as `readTable` says. -/
theorem getAll_readTable (t : Sched.Target) (command : String) :
    getAll t command = (t.executeUtil command).bind fun output => readTable (splitlines output) := by
  simp only [getAll, bind, readTable, pyDict, getAllLoop_eq]

/-! ## Printed tables read back -/

/-- A field of a printed table: no space and no line end. -/
def IsField (w : String) : Prop := ∀ c ∈ w.data, c ≠ ' ' ∧ c ∉ lineBoundaries

instance : DecidablePred IsField := fun _ => inferInstanceAs (Decidable (∀ _ ∈ _, _))

/-- The table printed one `cpu value` line per row. -/
def printTable (rows : List (String × String)) : String :=
  String.join (rows.map fun row => row.1 ++ " " ++ row.2 ++ "\n")

theorem splitOn_row {row : String × String} (h1 : IsField row.1) (h2 : IsField row.2) :
    splitOn (row.1 ++ " " ++ row.2) ' ' = [row.1, row.2] :=
  splitOn_pair (fun h => (h1 _ h).1 rfl) (fun h => (h2 _ h).1 rfl)

/-- A table printed one `cpu value` line per row, each CPU named and each field
free of spaces and line ends, reads back as the dictionary of its rows when
what follows it starts, if anywhere, with a line of an empty first field. -/
theorem getAll_printed {t : Sched.Target} {command : String} {rows : List (String × String)}
    (hrows : ∀ row ∈ rows, row.1 ≠ "" ∧ IsField row.1 ∧ IsField row.2) {rest : String}
    (hrest : ∀ x ∈ (splitlines rest).head?, emptyFirstField x = true)
    (hout : t.executeUtil command = .ok (printTable rows ++ rest)) :
    getAll t command = .ok (pyDict rows) := by
  have hsplit : ∀ row ∈ rows, splitOn (row.1 ++ " " ++ row.2) ' ' = [row.1, row.2] :=
    fun row h => splitOn_row (hrows row h).2.1 (hrows row h).2.2
  have hlines : splitlines (printTable rows ++ rest) =
      rows.map (fun row => row.1 ++ " " ++ row.2) ++ splitlines rest := by
    rw [printTable, show rows.map (fun row => row.1 ++ " " ++ row.2 ++ "\n") =
      (rows.map fun row => row.1 ++ " " ++ row.2).map (· ++ "\n") by rw [List.map_map]; rfl,
      splitlines_join]
    simp only [List.mem_map]
    rintro _ ⟨row, hrow, rfl⟩ c hc
    simp only [String.data_append, List.mem_append] at hc
    rcases hc with (hc | hc) | hc
    · exact ((hrows row hrow).2.1 c hc).2
    · simp only [List.mem_singleton.mp hc]; decide
    · exact ((hrows row hrow).2.2 c hc).2
  have hrest' : (splitlines rest).takeWhile (!emptyFirstField ·) = [] := by
    cases h : splitlines rest with
    | nil => rfl
    | cons x xs => simp [hrest x (by simp [h])]
  have hrow : ∀ x ∈ rows.map (fun row => row.1 ++ " " ++ row.2), (!emptyFirstField x) = true := by
    simp only [List.mem_map]
    rintro _ ⟨row, h, rfl⟩
    simp [emptyFirstField, hsplit row h, (hrows row h).1]
  have hall : (rows.map fun row => row.1 ++ " " ++ row.2).all hasValue := by
    simp only [List.all_eq_true, List.mem_map]
    rintro _ ⟨row, h, rfl⟩
    simp [hasValue, hsplit row h]
  have hentry : (rows.map fun row => row.1 ++ " " ++ row.2).map rowEntry = rows := by
    rw [List.map_map]
    conv_rhs => rw [← List.map_id rows]
    exact List.map_congr_left fun row h => by simp [rowEntry, hsplit row h]
  rw [getAll_readTable, hout, Except.bind, readTable, hlines, List.takeWhile_append_of_pos hrow, hrest',
    List.append_nil, if_pos hall, hentry]

/-- A target whose utility prints `output` for every command. -/
def printingTarget (output : String) : Sched.Target where
  fs := .dir []
  schedFeatures := none
  util := fun _ => .ok output
  onlineCpus := [0, 1]

theorem getAll_printed_frequencies :
    getAllFrequencies (printingTarget (printTable [("cpu0", "1800000"), ("cpu1", "2400000")])) =
      .ok (pyDict [("cpu0", "1800000"), ("cpu1", "2400000")]) :=
  @getAll_printed _ _ _ (by decide) "" (fun x h => absurd h (Option.not_mem_none x)) rfl

end Devlib.Cpufreq

import Devlib.Host.Ops
import Devlib.Util.Dict

/-!
# Android: flashing with fastboot

`devlib/module/android.py`: the `fastboot` flasher. It maps partitions to
images, from the `partitions.txt` of an extracted tarball and from its caller,
resets the device into fastboot before the first image it flashes, flashes
each partition and reboots the device.

## Implementation notes

`merge_dicts` comes from `devlib.utils.misc`, which is not among the sources;
`__call__` takes it as a parameter and the results hold for every merge.
`bootargs` is only tested for truth and is taken as its truth value.
-/

namespace Devlib.Android

open Devlib.Async Devlib.Host Devlib.Text
open Devlib.Sched (pathJoin)

/-- `FastbootFlashModule.delay`, half a second. -/
def delay : ℕ := 500

/-- `FastbootFlashModule.partitions_file_name`. -/
def partitionsFileName : String := "partitions.txt"

/-! ## Reading `partitions.txt` -/

/-- `expand_path`. -/
def expandPath (originalPath : String) : HostM String := do
  let path ← abspath originalPath
  if !(← osPathExists path) then throw (.hostError (path ++ " does not exist."))
  pure path

/-- The loop of `get_mapping` over the lines of the partition file. A line of
other than two words only builds a `HostError`, which is dropped, and
`pair[1]` raises on a line of fewer; the test for a regular file builds one
too. -/
def getMappingLoop (baseDir : String) : List String → List (String × String) → HostM (List (String × String))
  | [], mapping => pure mapping
  | line :: lines, mapping =>
    match split line with
    | partition :: image :: _ => do
      let imagePath := pathJoin baseDir image
      let _ ← osPathIsfile (← expandPath imagePath)
      getMappingLoop baseDir lines (dictInsert mapping (partition, imagePath))
    | _ => throw (.indexError "list index out of range")

/-- `get_mapping`. -/
def getMapping (baseDir partitionFile : String) : HostM (List (String × String)) := do
  let text ← readText partitionFile
  getMappingLoop baseDir (pyLines text) []

/-- The item a line of at least two words adds: its first word, and its second
under the base directory. -/
def mappingEntry (baseDir line : String) : String × String :=
  ((split line).getD 0 "", pathJoin baseDir ((split line).getD 1 ""))

/-- What a run of the loop returns and raises. -/
theorem getMappingLoop_spec (baseDir : String) :
    ∀ {lines : List String} {mapping : List (String × String)} {tr : List Entry} {r},
      Coro.Finishes (getMappingLoop baseDir lines mapping) tr r →
      (∀ m, r = .ok m → (∀ l ∈ lines, 2 ≤ (split l).length) ∧
          m = (lines.map (mappingEntry baseDir)).foldl dictInsert mapping) ∧
        ∀ e, r = .error e → (e = .indexError "list index out of range" ∧ ∃ l ∈ lines, (split l).length < 2) ∨
          ∃ p, e = .hostError (p ++ " does not exist.") ∧ (⟨.pathExists p, false⟩ : Entry) ∈ tr
  | [], mapping, tr, r, h => by
    obtain ⟨rfl, rfl⟩ := Coro.Finishes.done_iff.mp h
    exact ⟨fun m hm => ⟨by simp, by cases hm; rfl⟩, fun e he => by cases he⟩
  | line :: lines, mapping, tr, r, h => by
    match hs : split line with
    | [] | [_] =>
      simp only [getMappingLoop, hs] at h
      obtain ⟨rfl, rfl⟩ := Coro.Finishes.done_iff.mp h
      exact ⟨fun m hm => (by cases hm), fun e he => .inl ⟨(by cases he; rfl), line, List.mem_cons_self _ _, by simp [hs]⟩⟩
    | partition :: image :: rest =>
      simp only [getMappingLoop, hs, expandPath, abspath, osPathExists, osPathIsfile, Coro.bind_eq, Coro.call_bind,
        Coro.op_bind] at h
      obtain ⟨a, tr₁, rfl, h₁⟩ := Coro.Finishes.op_iff.mp h
      obtain ⟨b, tr₂, rfl, h₂⟩ := Coro.Finishes.op_iff.mp h₁
      cases b with
      | false =>
        simp only [Bool.not_false, if_true, Coro.throw_eq, Coro.done_error_bind] at h₂
        obtain ⟨rfl, rfl⟩ := Coro.Finishes.done_iff.mp h₂
        exact ⟨fun m hm => (by cases hm), fun e he => .inr ⟨a, (by cases he; rfl),
          List.mem_cons_of_mem _ (List.mem_cons_self _ _)⟩⟩
      | true =>
        simp only [Bool.not_true, Bool.false_eq_true, if_false, Coro.pure_eq, Coro.done_ok_bind] at h₂
        obtain ⟨_, tr₃, rfl, h₃⟩ := Coro.Finishes.op_iff.mp h₂
        have hentry : mappingEntry baseDir line = (partition, pathJoin baseDir image) := by
          simp [mappingEntry, hs]
        obtain ⟨hok, herr⟩ := getMappingLoop_spec baseDir h₃
        refine ⟨fun m hm => ?_, fun e he => ?_⟩
        · obtain ⟨hl, rfl⟩ := hok m hm
          refine ⟨List.forall_mem_cons.mpr ⟨by simp [hs], hl⟩, ?_⟩
          rw [List.map_cons, List.foldl_cons, hentry]
        · rcases herr e he with ⟨he, l, hl, hlen⟩ | ⟨p, he, hp⟩
          · exact .inl ⟨he, l, List.mem_cons_of_mem _ hl, hlen⟩
          · exact .inr ⟨p, he, List.mem_cons_of_mem _ (List.mem_cons_of_mem _ (List.mem_cons_of_mem _ hp))⟩

/-- A host where every operation succeeds and every file reads as `text`. -/
def readsAs (text : String) (w : Unit) (o : Op) : o.Resp × Unit :=
  match o with
  | .readText _ => (.ok text, w)
  | o => allSucceed w o

/-- What `get_mapping` returns and raises, whatever the host answers: it returns
the dictionary of the first two words of each line, the second under the base
directory, when every line has two words or more; it raises what the host
raised on reading the file, `IndexError` when a line of the file it read has
fewer words, or `HostError` on an image path the host does not find. -/
theorem getMapping_result {baseDir partitionFile : String} {tr : List Entry} {r}
    (h : Coro.Finishes (getMapping baseDir partitionFile) tr r) :
    (∀ m, r = .ok m → ∃ text, tr.head? = some ⟨.readText partitionFile, Except.ok text⟩ ∧
        (∀ l ∈ pyLines text, 2 ≤ (split l).length) ∧ m = pyDict ((pyLines text).map (mappingEntry baseDir))) ∧
      ∀ e, r = .error e → tr = [⟨.readText partitionFile, Except.error e⟩] ∨
        (e = .indexError "list index out of range" ∧ ∃ text, tr.head? = some ⟨.readText partitionFile, Except.ok text⟩ ∧
          ∃ l ∈ pyLines text, (split l).length < 2) ∨
        ∃ p, e = .hostError (p ++ " does not exist.") ∧ (⟨.pathExists p, false⟩ : Entry) ∈ tr := by
  obtain ⟨x, tr', rfl, h₁⟩ := Coro.Finishes.op_iff.mp h
  cases x with
  | error e =>
    obtain ⟨rfl, rfl⟩ := Coro.Finishes.done_iff.mp h₁
    exact ⟨fun m hm => (by cases hm), fun e' he => .inl (by cases he; rfl)⟩
  | ok text =>
    obtain ⟨hok, herr⟩ := getMappingLoop_spec baseDir h₁
    refine ⟨fun m hm => ⟨text, rfl, hok m hm⟩, fun e he => .inr ?_⟩
    rcases herr e he with ⟨he, hl⟩ | ⟨p, he, hp⟩
    · exact .inl ⟨he, text, rfl, hl⟩
    · exact .inr ⟨p, he, List.mem_cons_of_mem _ hp⟩

theorem getMapping_result_shortLine :
    let t := getMapping "/tmp/tmp0" "/tmp/tmp0/partitions.txt"
    let host := readsAs "boot boot.img\nsystem\n"
    (∀ m, (t.run host ()).1 = .ok m → ∃ text, (t.runTrace host ()).head? =
        some ⟨.readText "/tmp/tmp0/partitions.txt", Except.ok text⟩ ∧
        (∀ l ∈ pyLines text, 2 ≤ (split l).length) ∧ m = pyDict ((pyLines text).map (mappingEntry "/tmp/tmp0"))) ∧
      ∀ e, (t.run host ()).1 = .error e → t.runTrace host () =
          [⟨.readText "/tmp/tmp0/partitions.txt", Except.error e⟩] ∨
        (e = .indexError "list index out of range" ∧ ∃ text, (t.runTrace host ()).head? =
          some ⟨.readText "/tmp/tmp0/partitions.txt", Except.ok text⟩ ∧ ∃ l ∈ pyLines text, (split l).length < 2) ∨
        ∃ p, e = .hostError (p ++ " does not exist.") ∧ (⟨.pathExists p, false⟩ : Entry) ∈ t.runTrace host () :=
  getMapping_result (Coro.finishes_run _ _ ())

/-- A word of `partitions.txt`: nonempty, with no space. -/
def IsWord (w : String) : Prop := w ≠ "" ∧ ∀ c ∈ w.data, isSpace c = false

/-- `partitions.txt` in its documented format: one `partition image` line per entry. -/
def partitionsText (rows : List (String × String)) : String :=
  String.join (rows.map fun row => row.1 ++ " " ++ row.2 ++ "\n")

theorem split_row {partition image : String} (hp : IsWord partition) (hi : IsWord image) :
    split (partition ++ " " ++ image ++ "\n") = [partition, image] := by
  have hp' : partition.data ≠ [] := fun h => hp.1 (String.ext h)
  have hi' : image.data ≠ [] := fun h => hi.1 (String.ext h)
  have hd : (partition ++ " " ++ image ++ "\n").data = partition.data ++ ' ' :: (image.data ++ '\n' :: []) := by
    simp [String.data_append]
  rw [split, hd, splitChars_word hp.2 (c := ' ') rfl _ _ (.inr hp'),
    splitChars_word hi.2 (c := '\n') rfl _ _ (.inr hi')]
  simp [splitChars]

theorem pyLines_partitionsText {rows : List (String × String)} (hrows : ∀ row ∈ rows, IsWord row.1 ∧ IsWord row.2) :
    pyLines (partitionsText rows) = rows.map fun row => row.1 ++ " " ++ row.2 ++ "\n" := by
  have hnl : ∀ w : String, IsWord w → ∀ c ∈ w.data, c ≠ '\r' ∧ c ≠ '\n' := fun w hw c hc =>
    ⟨fun h => absurd (hw.2 c hc) (by rw [h]; decide), fun h => absurd (hw.2 c hc) (by rw [h]; decide)⟩
  have := pyLines_join fun w (hw : w ∈ rows.map fun row => row.1 ++ " " ++ row.2) => by
    obtain ⟨row, hrow, rfl⟩ := List.mem_map.mp hw
    intro c hc
    simp only [String.data_append, List.mem_append] at hc
    rcases hc with (hc | hc) | hc
    · exact hnl _ (hrows row hrow).1 c hc
    · simp at hc; subst hc; decide
    · exact hnl _ (hrows row hrow).2 c hc
  simpa [partitionsText, Function.comp_def] using this

/-- `partitions.txt` written in its documented format is read back by
`get_mapping` as the mapping it was written from, each image under the base
directory, whenever the host finds every image. -/
theorem getMapping_partitionsText {baseDir partitionFile : String} {rows : List (String × String)}
    (hrows : ∀ row ∈ rows, IsWord row.1 ∧ IsWord row.2) {tr : List Entry} {r}
    (h : Coro.Finishes (getMapping baseDir partitionFile) tr r)
    (hread : tr.head? = some ⟨.readText partitionFile, Except.ok (partitionsText rows)⟩)
    (hfound : ∀ p, (⟨.pathExists p, false⟩ : Entry) ∉ tr) :
    r = .ok (pyDict (rows.map fun row => (row.1, pathJoin baseDir row.2))) := by
  obtain ⟨x, tr', rfl, h₁⟩ := Coro.Finishes.op_iff.mp h
  obtain rfl : x = .ok (partitionsText rows) := by cases hread; rfl
  have hlines := pyLines_partitionsText hrows
  have hsplit : ∀ row ∈ rows, split (row.1 ++ " " ++ row.2 ++ "\n") = [row.1, row.2] :=
    fun row hrow => split_row (hrows row hrow).1 (hrows row hrow).2
  obtain ⟨hok, herr⟩ := getMappingLoop_spec baseDir h₁
  cases r with
  | error e =>
    rcases herr e rfl with ⟨-, l, hl, hlen⟩ | ⟨p, -, hp⟩
    · rw [hlines] at hl
      obtain ⟨row, hrow, rfl⟩ := List.mem_map.mp hl
      simp [hsplit row hrow] at hlen
    · exact absurd (List.mem_cons_of_mem _ hp) (hfound p)
  | ok m =>
    obtain ⟨-, rfl⟩ := hok m rfl
    rw [hlines, List.map_map]
    congr 2
    refine List.map_congr_left fun row hrow => ?_
    simp [mappingEntry, hsplit row hrow]

instance : DecidablePred IsWord := fun _ => inferInstanceAs (Decidable (_ ∧ _))

theorem pathExists_false_not_mem_runTrace_readsAs {α : Type} (text p : String) (t : HostM α) :
    (⟨.pathExists p, false⟩ : Entry) ∉ t.runTrace (readsAs text) () := by
  induction t with
  | done r => exact List.not_mem_nil _
  | op o k ih =>
    intro hm
    rcases List.mem_cons.mp hm with h | h
    · obtain ⟨rfl, h⟩ := Sigma.mk.inj_iff.mp h
      exact Bool.false_ne_true (eq_of_heq h)
    · exact ih _ h

theorem getMapping_partitionsText_documented :
    ((getMapping "/tmp/tmp0" "/tmp/tmp0/partitions.txt").run
        (readsAs (partitionsText [("kernel", "zImage-dtb"), ("ramdisk", "ramdisk_image")])) ()).1 =
      .ok (pyDict ([("kernel", "zImage-dtb"), ("ramdisk", "ramdisk_image")].map fun row =>
        (row.1, pathJoin "/tmp/tmp0" row.2))) :=
  getMapping_partitionsText (by decide) (Coro.finishes_run _ _ ()) rfl
    fun p => pathExists_false_not_mem_runTrace_readsAs _ p _

/-! ## Flashing -/

/-- `_validate_image_bundle`. `files[0]` raises on an empty tarball; a tarball
without the partition file only builds a `HostError`, which is dropped. -/
def validateImageBundle (imageBundle : String) : HostM Unit := do
  if !(← isTarfile imageBundle) then
    throw (.hostError ("File " ++ imageBundle ++ " is not a tarfile"))
  else
    let files ← tarMembers imageBundle
    if files = [] then throw (.indexError "list index out of range")

/-- The directory of the extracted tarball that holds the partition file: the
top, or the first member when the file is not at the top. -/
def partitionDir (extractDir : String) (files : List String) : Except Error String :=
  if partitionsFileName ∈ files then .ok extractDir
  else
    match files with
    | first :: _ => .ok (pathJoin extractDir first)
    | [] => .error (.indexError "list index out of range")

/-- `_bundle_to_images`: the tarball is extracted to a new directory. -/
def bundleToImages (imageBundle : String) : HostM (List (String × String)) := do
  validateImageBundle imageBundle
  let extractDir ← mkdtemp
  safeExtract imageBundle extractDir
  let files ← tarMembers imageBundle
  let extractDir ← Coro.done (partitionDir extractDir files)
  getMapping extractDir (pathJoin extractDir partitionsFileName)

/-- `_fastboot_prelude`: the device is reset into fastboot, then `prelude_done` is set. -/
def fastbootPrelude : HostM Bool := do
  resetFastboot
  sleep delay
  pure true

/-- `_flash_image`, with `self.prelude_done` passed in and returned. -/
def flashImage (preludeDone : Bool) (partition imagePath : String) : HostM Bool := do
  let preludeDone ← if !preludeDone then fastbootPrelude else pure preludeDone
  fastbootFlashPartition partition imagePath
  sleep delay
  pure preludeDone

/-- The loop of `__call__` over the partitions to flash. -/
def flashAll : Bool → List (String × String) → HostM Bool
  | preludeDone, [] => pure preludeDone
  | preludeDone, (partition, imagePath) :: toFlash => do
    let preludeDone ← flashImage preludeDone partition (← expandPath imagePath)
    flashAll preludeDone toFlash

/-- The partitions of the image bundle, when one is given. -/
def bundleImages (imageBundle : String) : HostM (List (String × String)) :=
  if imageBundle ≠ "" then do bundleToImages (← expandPath imageBundle) else pure []

/-- `FastbootFlashModule.__call__`, where `mergeDicts` is
`merge_dicts(..., should_normalize=False)`. -/
def call (mergeDicts : List (String × String) → List (String × String) → List (String × String))
    (imageBundle : String) (images : List (String × String)) (bootargs connect : Bool) : HostM Unit :=
  if bootargs then throw (.valueError "fastboot does not support boot configuration") else do
    let toFlash ← bundleImages imageBundle
    let _ ← flashAll false (mergeDicts toFlash images)
    fastbootCommand "reboot"
    if connect then Host.connect 180

/-- The operations the prelude guards: the reset into fastboot, and a flash. -/
def Op.Flashing : Op → Prop
  | .resetFastboot | .flashPartition .. => True
  | _ => False

/-- An operation that is neither the reset into fastboot nor a flash. -/
abbrev Quiet (o : Op) : Prop := ¬Op.Flashing o

theorem Quiet.ne_reset {o : Op} (h : Quiet o) : o ≠ .resetFastboot := fun he => h (he ▸ trivial)

theorem expandPath_quiet (originalPath : String) : Coro.OpsIn Quiet (expandPath originalPath) := by
  simp only [expandPath, abspath, osPathExists, Coro.bind_eq, Coro.call_bind]
  refine .op id fun _ => .op id fun _ => ?_
  split <;> exact .done _

theorem getMappingLoop_quiet (baseDir : String) :
    ∀ lines mapping, Coro.OpsIn Quiet (getMappingLoop baseDir lines mapping)
  | [], _ => .done _
  | line :: lines, mapping => by
    simp only [getMappingLoop]
    split
    · exact (expandPath_quiet _).bind fun _ => .op id fun _ => getMappingLoop_quiet baseDir lines _
    · exact .done _

theorem getMapping_quiet (baseDir partitionFile : String) :
    Coro.OpsIn Quiet (getMapping baseDir partitionFile) :=
  .op id fun x => by
    cases x with
    | error e => exact .done _
    | ok text => exact getMappingLoop_quiet baseDir _ _

theorem bundleToImages_quiet (imageBundle : String) : Coro.OpsIn Quiet (bundleToImages imageBundle) := by
  have validate : Coro.OpsIn Quiet (validateImageBundle imageBundle) := by
    refine .op id fun x => ?_
    cases x with
    | error e => exact .done _
    | ok t =>
      simp only [Coro.done_ok_bind]
      split
      · exact .done _
      · refine .op id fun y => ?_
        cases y with
        | error e => exact .done _
        | ok files => simp only [Coro.done_ok_bind]; split <;> exact .done _
  refine validate.bind fun _ => .op id fun _ => .op id fun x => ?_
  cases x with
  | error e => exact .done _
  | ok _ =>
    refine .op id fun y => ?_
    cases y with
    | error e => exact .done _
    | ok files =>
      simp only [Coro.done_ok_bind, Coro.bind_eq]
      exact (Coro.OpsIn.done _).bind fun _ => getMapping_quiet _ _

theorem expandPath_propagates (originalPath : String) : Propagates (expandPath originalPath) := by
  simp only [expandPath, abspath, osPathExists, Coro.bind_eq, Coro.call_bind]
  refine Propagates.op (fun _ => Propagates.op (fun _ => ?_) fun _ _ h => by cases h) fun _ _ h => by cases h
  split <;> exact Propagates.done _

theorem flashAll_propagates : ∀ (preludeDone : Bool) (toFlash : List (String × String)),
    Propagates (flashAll preludeDone toFlash)
  | _, [] => Propagates.done _
  | preludeDone, (partition, imagePath) :: toFlash => by
    refine (expandPath_propagates imagePath).bind fun path => Propagates.bind ?_ fun d => flashAll_propagates d toFlash
    have flash : ∀ d, Propagates ((fastbootFlashPartition partition path).bind fun _ =>
        (sleep delay).bind fun _ => (pure d : HostM Bool)) :=
      fun _ => (fastbootFlashPartition_propagates _ _).bind fun _ => (sleep_propagates _).bind fun _ => Propagates.done _
    simp only [flashImage, fastbootPrelude, Coro.bind_eq]
    split
    · exact (resetFastboot_propagates.bind fun _ => (sleep_propagates _).bind fun _ => Propagates.done _).bind flash
    · exact flash _

/-- Once the prelude is done, the loop never resets the device again. -/
theorem flashAll_true_no_reset : ∀ {toFlash : List (String × String)} {tr : List Entry} {r},
    Coro.Finishes (flashAll true toFlash) tr r → ∀ e ∈ tr, e.1 ≠ .resetFastboot := by
  suffices ∀ toFlash, Coro.OpsIn (· ≠ .resetFastboot) (flashAll true toFlash) by
    intro toFlash tr r h
    exact (this toFlash).finishes h
  intro toFlash
  induction toFlash with
  | nil => exact .done _
  | cons p toFlash ih =>
    refine ((expandPath_quiet p.2).mono fun _ => Quiet.ne_reset).bind fun path => ?_
    exact .op (by nofun) fun x => by
      cases x with
      | error e => exact .done _
      | ok u => exact .op (by nofun) fun _ => ih

/-- A trace around the fastboot prelude: nothing touches the device, then
possibly the reset into fastboot, which either raised and ended the run, or
returned and was followed by a flash and by no other reset. -/
def PreludeOnce (tr : List Entry) : Prop :=
  ∃ pre post, tr = pre ++ post ∧ (∀ e ∈ pre, Quiet e.1) ∧
    (post = [] ∨ (∃ e, post = [⟨.resetFastboot, Except.error e⟩]) ∨
      ∃ rest, post = ⟨.resetFastboot, Except.ok ()⟩ :: rest ∧
        (∃ e ∈ rest, ∃ partition image, e.1 = .flashPartition partition image) ∧
        ∀ e ∈ rest, e.1 ≠ .resetFastboot)

namespace PreludeOnce

theorem of_quiet {tr : List Entry} (h : ∀ e ∈ tr, Quiet e.1) : PreludeOnce tr :=
  ⟨tr, [], (List.append_nil _).symm, h, .inl rfl⟩

theorem quiet_append {a tr : List Entry} (ha : ∀ e ∈ a, Quiet e.1) (h : PreludeOnce tr) :
    PreludeOnce (a ++ tr) := by
  obtain ⟨pre, post, rfl, hpre, hpost⟩ := h
  exact ⟨a ++ pre, post, (List.append_assoc _ _ _).symm,
    fun e he => (List.mem_append.mp he).elim (ha e) (hpre e), hpost⟩

/-- A quiet end keeps the shape of a run whose reset did not raise. -/
theorem append_quiet {tr s : List Entry} (h : PreludeOnce tr)
    (hr : ∀ e, (⟨.resetFastboot, Except.error e⟩ : Entry) ∉ tr) (hs : ∀ e ∈ s, Quiet e.1) :
    PreludeOnce (tr ++ s) := by
  obtain ⟨pre, post, rfl, hpre, rfl | ⟨e, rfl⟩ | ⟨rest, rfl, ⟨f, hf, hflash⟩, hrest⟩⟩ := h
  · rw [List.append_nil]
    exact of_quiet fun e he => (List.mem_append.mp he).elim (hpre e) (hs e)
  · exact absurd (List.mem_append_right _ (List.mem_singleton_self _)) (hr e)
  · refine ⟨pre, _ :: (rest ++ s), by simp, hpre, .inr (.inr ⟨rest ++ s, rfl,
      ⟨f, List.mem_append_left _ hf, hflash⟩, fun e he => ?_⟩)⟩
    exact (List.mem_append.mp he).elim (hrest e) fun he => (hs e he).ne_reset

end PreludeOnce

/-- The loop from a state where the prelude is not done: the prelude comes
with the first flash, and never again. -/
theorem flashAll_false_trace {toFlash : List (String × String)} {tr : List Entry} {r}
    (h : Coro.Finishes (flashAll false toFlash) tr r) : PreludeOnce tr := by
  cases toFlash with
  | nil => exact .of_quiet fun e he => by cases (Coro.Finishes.done_iff.mp h).1; cases he
  | cons p toFlash =>
    obtain ⟨path, tr₁, tr₂, rfl, h₁, h₂⟩ | ⟨e, h₁, -⟩ := Coro.finishes_bind h
    · refine .quiet_append ((expandPath_quiet _).finishes h₁) ?_
      obtain ⟨y, tr₃, rfl, h₃⟩ := Coro.Finishes.op_iff.mp h₂
      cases y with
      | error e =>
        obtain ⟨rfl, -⟩ := Coro.Finishes.done_iff.mp h₃
        exact ⟨[], _, rfl, List.forall_mem_nil _, .inr (.inl ⟨e, rfl⟩)⟩
      | ok u =>
        obtain ⟨_, tr₄, rfl, h₄⟩ := Coro.Finishes.op_iff.mp h₃
        obtain ⟨x, tr₅, rfl, h₅⟩ := Coro.Finishes.op_iff.mp h₄
        have later : ∀ e ∈ tr₅, e.1 ≠ .resetFastboot := by
          cases x with
          | error e' => obtain ⟨rfl, -⟩ := Coro.Finishes.done_iff.mp h₅; exact List.forall_mem_nil _
          | ok v =>
            obtain ⟨_, tr₆, rfl, h₆⟩ := Coro.Finishes.op_iff.mp h₅
            exact List.forall_mem_cons.mpr ⟨nofun, flashAll_true_no_reset h₆⟩
        exact ⟨[], _, rfl, List.forall_mem_nil _, .inr (.inr ⟨_, rfl,
          ⟨_, List.mem_cons_of_mem _ (List.mem_cons_self _ _), _, _, rfl⟩,
          List.forall_mem_cons.mpr ⟨nofun, List.forall_mem_cons.mpr ⟨nofun, later⟩⟩⟩)⟩
    · exact .of_quiet ((expandPath_quiet _).finishes h₁)

/-- Over every run of `__call__`, whatever the host and the device answer:
nothing touches the device before the reset into fastboot, the reset comes at
most once, and a reset that returned is followed by a flash and by no other
reset. -/
theorem call_prelude_once
    {mergeDicts : List (String × String) → List (String × String) → List (String × String)}
    {imageBundle : String} {images : List (String × String)} {bootargs connect : Bool}
    {tr : List Entry} {r : Except Error Unit}
    (h : Coro.Finishes (call mergeDicts imageBundle images bootargs connect) tr r) : PreludeOnce tr := by
  unfold call at h
  split at h
  · obtain ⟨rfl, -⟩ := Coro.Finishes.done_iff.mp h
    exact .of_quiet (List.forall_mem_nil _)
  have bundle : Coro.OpsIn Quiet (bundleImages imageBundle) := by
    unfold bundleImages
    split
    · exact (expandPath_quiet _).bind fun _ => bundleToImages_quiet _
    · exact .done _
  have reboot : Coro.OpsIn Quiet ((fastbootCommand "reboot").bind fun _ =>
      if connect then Host.connect 180 else (pure () : HostM Unit)) := by
    refine .op id fun x => ?_
    cases x with
    | error e => exact .done _
    | ok u =>
      show Coro.OpsIn Quiet (if connect then _ else _)
      split
      · exact .op id fun _ => .done _
      · exact .done _
  obtain ⟨toFlash, tr₁, tr₂, rfl, h₁, h₂⟩ | ⟨e, h₁, -⟩ := Coro.finishes_bind h
  · refine .quiet_append (bundle.finishes h₁) ?_
    obtain ⟨d, tr₃, tr₄, rfl, h₃, h₄⟩ | ⟨e, h₃, -⟩ := Coro.finishes_bind h₂
    · exact (flashAll_false_trace h₃).append_quiet
        (fun e he => by cases flashAll_propagates false _ _ _ h₃ _ he e rfl) (reboot.finishes h₄)
    · exact flashAll_false_trace h₃
  · exact .of_quiet (bundle.finishes h₁)

theorem call_prelude_once_allSucceed :
    PreludeOnce ((call (fun a b => a ++ b) "" [("boot", "boot.img"), ("system", "system.img")] false true).runTrace
      allSucceed ()) :=
  call_prelude_once (Coro.finishes_run allSucceed _ ())

end Devlib.Android

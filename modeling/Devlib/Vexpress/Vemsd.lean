import Devlib.Host.Ops

/-!
# Versatile Express: the MicroSD card

`devlib/module/vexpress.py` reaches the board's MicroSD card (the VEMSD) from
the host: the board's microcontroller mounts it over USB when asked with
`usb_on` on its console. `wait_for_vemsd` asks until the card's `config.txt`
shows up, the `vexpress-reboottxt` hard reset asks for a reboot by creating
`reboot.txt` on the card, and the `vexpress-vemsd` flasher resets the board,
waits for the card, writes a bundle and images to it and boots.

## Implementation notes

The boot modules (`vexpress-uefi`, `vexpress-uefi-shell`, `vexpress-u-boot`,
`vexpress-bootmon`) and the `vexpress-dtr` hard reset are in
`Devlib.Vexpress.Boot`.
-/

namespace Devlib.Vexpress

open Devlib.Async Devlib.Host
open Devlib.Sched (pathJoin)

def oldAutostartMessage : String := "Press Enter to stop auto boot..."

def autostartMessage : String := "Hit any key to stop autoboot:"

def defaultMccPrompt : String := "Cmd>"

/-! ## Waiting for the card -/

/-- The loop of `wait_for_vemsd` with `n` attempts left: each clears the
console, waits for the microcontroller's prompt, asks it to mount the card and
looks for `config.txt` again. -/
def waitForVemsdLoop (vemsdMount path mccPrompt : String) (shortDelay : ℕ) : ℕ → HostM Unit
  | 0 => throw (.targetStableError ("Could not mount " ++ vemsdMount))
  | n + 1 => do
    sendline ""
    let _ ← expect [mccPrompt] (some (shortDelay * 1000))
    sendline "usb_on"
    sleep (shortDelay * 3 * 1000)
    if ← osPathExists path then pure () else waitForVemsdLoop vemsdMount path mccPrompt shortDelay n

/-- `wait_for_vemsd`. -/
def waitForVemsd (vemsdMount : String) (mccPrompt : String := defaultMccPrompt)
    (shortDelay : ℕ := 1) (retries : ℤ := 3) : HostM Unit := do
  let attempts := 1 + retries
  let path := pathJoin vemsdMount "config.txt"
  if ← osPathExists path then pure ()
  else waitForVemsdLoop vemsdMount path mccPrompt shortDelay attempts.toNat

/-- The answered operations of one attempt that saw the prompt, ending with the
check for `config.txt`. -/
def attempt (path mccPrompt : String) (shortDelay : ℕ) (found : Bool) : List Entry :=
  [⟨.sendline "", ()⟩, ⟨.expect [mccPrompt] (some (shortDelay * 1000)), Except.ok ⟨0, Nat.zero_lt_one⟩⟩,
    ⟨.sendline "usb_on", ()⟩, ⟨.sleep (shortDelay * 3 * 1000), ()⟩, ⟨.pathExists path, found⟩]

/-- `k` attempts that did not find the card. -/
def failedAttempts (path mccPrompt : String) (shortDelay k : ℕ) : List Entry :=
  (List.replicate k (attempt path mccPrompt shortDelay false)).flatten

/-- What a run of the loop can be. -/
def LoopTrace (vemsdMount path mccPrompt : String) (shortDelay n : ℕ) (tr : List Entry)
    (r : Except Error Unit) : Prop :=
  (∃ k < n, tr = failedAttempts path mccPrompt shortDelay k ++ attempt path mccPrompt shortDelay true ∧
      r = .ok ()) ∨
    (tr = failedAttempts path mccPrompt shortDelay n ∧
      r = .error (.targetStableError ("Could not mount " ++ vemsdMount))) ∨
    ∃ k < n, ∃ e, tr = failedAttempts path mccPrompt shortDelay k ++
      [⟨.sendline "", ()⟩, ⟨.expect [mccPrompt] (some (shortDelay * 1000)), Except.error e⟩] ∧ r = .error e

theorem failedAttempts_succ (path mccPrompt : String) (shortDelay k : ℕ) :
    failedAttempts path mccPrompt shortDelay (k + 1) =
      attempt path mccPrompt shortDelay false ++ failedAttempts path mccPrompt shortDelay k := by
  simp [failedAttempts, List.replicate_succ]

/-- One more failed attempt in front of a run of the loop is a run of the longer loop. -/
theorem LoopTrace.cons {vemsdMount path mccPrompt : String} {shortDelay n : ℕ} {tr r}
    (h : LoopTrace vemsdMount path mccPrompt shortDelay n tr r) :
    LoopTrace vemsdMount path mccPrompt shortDelay (n + 1)
      (attempt path mccPrompt shortDelay false ++ tr) r := by
  rcases h with ⟨k, hk, rfl, rfl⟩ | ⟨rfl, rfl⟩ | ⟨k, hk, e, rfl, rfl⟩
  · exact .inl ⟨k + 1, by omega, by rw [failedAttempts_succ, List.append_assoc], rfl⟩
  · exact .inr (.inl ⟨(failedAttempts_succ ..).symm, rfl⟩)
  · exact .inr (.inr ⟨k + 1, by omega, e, by rw [failedAttempts_succ, List.append_assoc], rfl⟩)

theorem waitForVemsdLoop_trace {vemsdMount path mccPrompt : String} {shortDelay n : ℕ} {tr r}
    (h : Coro.Finishes (waitForVemsdLoop vemsdMount path mccPrompt shortDelay n) tr r) :
    LoopTrace vemsdMount path mccPrompt shortDelay n tr r := by
  induction n generalizing tr with
  | zero =>
    obtain ⟨rfl, rfl⟩ := Coro.Finishes.done_iff.mp h
    exact .inr (.inl ⟨rfl, rfl⟩)
  | succ n ih =>
    simp only [waitForVemsdLoop, sendline, expect, sleep, osPathExists, Coro.bind_eq, Coro.call_bind,
      Coro.op_bind] at h
    obtain ⟨_, tr₁, rfl, h₁⟩ := Coro.Finishes.op_iff.mp h
    obtain ⟨x, tr₂, rfl, h₂⟩ := Coro.Finishes.op_iff.mp h₁
    cases x with
    | error e =>
      obtain ⟨rfl, rfl⟩ := Coro.Finishes.done_iff.mp h₂
      exact .inr (.inr ⟨0, by omega, e, rfl, rfl⟩)
    | ok i =>
      obtain ⟨_, tr₃, rfl, h₃⟩ := Coro.Finishes.op_iff.mp h₂
      obtain ⟨_, tr₄, rfl, h₄⟩ := Coro.Finishes.op_iff.mp h₃
      obtain ⟨b, tr₅, rfl, h₅⟩ := Coro.Finishes.op_iff.mp h₄
      obtain rfl : i = ⟨0, Nat.zero_lt_one⟩ := Fin.fin_one_eq_zero i
      cases b with
      | true =>
        obtain ⟨rfl, rfl⟩ := Coro.Finishes.done_iff.mp h₅
        exact .inl ⟨0, by omega, rfl, rfl⟩
      | false => exact (ih h₅).cons

/-- Every run of `wait_for_vemsd`, whatever the console and the host answer:
`config.txt` is there at the first look, or it is not and the rest is a run of
the loop over `1 + retries` attempts. -/
theorem waitForVemsd_trace (vemsdMount mccPrompt : String) (shortDelay : ℕ) (retries : ℤ)
    {tr : List Entry} {r : Except Error Unit}
    (h : Coro.Finishes (waitForVemsd vemsdMount mccPrompt shortDelay retries) tr r) :
    (tr = [⟨.pathExists (pathJoin vemsdMount "config.txt"), true⟩] ∧ r = .ok ()) ∨
      ∃ tr', tr = ⟨.pathExists (pathJoin vemsdMount "config.txt"), false⟩ :: tr' ∧
        LoopTrace vemsdMount (pathJoin vemsdMount "config.txt") mccPrompt shortDelay (1 + retries).toNat tr' r := by
  simp only [waitForVemsd, osPathExists, Coro.bind_eq, Coro.call_bind] at h
  obtain ⟨b, tr', rfl, h₁⟩ := Coro.Finishes.op_iff.mp h
  cases b with
  | true =>
    obtain ⟨rfl, rfl⟩ := Coro.Finishes.done_iff.mp h₁
    exact .inl ⟨rfl, rfl⟩
  | false => exact .inr ⟨tr', rfl, waitForVemsdLoop_trace h₁⟩

/-- A board whose card shows up at the first `usb_on`; the world counts them. -/
def cardOnUsb (w : ℕ) (o : Op) : o.Resp × ℕ :=
  match o with
  | .pathExists _ => (decide (0 < w), w)
  | .sendline "usb_on" => ((), w + 1)
  | o => (o.succeed, w)

theorem waitForVemsd_trace_cardOnUsb :
    let t := waitForVemsd "/media/VEMSD"
    (t.runTrace cardOnUsb 0 = [⟨.pathExists (pathJoin "/media/VEMSD" "config.txt"), true⟩] ∧
        (t.run cardOnUsb 0).1 = .ok ()) ∨
      ∃ tr', t.runTrace cardOnUsb 0 = ⟨.pathExists (pathJoin "/media/VEMSD" "config.txt"), false⟩ :: tr' ∧
        LoopTrace "/media/VEMSD" (pathJoin "/media/VEMSD" "config.txt") defaultMccPrompt 1 ((1 : ℤ) + 3).toNat tr'
          (t.run cardOnUsb 0).1 :=
  waitForVemsd_trace "/media/VEMSD" defaultMccPrompt 1 3 (Coro.finishes_run cardOnUsb _ 0)

/-- The wait returns only once `config.txt` was found. -/
theorem waitForVemsd_found {vemsdMount mccPrompt : String} {shortDelay : ℕ} {retries : ℤ}
    {tr : List Entry} (h : Coro.Finishes (waitForVemsd vemsdMount mccPrompt shortDelay retries) tr (.ok ())) :
    (⟨.pathExists (pathJoin vemsdMount "config.txt"), true⟩ : Entry) ∈ tr := by
  simp only [waitForVemsd, osPathExists, Coro.bind_eq, Coro.call_bind] at h
  obtain ⟨b, tr', rfl, h₁⟩ := Coro.Finishes.op_iff.mp h
  cases b with
  | true => exact List.mem_cons_self _ _
  | false =>
    obtain ⟨k, -, rfl, -⟩ | ⟨-, ⟨⟩⟩ | ⟨-, -, -, -, -, ⟨⟩⟩ := waitForVemsdLoop_trace h₁
    simp [attempt]

/-- The operations of resetting the board and waiting for its card. -/
def Op.Waiting : Op → Prop
  | .hardReset | .expect .. | .sendline _ | .sleep _ | .pathExists _ => True
  | _ => False

theorem waitForVemsd_waiting (vemsdMount mccPrompt : String) (shortDelay : ℕ) (retries : ℤ) :
    Coro.OpsIn Op.Waiting (waitForVemsd vemsdMount mccPrompt shortDelay retries) := by
  have loop : ∀ n, Coro.OpsIn Op.Waiting
      (waitForVemsdLoop vemsdMount (pathJoin vemsdMount "config.txt") mccPrompt shortDelay n) := by
    intro n
    induction n with
    | zero => exact .done _
    | succ n ih =>
      simp only [waitForVemsdLoop, sendline, expect, sleep, osPathExists, Coro.bind_eq, Coro.call_bind,
        Coro.op_bind]
      refine .op trivial fun _ => .op trivial fun x => ?_
      cases x with
      | error e => exact .done _
      | ok _ =>
        refine .op trivial fun _ => .op trivial fun _ => .op trivial fun b => ?_
        cases b
        · exact ih
        · exact .done _
  simp only [waitForVemsd, osPathExists, Coro.bind_eq, Coro.call_bind]
  refine .op trivial fun b => ?_
  cases b
  · exact loop _
  · exact .done _

/-! ## Writing the card -/

/-- The operations of `validate_image_bundle`. -/
def Op.Validating : Op → Prop
  | .isTarfile _ | .tarMembers _ => True
  | _ => False

/-- `validate_image_bundle`. -/
def validateImageBundle (bundle : String) : HostM Unit := do
  if !(← isTarfile bundle) then
    throw (.hostError ("Image bundle " ++ bundle ++ " does not appear to be a valid TAR file."))
  let names ← tarMembers bundle
  if "config.txt" ∉ names ∧ "./config.txt" ∉ names then
    throw (.hostError ("Tarball " ++ bundle ++
      " does not appear to be a valid image bundle (did not see config.txt)."))

/-- `VersatileExpressFlashModule`: the settings `__call__` reads. -/
structure VemsdFlasher where
  vemsdMount : String
  mccPrompt : String := defaultMccPrompt
  shortDelay : ℕ := 1

namespace VemsdFlasher

variable (m : VemsdFlasher)

/-- `_deploy_image_bundle`. -/
def deployImageBundle (bundle : String) : HostM Unit := do
  validateImageBundle bundle
  safeExtract bundle m.vemsdMount

/-- `_overlay_images`: each image is copied to its path under the mount point. -/
def overlayImages (images : List (String × String)) : HostM Unit :=
  images.forM fun (dest, src) => shutilCopy src (pathJoin m.vemsdMount dest)

/-- The handler of `__call__`: an `OSError` becomes a `TargetStableError`. -/
def deployError : Error → Error
  | .osError e => .targetStableError ("Could not deploy images to " ++ m.vemsdMount ++ "; got: " ++ e)
  | e => e

/-- The start of `__call__`: the board is reset, and the card is waited for
once the console shows the microcontroller's prompt or an autoboot message. -/
def prepare : HostM Unit := do
  hardReset
  let i ← expect [m.mccPrompt, autostartMessage, oldAutostartMessage] none
  if (i : ℕ) ≠ 0 then sendline ""
  waitForVemsd m.vemsdMount m.mccPrompt m.shortDelay

/-- The `try` block of `__call__`. -/
def deploy (imageBundle : String) (images : List (String × String)) : HostM Unit := do
  if imageBundle ≠ "" then m.deployImageBundle imageBundle
  if images ≠ [] then m.overlayImages images
  osSystem "sync"

/-- `__call__`. -/
def call (imageBundle : String) (images : List (String × String)) (connect : Bool) : HostM Unit := do
  m.prepare
  (m.deploy imageBundle images).tryCatch fun e => throw (m.deployError e)
  boot
  if connect then Host.connect 30

theorem prepare_waiting : Coro.OpsIn Op.Waiting m.prepare := by
  simp only [prepare, hardReset, expect, sendline, Coro.bind_eq, Coro.op_bind]
  refine .op trivial fun x => ?_
  cases x with
  | error e => exact .done _
  | ok _ =>
    refine .op trivial fun x => ?_
    cases x with
    | error e => exact .done _
    | ok i =>
      simp only [Coro.done_ok_bind]
      split
      · exact .op trivial fun _ => waitForVemsd_waiting _ _ _ _
      · exact waitForVemsd_waiting _ _ _ _

theorem validateImageBundle_validating (bundle : String) :
    Coro.OpsIn Op.Validating (validateImageBundle bundle) := by
  simp only [validateImageBundle, isTarfile, tarMembers, Coro.bind_eq, Coro.op_bind]
  refine .op trivial fun x => ?_
  cases x with
  | error e => exact .done _
  | ok t =>
    simp only [Coro.done_ok_bind]
    split
    · exact .done _
    · refine .op trivial fun y => ?_
      cases y with
      | error e => exact .done _
      | ok names =>
        simp only [Coro.done_ok_bind]
        split <;> exact .done _

/-- The operations of writing the card, and syncing. -/
def Op.Deploying (bundle vemsdMount : String) (o : Op) : Prop :=
  Op.Validating o ∨ o = .extract bundle vemsdMount ∨ (∃ src dest, o = .copy src dest) ∨ o = .system "sync"

theorem deployImageBundle_deploying (bundle : String) :
    Coro.OpsIn (Op.Deploying bundle m.vemsdMount) (m.deployImageBundle bundle) :=
  Coro.OpsIn.bind ((validateImageBundle_validating bundle).mono fun _ => .inl)
    fun _ => .op (.inr (.inl rfl)) fun _ => .done _

theorem overlayImages_deploying (bundle : String) (images : List (String × String)) :
    Coro.OpsIn (Op.Deploying bundle m.vemsdMount) (m.overlayImages images) := by
  induction images with
  | nil => exact .done _
  | cons p images ih => exact .op (.inr (.inr (.inl ⟨_, _, rfl⟩))) fun x => by cases x <;> [exact .done _; exact ih]

theorem deploy_deploying (bundle : String) (images : List (String × String)) :
    Coro.OpsIn (Op.Deploying bundle m.vemsdMount) (m.deploy bundle images) := by
  have rest : Coro.OpsIn (Op.Deploying bundle m.vemsdMount)
      (if images ≠ [] then (m.overlayImages images).bind fun _ => osSystem "sync"
        else (pure () : HostM Unit).bind fun _ => osSystem "sync") := by
    split
    · exact (overlayImages_deploying m bundle images).bind fun _ => .op (.inr (.inr (.inr rfl))) fun _ => .done _
    · exact .op (.inr (.inr (.inr rfl))) fun _ => .done _
  simp only [deploy, Coro.bind_eq]
  split
  · exact (deployImageBundle_deploying m bundle).bind fun _ => rest
  · exact rest

theorem validateImageBundle_propagates (bundle : String) :
    Propagates (validateImageBundle bundle) := by
  simp only [validateImageBundle, Coro.bind_eq]
  refine (isTarfile_propagates _).bind fun t => ?_
  have rest : Propagates ((tarMembers bundle).bind fun names =>
      if "config.txt" ∉ names ∧ "./config.txt" ∉ names then
        throw (.hostError ("Tarball " ++ bundle ++
          " does not appear to be a valid image bundle (did not see config.txt)."))
      else pure ()) :=
    (tarMembers_propagates _).bind fun _ => by split <;> exact Propagates.done _
  split
  · exact Propagates.done _
  · exact rest

theorem overlayImages_propagates (images : List (String × String)) :
    Propagates (m.overlayImages images) := by
  induction images with
  | nil => exact Propagates.done _
  | cons p images ih => exact (shutilCopy_propagates _ _).bind fun _ => ih

theorem deploy_propagates (bundle : String) (images : List (String × String)) :
    Propagates (m.deploy bundle images) := by
  have rest : Propagates (if images ≠ [] then (m.overlayImages images).bind fun _ => osSystem "sync"
      else (pure () : HostM Unit).bind fun _ => osSystem "sync") := by
    split
    · exact (overlayImages_propagates m images).bind fun _ => osSystem_propagates _
    · exact osSystem_propagates _
  simp only [deploy, Coro.bind_eq]
  split
  · exact ((validateImageBundle_propagates bundle).bind fun _ => safeExtract_propagates _ _).bind fun _ => rest
  · exact rest

/-- When `_overlay_images` returned, every image was copied under the mount point. -/
theorem overlayImages_copied {images : List (String × String)} {tr : List Entry}
    (h : Coro.Finishes (m.overlayImages images) tr (.ok ())) :
    ∀ p ∈ images, (⟨.copy p.2 (pathJoin m.vemsdMount p.1), Except.ok ()⟩ : Entry) ∈ tr := by
  induction images generalizing tr with
  | nil => simp
  | cons p images ih =>
    obtain ⟨x, tr', rfl, h₁⟩ := Coro.Finishes.op_iff.mp h
    cases x with
    | error e' => cases (Coro.Finishes.done_iff.mp h₁).2
    | ok u =>
      rintro q (_ | ⟨_, hq⟩)
      · exact List.mem_cons_self _ _
      · exact List.mem_cons_of_mem _ (ih h₁ q hq)

theorem deployImageBundle_extracted {bundle : String} {tr : List Entry}
    (h : Coro.Finishes (m.deployImageBundle bundle) tr (.ok ())) :
    (⟨.extract bundle m.vemsdMount, Except.ok ()⟩ : Entry) ∈ tr := by
  obtain ⟨_, tr₁, tr₂, rfl, -, h₂⟩ | ⟨_, -, ⟨⟩⟩ := Coro.finishes_bind h
  obtain ⟨x, tr', rfl, h₃⟩ := Coro.Finishes.op_iff.mp h₂
  obtain ⟨rfl, rfl⟩ := Coro.Finishes.done_iff.mp h₃
  exact List.mem_append_right _ (List.mem_singleton_self _)

/-- When the `try` block returned, the bundle was extracted to the card and
every image copied there. -/
theorem deploy_written {bundle : String} {images : List (String × String)} {tr : List Entry}
    (h : Coro.Finishes (m.deploy bundle images) tr (.ok ())) :
    (bundle ≠ "" → (⟨.extract bundle m.vemsdMount, Except.ok ()⟩ : Entry) ∈ tr) ∧
      ∀ p ∈ images, (⟨.copy p.2 (pathJoin m.vemsdMount p.1), Except.ok ()⟩ : Entry) ∈ tr := by
  have rest : ∀ tr, Coro.Finishes (if images ≠ [] then (m.overlayImages images).bind fun _ => osSystem "sync"
      else (pure () : HostM Unit).bind fun _ => osSystem "sync") tr (.ok ()) →
      ∀ p ∈ images, (⟨.copy p.2 (pathJoin m.vemsdMount p.1), Except.ok ()⟩ : Entry) ∈ tr := by
    intro tr h p hp
    split at h
    · obtain ⟨_, tr₁, tr₂, rfl, h₁, -⟩ | ⟨_, -, ⟨⟩⟩ := Coro.finishes_bind h
      exact List.mem_append_left _ (m.overlayImages_copied h₁ p hp)
    · simp_all
  simp only [deploy, Coro.bind_eq] at h
  split at h
  · obtain ⟨_, tr₁, tr₂, rfl, h₁, h₂⟩ | ⟨_, -, ⟨⟩⟩ := Coro.finishes_bind h
    exact ⟨fun _ => List.mem_append_left _ (m.deployImageBundle_extracted h₁),
      fun p hp => List.mem_append_right _ (rest _ h₂ p hp)⟩
  · exact ⟨fun hb => absurd hb ‹_›, rest _ h⟩

/-- After the card is written: `target.boot()`, then `connect` if asked. -/
theorem boot_connect_trace {connect : Bool} {tr : List Entry} {r : Except Error Unit}
    (h : Coro.Finishes (boot.bind fun _ => if connect then Host.connect 30 else pure ()) tr r) :
    ∃ x tr', tr = ⟨.boot, x⟩ :: tr' ∧ ∀ y ∈ tr', y.1 = .connect 30 := by
  obtain ⟨x, tr', rfl, h₁⟩ := Coro.Finishes.op_iff.mp h
  refine ⟨x, tr', rfl, fun y hy => ?_⟩
  cases x with
  | error e => cases (Coro.Finishes.done_iff.mp h₁).1; cases hy
  | ok u =>
    have ht : Coro.OpsIn (· = .connect 30) (if connect then Host.connect 30 else (pure () : HostM Unit)) := by
      split
      · exact .op rfl fun _ => .done _
      · exact .done _
    exact ht.finishes h₁ y hy

/-- What a run of `__call__` can be: the preparation raised; or the card was
written and the board booted; or writing the card raised, and the handler's
exception ended the run. -/
theorem call_cases {imageBundle : String} {images : List (String × String)} {connect : Bool}
    {tr : List Entry} {r : Except Error Unit} (h : Coro.Finishes (m.call imageBundle images connect) tr r) :
    (∃ e, Coro.Finishes m.prepare tr (.error e) ∧ r = .error e) ∨
      (∃ tr₁ tr₂ x tr₃, tr = tr₁ ++ tr₂ ++ ⟨.boot, x⟩ :: tr₃ ∧ Coro.Finishes m.prepare tr₁ (.ok ()) ∧
        Coro.Finishes (m.deploy imageBundle images) tr₂ (.ok ()) ∧ ∀ y ∈ tr₃, y.1 = .connect 30) ∨
      ∃ tr₁ tr₂ e, tr = tr₁ ++ tr₂ ∧ Coro.Finishes m.prepare tr₁ (.ok ()) ∧
        Coro.Finishes (m.deploy imageBundle images) tr₂ (.error e) ∧ r = .error (m.deployError e) := by
  obtain ⟨_, tr₁, tr', rfl, h₁, h'⟩ | ⟨e, h₁, rfl⟩ := Coro.finishes_bind h
  · obtain ⟨_, tr₂, tr₃, rfl, h₂, h₃⟩ | ⟨e, h₂, rfl⟩ := Coro.finishes_bind h'
    · rcases Coro.finishes_tryCatch h₂ with ⟨_, h₂, -⟩ | ⟨_, _, _, -, -, h₂⟩
      · obtain ⟨x, tr₄, rfl, h₄⟩ := boot_connect_trace h₃
        exact .inr (.inl ⟨tr₁, tr₂, x, tr₄, (List.append_assoc _ _ _).symm, h₁, h₂, h₄⟩)
      · cases (Coro.Finishes.done_iff.mp h₂).2
    · rcases Coro.finishes_tryCatch h₂ with ⟨_, -, ⟨⟩⟩ | ⟨e', tr₂', tr₂'', rfl, h₂', h₂''⟩
      obtain ⟨rfl, he⟩ := Coro.Finishes.done_iff.mp h₂''
      exact .inr (.inr ⟨tr₁, tr₂', e', by rw [List.append_nil], h₁, h₂', he⟩)
  · exact .inl ⟨e, h₁, rfl⟩

theorem not_deploying_of_waiting {bundle vemsdMount : String} {o : Op} (h : Op.Waiting o) :
    ¬Op.Deploying bundle vemsdMount o := by
  rintro (hv | rfl | ⟨_, _, rfl⟩ | rfl)
  · cases o <;> first | exact False.elim h | exact False.elim hv
  all_goals exact False.elim h

theorem not_deploying_boot {bundle vemsdMount : String} : ¬Op.Deploying bundle vemsdMount .boot := by
  rintro (h | h | ⟨_, _, h⟩ | h) <;> cases h

theorem not_deploying_connect {bundle vemsdMount : String} {t : ℕ} :
    ¬Op.Deploying bundle vemsdMount (.connect t) := by
  rintro (h | h | ⟨_, _, h⟩ | h) <;> cases h

theorem prepare_no_boot {tr : List Entry} {r} (h : Coro.Finishes m.prepare tr r) : ∀ y ∈ tr, y.1 ≠ .boot :=
  fun y hy hb => (hb ▸ m.prepare_waiting.finishes h y hy : Op.Waiting .boot)

theorem deploy_no_boot {imageBundle : String} {images : List (String × String)} {tr : List Entry} {r}
    (h : Coro.Finishes (m.deploy imageBundle images) tr r) : ∀ y ∈ tr, y.1 ≠ .boot :=
  fun y hy hb => not_deploying_boot (hb ▸ (m.deploy_deploying imageBundle images).finishes h y hy)

/-- The flasher boots the board only after the bundle was extracted to the card
and every image copied there, whatever the host, the console and the board answer. -/
theorem call_boots_deployed {imageBundle : String} {images : List (String × String)} {connect : Bool}
    {tr : List Entry} {r : Except Error Unit} (h : Coro.Finishes (m.call imageBundle images connect) tr r)
    {pre post : List Entry} {x : Op.Resp .boot} (hb : tr = pre ++ ⟨.boot, x⟩ :: post) :
    (imageBundle ≠ "" → (⟨.extract imageBundle m.vemsdMount, Except.ok ()⟩ : Entry) ∈ pre) ∧
      ∀ p ∈ images, (⟨.copy p.2 (pathJoin m.vemsdMount p.1), Except.ok ()⟩ : Entry) ∈ pre := by
  have hmem : (⟨.boot, x⟩ : Entry) ∈ tr := hb ▸ List.mem_append_right _ (List.mem_cons_self _ _)
  rcases m.call_cases h with ⟨e, h₁, -⟩ | ⟨tr₁, tr₂, x', tr₃, rfl, h₁, h₂, h₃⟩ | ⟨tr₁, tr₂, e, rfl, h₁, h₂, -⟩
  · exact absurd rfl (m.prepare_no_boot h₁ _ hmem)
  · obtain rfl : pre = tr₁ ++ tr₂ := prefix_eq_of_cut (p := fun y => y.1 = .boot) (e := ⟨.boot, x⟩) rfl hb.symm
      (fun y hy => (List.mem_append.mp hy).elim (m.prepare_no_boot h₁ y) (m.deploy_no_boot h₂ y))
      fun y hy hb => by cases (h₃ y hy).symm.trans hb
    exact ⟨fun hne => List.mem_append_right _ ((m.deploy_written h₂).1 hne),
      fun p hp => List.mem_append_right _ ((m.deploy_written h₂).2 p hp)⟩
  · rcases List.mem_append.mp hmem with hy | hy
    · exact absurd rfl (m.prepare_no_boot h₁ _ hy)
    · exact absurd rfl (m.deploy_no_boot h₂ _ hy)

theorem call_boots_deployed_allSucceed :
    (("" : String) ≠ "" → (⟨.extract "" "/media/VEMSD", Except.ok ()⟩ : Entry) ∈
        [⟨.hardReset, Except.ok ()⟩, ⟨.expect ["Cmd>", autostartMessage, oldAutostartMessage] none, Except.ok ⟨0, by decide⟩⟩,
          ⟨.pathExists (pathJoin "/media/VEMSD" "config.txt"), true⟩,
          ⟨.copy "/images/Image" (pathJoin "/media/VEMSD" "SOFTWARE/Image"), Except.ok ()⟩, ⟨.system "sync", ()⟩]) ∧
      ∀ p ∈ [("SOFTWARE/Image", "/images/Image")],
        (⟨.copy p.2 (pathJoin "/media/VEMSD" p.1), Except.ok ()⟩ : Entry) ∈
          [⟨.hardReset, Except.ok ()⟩, ⟨.expect ["Cmd>", autostartMessage, oldAutostartMessage] none, Except.ok ⟨0, by decide⟩⟩,
            ⟨.pathExists (pathJoin "/media/VEMSD" "config.txt"), true⟩,
            ⟨.copy "/images/Image" (pathJoin "/media/VEMSD" "SOFTWARE/Image"), Except.ok ()⟩, ⟨.system "sync", ()⟩] :=
  call_boots_deployed { vemsdMount := "/media/VEMSD" }
    (Coro.finishes_run allSucceed (call { vemsdMount := "/media/VEMSD" } "" [("SOFTWARE/Image", "/images/Image")] false) ())
    rfl

/-- An `OSError` raised while writing the card (testing or listing the bundle,
extracting it, copying an image) ends the flasher with `TargetStableError`
naming the mount point and the error, and the board is not booted. -/
theorem call_deploy_error {imageBundle : String} {images : List (String × String)} {connect : Bool}
    {tr : List Entry} {r : Except Error Unit} (h : Coro.Finishes (m.call imageBundle images connect) tr r)
    {y : Entry} (hy : y ∈ tr) (hd : Op.Deploying imageBundle m.vemsdMount y.1) {msg : String}
    (he : Entry.raised y = some (.osError msg)) :
    r = .error (.targetStableError ("Could not deploy images to " ++ m.vemsdMount ++ "; got: " ++ msg)) ∧
      ∀ z ∈ tr, z.1 ≠ .boot := by
  have prep : ∀ {tr₁ r₁}, Coro.Finishes m.prepare tr₁ r₁ → y ∉ tr₁ :=
    fun h₁ hy₁ => not_deploying_of_waiting (m.prepare_waiting.finishes h₁ y hy₁) hd
  rcases m.call_cases h with ⟨e, h₁, -⟩ | ⟨tr₁, tr₂, x', tr₃, rfl, h₁, h₂, h₃⟩ | ⟨tr₁, tr₂, e, rfl, h₁, h₂, rfl⟩
  · exact absurd hy (prep h₁)
  · exfalso
    simp only [List.mem_append, List.mem_cons] at hy
    rcases hy with (hy | hy) | rfl | hy
    · exact prep h₁ hy
    · cases m.deploy_propagates imageBundle images _ _ h₂ y hy _ he
    · exact not_deploying_boot hd
    · exact not_deploying_connect (h₃ y hy ▸ hd)
  · rcases List.mem_append.mp hy with hy | hy
    · exact absurd hy (prep h₁)
    · obtain rfl := Except.error.inj (m.deploy_propagates imageBundle images _ _ h₂ y hy _ he)
      exact ⟨rfl, fun z hz => (List.mem_append.mp hz).elim (m.prepare_no_boot h₁ z) (m.deploy_no_boot h₂ z)⟩

/-- A host whose card is full: every copy raises `OSError`. -/
def cardFull (w : Unit) (o : Op) : o.Resp × Unit :=
  match o with
  | .copy .. => (.error (.osError "[Errno 28] No space left on device"), w)
  | o => (o.succeed, w)

theorem call_deploy_error_cardFull :
    let t := call { vemsdMount := "/media/VEMSD" } "" [("SOFTWARE/Image", "/images/Image")] true
    (t.run cardFull ()).1 = .error (.targetStableError
        ("Could not deploy images to " ++ "/media/VEMSD" ++ "; got: " ++ "[Errno 28] No space left on device")) ∧
      ∀ z ∈ t.runTrace cardFull (), z.1 ≠ .boot :=
  call_deploy_error { vemsdMount := "/media/VEMSD" }
    (Coro.finishes_run cardFull (call { vemsdMount := "/media/VEMSD" } "" [("SOFTWARE/Image", "/images/Image")] true) ())
    (.tail _ (.tail _ (.tail _ (.head _))))
    (.inr (.inr (.inl ⟨_, _, rfl⟩))) rfl

end VemsdFlasher

/-! ## Rebooting through the card -/

/-- `VexpressReboottxtHardReset`: the settings `__call__` reads. -/
structure ReboottxtHardReset where
  path : String := "/media/VEMSD"
  mccPrompt : String := defaultMccPrompt
  shortDelay : ℕ := 1

namespace ReboottxtHardReset

variable (m : ReboottxtHardReset)

/-- `self.filepath`. -/
def filepath : String := pathJoin m.path "reboot.txt"

/-- The `try` block of `__call__`, which ignores a failed sync. -/
def sync : HostM Unit :=
  Coro.tryCatch (do if ← isConnected then discard (execute "sync")) fun e =>
    if e.isTargetOrCalledProcessError then pure () else throw e

/-- The card is waited for unless its mount point is there. -/
def mount : HostM Unit := do
  if !(← osPathExists m.path) then waitForVemsd m.path m.mccPrompt m.shortDelay

/-- `__call__`. -/
def call : HostM Unit := do
  sync
  m.mount
  touch m.filepath

theorem sync_no_touch {tr : List Entry} {r} (h : Coro.Finishes sync tr r) : ∀ y ∈ tr, ∀ p, y.1 ≠ .touch p := by
  have ht : Coro.OpsIn (fun o => o = .isConnected ∨ o = .execute "sync") sync := by
    refine .tryCatch (.op (.inl rfl) fun b => ?_) fun e => ?_
    · cases b
      · exact .done _
      · exact .op (.inr rfl) fun x => by cases x <;> exact .done _
    · split <;> exact .done _
  intro y hy p hp
  rcases ht.finishes h y hy with h' | h' <;> rw [hp] at h' <;> cases h'

/-- When the card was waited for and the wait returned, it is mounted. -/
theorem mount_mounted {tr : List Entry} (h : Coro.Finishes m.mount tr (.ok ())) :
    (⟨.pathExists m.path, true⟩ : Entry) ∈ tr ∨
      (⟨.pathExists (pathJoin m.path "config.txt"), true⟩ : Entry) ∈ tr := by
  obtain ⟨b, tr', rfl, h₁⟩ := Coro.Finishes.op_iff.mp h
  cases b with
  | true => exact .inl (List.mem_cons_self _ _)
  | false => exact .inr (List.mem_cons_of_mem _ (waitForVemsd_found h₁))

theorem mount_no_touch {tr : List Entry} {r} (h : Coro.Finishes m.mount tr r) :
    ∀ y ∈ tr, ∀ p, y.1 ≠ .touch p := by
  have ht : Coro.OpsIn Op.Waiting m.mount := by
    refine .op trivial fun b => ?_
    cases b
    · exact waitForVemsd_waiting _ _ _ _
    · exact .done _
  intro y hy p hp
  exact (hp ▸ ht.finishes h y hy : Op.Waiting (.touch p))

/-- `reboot.txt` is created only after the mount point or the card's
`config.txt` was found, whatever the host, the console and the board answer,
and whatever the sync before did. -/
theorem call_touch_mounted {tr : List Entry} {r : Except Error Unit} (h : Coro.Finishes m.call tr r)
    {pre post : List Entry} {x : Op.Resp (.touch m.filepath)} (ht : tr = pre ++ ⟨.touch m.filepath, x⟩ :: post) :
    (⟨.pathExists m.path, true⟩ : Entry) ∈ pre ∨
      (⟨.pathExists (pathJoin m.path "config.txt"), true⟩ : Entry) ∈ pre := by
  have hmem : (⟨.touch m.filepath, x⟩ : Entry) ∈ tr := ht ▸ List.mem_append_right _ (List.mem_cons_self _ _)
  obtain ⟨_, tr₁, tr', rfl, h₁, h'⟩ | ⟨e, h₁, rfl⟩ := Coro.finishes_bind h
  · obtain ⟨_, tr₂, tr₃, rfl, h₂, h₃⟩ | ⟨e, h₂, rfl⟩ := Coro.finishes_bind h'
    · obtain ⟨x', tr₄, rfl, h₄⟩ := Coro.Finishes.op_iff.mp h₃
      obtain ⟨rfl, -⟩ := Coro.Finishes.done_iff.mp h₄
      obtain rfl : pre = tr₁ ++ tr₂ := prefix_eq_of_cut (p := fun y => y.1 = .touch m.filepath)
        (e := ⟨.touch m.filepath, x⟩) rfl (by rw [← ht, List.append_assoc])
        (fun y hy => (List.mem_append.mp hy).elim (sync_no_touch h₁ y · _) (m.mount_no_touch h₂ y · _))
        (fun _ hy => by cases hy)
      exact (m.mount_mounted h₂).imp (List.mem_append_right _) (List.mem_append_right _)
    · rcases List.mem_append.mp hmem with hy | hy
      · exact absurd rfl (sync_no_touch h₁ _ hy _)
      · exact absurd rfl (m.mount_no_touch h₂ _ hy _)
  · exact absurd rfl (sync_no_touch h₁ _ hmem _)

theorem call_touch_mounted_allSucceed :
    (⟨.pathExists "/media/VEMSD", true⟩ : Entry) ∈ [⟨.isConnected, true⟩, ⟨.execute "sync", Except.ok ""⟩,
        ⟨.pathExists "/media/VEMSD", true⟩] ∨
      (⟨.pathExists (pathJoin "/media/VEMSD" "config.txt"), true⟩ : Entry) ∈ [⟨.isConnected, true⟩,
        ⟨.execute "sync", Except.ok ""⟩, ⟨.pathExists "/media/VEMSD", true⟩] :=
  call_touch_mounted {} (Coro.finishes_run allSucceed (call {}) ()) rfl

end ReboottxtHardReset

end Devlib.Vexpress

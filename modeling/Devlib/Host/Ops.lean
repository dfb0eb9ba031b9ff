import Devlib.Async.Coro
import Devlib.Sched.Target

/-!
# The host side of flashing

The flash, reset and boot modules of `devlib/module/android.py` and
`devlib/module/vexpress.py` run on the host. They test paths, open tarballs,
copy images, talk to the board's microcontroller and boot menus over a serial
line and call the target's reset, boot and connect methods. Each of these is one operation of
a suspendable computation, so facts about the modules are stated over every
finished trace: they hold whatever the host, the console and the target answer.

## Implementation notes

An operation the code lets raise answers `Except Error`; the exception is the
environment's choice. Durations are in milliseconds. An optional argument the
code only tests for truth and passes on is taken as a text, with `""` for
`None`, or as a list, with `[]` for `None`. The serial connection
that `open_serial_connection` opens and closes around a block, `pulse_dtr` and
`write_characters` come from `devlib.utils.serial_port`, and `UefiMenu` and
`UbootMenu` from `devlib.utils.uefi` and `devlib.utils.uboot`, none of which
is among the sources: the console is the one the operations talk to, and each
menu method is one operation.
-/

namespace Devlib.Host

open Devlib.Async

/-- The exceptions that cross the host-side modules. -/
inductive Error where
  /-- `HostError` with its message. -/
  | hostError (msg : String)
  /-- `TargetStableError` with its message. -/
  | targetStableError (msg : String)
  /-- `TargetError` of another kind, with its message. -/
  | targetError (msg : String)
  /-- `subprocess.CalledProcessError` of a command. -/
  | calledProcessError (cmd : String)
  /-- `ValueError` with its message. -/
  | valueError (msg : String)
  /-- `IndexError` with its message. -/
  | indexError (msg : String)
  /-- `OSError`, of which `IOError` is another name, with the text of `str(e)`. -/
  | osError (msg : String)
  /-- `pexpect.TIMEOUT`: the console did not show what was awaited in time. -/
  | timeout
  /-- `LookupError` with its message. -/
  | lookupError (msg : String)
  deriving DecidableEq, Repr

/-- `except (TargetError, CalledProcessError)`: `TargetStableError` is a `TargetError`. -/
def Error.isTargetOrCalledProcessError : Error → Bool
  | .targetStableError _ | .targetError _ | .calledProcessError _ => true
  | _ => false

/-- A value of a `UefiConfig` entry. -/
inductive UefiValue where
  | str (s : String)
  | bool (b : Bool)
  deriving DecidableEq

/-- What the modules ask of the host, the serial console and the target. -/
inductive Op where
  /-- `os.path.exists(path)`. -/
  | pathExists (path : String)
  /-- `os.path.isfile(path)`. -/
  | isfile (path : String)
  /-- `os.path.abspath(os.path.expanduser(path))`, against the host's home and
  working directories. -/
  | abspath (path : String)
  /-- The text of `open(path)`. -/
  | readText (path : String)
  /-- `tarfile.is_tarfile(path)`. -/
  | isTarfile (path : String)
  /-- The names of `tarfile.open(path).getmembers()`. -/
  | tarMembers (path : String)
  /-- `safe_extract(tarfile.open(path), dest)`. -/
  | extract (path dest : String)
  /-- `tempfile.mkdtemp()`. -/
  | mkdtemp
  /-- `shutil.copy(src, dest)`. -/
  | copy (src dest : String)
  /-- `open(path, 'w')`, closed at once. -/
  | touch (path : String)
  /-- `os.system(cmd)`, whose status the modules ignore. -/
  | system (cmd : String)
  /-- `time.sleep`. -/
  | sleep (ms : ℕ)
  /-- `tty.sendline(s)` on the console. -/
  | sendline (s : String)
  /-- `tty.expect(patterns, timeout)`: the index of the pattern seen first. -/
  | expect (patterns : List String) (timeout : Option ℕ)
  /-- `target.is_connected`. -/
  | isConnected
  /-- `target.execute(cmd)`. -/
  | execute (cmd : String)
  /-- `target.hard_reset()`. -/
  | hardReset
  /-- `target.reset(fastboot=True)`. -/
  | resetFastboot
  /-- `target.boot()`. -/
  | boot
  /-- `target.connect(timeout=timeout)`, in seconds. -/
  | connect (timeout : ℕ)
  /-- `fastboot_flash_partition(partition, image)`. -/
  | flashPartition (partition image : String)
  /-- `fastboot_command(cmd)`. -/
  | fastbootCommand (cmd : String)
  /-- `UefiMenu(tty).wait(timeout=timeout)`, in seconds. -/
  | uefiWait (timeout : ℕ)
  /-- `menu.select(entry)`; `LookupError` when the menu has no such entry. -/
  | uefiSelect (entry : String)
  /-- `menu.create_entry(entry, UefiConfig(config))`. -/
  | uefiCreateEntry (entry : String) (config : List (String × UefiValue))
  /-- `UbootMenu(tty).open(timeout=timeout)`, in seconds. -/
  | ubootOpen (timeout : ℕ)
  /-- `menu.setenv(var, value)`. -/
  | ubootSetenv (var value : String)
  /-- `menu.boot()`. -/
  | ubootBoot
  /-- `write_characters(tty, text)`. -/
  | writeCharacters (text : String)
  /-- `pulse_dtr(conn, state=True, duration)`. -/
  | pulseDtr (ms : ℕ)
  deriving DecidableEq

/-- The response each operation resumes with. -/
def Op.Resp : Op → Type
  | .pathExists _ | .isfile _ | .isConnected => Bool
  | .abspath _ | .mkdtemp => String
  | .sleep _ | .sendline _ | .system _ => Unit
  | .readText _ | .execute _ => Except Error String
  | .isTarfile _ => Except Error Bool
  | .tarMembers _ => Except Error (List String)
  | .expect ps _ => Except Error (Fin ps.length)
  | _ => Except Error Unit

/-- A computation of the host-side modules. -/
abbrev HostM := Coro Op Op.Resp Error

/-- One answered operation of a trace. -/
abbrev Entry := Σ o : Op, o.Resp

/-! ## The operations as the modules call them -/

def osPathExists (path : String) : HostM Bool := Coro.call (Op.pathExists path)

def osPathIsfile (path : String) : HostM Bool := Coro.call (Op.isfile path)

def abspath (path : String) : HostM String := Coro.call (Op.abspath path)

def readText (path : String) : HostM String := .op (.readText path) .done

def isTarfile (path : String) : HostM Bool := .op (.isTarfile path) .done

def tarMembers (path : String) : HostM (List String) := .op (.tarMembers path) .done

def safeExtract (path dest : String) : HostM Unit := .op (.extract path dest) .done

def mkdtemp : HostM String := Coro.call Op.mkdtemp

def shutilCopy (src dest : String) : HostM Unit := .op (.copy src dest) .done

def touch (path : String) : HostM Unit := .op (.touch path) .done

def osSystem (cmd : String) : HostM Unit := Coro.call (Op.system cmd)

def sleep (ms : ℕ) : HostM Unit := Coro.call (Op.sleep ms)

def sendline (s : String) : HostM Unit := Coro.call (Op.sendline s)

def expect (patterns : List String) (timeout : Option ℕ) : HostM (Fin patterns.length) :=
  .op (.expect patterns timeout) .done

def isConnected : HostM Bool := Coro.call Op.isConnected

def execute (cmd : String) : HostM String := .op (.execute cmd) .done

def hardReset : HostM Unit := .op .hardReset .done

def resetFastboot : HostM Unit := .op .resetFastboot .done

def boot : HostM Unit := .op .boot .done

def connect (timeout : ℕ) : HostM Unit := .op (.connect timeout) .done

def fastbootFlashPartition (partition image : String) : HostM Unit :=
  .op (.flashPartition partition image) .done

def fastbootCommand (cmd : String) : HostM Unit := .op (.fastbootCommand cmd) .done

def uefiWait (timeout : ℕ) : HostM Unit := .op (.uefiWait timeout) .done

def uefiSelect (entry : String) : HostM Unit := .op (.uefiSelect entry) .done

def uefiCreateEntry (entry : String) (config : List (String × UefiValue)) : HostM Unit :=
  .op (.uefiCreateEntry entry config) .done

def ubootOpen (timeout : ℕ) : HostM Unit := .op (.ubootOpen timeout) .done

def ubootSetenv (var value : String) : HostM Unit := .op (.ubootSetenv var value) .done

def ubootBoot : HostM Unit := .op .ubootBoot .done

def writeCharacters (text : String) : HostM Unit := .op (.writeCharacters text) .done

def pulseDtr (ms : ℕ) : HostM Unit := .op (.pulseDtr ms) .done

/-- What a host answers when every operation succeeds: tests hold, a path is
its own absolute path, a read gives `""`, a tarball has no member and the
console shows the first pattern awaited. -/
def Op.succeed : (o : Op) → o.Resp
  | .pathExists _ | .isfile _ | .isConnected => true
  | .abspath p => p
  | .mkdtemp => "/tmp/tmp0"
  | .sleep _ | .sendline _ | .system _ => ()
  | .readText _ | .execute _ => .ok ""
  | .isTarfile _ => .ok true
  | .tarMembers _ => .ok []
  | .expect [] _ => .error .timeout
  | .expect (_ :: _) _ => .ok ⟨0, Nat.zero_lt_succ _⟩
  | .extract .. | .copy .. | .touch _ | .hardReset | .resetFastboot | .boot | .connect _
  | .flashPartition .. | .fastbootCommand _ | .uefiWait _ | .uefiSelect _ | .uefiCreateEntry ..
  | .ubootOpen _ | .ubootSetenv .. | .ubootBoot | .writeCharacters _ | .pulseDtr _ => .ok ()

/-- A host, console and target that answer every operation with `Op.succeed`. -/
def allSucceed (w : Unit) (o : Op) : o.Resp × Unit := (o.succeed, w)

/-! ## Exceptions a computation lets through -/

/-- The exception an answered operation raised, if it raised one. -/
def Entry.raised : Entry → Option Error
  | ⟨.readText _, .error e⟩ | ⟨.execute _, .error e⟩ | ⟨.isTarfile _, .error e⟩
  | ⟨.tarMembers _, .error e⟩ | ⟨.expect .., .error e⟩ | ⟨.extract .., .error e⟩
  | ⟨.copy .., .error e⟩ | ⟨.touch _, .error e⟩ | ⟨.hardReset, .error e⟩
  | ⟨.resetFastboot, .error e⟩ | ⟨.boot, .error e⟩ | ⟨.connect _, .error e⟩
  | ⟨.flashPartition .., .error e⟩ | ⟨.fastbootCommand _, .error e⟩ | ⟨.uefiWait _, .error e⟩
  | ⟨.uefiSelect _, .error e⟩ | ⟨.uefiCreateEntry .., .error e⟩ | ⟨.ubootOpen _, .error e⟩
  | ⟨.ubootSetenv .., .error e⟩ | ⟨.ubootBoot, .error e⟩ | ⟨.writeCharacters _, .error e⟩
  | ⟨.pulseDtr _, .error e⟩ => some e
  | _ => none

/-- `t` catches nothing: an operation that raised ends the run with its exception. -/
def Propagates {α : Type} (t : HostM α) : Prop :=
  ∀ tr r, Coro.Finishes t tr r → ∀ x ∈ tr, ∀ e, Entry.raised x = some e → r = .error e

namespace Propagates

variable {α β : Type}

theorem done (r : Except Error α) : Propagates (Coro.done r) := by
  intro tr r h x hx
  cases (Coro.Finishes.done_iff.mp h).1
  cases hx

theorem op {o : Op} {k : o.Resp → HostM α} (hk : ∀ x, Propagates (k x))
    (hraise : ∀ x e, Entry.raised ⟨o, x⟩ = some e → k x = .done (.error e)) : Propagates (.op o k) := by
  intro tr r h y hy e he
  obtain ⟨x, tr', rfl, h₁⟩ := Coro.Finishes.op_iff.mp h
  rcases List.mem_cons.mp hy with rfl | hy
  · rw [hraise x e he] at h₁
    exact (Coro.Finishes.done_iff.mp h₁).2
  · exact hk x _ _ h₁ y hy e he

/-- An operation that cannot raise. -/
theorem call {o : Op} (ho : ∀ x, Entry.raised ⟨o, x⟩ = none) : Propagates (Coro.call o) :=
  Propagates.op (fun _ => Propagates.done _) fun x e h => by rw [ho x] at h; cases h

theorem bind {t : HostM α} {f : α → HostM β} (ht : Propagates t) (hf : ∀ a, Propagates (f a)) :
    Propagates (t.bind f) := by
  intro tr r h x hx e he
  rcases Coro.finishes_bind h with ⟨a, tr₁, tr₂, rfl, h₁, h₂⟩ | ⟨e', h₁, rfl⟩
  · rcases List.mem_append.mp hx with hx | hx
    · cases ht _ _ h₁ x hx e he
    · exact hf a _ _ h₂ x hx e he
  · rw [Except.error.inj (ht _ _ h₁ x hx e he)]

end Propagates

theorem isTarfile_propagates (path : String) : Propagates (isTarfile path) :=
  Propagates.op (fun _ => Propagates.done _) fun x e h => by cases x <;> cases h; rfl

theorem tarMembers_propagates (path : String) : Propagates (tarMembers path) :=
  Propagates.op (fun _ => Propagates.done _) fun x e h => by cases x <;> cases h; rfl

theorem safeExtract_propagates (path dest : String) : Propagates (safeExtract path dest) :=
  Propagates.op (fun _ => Propagates.done _) fun x e h => by cases x <;> cases h; rfl

theorem osSystem_propagates (cmd : String) : Propagates (osSystem cmd) := Propagates.call fun _ => rfl

theorem sleep_propagates (ms : ℕ) : Propagates (sleep ms) := Propagates.call fun _ => rfl

theorem resetFastboot_propagates : Propagates resetFastboot :=
  Propagates.op (fun _ => Propagates.done _) fun x e h => by cases x <;> cases h; rfl

theorem fastbootFlashPartition_propagates (partition image : String) :
    Propagates (fastbootFlashPartition partition image) :=
  Propagates.op (fun _ => Propagates.done _) fun x e h => by cases x <;> cases h; rfl

theorem shutilCopy_propagates (src dest : String) : Propagates (shutilCopy src dest) :=
  Propagates.op (fun _ => Propagates.done _) fun x e h => by cases x <;> cases h; rfl

/-! ## Cutting a trace -/

/-- Two ways of cutting a trace at an entry with property `p`: when the second
cut has no such entry on either side, the first cut is the same. -/
theorem prefix_eq_of_cut {p : Entry → Prop} {e e' : Entry} (he : p e) :
    ∀ {a b c d : List Entry}, a ++ e :: b = c ++ e' :: d → (∀ y ∈ c, ¬p y) → (∀ y ∈ d, ¬p y) → a = c
  | [], _, [], _, _, _, _ => rfl
  | _ :: _, _, [], _, h, _, hd => by
    obtain ⟨-, rfl⟩ := List.cons.inj h
    exact absurd he (hd e (List.mem_append_right _ (List.mem_cons_self _ _)))
  | [], _, _ :: _, _, h, hc, _ => by
    obtain ⟨rfl, -⟩ := List.cons.inj h
    exact absurd he (hc e (List.mem_cons_self _ _))
  | _ :: _, _, _ :: _, _, h, hc, hd => by
    obtain ⟨rfl, h₁⟩ := List.cons.inj h
    exact congrArg _ (prefix_eq_of_cut he h₁ (fun y hy => hc y (List.mem_cons_of_mem _ hy)) hd)

end Devlib.Host

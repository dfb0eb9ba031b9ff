import Devlib.Vexpress.Vemsd

/-!
# Versatile Express: booting over the console

The boot modules of `devlib/module/vexpress.py` drive the board's console
from the host. `__call__` of each of them gets the board through early boot,
runs the module's own boot sequence and waits for the shell prompt. The
sequences choose an entry of the UEFI menu (`vexpress-uefi`,
`vexpress-uefi-shell`), set U-Boot's environment (`vexpress-u-boot`) or type
the bootmon's commands (`vexpress-bootmon`). The `vexpress-dtr` hard reset
syncs the target and pulses the serial line.

## Implementation notes

The bootmon sequence types its commands over a second connection to the same
port; both connections are the one console. The shell prompt is the target's
`shell_prompt`, a parameter of `__call__`. A boot argument that is `None`
is `""`, as the code only tests it for truth.
-/

namespace Devlib.Vexpress

open Devlib.Async Devlib.Host

def powerupMessage : String := "Powering up system..."

/-- `VexpressBootModule`: the settings the boot sequences read. -/
structure VexpressBootModule where
  uefiEntry : String := ""
  mccPrompt : String := defaultMccPrompt
  timeout : ℕ := 120
  shortDelay : ℕ := 1

namespace VexpressBootModule

variable (m : VexpressBootModule)

/-- The messages early boot tells apart, in the order `expect` tries them. -/
def earlyBootPatterns : List String := [autostartMessage, oldAutostartMessage, powerupMessage, m.mccPrompt]

/-- `get_through_early_boot(tty)`. -/
def getThroughEarlyBoot : HostM Unit := do
  sendline ""
  let i ← expect m.earlyBootPatterns none
  if (i : ℕ) = 3 then do
    sleep (m.shortDelay * 1000)
    sendline "reboot"
  else if (i : ℕ) = 2 then pure ()
  else do
    sendline ""
    sleep (m.shortDelay * 1000)
    sendline "reboot"
    sendline "reset"

/-- `get_uefi_menu(tty)`. -/
def getUefiMenu : HostM Unit := uefiWait m.timeout

/-- `wait_for_shell_prompt(tty)`, for the target's `shell_prompt`. -/
def waitForShellPrompt (shellPrompt : String) : HostM Unit := do
  let _ ← expect [shellPrompt] (some (m.timeout * 1000))
  sleep 5000

/-- `__call__`, with the boot sequence of the module. -/
def call (shellPrompt : String) (performBootSequence : HostM Unit) : HostM Unit := do
  m.getThroughEarlyBoot
  performBootSequence
  m.waitForShellPrompt shellPrompt

end VexpressBootModule

/-! ## Choosing a UEFI entry -/

/-- `VexpressUefiBoot`: the settings and the boot configuration. -/
structure VexpressUefiBoot extends VexpressBootModule where
  image : String
  fdt : String
  bootargs : String
  initrd : String

/-- `_create_config(image, fdt, bootargs, initrd)`: the entries of the `UefiConfig`. -/
def createConfig (image fdt bootargs initrd : String) : List (String × UefiValue) :=
  [("image_name", .str image), ("image_args", .str bootargs), ("initrd", .str initrd)] ++
    if fdt ≠ "" then [("fdt_support", .bool true), ("fdt_path", .str fdt)]
    else [("fdt_support", .bool false)]

namespace VexpressUefiBoot

variable (m : VexpressUefiBoot)

/-- `self.uefi_config`. -/
def uefiConfig : List (String × UefiValue) := createConfig m.image m.fdt m.bootargs m.initrd

/-- `perform_boot_sequence(tty)`: a missing entry is created and selected. -/
def performBootSequence : HostM Unit := do
  m.getUefiMenu
  (uefiSelect m.uefiEntry).tryCatch fun
    | .lookupError _ => do
      uefiCreateEntry m.uefiEntry m.uefiConfig
      uefiSelect m.uefiEntry
    | e => throw e

end VexpressUefiBoot

/-! ## The UEFI shell -/

/-- `VexpressUefiShellBoot`: the settings, with the shell's entry as the default one. -/
structure VexpressUefiShellBoot extends VexpressBootModule where
  uefiEntry := "^Shell$"
  efiShellPrompt : String := "Shell>"
  image : String := "kernel"
  bootargs : String := ""

namespace VexpressUefiShellBoot

variable (m : VexpressUefiShellBoot)

/-- `perform_boot_sequence(tty)`. -/
def performBootSequence : HostM Unit := do
  m.getUefiMenu
  (uefiSelect m.uefiEntry).tryCatch fun
    | .lookupError _ => throw (.targetStableError ("Did not see \"" ++ m.uefiEntry ++ "\" UEFI entry."))
    | e => throw e
  let _ ← expect [m.efiShellPrompt] (some (m.timeout * 1000))
  if m.bootargs ≠ "" then do
    sendline ""
    sleep (m.shortDelay * 1000)
    writeCharacters (m.image ++ " " ++ m.bootargs)
    sendline "\r\n"
  else pure ()

end VexpressUefiShellBoot

/-! ## U-Boot and bootmon -/

/-- `VexpressUBoot`: the settings and U-Boot's environment, if one is given. -/
structure VexpressUBoot extends VexpressBootModule where
  env : Option (List (String × String)) := none

/-- `VexpressUBoot.perform_boot_sequence(tty)`: with no environment the board boots by itself. -/
def VexpressUBoot.performBootSequence (m : VexpressUBoot) : HostM Unit :=
  match m.env with
  | none => pure ()
  | some env => do
    ubootOpen 120
    env.forM fun kv => ubootSetenv kv.1 kv.2
    ubootBoot

/-- `VexpressBootmon`: the settings and the images the bootmon loads. -/
structure VexpressBootmon extends VexpressBootModule where
  image : String
  fdt : String
  initrd : String
  bootargs : String
  usesBootscript : Bool := false
  bootmonPrompt : String := ">"

/-- `VexpressBootmon.perform_boot_sequence(tty)`: with a boot script the board boots by itself. -/
def VexpressBootmon.performBootSequence (m : VexpressBootmon) : HostM Unit :=
  if m.usesBootscript then pure () else do
    sleep (m.shortDelay * 1000)
    let _ ← expect [m.bootmonPrompt] (some (m.timeout * 1000))
    writeCharacters ("fl linux fdt " ++ m.fdt)
    writeCharacters ("fl linux initrd " ++ m.initrd)
    writeCharacters ("fl linux boot " ++ m.image ++ " " ++ m.bootargs)

/-- `VexpressDtrHardReset.__call__`: the sync of the reboot-file reset, then a
pulse of 100 ms on the serial line's DTR. -/
def VexpressDtrHardReset.call : HostM Unit := do
  ReboottxtHardReset.sync
  pulseDtr 100

end Devlib.Vexpress

/-
liuqin-switch, function by function, as programs over the tablet
(device/gnome-overlay/usr/local/sbin/liuqin-switch).

Variables the traps read live in the tablet's shell; the others are passed
along.  Fault injection of the test harness is left out: every fault it
injects is a choice of the machine.
-/

import Liuqin.Switch.Machine

namespace Liuqin.Switch

open Liuqin.Library.Program

abbrev Script := Prog Answer

/-- One command; a signal that is not ignored runs `exit 130`. -/
def run (operation : Op) : Script (Reply operation) :=
  .act operation fun (reply, interrupted) =>
    if interrupted then .exit 130 else .done reply

def shell : Script Shell := run .shell
def assign (edit : Shell → Shell) : Script Unit := run (.assign edit)
def sha256sum (data : Bytes) : Script Line := run (.sha256sum data)
def readBoot (skip count : Nat) : Script Bytes := run (.readBoot skip count)
def writeBoot (data : Bytes) : Script Bool := run (.writeBoot data)
def parentDisk : Script Bool := run .parentDisk
def roGet (flag : Flag) : Script (Option Bool) := run (.getro flag)
def roSet (flag : Flag) (value : Bool) : Script Bool := run (.setro flag value)
def testDirectory (place : Place) : Script Bool := run (.testDirectory place)
def testSums (place : Place) : Script Bool := run (.testSums place)
def testImage (place : Place) : Script Bool := run (.testImage place)
def catSums (place : Place) : Script (List Line) := run (.catSums place)
def catImage (place : Place) : Script Bytes := run (.catImage place)
def removeTree (place : Place) : Script Unit := run (.removeTree place)
def makeTree (place : Place) : Script Bool := run (.makeTree place)
def move (source target : Place) : Script Bool := run (.move source target)
def archive (place : Place) (count : Nat) : Script Bool := run (.archive place count)
def copyIn (place : Place) (data : Bytes) : Script Bool := run (.copyIn place data)
def makeStore : Script Bool := run .makeStore
def makeLock : Script Bool := run .makeLock
def partBytes : Script Bool := run .partBytes
def mountStore : Script (Option Bool) := run .mountStore
def testStore : Script Bool := run .testStore
def testWrite : Script Bool := run .testWrite
def requestReboot : Script Bool := run .reboot
def print (text : String) : Script Unit := run (.print text)
def resetExitTrap : Script Unit := run .resetExitTrap
def ignoreSignals (ignore : Bool) : Script Unit := run (.ignoreSignals ignore)
def sync : Script Unit := run .sync
def flushbufs : Script Unit := run .flushbufs
def umount : Script Unit := run .umount
def removeLock : Script Unit := run .removeLock
def writeSums (place : Place) (line : Line) : Script Unit := run (.writeSums place line)
def writeMeta (place : Place) : Script Unit := run (.writeMeta place)
def writeStateFile : Script Unit := run .writeState

/-- The options of one call, and whether the store may be written. -/
structure Session where
  device : Device
  dryRun : Bool
  noReboot : Bool
  storeRo : Bool

/-! ### Output -/

def prog : String := "liuqin-switch"

def say (text : String) : Script Unit := print text

def warn (text : String) : Script Unit := print (prog ++ ": " ++ text)

def die {α : Type} (text : String) : Script α := do
  print (prog ++ ": " ++ text)
  .exit 1

def warnIf (told : Prop) [Decidable told] (text : String) : Script Unit :=
  if told then warn text else pure ()

/-- `command || die text` -/
def orDie (ok : Prop) [Decidable ok] (text : String) : Script Unit :=
  if ok then pure () else die text

/-! ### The read-only flags -/

def flagNode (device : Device) : Flag → String
  | .part => device.bootDev
  | .disk => "the disk of " ++ device.bootDev

/-- The armed half of open_rw. -/
def clearFlags (device : Device) (found : Bool) (part disk : Option Bool) : Script Unit := do
  let diskOpen ← (if disk = some true then roSet .disk false else pure true)
  orDie diskOpen ("cannot clear the read-only flag of " ++ flagNode device .disk)
  let partOpen ← (if part = some true then roSet .part false else pure true)
  orDie partOpen ("cannot clear the read-only flag of " ++ flagNode device .part)
  let partNow ← roGet .part
  orDie (partNow = some false) (flagNode device .part ++ " is still read-only")
  let diskNow ← (if found then roGet .disk else pure (some false))
  orDie (diskNow = some false) (flagNode device .disk ++ " is still read-only")

def openRw (device : Device) : Script Unit := do
  let found ← parentDisk
  assign fun shell => { shell with rwDisk := found }
  orDie (found ∨ device.devDir) ("cannot find the disk that holds " ++ device.bootDev)
  let part ← roGet .part
  assign fun shell => { shell with rwPartWas := part }
  orDie (part ≠ none) ("cannot read the read-only flag of " ++ flagNode device .part)
  let disk ← (if found then roGet .disk else pure (some false))
  assign fun shell => { shell with rwDiskWas := disk }
  orDie (disk ≠ none) ("cannot read the read-only flag of " ++ flagNode device .disk)
  -- armed before anything changes
  assign fun shell => { shell with rwArmed := true }
  clearFlags device found part disk

/-- Set one flag again and read it back. -/
def restoreFlag (device : Device) (flag : Flag) : Script Bool := do
  let requested ← roSet flag true
  let confirmed ← (if requested then roGet flag else pure none)
  if confirmed = some true then
    return true
  else
    warn ("CRITICAL: could not restore the read-only flag of " ++ flagNode device flag)
    return false

def closeRw (device : Device) : Script Bool := do
  let now ← shell
  if now.rwArmed then
    assign fun shell => { shell with rwArmed := false }
    let part ← (if now.rwPartWas = some true then restoreFlag device .part else pure true)
    let disk ← (if now.rwDisk ∧ now.rwDiskWas = some true then restoreFlag device .disk
      else pure true)
    if part && disk then
      return true
    else
      assign fun shell => { shell with rwFailed := true }
      return false
  else return true

def unmount : Script Unit := do
  assign fun shell => { shell with mountedHere := false }
  umount

def unlock : Script Unit := do
  assign fun shell => { shell with locked := false }
  removeLock

def release : Script Unit := do
  let now ← shell
  (if now.mountedHere then unmount else pure ())
  (if now.locked then unlock else pure ())

def cleanup (device : Device) : Script Unit := do
  let _ ← closeRw device
  release

/-- It ends in an exit. -/
def onExit (device : Device) (status : Nat) : Script Empty := do
  resetExitTrap
  ignoreSignals true
  cleanup device
  let now ← shell
  .exit (if now.rwFailed ∧ status = 0 then 1 else status)

def criticalBegin : Script Unit := ignoreSignals true

def criticalEnd : Script Unit := ignoreSignals false

/-! ### Images -/

def paddedSha (device : Device) (place : Place) : Script Line := do
  let image ← catImage place
  sha256sum (padded device.size image)

/-- The bytes sha_of_part asks dd for. -/
def wholeBlocks (bytes : Nat) : Nat :=
  if bytes % 1048576 = 0 then bytes / 1048576 * 1048576
  else if bytes % 4096 = 0 then bytes / 4096 * 4096
  else bytes / 512 * 512

def shaOfPart (device : Device) : Script Line := do
  let data ← readBoot 0 (wholeBlocks device.size)
  sha256sum data

def classifyBoot (device : Device) : Script (Option System) :=
  @classify (Prog Answer) _ device.shellBits readBoot

/-- Why a set is unusable. -/
def checkSetWhy (device : Device) (set : System) : Script (Option String) := do
  if ¬(← testDirectory (.live set)) then
    return some ("no " ++ set.name ++ " set in the store")
  else if ¬(← testSums (.live set)) then
    return some ("store/" ++ set.name ++ " has no SHA256SUMS")
  else if ¬(← testImage (.live set)) then
    return some ("store/" ++ set.name ++ " has no boot.img")
  else
    let want := sumsLookup (← catSums (.live set))
    let image ← catImage (.live set)
    if want = none then
      return some ("store/" ++ set.name ++ "/SHA256SUMS has no entry for boot.img")
    else if some (← sha256sum image) ≠ want then
      return some ("store/" ++ set.name ++ "/boot.img does not match its SHA256SUMS")
    else if image.length > device.size then
      return some ("store/" ++ set.name ++ "/boot.img is " ++ toString image.length ++
        " bytes, larger than boot_a (" ++ toString device.size ++ ")")
    else if classifyImage device.shellBits image ≠ some set then
      return some ("store/" ++ set.name ++ "/boot.img does not identify as a " ++ set.name ++
        " boot image")
    else return none

def checkSet (device : Device) (set : System) (quiet : Bool) : Script Bool := do
  match ← checkSetWhy device set with
  | none => return true
  | some why =>
      if quiet then
        return false
      else
        warn why
        return false

/-- LIVE_FULL and LIVE_CLASS. -/
structure Live where
  full : Line
  identified : Option System
  deriving DecidableEq, Repr

def computeLive (device : Device) : Script Live := do
  let full ← shaOfPart device
  let identified ← classifyBoot device
  if full = [] then
    die ("cannot read " ++ device.bootDev)
  else return { full := full, identified := identified }

def liveIsSet (device : Device) (live : Live) (set : System) : Script Bool := do
  if ← checkSet device set true then
    let want ← paddedSha device (.live set)
    return decide (want = live.full)
  else return false

/-! ### Writing -/

/-- On the test device the script looks at the flags itself; the kernel
refuses the write of a real one. -/
def writable (device : Device) : Script Bool := do
  if device.devDir then
    if (← roGet .part) ≠ some false then
      return false
    else if ← parentDisk then
      return decide ((← roGet .disk) = some false)
    else return true
  else return true

def writeImage (device : Device) (place : Place) : Script Bool := do
  let image ← catImage place
  if image.length > device.size then
    return false
  else if ¬(← writable device) then
    return false
  else if ¬(← writeBoot (image ++ zeros (device.size - image.length))) then
    return false
  else
    sync
    (if device.devDir then pure () else flushbufs)
    return true

def rollback (device : Device) (set : System) : Script Unit := do
  warn ("restoring the " ++ set.name ++ " image in boot_a")
  if ¬(← checkSet device set false) then
    warn ("the " ++ set.name ++ " set is unusable too; boot_a is left as it is.")
    warn "do not reboot: flash boot_a from a host with fastboot first."
  else
    let want ← paddedSha device (.live set)
    openRw device
    let wrote ← writeImage device (.live set)
    let _ ← closeRw device
    let verified ← (if wrote then do return decide ((← shaOfPart device) = want) else pure false)
    if verified then
      warn ("boot_a holds the " ++ set.name ++ " image again (verified); not rebooting")
    else
      warn ("restoring the " ++ set.name ++ " image did not verify either; do not reboot:")
      warn "flash boot_a from a host with fastboot first."

/-- install_set from the read-back on. -/
def confirmSet (session : Session) (set back : System) (want : Line) (wrote : Bool) :
    Script Unit := do
  let device := session.device
  warnIf (¬wrote) ("the write to " ++ device.bootDev ++ " failed")
  let got ← shaOfPart device
  if wrote ∧ got = want then
    say ("verified boot_a = " ++ String.ofList got)
    criticalEnd
  else
    warnIf wrote
      ("boot_a reads back as " ++ String.ofList got ++ ", expected " ++ String.ofList want)
    rollback device back
    die ("boot_a could not be written with the " ++ set.name ++
      " image; the tablet was NOT rebooted")

/-- install_set from its critical section on. -/
def overwrite (session : Session) (set back : System) (want : Line) : Script Unit := do
  let device := session.device
  criticalBegin
  openRw device
  let wrote ← writeImage device (.live set)
  let closed ← closeRw device
  orDie closed "the read-only flag could not be restored after writing boot_a; not rebooting"
  confirmSet session set back want wrote

def installSet (session : Session) (set back : System) : Script Unit := do
  let device := session.device
  let want ← paddedSha device (.live set)
  let image ← catImage (.live set)
  let size := toString image.length ++ " bytes, zero-filled to " ++ toString device.size
  if session.dryRun then
    say ("dry-run: would write store/" ++ set.name ++ "/boot.img (" ++ size ++ ") to " ++
      device.bootDev)
  else
    say ("writing boot_a <- store/" ++ set.name ++ "/boot.img (" ++ size ++ ")")
    overwrite session set back want

def commitSet (set : System) : Script Unit := do
  criticalBegin
  sync
  removeTree (.old set)
  let present ← testDirectory (.live set)
  let aside ← (if present then move (.live set) (.old set) else pure true)
  orDie aside ("cannot move store/" ++ set.name ++ " aside")
  let placed ← move (.staging set) (.live set)
  orDie placed ("cannot move store/." ++ set.name ++ ".new into place")
  removeTree (.old set)
  sync
  criticalEnd

def requireWritableStore (session : Session) : Script Unit := do
  orDie (¬session.storeRo)
    ("the store is read-only here (" ++ session.device.storePath ++ "); run this from Ubuntu")
  let made ← makeStore
  orDie made ("cannot create " ++ session.device.storePath)

def stashLive (session : Session) (live : Live) : Script Unit := do
  let device := session.device
  if session.dryRun then
    say ("dry-run: would archive " ++ device.bootDev ++ " into store/android")
  else
    requireWritableStore session
    removeTree (.staging .android)
    let made ← makeTree (.staging .android)
    orDie made "cannot create store/.android.new"
    let copied ← archive (.staging .android) (device.size / 1048576 * 1048576)
    orDie copied ("reading " ++ device.bootDev ++ " failed")
    let image ← catImage (.staging .android)
    let sha ← sha256sum image
    orDie (sha = live.full) "boot_a changed while it was being archived"
    orDie (classifyImage device.shellBits image = some .android)
      "the archived image does not identify as Android"
    writeSums (.staging .android) (sumsLine sha)
    writeMeta (.staging .android)
    commitSet .android
    say ("archived the live boot_a into store/android (" ++ String.ofList sha ++ ")")

def writeState (session : Session) : Script Unit := do
  if session.dryRun ∨ session.storeRo then
    return ()
  else
    writeStateFile
    sync

def doReboot (session : Session) : Script Bool := do
  if session.noReboot ∨ session.dryRun then
    say "not rebooting (--no-reboot); the new system starts at the next boot"
    return true
  else
    say "rebooting"
    if session.device.devDir then
      let _ ← requestReboot
      return true
    else
      cleanup session.device
      sync
      if ← requestReboot then
        return true
      else requestReboot

/-! ### Subcommands -/

def requireSlotA (device : Device) : Script Unit :=
  match device.runningSlot with
  | some .a => pure ()
  | some .b =>
      die ("this boot came from slot B: the bootloader fell back to the copy in boot_b because " ++
        "boot_a did not load.\nWriting boot_a cannot change what boots next.  From a host in " ++
        "fastboot mode:\n  fastboot flash boot_a <image> && fastboot --set-active=a")
  | none => warn "cannot tell which slot this boot came from; assuming slot A"

def describeLive (device : Device) (live : Live) : Script (String × Bool) := do
  if ← liveIsSet device live .ubuntu then
    return ("the Ubuntu image from the store", true)
  else if ← liveIsSet device live .android then
    return ("the Android image from the store", true)
  else
    match live.identified with
    | some .ubuntu => return ("an Ubuntu image that is not the one in the store", false)
    | some .android => return ("an Android image that is not the one in the store", false)
    | none => return ("an image that identifies as neither system", false)

def statusLine (device : Device) (set : System) : Script Unit := do
  if ← checkSet device set true then
    let sums ← catSums (.live set)
    say ("store/" ++ set.name ++ "  ok  " ++ String.ofList ((sumsLookup sums).getD []))
  else if ← testDirectory (.live set) then
    say ("store/" ++ set.name ++ "  PRESENT BUT UNUSABLE")
  else
    say ("store/" ++ set.name ++ "  absent")

def cmdStatus (session : Session) : Script Bool := do
  let device := session.device
  let live ← computeLive device
  let (held, _) ← describeLive device live
  say ("boot_a holds:     " ++ held)
  statusLine device .ubuntu
  statusLine device .android
  return true

def verifySet (device : Device) (set : System) : Script Bool := do
  if ← checkSet device set false then
    say ("store/" ++ set.name ++ ": boot.img matches SHA256SUMS and identifies as " ++ set.name)
    return true
  else
    say ("store/" ++ set.name ++ ": UNUSABLE")
    return false

def cmdVerify (session : Session) : Script Bool := do
  let device := session.device
  let ubuntu ← verifySet device .ubuntu
  let android ← verifySet device .android
  let live ← computeLive device
  let (held, stored) ← describeLive device live
  say ("boot_a holds: " ++ held)
  return ubuntu && android && stored

def cmdStash (session : Session) : Script Bool := do
  let device := session.device
  let live ← computeLive device
  orDie (live.identified = some .android)
    "boot_a does not hold an Android boot image; refusing to archive it as Android"
  if ← liveIsSet device live .android then
    say "store/android already holds the live boot_a; nothing to archive"
    return true
  else
    stashLive session live
    return true

def cmdImportAndroid (session : Session) (file : Option Bytes) : Script Bool := do
  let device := session.device
  match file with
  | none => die "no such file"
  | some image =>
      orDie (classifyImage device.shellBits image = some .android)
        "the file does not identify as an Android boot image (header v3/v4)"
      orDie (image.length ≤ device.size)
        ("the file is " ++ toString image.length ++ " bytes, larger than boot_a (" ++
          toString device.size ++ ")")
      if session.dryRun then
        say "dry-run: would import the file into store/android"
        return true
      else
        requireWritableStore session
        removeTree (.staging .android)
        let made ← makeTree (.staging .android)
        orDie made "cannot create store/.android.new"
        let copied ← copyIn (.staging .android) image
        orDie copied "cannot copy the file"
        let staged ← catImage (.staging .android)
        let sha ← sha256sum staged
        let source ← sha256sum image
        orDie (sha = source) "the file changed while it was being copied"
        writeSums (.staging .android) (sumsLine sha)
        writeMeta (.staging .android)
        commitSet .android
        say ("imported the file into store/android (" ++ String.ofList sha ++ ")")
        return true

/-- The archive of the Android image to-ubuntu is about to overwrite. -/
def keepAndroid (session : Session) (live : Live) : Script Unit := do
  if ← liveIsSet session.device live .android then
    say "store/android already holds the live Android image"
  else if session.storeRo then
    die ("boot_a holds an Android boot image that is not the one in store/android,\n" ++
      "and the store is read-only here, so it cannot be archived.  Overwriting it would\n" ++
      "leave no way back.  Nothing was written.  See the dual-boot documentation:\n" ++
      "copy boot_a off the tablet and import it from Ubuntu with\n" ++
      "  liuqin-switch import-android <image>")
  else
    stashLive session live

/-- What may be overwritten by the Ubuntu set. -/
def overUbuntu (session : Session) (live : Live) : Script Unit :=
  match live.identified with
  | some .ubuntu => say "boot_a holds another Ubuntu build; replacing it, store/android unchanged"
  | some .android => keepAndroid session live
  | none =>
      die "boot_a holds an image that identifies as neither system; refusing to overwrite it"

def cmdToUbuntu (session : Session) : Script Bool := do
  let device := session.device
  let ubuntu ← checkSet device .ubuntu false
  orDie ubuntu "no usable Ubuntu image in store/ubuntu; nothing was written"
  requireSlotA device
  let live ← computeLive device
  if ← liveIsSet device live .ubuntu then
    say "boot_a already holds the Ubuntu image; nothing to write"
    writeState session
    return true
  else
    overUbuntu session live
    installSet session .ubuntu .android
    writeState session
    doReboot session

def cmdToAndroid (session : Session) : Script Bool := do
  let device := session.device
  let android ← checkSet device .android false
  orDie android "no usable Android image in store/android; nothing was written"
  let ubuntu ← checkSet device .ubuntu false
  orDie ubuntu
    "store/ubuntu is unusable, so there would be no way back to Ubuntu; nothing was written"
  requireSlotA device
  let live ← computeLive device
  if ← liveIsSet device live .android then
    say "boot_a already holds the Android image; nothing to write"
    writeState session
    return true
  else
    orDie (live.identified ≠ some .android)
      "boot_a holds an Android image that is not the one in store/android; refusing to overwrite it"
    orDie (live.identified = some .ubuntu)
      "boot_a holds an image that identifies as neither system; refusing to overwrite it"
    installSet session .android .ubuntu
    writeState session
    doReboot session

/-! ### The whole script -/

inductive Command where
  | status
  | verify
  | stashAndroid
  | importAndroid (file : Option Bytes)
  | toUbuntu
  | toAndroid
  deriving DecidableEq, Repr

structure Options where
  noReboot : Bool
  dryRun : Bool
  storeGiven : Bool
  readOnlyStore : Bool
  deriving DecidableEq, Repr

def bootBytesPinned : Nat := 201326592

/-- The store on linux_root, mounted read-only from Android. -/
def mountedStore : Script Bool := do
  match ← mountStore with
  | none => die "cannot mount linux_root read-only"
  | some mounted =>
      assign fun shell => { shell with mountedHere := mounted }
      let present ← testStore
      orDie present "linux_root carries no switch store (/var/lib/liuqin/switch)"
      return true

/-- STORE_RO as the commands see it. -/
def openStore (device : Device) (options : Options) : Script Bool := do
  let fixedRo ← (if options.storeGiven ∨ ¬device.isAndroid ∨ device.devDir then
      pure options.readOnlyStore
    else mountedStore)
  if options.dryRun ∨ fixedRo then
    return fixedRo
  else
    let writes ← testWrite
    return !writes

def dispatch (session : Session) : Command → Script Bool
  | .status => cmdStatus session
  | .verify => cmdVerify session
  | .stashAndroid => cmdStash session
  | .importAndroid file => cmdImportAndroid session file
  | .toUbuntu => cmdToUbuntu session
  | .toAndroid => cmdToAndroid session

/-- From the traps to the last command; the status of the last command is the
status of the script. -/
def body (device : Device) (options : Options) (command : Command) : Script Empty := do
  let free ← makeLock
  orDie free "another liuqin-switch is running"
  assign fun shell => { shell with locked := true }
  let sized ← partBytes
  orDie (sized ∧ device.size ≠ 0) ("cannot size " ++ device.bootDev)
  orDie (device.devDir ∨ device.size = bootBytesPinned)
    (device.bootDev ++ " is " ++ toString device.size ++
      " bytes, not the 192 MiB boot_a of this tablet; refusing")
  let storeRo ← openStore device options
  let ended ← dispatch
    { device := device
      dryRun := options.dryRun
      noReboot := options.noReboot
      storeRo := storeRo } command
  .exit (if ended then 0 else 1)

def main (device : Device) (options : Options) (command : Command) : Script Empty :=
  (body device options command).onExit (onExit device)

/-- A run starts with the traps set and nothing recorded. -/
def Tablet.started {size : Nat} (tablet : Tablet size) : Tablet size :=
  { tablet with shell := Shell.initial, history := History.initial }

end Liuqin.Switch

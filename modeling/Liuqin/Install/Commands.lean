/-
The lines that the installer sends to the RAM shell (tools/install-liuqin.py).

Every remote command is a text that is quoted, guarded by the boot id and framed
by command.  What a command carries is printed by this program, by sgdisk or by
the kernel, so it is a word: characters that need no quoting, and not too many.
-/

import Liuqin.Install.Transparent
import Liuqin.Layout.Apply

namespace Liuqin.Install.Commands

open Liuqin.Library Liuqin.Library.Lines
open Liuqin.Install.Channel (quote safe frameCommand asText Token ramShellLineBytes)
open Liuqin.Layout (Plan Disk Mode Info SgdiskArgument planLayout sgdiskArguments userdataName
  rootName homeName)

/-! ### Words -/

structure Word (limit : Nat) where
  text : Text
  safe : ∀ char ∈ text, Channel.safe char = true
  some : text ≠ []
  short : text.length ≤ limit

/-- A UUID: hexadecimal digits and dashes. -/
abbrev BootId := Word 36

/-- A sha256 in hexadecimal. -/
abbrev Digest := Word 64

/-- The name of a partition has 36 characters at most. -/
abbrev PartitionName := Word 36

/-- The kernel's name of a disk has 31 characters at most. -/
abbrev NodeName := Word 31

structure Address where
  first : UInt8
  second : UInt8
  third : UInt8
  fourth : UInt8
  deriving DecidableEq, Repr

def number (value : Nat) : Text := Numerals.numeral value

def Address.text (address : Address) : Text :=
  number address.first.toNat ++ ('.' :: (number address.second.toNat ++
    ('.' :: (number address.third.toNat ++ ('.' :: number address.fourth.toNat)))))

/-- `http://{args.host_address}:{server.server_port}` -/
def baseUrl (address : Address) (port : UInt16) : Text :=
  "http://".toList ++ (address.text ++ (':' :: number port.toNat))

/-- `shlex.join` -/
def join (arguments : List Text) : Text := List.intercalate [' '] (arguments.map quote)

/-! ### The commands -/

inductive Half where
  | head
  | tail
  deriving DecidableEq, Repr

def Half.text : Half → Text
  | .head => "head".toList
  | .tail => "tail".toList

/-- A plan rendered for sgdisk; its sectors and what sgdisk printed of userdata
are of the sizes they have. -/
structure Edit where
  disk : Disk
  mode : Mode
  android : Int
  root : Int
  keepHome : Bool
  plan : Plan
  info : Info
  node : NodeName
  arguments : List SgdiskArgument
  planned : planLayout disk mode android root keepHome = .ok plan
  rendered : sgdiskArguments plan (String.ofList ("/dev/".toList ++ node.text)) info =
    .ok arguments
  numbers : ∀ item ∈ plan.entries, item.number < 2 ^ 64
  sectors : ∀ item ∈ plan.entries,
    0 ≤ item.firstSector plan.disk.sectorSize ∧ item.firstSector plan.disk.sectorSize < 2 ^ 64 ∧
    0 ≤ item.lastSector plan.disk.sectorSize ∧ item.lastSector plan.disk.sectorSize < 2 ^ 64
  typecode : ∃ word : Word 36, info.typecode.toList = word.text
  guid : ∃ word : Word 36, info.guid.toList = word.text
  attributes : ∃ word : Word 16, info.attributes.toList = word.text

/-- The image that goes to the switch store. -/
structure Image where
  sha256 : Digest
  bytes : UInt64

/-- What install_root_command puts together; the store is there in the dual layout. -/
structure Installation where
  address : Address
  port : UInt16
  archive : Image
  enableRescue : Bool
  keepHome : Bool
  store : Option (Image × Image)

/-- The characters of base64. -/
def base64 (char : Char) : Bool :=
  ('A' ≤ char && char ≤ 'Z') || ('a' ≤ char && char ≤ 'z') || ('0' ≤ char && char ≤ '9') ||
    ['+', '/', '='].contains char

structure Blob where
  text : Text
  alphabet : ∀ char ∈ text, base64 char = true

inductive Command where
  | cmdline
  | release
  | reboot
  | report
  | geometry
  | backupGpt (half : Half)
  | restoreGpt
  | info
  | wipe (metadata : Bool)
  | digest (partition : PartitionName) (bytes : UInt64)
  | apply (edit : Edit)
  | backup (name : PartitionName)
  | sha256sum (name : PartitionName)
  | size (name : PartitionName)
  | makeWork
  | truncate (half : Half)
  | chunk (half : Half) (blob : Blob) (index : Fin blob.text.length)
  | endBlob (half : Half)
  | installRoot (installation : Installation)

def anchor : Text := "persist".toList

/-- The arguments of device_layout behind the boot id. -/
def layoutCall (bootId : BootId) (arguments : List Text) : Text :=
  join (["sh".toList, "/usr/lib/liuqin/install-layout.sh".toList, bootId.text] ++ arguments)

def partlabel (name : PartitionName) : Text := "/dev/disk/by-partlabel/".toList ++ name.text

/-- LAYOUT_WORK -/
def layoutWork : Text := "/run/liuqin-layout".toList

def blobPath (half : Half) : Text :=
  layoutWork ++ ("/liuqin-gpt-".toList ++ (half.text ++ ".b64".toList))

/-- WIPE_BYTES -/
def wipeBytes : Nat := 16 * 1024 ^ 2

/-- The next 500 characters from an index on. -/
def Blob.cut (blob : Blob) (index : Nat) : Text := (blob.text.drop index).take 500

/-- switch_store_arguments -/
def switchStoreArguments (base : Text) (ubuntu android : Image) : List Text :=
  ["SWITCH-STORE".toList, "ubuntu".toList, base ++ "/boot.img".toList, ubuntu.sha256.text,
    number ubuntu.bytes.toNat, "android".toList, base ++ "/android-boot.img".toList,
    android.sha256.text, number android.bytes.toNat]

/-- install_root_command -/
def installRootCommand (bootId : BootId) (installation : Installation) : List Text :=
  let base := baseUrl installation.address installation.port
  ["sh".toList, "/usr/lib/liuqin/install-root.sh".toList, bootId.text,
    base ++ "/rootfs.tar.gz".toList, installation.archive.sha256.text,
    number installation.archive.bytes.toNat, "ERASE-LIUQIN-USERDATA".toList,
    "linux_root".toList, "linux_home".toList] ++
  (if installation.enableRescue then ["ENABLE-USB-RESCUE".toList] else []) ++
  (if installation.keepHome then ["KEEP-HOME".toList] else []) ++
  (match installation.store with
    | none => []
    | some (ubuntu, android) => switchStoreArguments base ubuntu android)

/-- The text that remote is given. -/
def Command.text (bootId : BootId) : Command → Text
  | .cmdline => "cat /proc/cmdline".toList
  | .release => "uname -r".toList
  | .reboot => "(sleep 2; /usr/sbin/liuqin-reboot bootloader) >/dev/null 2>&1 &".toList
  | .report => layoutCall bootId ["report".toList, anchor]
  | .geometry => layoutCall bootId ["geometry".toList, anchor]
  | .backupGpt half => layoutCall bootId ["backup-gpt".toList, anchor, half.text]
  | .restoreGpt => layoutCall bootId ["restore-gpt".toList, anchor]
  | .info => layoutCall bootId ["info".toList, "userdata".toList]
  | .wipe metadata => layoutCall bootId ["wipe-head".toList,
      if metadata then "metadata".toList else "userdata".toList, number wipeBytes]
  | .digest partition bytes =>
      layoutCall bootId ["digest".toList, partition.text, number bytes.toNat]
  | .apply edit => layoutCall bootId
      (["apply".toList, anchor] ++ edit.arguments.map (fun argument => argument.text.toList))
  | .backup name =>
      "test -b ".toList ++ (partlabel name ++ (" && /bin/busybox base64 ".toList ++ partlabel name))
  | .sha256sum name => "/bin/busybox sha256sum ".toList ++ partlabel name
  | .size name => "/bin/busybox blockdev --getsize64 ".toList ++ quote (partlabel name)
  | .makeWork => "mkdir -p ".toList ++ quote layoutWork
  | .truncate half => ":>".toList ++ blobPath half
  | .chunk half blob index =>
      "printf %s ".toList ++ (quote (blob.cut index.val) ++ (" >>".toList ++ blobPath half))
  | .endBlob half => "printf \"\\n\" >>".toList ++ blobPath half
  | .installRoot installation => join (installRootCommand bootId installation)

def guard (bootId : BootId) : Text :=
  "test \"$(cat /proc/sys/kernel/random/boot_id)\" = ".toList ++ quote bootId.text

/-- remote -/
def remote (bootId : BootId) (command : Command) (token : Token) : Except Nat Bytes :=
  frameCommand (guard bootId ++ (" && ".toList ++ command.text bootId)) (asText token.start)
    (asText token.stop)

/-- The first command, before the boot id is known. -/
def identify (token : Token) : Except Nat Bytes :=
  frameCommand
    "test \"$(cat /etc/liuqin-installer)\" = liuqin && cat /proc/sys/kernel/random/boot_id".toList
    (asText token.start) (asText token.stop)

end Liuqin.Install.Commands

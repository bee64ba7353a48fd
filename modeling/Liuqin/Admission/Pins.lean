/-
The pin lists of the root admission contracts (tools/lib/build-root-contract.py).
-/

import Liuqin.Library.Lines
import Liuqin.Library.Checked

namespace Liuqin.Admission

open Library.Lines Library.Checked

/-! ### The lists -/

/-- The complete GNOME pin list. -/
def pinnedPaths : List Text := texts
  ["/etc/liuqin-gnome-root",
   "/etc/dconf/db/local.d/locks/00-liuqin-power",
   "/etc/systemd/system/liuqin-gnome-storage-guard.service",
   "/etc/systemd/system/liuqin-gnome-usb-rescue.service",
   "/etc/systemd/system/liuqin-power-keyd.service",
   "/etc/systemd/system/liuqin-power-keyd.service.d/20-liuqin-session-runtime.conf",
   "/etc/systemd/system/liuqin-snap-root-admission.service",
   "/etc/systemd/system/bluetooth.service.d/20-liuqin-public-address.conf",
   "/etc/systemd/system/liuqin-bt-preconfigure.service",
   "/etc/systemd/system/liuqin-hexagonrpcd-sdsp.service",
   "/etc/systemd/system/liuqin-ssc-sample-gate.service",
   "/etc/systemd/system/liuqin-sensor-stack.target",
   "/etc/systemd/system/liuqin-wlan-mac.service",
   "/etc/systemd/system/NetworkManager.service.d/20-liuqin-wlan-mac.conf",
   "/etc/udev/rules.d/80-liuqin-fastrpc.rules",
   "/usr/lib/firmware/novatek/liuqin/novatek_nt36532_m81_fw_csot.bin",
   "/usr/lib/firmware/novatek/liuqin/novatek_nt36532_m81_fw_tm.bin",
   "/usr/lib/firmware/qcom/sm8450/Xiaomi-Pad-6-Pro-tplg.bin",
   "/usr/bin/hexagonrpcd",
   "/usr/bin/ssccli",
   "/usr/share/qcom/sm8450/Xiaomi/liuqin/sensors/sns_reg_version",
   "/usr/share/liuqin/kernel.release",
   "/usr/share/liuqin/kernel-modules.manifest",
   "/usr/local/bin/busybox",
   "/usr/local/bin/liuqin-shell",
   "/usr/local/libexec/liuqin-iio-sensor-proxy",
   "/usr/local/libexec/liuqin-power-keyd",
   "/usr/local/libexec/liuqin-power-key-action",
   "/usr/local/libexec/liuqin-power-menu",
   "/usr/share/liuqin/power/io.github.liuqin.power.gschema.xml",
   "/usr/share/liuqin/power/gschemas.compiled",
   "/usr/local/libexec/liuqin-uinput-automation",
   "/usr/local/libexec/liuqin-audio-hwparams-probe",
   "/usr/local/sbin/liuqin-gnome-storage-guard",
   "/usr/local/sbin/liuqin-gnome-usb-rescue",
   "/usr/local/sbin/liuqin-snap-root-admission",
   "/usr/local/sbin/liuqin-bt-public-addr",
   "/usr/local/sbin/liuqin-wlan-mac",
   "/usr/libexec/liuqin-ssc-sample-gate"]

/-- The pin list of a native install. -/
def nativePinnedPaths : List Text := texts
  ["/etc/liuqin-native-root",
   "/etc/systemd/system/liuqin-slpi.service",
   "/usr/local/sbin/liuqin-slpi",
   "/etc/dconf/db/local.d/locks/00-liuqin-power",
   "/etc/systemd/system/NetworkManager.service.d/20-liuqin-wlan-mac.conf",
   "/etc/systemd/system/bluetooth.service.d/20-liuqin-public-address.conf",
   "/etc/systemd/system/liuqin-backlight-default.service",
   "/etc/systemd/system/liuqin-bt-preconfigure.service",
   "/etc/systemd/system/liuqin-gnome-storage-guard.service",
   "/etc/systemd/system/liuqin-gnome-usb-rescue.service",
   "/etc/systemd/system/liuqin-hexagonrpcd-sdsp.service",
   "/etc/systemd/system/liuqin-power-keyd.service",
   "/etc/systemd/system/liuqin-power-keyd.service.d/20-liuqin-session-runtime.conf",
   "/etc/systemd/system/liuqin-sensor-stack.target",
   "/etc/systemd/system/liuqin-snap-root-admission.service",
   "/etc/systemd/system/liuqin-ssc-sample-gate.service",
   "/etc/systemd/system/liuqin-wlan-mac.service",
   "/etc/udev/rules.d/80-liuqin-fastrpc.rules",
   "/usr/lib/firmware/novatek/liuqin/novatek_nt36532_m81_fw_csot.bin",
   "/usr/lib/firmware/novatek/liuqin/novatek_nt36532_m81_fw_tm.bin",
   "/usr/lib/firmware/qcom/sm8450/Xiaomi-Pad-6-Pro-tplg.bin",
   "/usr/lib/firmware/updates/qcom/a730_sqe.fw",
   "/usr/lib/firmware/updates/qcom/gmu_gen70000.bin",
   "/usr/bin/hexagonrpcd",
   "/usr/libexec/iio-sensor-proxy",
   "/usr/libexec/liuqin-ssc-sample-gate",
   "/usr/local/bin/busybox",
   "/usr/local/bin/liuqin-shell",
   "/usr/local/libexec/liuqin-power-key-action",
   "/usr/local/libexec/liuqin-power-keyd",
   "/usr/local/libexec/liuqin-power-menu",
   "/usr/local/sbin/liuqin-bt-public-addr",
   "/usr/local/sbin/liuqin-gnome-storage-guard",
   "/usr/local/sbin/liuqin-gnome-usb-rescue",
   "/usr/local/sbin/liuqin-snap-root-admission",
   "/usr/local/sbin/liuqin-wlan-mac",
   "/usr/share/liuqin/kernel-modules.manifest",
   "/usr/share/liuqin/kernel.release",
   "/usr/share/liuqin/power/gschemas.compiled",
   "/usr/share/liuqin/power/io.github.liuqin.power.gschema.xml",
   "/usr/share/qcom/sm8450/Xiaomi/liuqin/sensors/sns_reg_version"]

inductive Profile where
  | gnome
  | native
  deriving DecidableEq, Repr

def Profile.name : Profile → Text
  | .gnome => "gnome".toList
  | .native => "native".toList

def Profile.pins : Profile → List Text
  | .gnome => pinnedPaths
  | .native => nativePinnedPaths

def gnomeHeader : Text := "LIUQIN_GNOME_ROOT_CONTRACT_V1".toList

def nativeHeader : Text := "LIUQIN_NATIVE_ROOT_CONTRACT_V1".toList

def Profile.header : Profile → Text
  | .gnome => gnomeHeader
  | .native => nativeHeader

/-- Paths a pin list must never contain: dpkg owns them. -/
def distroOwnedPrefixes : List Text :=
  ["/usr/lib/aarch64-linux-gnu/".toList,
   "/usr/lib/systemd/".toList,
   "/usr/bin/".toList,
   "/usr/sbin/".toList,
   "/bin/".toList,
   "/sbin/".toList,
   "/lib/".toList,
   "/etc/dconf/".toList,
   "/etc/gdm3/".toList]

/-- A pinned path is one that the project owns outright. -/
def projectOwnedPrefixes : List Text :=
  ["/etc/liuqin-".toList,
   "/etc/systemd/system/liuqin-".toList,
   "/usr/local/bin/".toList,
   "/usr/local/libexec/".toList,
   "/usr/local/sbin/".toList,
   "/usr/lib/firmware/novatek/liuqin/".toList,
   "/usr/lib/firmware/updates/".toList,
   "/usr/share/liuqin/".toList]

/-- The exact files owned below a directory of the distribution. -/
def projectOwnedExactPaths : List Text :=
  ["/etc/dconf/db/local.d/locks/00-liuqin-power".toList,
   "/etc/systemd/system/bluetooth.service.d/20-liuqin-public-address.conf".toList,
   "/etc/systemd/system/NetworkManager.service.d/20-liuqin-wlan-mac.conf".toList,
   "/etc/udev/rules.d/80-liuqin-fastrpc.rules".toList,
   "/usr/libexec/liuqin-ssc-sample-gate".toList,
   "/usr/libexec/iio-sensor-proxy".toList,
   "/usr/bin/hexagonrpcd".toList,
   "/usr/bin/ssccli".toList,
   "/usr/share/qcom/sm8450/Xiaomi/liuqin/sensors/sns_reg_version".toList,
   "/usr/lib/firmware/qcom/sm8450/Xiaomi-Pad-6-Pro-tplg.bin".toList]

/-! ### The check of a list -/

def startsWith (front text : Text) : Bool := front.isPrefixOf text

def endsWith (back text : Text) : Bool := back.isSuffixOf text

/-- Not an absolute path, or one that climbs. -/
def climbs (rel : Text) : Bool := contains "/../".toList rel || endsWith "/..".toList rel

/-- How Python prints a tuple of plain strings. -/
def printed (items : List Text) : Text :=
  "(".toList ++ List.intercalate ", ".toList (items.map (fun item => '\'' :: item ++ ['\''])) ++
    ")".toList

def distroOwned (rel front : Text) : Text :=
  "refusing to pin a distribution-owned path: ".toList ++ rel ++ " (under ".toList ++ front ++
    ("); stage 1 is fail-closed, so pinning a file dpkg may rewrite turns " ++
      "`apt upgrade` into a root that will not boot next time. Prove what " ++
      "is needed about distribution files with the topology gates in " ++
      "initramfs/init instead of a content hash.").toList

def notOwned (rel : Text) : Text :=
  "refusing to pin a path this project does not own: ".toList ++ rel ++
    ("; admission criteria must be in the project prefix allowlist or " ++
      "one of the exact exceptions ").toList ++ printed projectOwnedExactPaths

def checkPin (rel : Text) : Except Text Unit := do
  refuseIf (startsWith "/".toList rel = false ∨ climbs rel = true)
    ("pin list entry is not a plain absolute path: ".toList ++ rel)
  distroOwnedPrefixes.forM (fun front =>
    refuseIf (startsWith front rel = true ∧ rel ∉ projectOwnedExactPaths) (distroOwned rel front))
  refuseIf (rel ∉ projectOwnedExactPaths ∧
      ¬ ∃ front ∈ projectOwnedPrefixes, startsWith front rel = true) (notOwned rel)

/-- Refuse a pin list that would make an upgrade a boot failure. -/
def checkPinList (paths : List Text) : Except Text Unit := do
  refuseIf (¬ paths.Nodup) "the pin list repeats a path".toList
  paths.forM checkPin

end Liuqin.Admission

import Liuqin.Library.Hex
import Liuqin.Library.Checked
import Liuqin.Library.Chunks
import Liuqin.Library.Placement
import Liuqin.Library.Program
import Liuqin.Library.Parallel
import Liuqin.Library.Bytes
import Liuqin.Library.Words
import Liuqin.Library.Lines
import Liuqin.Layout.Disk
import Liuqin.Layout.Plan
import Liuqin.Layout.Gpt
import Liuqin.Layout.Apply
import Liuqin.Layout.Tail
import Liuqin.Layout.Applied
import Liuqin.Layout.Confirm
import Liuqin.Layout.Device
import Liuqin.Layout.Posture
import Liuqin.Layout.Exits
import Liuqin.Switch.Image
import Liuqin.Switch.Machine
import Liuqin.Switch.Script
import Liuqin.Switch.Reference
import Liuqin.Switch.Rules
import Liuqin.Switch.Reading
import Liuqin.Switch.ReadOnly
import Liuqin.Switch.Frame
import Liuqin.Switch.Restored
import Liuqin.Switch.Archive
import Liuqin.Switch.Opened
import Liuqin.Switch.Whole
import Liuqin.Switch.WayBack
import Liuqin.Switch.Kept
import Liuqin.Switch.Crash
import Liuqin.Switch.Replaced
import Liuqin.Switch.Recovered
import Liuqin.Boot.Cpio
import Liuqin.Boot.Archive
import Liuqin.Boot.ReadBack
import Liuqin.Boot.Inverse
import Liuqin.Boot.Image
import Liuqin.Boot.Repack
import Liuqin.Boot.Parts
import Liuqin.Boot.Sealed
import Liuqin.Boot.Repacked
import Liuqin.Boot.OnlyRamdisk
import Liuqin.Boot.Newc
import Liuqin.Boot.Decompress
import Liuqin.Boot.Truncated
import Liuqin.Boot.Loaded
import Liuqin.Boot.Patch
import Liuqin.Boot.Patched
import Liuqin.Boot.Accepted
import Liuqin.Admission.Pins
import Liuqin.Admission.Contract
import Liuqin.Admission.Parses
import Liuqin.Library.Numerals
import Liuqin.Library.Regex
import Liuqin.Layout.Report
import Liuqin.Layout.Rows
import Liuqin.Layout.Reported
import Liuqin.Slot.Cmdline
import Liuqin.Slot.Gpt
import Liuqin.Slot.Table
import Liuqin.Slot.Stored
import Liuqin.Slot.Calls
import Liuqin.Slot.Marking
import Liuqin.Slot.Marked
import Liuqin.Slot.Finish
import Liuqin.Slot.Reference
import Liuqin.Slot.Torn
import Liuqin.Slot.Rerun
import Liuqin.Initramfs.Kernel
import Liuqin.Initramfs.Storage
import Liuqin.Initramfs.Flow
import Liuqin.Initramfs.Rules
import Liuqin.Initramfs.Nodes
import Liuqin.Initramfs.Root
import Liuqin.Initramfs.Handoff
import Liuqin.Initramfs.Reference
import Liuqin.Initramfs.Boot
import Liuqin.Initramfs.Guard
import Liuqin.Power.Key
import Liuqin.Power.Cable
import Liuqin.Power.Mipps
import Liuqin.Power.Gated
import Liuqin.Power.Charger
import Liuqin.Sensors.Polling
import Liuqin.Sensors.Converged
import Liuqin.Install.Padding
import Liuqin.Install.Store
import Liuqin.Install.Accepted
import Liuqin.Install.Channel
import Liuqin.Install.Transparent
import Liuqin.Install.Kinds
import Liuqin.Fingerprint.Adapter
import Liuqin.Fingerprint.Progress
import Liuqin.Fingerprint.Tee
import Liuqin.Fingerprint.Client
import Liuqin.Fingerprint.Pipeline
import Liuqin.Fingerprint.Sends
import Liuqin.Fingerprint.Rules
import Liuqin.Fingerprint.Export
import Liuqin.Fingerprint.Enrolment
import Liuqin.Fingerprint.Match
import Liuqin.Fingerprint.Runtime
import Liuqin.Fingerprint.Verify
import Liuqin.Fingerprint.Verified
import Liuqin.Fingerprint.Gatekeeper
import Liuqin.Fingerprint.Rounds
import Liuqin.Fingerprint.Synchronized
import Liuqin.Fingerprint.Publish
import Liuqin.Fingerprint.Published
import Liuqin.Library.Journal
import Liuqin.Library.Sharing
import Liuqin.Fingerprint.Acceptance
import Liuqin.Fingerprint.Leftover
import Liuqin.Fingerprint.OneUse
import Liuqin.Fingerprint.Candidate
import Liuqin.Bluetooth.Address
import Liuqin.Bluetooth.Guarded
import Liuqin.Fingerprint.Input
import Liuqin.Fingerprint.Derived
import Liuqin.Fingerprint.Authorized
import Liuqin.Fingerprint.NativeEnrol
import Liuqin.Fingerprint.Truthful
import Liuqin.Rpmb.Listener
import Liuqin.Rpmb.History
import Liuqin.Rpmb.Checked
import Liuqin.Rpmb.Transfers
import Liuqin.Rpmb.Served
import Liuqin.Inputs.Cache
import Liuqin.Inputs.Reused
import Liuqin.Install.Commands
import Liuqin.Install.Bounded
import Liuqin.DeviceTree.Tree
import Liuqin.DeviceTree.Ids
import Liuqin.DeviceTree.Mirrored
import Liuqin.DeviceTree.Symbols
import Liuqin.DeviceTree.Labels
import Liuqin.DeviceTree.Union
import Liuqin.DeviceTree.Phandles
import Liuqin.DeviceTree.Renamed
import Liuqin.DeviceTree.Exported
import Liuqin.DeviceTree.Reading
import Liuqin.DeviceTree.Surgery

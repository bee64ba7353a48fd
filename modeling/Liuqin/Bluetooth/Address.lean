/-
The public Bluetooth address
(device/gnome-overlay/usr/local/sbin/liuqin-bt-public-addr).

Every btmgmt request may print anything, leave with any status and run into its
timeout; HUP, INT and TERM are taken when the command before them has ended.
The log keeps the requests with their replies, the last one first.
-/

import Liuqin.Library.Lines
import Liuqin.Library.Program

namespace Liuqin.Bluetooth

open Liuqin.Library.Lines Liuqin.Library.Program

/-! ### Replies as grep and awk read them -/

/-- `[[:space:]]` -/
def space (char : Char) : Bool :=
  char = ' ' || char = '\t' || char = '\n' || char.val = 11 || char.val = 12 || char = '\r'

def digit (char : Char) : Bool := '0' ≤ char && char ≤ '9'

def lower (char : Char) : Char := char.toLower

/-- What a command substitution keeps. -/
def captured (output : Text) : Text :=
  ((keptByRead output).reverse.dropWhile (fun char => char = '\n')).reverse

/-- The lines of `printf '%s\n' "$text"`. -/
def linesOf (text : Text) : List Text := endedLines (text ++ ['\n'])

/-- The fields of a line for awk. -/
def awkFields (line : Text) : List Text := splitWords blank [] line

/-- `first.*second` on a line. -/
def followedBy (first second line : Text) : Bool :=
  match breakAt first line with
  | none => false
  | some pieces => strstr second pieces.2

/-- `grep -Eqi` for one of some words. -/
def mentions (pieces : List String) (text : Text) : Bool :=
  (linesOf (text.map lower)).any (fun line => pieces.any (fun piece => strstr piece.toList line))

/-- `^front[[:space:]]+back` -/
def headed (front back : String) (line : Text) : Bool :=
  front.toList.isPrefixOf line &&
    ((line.drop front.length).head?.any space) &&
    back.toList.isPrefixOf ((line.drop front.length).dropWhile space)

def missing : List String := ["invalid index", "no controller"]

/-- The count in the first line of the config reply. -/
def unconfiguredCount (text : Text) : Option Text :=
  match (linesOf text).map awkFields with
  | (word :: noun :: list :: preposition :: count :: item :: _) :: _ =>
      if word = "Unconfigured".toList ∧ noun = "index".toList ∧ list = "list".toList ∧
          preposition = "with".toList ∧ count ≠ [] ∧ count.all digit = true ∧
          (item = "item".toList ∨ item = "items".toList) then some count else none
  | _ => none

/-- `^hci[0-9]+:[[:space:]]+Unconfigured controller` -/
def unconfiguredLine (line : Text) : Bool :=
  let number := (line.drop 3).takeWhile digit
  "hci".toList.isPrefixOf line && !number.isEmpty &&
    headed ":" "Unconfigured controller" ((line.drop 3).dropWhile digit)

/-- The first field without `hci` in front and the colon behind. -/
def indexField (line : Text) : Text :=
  let field := (awkFields line).headD []
  let bare := if "hci".toList.isPrefixOf field then field.drop 3 else field
  if bare.getLast? = some ':' then bare.dropLast else bare

/-- The index of the one unconfigured controller. -/
def unconfiguredIndex (text : Text) : Option Text :=
  match (linesOf text).filter unconfiguredLine with
  | [line] => if indexField line ≠ [] ∧ (indexField line).all digit = true
      then some (indexField line) else none
  | _ => none

/-- `^[[:space:]]*manufacturer 29[[:space:]]*$` -/
def manufacturerLine (line : Text) : Bool :=
  let rest := line.dropWhile space
  "manufacturer 29".toList.isPrefixOf rest && (rest.drop 15).all space

/-- The measured configuration identity. -/
def expectedController (text : Text) : Bool :=
  ((linesOf text).filter manufacturerLine).length = 1 &&
    (linesOf text).any (followedBy "supported options:".toList "public-address".toList) &&
    (linesOf text).any (followedBy "missing options:".toList "public-address".toList)

/-- `^hci$index:[[:space:]]+Primary controller` -/
def primaryLine (index : String) (text : Text) : Bool :=
  (linesOf text).any (headed ("hci" ++ index ++ ":") "Primary controller")

def hexDigit (char : Char) : Bool :=
  digit char || ('a' ≤ char && char ≤ 'f') || ('A' ≤ char && char ≤ 'F')

/-- Six pairs of hexadecimal digits with colons between them. -/
def addressSyntax (text : Text) : Bool :=
  text.length = 17 &&
    (List.range 17).all (fun position =>
      match text[position]? with
      | none => false
      | some char => if position % 3 = 2 then char = ':' else hexDigit char)

/-- The address of the info reply in capitals. -/
def currentAddress (text : Text) : Option Text :=
  match ((linesOf text).map awkFields).filter (fun fields => fields.head? = some "addr".toList) with
  | [_ :: value :: _] => if addressSyntax value then some (value.map Char.toUpper) else none
  | _ => none

/-- `^[[:space:]]*current settings:` -/
def settingsLine (line : Text) : Bool := "current settings:".toList.isPrefixOf (line.dropWhile space)

/-- `powered` as a word behind a blank. -/
def poweredWord : Text → Bool
  | [] => false
  | char :: rest =>
      (space char && "powered".toList.isPrefixOf rest && (rest.drop 7).head?.all space) ||
        poweredWord rest

def showsPowered (text : Text) : Bool :=
  (linesOf text).any (fun line =>
    settingsLine line && poweredWord ((line.dropWhile space).drop 17))

def placeholder : Text := "00:00:00:00:5A:AD".toList

/-- `^hci$index[[:space:]]+what complete` -/
def completes (index what : String) (text : Text) : Bool :=
  (linesOf text).any (headed ("hci" ++ index) (what ++ " complete"))

/-! ### The provisioned address -/

def reserved : List String := ["00:00:00:00:00:00", "ff:ff:ff:ff:ff:ff", "00:00:00:00:5a:ad"]

/-- The address in the file, in lower case. -/
def provisioned (content : Text) : Option String :=
  if content.length = 18 ∧ content.getLast? = some '\n' ∧
      addressSyntax (content.takeWhile (fun char => char ≠ '\n')) = true then
    let address := String.ofList ((content.takeWhile (fun char => char ≠ '\n')).map lower)
    if address ∈ reserved then none else some address
  else none

/-! ### The helper -/

inductive Signal where
  | hup
  | int
  | term
  deriving DecidableEq, Repr

def Signal.status : Signal → Nat
  | .hup => 129
  | .int => 130
  | .term => 143

inductive Command where
  | config
  | info (index : String)
  | powerOff (index : String)
  | powerOn (index : String)
  | publicAddr (index address : String)
  deriving DecidableEq, Repr

/-- `point` is a moment between two commands. -/
inductive Op where
  | mgmt (command : Command)
  | sleep
  | say
  | point
  deriving DecidableEq

structure Reply where
  output : Text
  status : Nat
  deriving DecidableEq, Repr

@[reducible] def Value : Op → Type
  | .mgmt _ => Reply
  | _ => Bool

/-- A command ends with its value, or a signal is taken behind it. -/
def Answer (operation : Op) : Type := Signal ⊕ Value operation

abbrev Script := Prog Answer

abbrev Log := List (Command × Reply)

/-- A request whose reply a signal kept from the script is in the log too. -/
structure Fault (operation : Op) where
  value : Value operation
  signal : Option Signal

def perform : (operation : Op) → Fault operation → Log → Answer operation × Log
  | .mgmt command, fault, log =>
      (match fault.signal with
        | none => .inr fault.value
        | some signal => .inl signal, (command, fault.value) :: log)
  | .sleep, fault, log =>
      (match fault.signal with
        | none => .inr fault.value
        | some signal => .inl signal, log)
  | .say, fault, log =>
      (match fault.signal with
        | none => .inr fault.value
        | some signal => .inl signal, log)
  | .point, fault, log =>
      (match fault.signal with
        | none => .inr fault.value
        | some signal => .inl signal, log)

def machine : Machine Answer Log where
  Fault := Fault
  perform := perform

/-- A command of the script; a signal makes it exit. -/
def run (operation : Op) : Script (Value operation) :=
  .act operation (fun answer => match answer with
    | .inl signal => .exit signal.status
    | .inr value => .done value)

def mgmt (command : Command) : Script Reply :=
  (run (.mgmt command)).bind (fun reply => .done ⟨captured reply.output, reply.status⟩)

def die {α : Type} : Script α := .exit 1

/-- A command that fails under `set -e`. -/
def must (operation : Op) (same : Value operation = Bool) : Script Unit :=
  (run operation).bind (fun value => if cast same value then .done () else die)

def timedOut (status : Nat) : Bool := status = 124 || status = 137 || status = 143

/-- What one reading of the controller finds. -/
inductive Found where
  | configured
  | unconfigured (index : String)
  | placeholder (powered : Bool)
  deriving DecidableEq, Repr

/-- A reply that is no answer is worth another try or the end. -/
def again (reply : Reply) : Script (Option Found) :=
  if mentions missing reply.output then .done none
  else if timedOut reply.status && reply.output.isEmpty then .done none
  else die

section Helper

variable (index address : String) (attemptLimit : Nat)

def addressUpper (address : String) : Text := address.toList.map Char.toUpper

def readInfo : Script (Option Found) := do
  let info ← mgmt (.info index)
  if info.status = 0 &&
      !mentions ["failed", "error", "invalid index", "no controller", "unable"] info.output then
    if primaryLine index info.output then
      match currentAddress info.output with
      | none => die
      | some current =>
          if current = addressUpper address then .done (some .configured)
          else if current = placeholder then
            if (linesOf info.output).any settingsLine then
              .done (some (.placeholder (showsPowered info.output)))
            else die
          else die
    else die
  else again info

def probe : Script (Option Found) := do
  let config ← mgmt .config
  if config.status = 0 && !mentions missing config.output then
    match unconfiguredCount config.output with
    | none => die
    | some count =>
        if count = ['0'] then readInfo index address
        else if count = ['1'] then
          match unconfiguredIndex config.output with
          | none => die
          | some value =>
              if expectedController config.output then
                .done (some (.unconfigured (String.ofList value)))
              else die
        else die
  else again config

/-- The loop with the attempts that are left. -/
def discover : Nat → Script Found
  | 0 => die
  | attempts + 1 => do
      let found ← probe index address
      match found with
      | some found => .done found
      | none => if attempts = 0 then die else do
          must .sleep rfl
          discover attempts

/-- The three attempts to power the controller on again. -/
def restorePower : Nat → Script Bool
  | 0 => .done false
  | attempts + 1 => do
      let info ← mgmt (.info index)
      if info.status = 0 && showsPowered info.output then .done true
      else
        let output ← mgmt (.powerOn index)
        if output.status = 0 && completes index "Set Powered" output.output then .done true
        else if attempts = 0 then .done false
        else
          let _ ← run .sleep
          restorePower attempts

/-- The EXIT trap. -/
def cleanup (restoreNeeded : Bool) (status : Nat) : Script Unit :=
  if restoreNeeded then do
    let restored ← restorePower index 3
    .exit (if restored then status else 1)
  else .exit status

/-- The wait for the controller to come back as a primary one. -/
def await : Nat → Script Unit
  | 0 => die
  | attempts + 1 => do
      let info ← mgmt (.info index)
      if info.status = 0 &&
          (linesOf info.output).any (fun line =>
            ("hci" ++ index ++ ":").toList.isPrefixOf line &&
              "Primary controller".toList.isPrefixOf
                ((line.drop ("hci" ++ index ++ ":").length).dropWhile space)) &&
          (linesOf info.output).any (strstr ("addr ".toList ++ addressUpper address ++ [' '])) then
        .done ()
      else if attempts = 0 then die
      else
        must .sleep rfl
        await attempts

def assign (addressIndex : String) : Script Unit := do
  let output ← mgmt (.publicAddr addressIndex address)
  if output.status = 0 && completes addressIndex "Set Public Address" output.output then
    await index address attemptLimit
  else die

def powerOff : Script Unit := do
  let output ← mgmt (.powerOff index)
  if output.status = 0 && completes index "Set Powered" output.output then .done () else die

/-- The end of the script: nothing is left to restore. -/
def finish : Script Unit := do
  must .say rfl
  .exit 0

/-- The last restore before the end. -/
def restoreOrDie (powered : Bool) : Script Unit :=
  if powered then
    (restorePower index 3).bind (fun restored => if restored then .done () else die)
  else .done ()

/-- From the powering off of the placeholder controller to its restore. -/
def reassign (powered : Bool) : Script Unit := do
  let _ ← run .point
  powerOff index
  assign index address attemptLimit index
  restoreOrDie index powered

def replace (powered : Bool) : Script Unit := do
  (reassign index address attemptLimit powered).onExit (cleanup index powered)
  finish

def main : Script Unit := do
  let found ← discover index address attemptLimit
  match found with
  | .configured => finish
  | .unconfigured addressIndex => do
      assign index address attemptLimit addressIndex
      finish
  | .placeholder powered => replace index address attemptLimit powered

/-- The script, with what the provisioned file holds. -/
def helper (content : Text) : Script Unit :=
  match provisioned content with
  | none => die
  | some address => main index address attemptLimit

end Helper

end Liuqin.Bluetooth

/-
The command channel to the RAM shell (tools/install-liuqin.py).

command sends one input line and reads what the shell's terminal prints until
the end marker of its session.  The terminal turns every newline into a carriage
return and a newline; the marker lines are found with regular expressions, the
end marker in the last bytes of what has arrived.
-/

import Liuqin.Library.Bytes
import Liuqin.Library.Numerals
import Liuqin.Library.Regex

namespace Liuqin.Install.Channel

open Liuqin.Library Liuqin.Library.Lines Liuqin.Library.Regex

/-! ### The input line -/

/-- What shlex.quote leaves as it is. -/
def safe (char : Char) : Bool :=
  ('a' ≤ char && char ≤ 'z') || ('A' ≤ char && char ≤ 'Z') || ('0' ≤ char && char ≤ '9') ||
    "_@%+=:,./-".toList.contains char

/-- `shlex.quote(text)` -/
def quote (text : Text) : Text :=
  if text = [] then "''".toList
  else if text.all safe then text
  else ['\''] ++ text.flatMap (fun char => if char = '\'' then "'\"'\"'".toList else [char]) ++
    ['\'']

def ramShellLineBytes : Nat := 1023

/-! The fixed parts of the input line, in order. -/

def hush : Text := "stty -echo; printf '\\n%s\\n' ".toList
def launch : Text := "; sh -c ".toList
def grade : Text := "; result=$?; printf '\\n%s %s\\n' ".toList
def finish : Text := " \"$result\"\n".toList

/-- The input line, or its length when the RAM shell would refuse it. -/
def frameCommand (text start stop : Text) : Except Nat Bytes :=
  let line := Bytes.encode (hush ++ quote start ++ launch ++ quote text ++ grade ++ quote stop ++
    finish)
  if ramShellLineBytes < line.length then .error line.length else .ok line

/-! ### The session -/

def newline : UInt8 := 10
def carriageReturn : UInt8 := 13

def digitByte (byte : UInt8) : Bool := 48 ≤ byte && byte ≤ 57

/-- The digits of `uuid.uuid4().hex`. -/
def hexByte (byte : UInt8) : Bool := digitByte byte || (97 ≤ byte && byte ≤ 102)

structure Token where
  uuid : Bytes
  hex : ∀ byte ∈ uuid, hexByte byte = true
  length : uuid.length = 32

/-- LIUQIN_ and the digits -/
def Token.text (token : Token) : Bytes := [76, 73, 85, 81, 73, 78, 95] ++ token.uuid

/-- The marker with _START -/
def Token.start (token : Token) : Bytes := token.text ++ [95, 83, 84, 65, 82, 84]

/-- The marker with _END -/
def Token.stop (token : Token) : Bytes := token.text ++ [95, 69, 78, 68]

/-! ### The patterns -/

def is (wanted byte : UInt8) : Bool := byte = wanted

/-- `(?:^|\n)` -/
def lineStart : Pattern UInt8 := .either (.start none) (.one (is newline))

/-- `\r?\n` -/
def lineEnd : Pattern UInt8 := .seq (.option (.one (is carriageReturn))) (.one (is newline))

def startPattern (token : Token) : Pattern UInt8 :=
  .seq lineStart (.seq (literal token.start) lineEnd)

/-- The end marker, a blank, the exit status as a group, and the end of the line. -/
def endPattern (token : Token) : Pattern UInt8 :=
  .seq lineStart (.seq (literal token.stop) (.seq (.one (is 32))
    (.seq (.group (several digitByte)) lineEnd)))

/-! ### Reading -/

/-- `recv` times out, or returns some bytes; none at all when the connection
is closed. -/
inductive Event where
  | silence
  | chunk (data : Bytes)
  deriving DecidableEq, Repr

/-- The deadline or the end of the connection; or a status other than 0, with
the tail of what was read. -/
inductive Failure where
  | stopped
  | refused (tail : Bytes)
  deriving DecidableEq, Repr

/-- `data.replace(b'\r\n', b'\n')` -/
def replaceCrLf : Bytes → Bytes
  | [] => []
  | 13 :: 10 :: rest => 10 :: replaceCrLf rest
  | byte :: rest => byte :: replaceCrLf rest

/-- `data.removesuffix(b'\r')` -/
def removeCr (data : Bytes) : Bytes :=
  if data.getLast? = some carriageReturn then data.dropLast else data

def intOf (digits : Bytes) : Nat :=
  Numerals.number (digits.map (fun byte => Char.ofNat byte.toNat))

/-- The bytes between two matches, as they were before the terminal. -/
def between (buffer : Bytes) (first last : Match UInt8) : Bytes :=
  removeCr (replaceCrLf ((buffer.take last.start.passed.length).drop first.stop.passed.length))

/-- What becomes of a buffer in which the end marker was found. -/
def conclude (token : Token) (buffer : Bytes) (last : Match UInt8) : Except Failure Bytes :=
  match search (startPattern token) buffer 0 with
  | none => .error (.refused (buffer.drop (buffer.length - 4096)))
  | some first =>
      if intOf (last.groups.headD []) ≠ 0 then
        .error (.refused (buffer.drop (buffer.length - 4096)))
      else .ok (between buffer first last)

/-- The loop of command; the events end with the deadline. -/
def receive (token : Token) : Bytes → List Event → Except Failure Bytes
  | _, [] => .error .stopped
  | buffer, .silence :: events => receive token buffer events
  | buffer, .chunk data :: events =>
      if data = [] then .error .stopped
      else
        -- only the tail is searched: an output can be large
        match search (endPattern token) (buffer ++ data) ((buffer ++ data).length - 512) with
        | none => receive token (buffer ++ data) events
        | some last => conclude token (buffer ++ data) last

/-- command, from the first recv on. -/
def command (token : Token) (events : List Event) : Except Failure Bytes := receive token [] events

/-! ### The terminal -/

/-- The terminal prints a newline as a carriage return and a newline. -/
def printed (data : Bytes) : Bytes :=
  data.flatMap (fun byte => if byte = newline then [carriageReturn, newline] else [byte])

def statusText (status : Nat) : Bytes :=
  (Numerals.numeral status).map (fun char => UInt8.ofNat char.toNat)

/-- What the shell prints for the command: the start marker in a line of its
own, the output, and the end marker with the status. -/
def shellOutput (token : Token) (output : Bytes) (status : Nat) : Bytes :=
  [newline] ++ token.start ++ [newline] ++ output ++
    [newline] ++ token.stop ++ [32] ++ statusText status ++ [newline]

/-- What arrives: what the connection began with, the output of the shell
through the terminal, and the next prompt. -/
def transcript (token : Token) (preamble output : Bytes) (status : Nat) (prompt : Bytes) : Bytes :=
  preamble ++ printed (shellOutput token output status) ++ prompt

def arrived : List Event → Bytes
  | [] => []
  | .silence :: events => arrived events
  | .chunk data :: events => data ++ arrived events

end Liuqin.Install.Channel

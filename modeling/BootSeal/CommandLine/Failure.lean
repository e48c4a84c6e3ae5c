import BootSeal.Builder.Error
import BootSeal.CommandLine.Usage
import BootSeal.Image.Basic
/-!
# Failures of commands

A command fails with a message of its own, with a reminder of its usage, in silence after it has
told the verdict, because nobody answers, or on something that it does not handle.
-/

namespace BootSeal.CommandLine

/-- What a command does not handle. -/
inductive Crash where
  | file (e : FileFault)
  | build (e : BuildError)
  | key (e : KeyError)
  /-- An empty passphrase cannot protect a key. -/
  | emptyPassphrase
deriving DecidableEq, Repr

def Crash.message : Crash → String
  | .file e => e.message
  | .build e => e.message
  | .key e => e.message
  | .emptyPassphrase => "the passphrase is empty"

inductive Failure where
  | reported (message : String)
  | usage (f : UsageFault)
  | refused
  | aborted
  | crash (c : Crash)
deriving DecidableEq, Repr

namespace Failure

def ofBuildError (e : BuildError) : Failure :=
  match e with
  | .unreadableInput f => .crash (.file f)
  | .unreadableKey f => .crash (.file f)
  | .hexNotText => .crash (.build e)
  | .payloadSize _ => .crash (.build e)
  | .layout _ => .crash (.build e)
  | .overflow => .crash (.build e)
  | .unusableKey _ (.unknownCurve identifier) => .crash (.key (.unknownCurve identifier))
  | _ => .reported e.message

def status : Failure → Nat
  | usage _ => 2
  | _ => 1

end Failure

end BootSeal.CommandLine

import Mathlib.Data.List.Infix

/-! # Exceptions as the adapter sees them

The adapter reads one thing off a caught `std::exception`: its text. Its own
exceptions are kept apart from the SDK's, whose text is whatever the SDK says.
-/
namespace PrismRosAdapter

inductive Failure where
  | sdk (what : String)
  | adapter (what : String)
  /-- A thrown value that is no `std::exception`. -/
  | foreign
  deriving DecidableEq, Repr

def Failure.exceptionText : Failure → String
  | .sdk what => what
  | .adapter what => what
  | .foreign => "unknown error"

def occursIn (needle text : List Char) : Bool := text.tails.any (needle.isPrefixOf ·)

/-- The text test of the receive loops; only a `std::exception` reaches it. -/
def isTimeoutText (what : String) : Bool :=
  let text := what.toList.map Char.toLower
  occursIn "timeout".toList text || occursIn "timed out".toList text

def isTimeout : Failure → Bool
  | .sdk what => isTimeoutText what
  | .adapter what => isTimeoutText what
  | .foreign => false

end PrismRosAdapter

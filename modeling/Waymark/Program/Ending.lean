/-! How programs end: by themselves with a status, or by a signal. -/
namespace Waymark

inductive Signal where
  | hangup
  | interrupt
  | kill
  | user1
  | user2
  | pipe
  | alarm
  | terminate
  deriving DecidableEq, Repr

namespace Signal

def all : List Signal :=
  [hangup, interrupt, kill, user1, user2, pipe, alarm, terminate]

def number : Signal → Nat
  | hangup => 1
  | interrupt => 2
  | kill => 9
  | user1 => 10
  | user2 => 12
  | pipe => 13
  | alarm => 14
  | terminate => 15

def name : Signal → String
  | hangup => "HUP"
  | interrupt => "INT"
  | kill => "KILL"
  | user1 => "USR1"
  | user2 => "USR2"
  | pipe => "PIPE"
  | alarm => "ALRM"
  | terminate => "TERM"

/-- The signal with this number or name. -/
def ofText? (s : String) : Option Signal :=
  all.find? fun v => toString v.number == s || v.name == s

end Signal

inductive Ending where
  | exited (status : Nat)
  | killed (signal : Signal)
  deriving DecidableEq, Repr

/-- The ending as it is shown in messages. -/
def Ending.text : Ending → String
  | exited status => "exit status: " ++ toString status
  | killed signal => "signal: " ++ toString signal.number ++ " (SIG" ++ signal.name ++ ")"

end Waymark

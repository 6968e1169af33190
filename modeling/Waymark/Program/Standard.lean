import Waymark.Shell.Run

/-! The programs that every system has. -/
namespace Waymark

/-- Whether a call can be handed to the system. -/
def Invocation.isClean (call : Invocation) : Bool :=
  (call.program :: call.arguments).all fun a => !a.toList.contains '\x00'

/-- Programs that copy their input, succeed or fail, and the shell. -/
def Programs.standard : Programs := fun call =>
  if !call.isClean then .error .nulInArgument
  else
    match call.program, call.arguments with
    | "cat", [] | "cat", ["-"] => .ok ⟨.exited 0, call.input, ""⟩
    | "true", _ => .ok ⟨.exited 0, "", ""⟩
    | "false", _ => .ok ⟨.exited 1, "", ""⟩
    | "sh", "-c" :: script :: _ => .ok (Shell.execute script call.environment call.input)
    | _, _ => .error .notFound

end Waymark

import Freebox.Call
import Freebox.Discovery
import Freebox.Json.Writer
import Freebox.Tool.Plan

/-!
# `Freebox.Tool.Run` — tools run, and their answers as text

Every call of a tool is answered by a text that holds JSON. A failure is an object with the member `error`; if it is an
error of the box it has the member `type` as well.

## Contents
- `Plan.run`, `runTool`: a tool run down to its report.
- `Failure.report`, `answerText`.
- `callTool`: the text that a call is answered by.
-/

namespace Freebox

/-- Carries a plan out. -/
def Plan.run : Plan → Attempt State Json
  | operation o report => do
    let answer ← o.run
    return report answer
  | describe => do
    let record ← Freebox.describe
    return record.toJson
  | login => do
    let permissions ← Freebox.login
    return .obj [("success", .bool true), ("permissions", .arr ((Resource.granted permissions).map .str))]
  | diagnostics => do
    let s ← .state
    return .obj (s.client.diagnostics s.network.now)

/-- Runs the tool of a name. -/
def runTool (name : String) (arguments : Members) : Attempt State Json :=
  match Tool.ofName? name with
  | none => .fail (.fault (.unknownTool name))
  | some tool =>
    match tool.plan arguments with
    | .error f => .fail (.fault f)
    | .ok plan => plan.run

/-- The report of a failure. -/
def Failure.report : Failure → Members
  | .box e _ => e.report
  | .fault f => [("error", .str f.message)]

/-- The text of a result or a failure. -/
def answerText : Except Failure Json → String
  | .ok v => v.indented
  | .error e => (Json.obj e.report).indented

/-- The text that a call of a tool is answered by. Null arguments are none. -/
def callTool (name : String) (arguments : Option Members) : Attempt State String := do
  let result ← (runTool name (arguments.getD [])).outcome
  return answerText result

end Freebox

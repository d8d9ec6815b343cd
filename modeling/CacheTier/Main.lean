import CacheTier.Launch

/-!
# The program

Launches what the command line asks for.  What the process tells of itself goes to
standard output.  While it serves, each line of standard input is a request, a method,
a target and a body with spaces between them, and the end of input interrupts it.
-/

namespace CacheTier
namespace Main

/-- The variables of the environment that stand in for settings. -/
def settingNames : List String :=
  let settings := CommandLine.program.shared ++ CommandLine.program.commands.flatMap Prod.snd
  settings.map CommandLine.Setting.envVar

/-- The environment, as far as it matters. -/
def readEnvironment : IO (String → Option String) := do
  let pairs ← settingNames.filterMapM fun name => do
    return (← IO.getEnv name).map fun value => (name, value)
  return fun name => pairs.lookup name

/-- A message of the log. -/
def logged (isJson : Bool) (message : String) : String :=
  if isJson then
    (Json.Doc.object [("level", .text "INFO"), ("message", .text message)]).render
  else "INFO " ++ message

/-- The request on a line, with a body that is announced as JSON. -/
def requestOf (line : String) : Request :=
  match (Blank.trim line).splitOn " " with
  | method :: target :: body => {
      method := .ofName method, target
      headers := [("content-type", MediaType.json)]
      body := (String.intercalate " " body).toUTF8 }
  | _ => { method := .other "", target := "" }

/-- A response on a line. -/
def responseLine (response : Response) : String :=
  response.status.text ++ " " ++ Utf8.lossyText response.body.toList

/-- Answers requests until the input ends or the service panics over one. -/
partial def serve (service : Service) (input output : IO.FS.Stream) : IO Unit := do
  let line ← input.getLine
  if line.isEmpty then return
  let (service, some response) := service.handle (requestOf line)
    | throw (IO.userError "capacity overflow")
  output.putStrLn (responseLine response)
  output.flush
  serve service input output

/-- Launches a process and serves. -/
def run (invocation : Invocation) : IO UInt32 := do
  let tell (message : String) : IO Unit :=
    if invocation.shared.logLevel.tellsProgress then
      IO.println (logged invocation.shared.logsJson message)
    else pure ()
  let launch := Launch.ofInvocation invocation
  launch.messages.forM tell
  match launch.outcome with
  | .error failure =>
    IO.eprintln failure.text
    return 1
  | .ok service =>
    tell Service.listening
    serve service (← IO.getStdin) (← IO.getStdout)
    (service.farewell false).forM tell
    return 0

end Main
end CacheTier

/-- Runs the program with the words of a command line. -/
def main (words : List String) : IO UInt32 := do
  match CacheTier.CommandLine.read (← CacheTier.Main.readEnvironment) words with
  | .ok invocation => CacheTier.Main.run invocation
  | .error .information =>
    IO.println CacheTier.ProcessReport.usage
    return 0
  | .error .misuse =>
    IO.eprintln CacheTier.ProcessReport.usage
    return 2

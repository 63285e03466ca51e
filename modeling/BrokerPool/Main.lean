import BrokerPool.Startup

/-!
# The program

Begins the service in the working directory, answers the requests on standard input, and ends the
service when the input ends. A request is a line with a method, a path and a JSON body, of which the
body may be missing. There is no transport to a broker here, so no broker is ever reached and no
message is ever taken.
-/

open BrokerPool

/-- The variables in a block of assignments, each of which ends with a zero byte. -/
def variablesOf (block : List Char) : Settings.Environment :=
  (Settings.Variables.cutLines (· == '\x00') block).filterMap fun cs =>
    match cs.span (· != '=') with
    | (name, '=' :: value) =>
      some (String.ofList name, String.ofList (value.filter (· != '\x00')))
    | _ => none

/-- The files at some paths, as far as they exist. -/
def readFiles (paths : List String) : IO (List (String × FileNode)) :=
  paths.filterMapM fun (path : String) => do
    try
      let bytes ← IO.FS.readBinFile path
      return some (path, .file bytes.toList)
    catch
    | .noFileOrDirectory .. => return none
    | .permissionDenied .. => return some (path, .unreadable .denied)
    | e => return some (path, .unreadable (.other (toString e)))

/-- The files that can hold settings, with those above a working directory that can hold
    variables. -/
def settingsFiles (here : List String) : List String :=
  let above := (List.range (here.length + 1)).map fun height =>
    String.join (List.replicate height "../") ++ Settings.Variables.fileName
  above ++ Settings.fileName ::
    Settings.formats.map fun (ending, _) => Settings.fileName ++ "." ++ ending

/-- The files that secure the transport, as far as settings name any. -/
def transportFiles (environment : Settings.Environment) (files : Files) : List String :=
  match Config.Service.load (environment.withFile files) files with
  | .ok settings =>
    match settings.broker.tls with
    | some tls => tls.authorityPath.toList ++ tls.identityPath.toList
    | none => []
  | .error _ => []

/-- The request on a line. -/
def requestOf (line : String) : Http.Request :=
  let isBreak (c : Char) : Bool := c == ' ' || c == '\n'
  let (method, rest) := line.toList.span (!isBreak ·)
  let (path, rest) := (rest.drop 1).span (!isBreak ·)
  let body := (rest.drop 1).filter (· != '\n')
  { method := String.ofList method, path := String.ofList path
    contentType := if body.isEmpty then none else some "application/json"
    body := Text.Utf8.encode (String.ofList body) }

/-- A response as one line. -/
def responseLine (r : Http.Response) : String :=
  Number.digitText r.status.code ++ match r.body with
    | .empty => ""
    | .text s => " " ++ s
    | .json v => " " ++ v.print

/-- Answers the requests on a stream until it ends. -/
partial def answerAll (input : IO.FS.Stream) (write : List Log.Entry → IO Unit) (s : Http.Server) :
    IO Http.Server := do
  let line ← input.getLine
  if line.isEmpty then return s
  let h := s.handle ⟨0, ⟨0, 0, 0⟩⟩ (requestOf line)
  write h.log
  if let some r := h.response then IO.println (responseLine r)
  answerAll input write h.server

def main : IO UInt32 := do
  let block ← IO.FS.readBinFile "/proc/self/environ"
  let environment := variablesOf (Text.Utf8.decodeLossy block.toList).toList
  let here := Files.names (← IO.currentDir).toString
  let found ← readFiles (settingsFiles here)
  let more ← readFiles (transportFiles environment (.ofList found here))
  let filter := Startup.filterText environment
  let write (entries : List Log.Entry) : IO Unit :=
    ((Log.Filter.parse filter).lines entries).forM IO.println
  (Startup.filterComplaints filter).forM IO.eprintln
  let b := Startup.begin environment (.ofList (found ++ more) here) {}
  write b.log
  match b.server with
  | .error reason =>
    IO.eprintln (Startup.errorLine reason)
    return 1
  | .ok server =>
    let server ← answerAll (← IO.getStdin) write server
    write (Startup.finish server).2
    return 0

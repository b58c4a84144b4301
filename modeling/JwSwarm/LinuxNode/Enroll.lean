import JwSwarm.Data.FileStore
import JwSwarm.FleetManager.Enrollment

namespace JwSwarm.LinuxNode.Enroll

open Data
open FleetManager.Enrollment (trim)

/-! `enroll`: the node makes a key and a CSR, fetches the CA, exchanges its token
for a certificate and writes its credentials. What the system, openssl and the
server answer is given; openssl writes its output file and no other. -/

structure EnrollArgs where
  baseUrl : String
  nodeId : String
  token : String
  outDir : String
  writeConfig : Bool

structure EnrollRequest where
  nodeId : String
  token : String
  csrPem : String

structure EnrollResponse where
  nodeCertPem : String
  caCertPem : String

structure Limits where
  gpuPowerPct : UInt8
  memoryLimitMb : UInt64

structure Schedule where
  awakeFrom : String
  awakeUntil : String

structure Config where
  fleetUrl : String
  nodeId : String
  hostname : String
  nodeCert : String
  caCert : String
  limits : Limits
  schedule : Schedule
  selectedModels : List String

inductive Failure where
  | error (message : String)
  | panic (message : String)

/-- How a call of openssl ends, with what it has written to its output file if
it opened that. -/
inductive OpensslRun where
  | notExecuted
  | exited (success : Bool) (stderr : List UInt8)
      (written : Option (List UInt8))

def OpensslRun.succeeds : OpensslRun → Bool
  | .notExecuted => false
  | .exited success _ _ => success

def OpensslRun.leaves (old : Option (List UInt8)) :
    OpensslRun → Option (List UInt8)
  | .exited _ _ (some content) => some content
  | _ => old

inductive CaAnswer where
  | unsent
  | refused
  | cut
  | body (bytes : List UInt8)

inductive EnrollAnswer where
  | unsent
  | refused
  | undecodable
  | decoded (response : EnrollResponse)

/-- What one attempt meets. `configDir` is `JW_CONFIG_DIR` or its fallback;
`generated` is a fresh configuration. -/
structure Environment where
  createsOutDir : Bool
  openssl : List String → OpensslRun
  readsCsr : Bool
  getCa : String → CaAnswer
  caWrite : WriteEnd
  postEnroll : String → EnrollRequest → EnrollAnswer
  certWrite : WriteEnd
  issuedCaWrite : WriteEnd
  readsCert : Bool
  readsKey : Bool
  nodePemWrite : WriteEnd
  configDir : String
  readsConfig : Bool
  generated : Config
  generatedWrite : WriteEnd
  createsConfigDir : Bool
  configWrite : WriteEnd
  toml : Config → Option String
  fromToml : String → Option Config
  systemError : String

abbrev Enrolling := FileProgram String Failure

open FileProgram

def join (dir name : String) : String :=
  if name.toList.head? = some '/' ∨ dir = "" then name
  else if dir.toList.getLast? = some '/' then dir ++ name
  else dir ++ "/" ++ name

def keyPath (args : EnrollArgs) : String :=
  join args.outDir (args.nodeId ++ ".key")

def csrPath (args : EnrollArgs) : String :=
  join args.outDir (args.nodeId ++ ".csr")

def certPath (args : EnrollArgs) : String :=
  join args.outDir (args.nodeId ++ ".crt")

def nodePemPath (args : EnrollArgs) : String :=
  join args.outDir "node.pem"

def caPath (args : EnrollArgs) : String :=
  join args.outDir "ca.crt"

def configPath (environment : Environment) : String :=
  join environment.configDir "jw-swarm-node/config.toml"

def trimEndSlashes (text : String) : String :=
  String.ofList (text.toList.reverse.dropWhile (· = '/')).reverse

def stripPrefix (text start : String) : Option String :=
  if start.toList.isPrefixOf text.toList then
    some (String.ofList (text.toList.drop start.length))
  else none

def toWssConnectUrl (baseUrl : String) : String :=
  let trimmed := trimEndSlashes (trim baseUrl)
  match stripPrefix trimmed "https://", stripPrefix trimmed "http://" with
  | some rest, _ => "wss://" ++ rest ++ "/node/connect"
  | none, some rest => "ws://" ++ rest ++ "/node/connect"
  | none, none => trimmed ++ "/node/connect"

def runOpenssl (run : OpensslRun) (out : String) : Enrolling Unit := do
  let files ← get
  put out (run.leaves (files out))
  match run with
  | .notExecuted => throw (.error "failed to execute openssl")
  | .exited success stderr _ =>
      check success (.error
        ("openssl failed: " ++ trim (String.ofList (Utf8.decode stderr))))

def genrsa (args : EnrollArgs) (environment : Environment) : OpensslRun :=
  environment.openssl ["genrsa", "-out", keyPath args, "2048"]

def req (args : EnrollArgs) (environment : Environment) : OpensslRun :=
  environment.openssl ["req", "-new", "-key", keyPath args,
    "-subj", "/CN=" ++ args.nodeId, "-out", csrPath args]

def makeCsr (args : EnrollArgs) (environment : Environment) :
    Enrolling String := do
  check environment.createsOutDir (.error ("failed to create " ++ args.outDir))
  runOpenssl (genrsa args environment) (keyPath args)
  runOpenssl (req args environment) (csrPath args)
  readToString (csrPath args) environment.readsCsr
    (.error ("failed to read " ++ csrPath args))

def caAnswer (args : EnrollArgs) (environment : Environment) : CaAnswer :=
  environment.getCa (trimEndSlashes args.baseUrl ++ "/bootstrap/ca.crt")

def downloadCa (args : EnrollArgs) (environment : Environment) :
    Enrolling (List UInt8) :=
  match caAnswer args environment with
  | .unsent => throw (.error "failed to GET bootstrap CA")
  | .refused => throw (.error "CA endpoint returned error")
  | .cut => throw (.error "failed reading CA body")
  | .body bytes => pure bytes

def submit (args : EnrollArgs) (environment : Environment) (csrPem : String) :
    Enrolling EnrollResponse :=
  match environment.postEnroll
      (trimEndSlashes args.baseUrl ++ "/bootstrap/enroll")
      { nodeId := args.nodeId, token := args.token, csrPem } with
  | .unsent => throw (.error "failed to POST enroll request")
  | .refused => throw (.error "enroll endpoint returned error")
  | .undecodable => throw (.error "failed to decode enroll response")
  | .decoded response => pure response

def requestCredentials (args : EnrollArgs) (environment : Environment) :
    Enrolling EnrollResponse := do
  let csrPem ← makeCsr args environment
  let caBytes ← downloadCa args environment
  write (caPath args) caBytes environment.caWrite
    (.error ("failed to write " ++ caPath args))
  submit args environment csrPem

def encode (text : String) : List UInt8 := Utf8.encode text.toList

def configText (text : String) : List UInt8 :=
  encode ("# JW Swarm Node\n#\n" ++ text)

/-- `Config::generate`; whether its file could be written does not matter. -/
def generateConfig (environment : Environment) : Enrolling Config := do
  match environment.toml environment.generated with
  | some text =>
      let files ← get
      put (configPath environment) (environment.generatedWrite.leaves
        (files (configPath environment)) (configText text))
      pure environment.generated
  | none => throw (.panic "called `Result::unwrap()` on an `Err` value")

def loadConfig (environment : Environment) : Enrolling Config := do
  let files ← get
  if (files (configPath environment)).isSome then
    let text ← readToString (configPath environment) environment.readsConfig
      (.panic "read config")
    match environment.fromToml text with
    | some config => pure config
    | none => generateConfig environment
  else generateConfig environment

def saveConfig (environment : Environment) (config : Config) :
    Enrolling Unit := do
  check environment.createsConfigDir (.error environment.systemError)
  match environment.toml config with
  | some text =>
      write (configPath environment) (configText text) environment.configWrite
        (.error environment.systemError)
  | none => throw (.error environment.systemError)

def install (args : EnrollArgs) (environment : Environment)
    (response : EnrollResponse) : Enrolling Unit := do
  write (certPath args) (encode response.nodeCertPem) environment.certWrite
    (.error ("failed to write " ++ certPath args))
  write (caPath args) (encode response.caCertPem) environment.issuedCaWrite
    (.error ("failed to write " ++ caPath args))
  let cert ← readToString (certPath args) environment.readsCert
    (.error environment.systemError)
  let key ← readToString (keyPath args) environment.readsKey
    (.error environment.systemError)
  write (nodePemPath args) (encode (cert ++ "\n" ++ key))
    environment.nodePemWrite
    (.error ("failed to write " ++ nodePemPath args))
  if args.writeConfig then
    let config ← loadConfig environment
    saveConfig environment { config with
      nodeId := args.nodeId
      nodeCert := nodePemPath args
      caCert := caPath args
      fleetUrl := toWssConnectUrl args.baseUrl }

def run (args : EnrollArgs) (environment : Environment) : Enrolling Unit := do
  let response ← requestCredentials args environment
  install args environment response

end JwSwarm.LinuxNode.Enroll

/-
  Katapult.Cli.Client

  The command-line client: what its commands send to the REST API, and how they
  end.

  Every command finds out where the server is and which token to use, sends one
  request, and prints the reply; a status from 400 on is its error.  A filter goes
  into the query escaped, and an identifier into the path as it is.
-/

import Katapult.Http.Wire

namespace Katapult

open Effect Urlencoded

/-! ## Errors -/

inductive CliError where
  /-- No address of a server has been found. -/
  | address
  /-- The address is no URL that a request can be sent to. -/
  | request
  | sending (err : Err)
  /-- The status and the body of the reply. -/
  | api (status : Nat) (data : Body)
  /-- The reply is not JSON. -/
  | decoding
  | unknownFormat (format : String)

/-- Code of a command, which sends requests. -/
abbrev Cli (α : Type) : Type := Prog WireRequest (fun _ => Except Err Reply) α

/-! ## The server and the token -/

/-- The flags, the environment, and what the kubeconfig file says; what is not
    there is empty. -/
structure CliEnv where
  serverFlag : String := ""
  serverEnv : String := ""
  kubeconfigServer : String := ""
  tokenFlag : String := ""
  tokenEnv : String := ""
  kubeconfigToken : String := ""
  outputFlag : String := "table"

/-- The first of these that is not empty. -/
def firstSet (values : List String) : String := (values.find? (· ≠ "")).getD ""

def resolveServerAndToken (env : CliEnv) : Except CliError (String × String) :=
  let server := firstSet [env.serverFlag, env.serverEnv, env.kubeconfigServer]
  if server = "" then .error .address
  else .ok (server, firstSet [env.tokenFlag, env.tokenEnv, env.kubeconfigToken])

/-! ## Requests -/

structure APIClient where
  baseURL : String
  token : String

/-- The value of the `Authorization` header, if there is a token; an error if it
    cannot be sent. -/
def APIClient.authorization (c : APIClient) : Except Err (Option String) :=
  if c.token = "" then .ok none
  else
    match headerValue ("Bearer " ++ c.token) with
    | none => .error "net/http: invalid header field value for \"Authorization\""
    | some value => .ok (some value)

/-- The path stands behind the address of the server, and the two are parsed as one. -/
def APIClient.do_ (c : APIClient) (method : String) (path : Bytes)
    (body : Option CreateTransferInput) : Cli (Except CliError Reply) :=
  match parseAddress (bytes c.baseURL ++ path) with
  | none => return .error .request
  | some address =>
  match c.authorization with
  | .error err => return .error (.sending err)
  | .ok authorization => do
  -- a user in the address, who would be sent where there is no token, is not read; and a
  -- redirection, the server's answer to a path that is not clean, is not followed
  match ← Prog.perform (WireRequest.mk address.origin method address.url.requestURI authorization body) with
  | .error err => return .error (.sending err)
  | .ok reply => return .ok reply

namespace APIClient

variable (c : APIClient)

def createTransfer (input : CreateTransferInput) : Cli (Except CliError Reply) :=
  c.do_ "POST" (bytes "/api/v1alpha1/transfers") (some input)

def listTransfers (query : Bytes) : Cli (Except CliError Reply) :=
  c.do_ "GET" (bytes "/api/v1alpha1/transfers" ++ queryText false query) none

def getTransfer (id : String) : Cli (Except CliError Reply) :=
  c.do_ "GET" (bytes ("/api/v1alpha1/transfers/" ++ id)) none

def cancelTransfer (id : String) : Cli (Except CliError Reply) :=
  c.do_ "DELETE" (bytes ("/api/v1alpha1/transfers/" ++ id)) none

def listAgents (query : Bytes) : Cli (Except CliError Reply) :=
  c.do_ "GET" (bytes "/api/v1alpha1/agents" ++ queryText false query) none

def getAgent (id : String) : Cli (Except CliError Reply) :=
  c.do_ "GET" (bytes ("/api/v1alpha1/agents/" ++ id)) none

end APIClient

/-! ## Commands -/

/-- The reply is a JSON document. -/
def Body.isJSON : Body → Bool
  | .text _ | .foreign | .eventStream => false
  | _ => true

/-- Whether the reply is printed. -/
def formatOutput (format : String) (data : Body) : Except CliError Unit :=
  if format = "json" ∨ format = "yaml" ∨ format = "table" then
    if data.isJSON then .ok () else .error .decoding
  else .error (.unknownFormat format)

/-- What every command does with its request. -/
def runE (env : CliEnv) (send : APIClient → Cli (Except CliError Reply)) : Cli (Except CliError Unit) :=
  match resolveServerAndToken env with
  | .error err => return .error err
  | .ok (server, token) => do
  match ← send ⟨server, token⟩ with
  | .error err => return .error err
  | .ok reply =>
  if 400 ≤ reply.status then return .error (.api reply.status reply.body)
  else return formatOutput env.outputFlag reply.body

structure TransferCreateFlags where
  sourceCluster : String
  sourcePVC : String
  destCluster : String
  destPVC : String
  strategy : String := ""
  allowOverwrite : Bool := false

structure TransferListFlags where
  status : String := ""
  cluster : String := ""
  limit : Int64 := 0

structure AgentListFlags where
  cluster : String := ""
  state : String := ""

def TransferCreateFlags.input (flags : TransferCreateFlags) : CreateTransferInput where
  sourceCluster := flags.sourceCluster
  sourcePVC := flags.sourcePVC
  destinationCluster := flags.destCluster
  destinationPVC := flags.destPVC
  strategy := if flags.strategy ≠ "" then some flags.strategy else none
  allowOverwrite := flags.allowOverwrite

/-- A parameter that is set, unless the flag is empty. -/
def setParam (key value : String) : List (String × String) := if value ≠ "" then [(key, value)] else []

/-- `Encode` sorts the parameters by their keys. -/
def TransferListFlags.params (flags : TransferListFlags) : List (String × String) :=
  setParam "cluster" flags.cluster ++
  (if 0 < flags.limit.toInt then [("limit", toString flags.limit.toInt)] else []) ++
  setParam "status" flags.status

def AgentListFlags.params (flags : AgentListFlags) : List (String × String) :=
  setParam "cluster" flags.cluster ++ setParam "state" flags.state

section

variable (env : CliEnv)

def newTransferCreateCmd (flags : TransferCreateFlags) : Cli (Except CliError Unit) :=
  runE env fun client => client.createTransfer flags.input

def newTransferListCmd (flags : TransferListFlags) : Cli (Except CliError Unit) :=
  runE env fun client => client.listTransfers (queryEscape.write flags.params)

def newTransferGetCmd (id : String) : Cli (Except CliError Unit) :=
  runE env fun client => client.getTransfer id

def newTransferCancelCmd (id : String) : Cli (Except CliError Unit) :=
  runE env fun client => client.cancelTransfer id

def newAgentListCmd (flags : AgentListFlags) : Cli (Except CliError Unit) :=
  runE env fun client => client.listAgents (queryEscape.write flags.params)

def newAgentGetCmd (id : String) : Cli (Except CliError Unit) :=
  runE env fun client => client.getAgent id

end

/-- A command, with its flags and its argument. -/
inductive CliCommand where
  | transferCreate (flags : TransferCreateFlags)
  | transferList (flags : TransferListFlags)
  | transferGet (id : String)
  | transferCancel (id : String)
  | agentList (flags : AgentListFlags)
  | agentGet (id : String)

def CliCommand.run (env : CliEnv) : CliCommand → Cli (Except CliError Unit)
  | .transferCreate flags => newTransferCreateCmd env flags
  | .transferList flags => newTransferListCmd env flags
  | .transferGet id => newTransferGetCmd env id
  | .transferCancel id => newTransferCancelCmd env id
  | .agentList flags => newAgentListCmd env flags
  | .agentGet id => newAgentGetCmd env id

end Katapult

import BackboneLab.Configuration.Controller
import BackboneLab.Controller.Message
import BackboneLab.Experiment.Fault
import BackboneLab.Text.Base64

/-!
# Calls to the controller

The controller is called over HTTP. A `ControllerCall` is a request together with the way in which its
reply is read, so that it says all about a call but how the request travels. Every request names a user
and a password.
-/

namespace BackboneLab

/-- Where the controller is, and who calls it. -/
structure Endpoint where
  host : String
  port : UInt16
  user : String
  password : String
deriving DecidableEq, Inhabited

/-- What a request does. -/
inductive RequestMethod
  /-- Asks for a document. -/
  | get
  /-- Sends the given document. -/
  | post (body : String)
deriving DecidableEq, Inhabited

/-- A request to the controller. -/
structure Request where
  method : RequestMethod
  /-- The host and the port of the server. -/
  server : String
  /-- The path on the server. -/
  path : String
  /-- Who calls. -/
  authorization : String
deriving DecidableEq, Inhabited

/-- What comes back for a request. -/
inductive Response
  | replied (status : Nat) (body : String)
  /-- The connection ended before a reply. -/
  | dropped
deriving DecidableEq, Inhabited

/-- The type of the documents that are sent and received. It is named in every request that sends one. -/
def documentType : String := "application/json"

/-! ## Requests -/

namespace Endpoint

/-- The path below which all calls are found. -/
def root : String := "/onos/v1"

/-- The host and the port. -/
def server (e : Endpoint) : String := e.host ++ ":" ++ decimal e.port.toNat

/-- The address below which all calls are found. -/
def address (e : Endpoint) : String := "http://" ++ e.server ++ root

/-- The credentials of the caller. -/
def authorization (e : Endpoint) : String :=
  "Basic " ++ String.ofList (Text.base64 (e.user ++ ":" ++ e.password).toUTF8.data.toList)

/-- The request for the call with the given name. -/
def request (e : Endpoint) (method : RequestMethod) (name : String) : Request :=
  ⟨method, e.server, root ++ "/" ++ name, e.authorization⟩

/-- Where the settings say that the controller is. -/
def ofSettings (c : ControllerSettings) : Endpoint := ⟨c.restHost, c.restPort, c.username, c.password⟩

end Endpoint

/-! ## Replies -/

namespace Response

/-- Whether a reply with the given status has no body. -/
def isBodiless (status : Nat) : Bool := status == 204 || status == 304

/-- A text without the mark of the byte order that may stand at its front. -/
def withoutMark (text : String) : String :=
  match text.toList with
  | '\ufeff' :: cs => String.ofList cs
  | _ => text

/-- The body of a reply that tells of success. -/
def body? : Response → Except ControllerFault String
  | .dropped => .error .noReply
  | .replied status body =>
    let body := if isBodiless status then "" else withoutMark body
    if 200 ≤ status ∧ status < 300 then .ok body else .error (.refused status body)

/-- The value that a document holds as its member of the given name. -/
def memberOf? {α : Type} [Wire α] (name document : String) : Option α := do
  (← Fields.ofDatum? [name] (← Json.read? document.toList)).required name

/-- The value that the document of a successful reply holds as its member of the given name. -/
def member? {α : Type} [Wire α] (name : String) (r : Response) : Except ControllerFault α := do
  match memberOf? name (← r.body?) with
  | some x => return x
  | none => throw .invalidDocument

end Response

/-! ## Calls -/

/-- A request, and how its reply is read. -/
structure ControllerCall (α : Type) where
  request : Request
  read : Response → Except ControllerFault α

namespace Endpoint

variable (e : Endpoint)

/-- Asks for the intents that the controller knows. -/
def intents : ControllerCall (List Intent) := ⟨e.request .get "intents", Response.member? "intents"⟩

/-- Asks for the number of intents that the controller knows. -/
def intentCount : ControllerCall Nat :=
  ⟨e.intents.request, fun r => List.length <$> e.intents.read r⟩

/-- Asks for the measured traffic. -/
def trafficMatrix : ControllerCall (List TrafficSample) :=
  ⟨e.request .get "sdnip/get_tm", Response.member? "response"⟩

/-- Asks for the networks announced at every port of a switch. -/
def announcedPrefixes : ControllerCall (List AnnouncedPrefixes) :=
  ⟨e.request .get "sdnip/get_announced_prefix_from_cp", Response.member? "response"⟩

/-- Sends the configuration of the network. -/
def upload (c : NetworkConfig) : ControllerCall Unit :=
  ⟨e.request (.post (toJson c)) "network/configuration", fun r => do let _ ← r.body?⟩

/-- Hands configurations of the routing to the routing application, which does not apply them yet. -/
def addRouting (cs : List RoutingConfiguration) : ControllerCall Unit where
  request :=
    e.request (.post (String.ofList (Json.compact (.object [("routing_list", encode cs)]))))
      "sdnip/add_routing"
  read r := do
    let answer : String ← r.member? "response"
    if answer ≠ "OK" then throw (.routingRejected answer)

/-- Has a configuration of the routing applied, and tells what the routing application says to it. -/
def applyRouting (id : UInt32) : ControllerCall String where
  request :=
    e.request (.post (String.ofList (Json.compact (.object [("r_ID", encode id)]))))
      "sdnip/apply_routing"
  read := Response.member? "response"

end Endpoint

end BackboneLab

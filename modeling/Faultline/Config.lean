import Faultline.Json.Parser
import Faultline.Key

/-!
# Configuration

How a harness is set up.  Every setting has a default; a configuration is written as a record, and
a text with one is read strictly.
-/

namespace Faultline

structure Config where
  host : String := "localhost"
  port : UInt16 := 5005
  maxConcurrentRequests : UInt64 := 200
  requestTimeoutMs : UInt64 := 60000
  communicationEnabled : Bool := true
  counterexampleFile : Option String := none
  digesting : Digesting := {}
  avoidRedundantInjections : Bool := false
  reportDirectory : String := "/tmp/filibuster"
  deriving DecidableEq, Inhabited

namespace Config

/-- The names of the settings in their order. -/
def fields : List String :=
  ["host", "port", "max_concurrent_requests", "request_timeout_ms", "communication_enabled",
    "counterexample_file", "dei_digest", "avoid_redundant_injections", "report_directory"]

def ofDocument? (d : Document) : Option Config := do
  let r ← d.record? fields
  let dflt : Config := {}
  let host ← r.defaulted "host" 0 Document.str? dflt.host
  let port ← r.defaulted "port" 1 (fun d => (d.nat? 0x10000).map UInt16.ofNat) dflt.port
  let requests ← r.defaulted "max_concurrent_requests" 2 Document.uint64? dflt.maxConcurrentRequests
  let timeout ← r.defaulted "request_timeout_ms" 3 Document.uint64? dflt.requestTimeoutMs
  let enabled ← r.defaulted "communication_enabled" 4 Document.bool? dflt.communicationEnabled
  let file ← r.defaulted "counterexample_file" 5 (Document.nullable Document.str?) none
  let digesting ← r.defaulted "dei_digest" 6 Digesting.ofDocument? dflt.digesting
  let avoid ← r.defaulted "avoid_redundant_injections" 7 Document.bool?
    dflt.avoidRedundantInjections
  let directory ← r.defaulted "report_directory" 8 Document.str? dflt.reportDirectory
  return ⟨host, port, requests, timeout, enabled, file, digesting, avoid, directory⟩

/-- The configuration that a text is. -/
def parse? (s : String) : Option Config :=
  (Document.parse? s).bind ofDocument?

def ofJson? (j : Json) : Option Config :=
  ofDocument? (.ofJson j)

def toJson (c : Config) : Json :=
  .object [("host", .str c.host), ("port", .ofNat c.port.toNat),
    ("max_concurrent_requests", .ofUInt64 c.maxConcurrentRequests),
    ("request_timeout_ms", .ofUInt64 c.requestTimeoutMs),
    ("communication_enabled", .bool c.communicationEnabled),
    ("counterexample_file", .ofOption .str c.counterexampleFile),
    ("dei_digest", c.digesting.toJson),
    ("avoid_redundant_injections", .bool c.avoidRedundantInjections),
    ("report_directory", .str c.reportDirectory)]

/-- Where the control plane is. -/
def baseUri (c : Config) : String :=
  "http://" ++ c.host ++ ":" ++ Nat.repr c.port.toNat ++ "/"

end Config

end Faultline

import Telemetry.Connection.Fault
import Telemetry.Location
import Telemetry.Url.Parser
/-!
# Endpoints

Where a server offers a feed. The address of an endpoint is made from the
server's: below its path come `databases` and the name of the database,
if there is one, and then the endpoint; the location goes into the query.
A live feed is asked for under the socket scheme that belongs to the
server's own, a snapshot under the server's own.

A live endpoint is put under its scheme when it is made, and fails where it
cannot be extended; a snapshot is then asked for at the server's own address.
-/

namespace Telemetry

namespace Endpoint

/-- A path without slashes at its ends. -/
def trimSlashes (cs : List Char) : List Char :=
  ((cs.dropWhile (· == '/')).reverse.dropWhile (· == '/')).reverse

/-- The segments that lead to a database. -/
def databaseSegments : Option String → List (List Char)
  | some db => ["databases".toList, db.toList]
  | none => []

/-- The socket scheme that belongs to a scheme. -/
def socketScheme? (scheme : List Char) : Option (List Char) :=
  if scheme = "http".toList || scheme = "ws".toList then some "ws".toList
  else if scheme = "https".toList || scheme = "wss".toList then some "wss".toList
  else none

end Endpoint

/-- The endpoint of a live feed. -/
structure LiveEndpoint where
  base : Url
  /-- Where the feed is, without slashes at its ends. -/
  endpoint : List Char
  database : Option String
  /-- Query pairs that are sent for every location. -/
  params : List (String × String)

namespace LiveEndpoint

/-- The live endpoint below a server's address. -/
def create (server endpoint : String) (database : Option String)
    (params : List (String × String)) : Except Connection.Fault LiveEndpoint :=
  match Url.parse server with
  | .error e => .error (.badUrl (server ++ ": " ++ e.message))
  | .ok base =>
    match Endpoint.socketScheme? base.scheme with
    | none =>
      .error (.badUrl
        (server ++ ": unsupported scheme '" ++ String.ofList base.scheme ++ "'"))
    | some scheme =>
      match base.withScheme? scheme with
      | some base => .ok ⟨base, Endpoint.trimSlashes endpoint.toList, database, params⟩
      | none => .error (.badUrl (server ++ ": cannot switch scheme"))

/-- The address for one location. -/
def build (e : LiveEndpoint) (l : Location) : Except Connection.Fault Url :=
  match e.base.extendPath
      (Endpoint.databaseSegments e.database ++ Text.splitAt '/' e.endpoint) with
  | some u => .ok (u.appendPairs (l.queryPairs ++ e.params))
  | none => .error (.badUrl (e.base.text ++ ": cannot be a base"))

end LiveEndpoint

/-- Where a server offers snapshots. -/
structure SnapshotEndpoint where
  base : Url
  database : Option String

namespace SnapshotEndpoint

/-- The snapshots below a server's address. -/
def create (server : String) (database : Option String) :
    Except Url.ParseError SnapshotEndpoint := do
  let base ← Url.parse server
  if base.cannotBeBase then throw .opaqueBase
  return ⟨base, database⟩

/-- The address of a snapshot for one location. A base that cannot be extended
stays as it is, and gets the query all the same. -/
def address (s : SnapshotEndpoint) (endpoint : String) (l : Location) : Url :=
  let segments := Endpoint.databaseSegments s.database ++
    Text.splitAt '/' (Endpoint.trimSlashes endpoint.toList)
  ((s.base.extendPath segments).getD s.base).appendPairs l.queryPairs

end SnapshotEndpoint

end Telemetry

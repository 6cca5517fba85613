import ResourceClient.Dialogue.Basic
import ResourceClient.Wire.Form

/-! # Scripted servers

    A scripted server answers by routes.  A request takes the first route
    that it matches, and the route gives its replies one after the other,
    the last one again and again.  A scripted server may also refuse every
    connection, or be out of reach; then it sees no request.

    Such a server is a `World`: a dialogue that is run against it comes to a
    value, and the server after the run tells what it was asked. -/

namespace ResourceClient

/-- What a scripted server does about a request. -/
inductive ScriptedReply where
  /-- It replies. -/
  | reply (response : Http.Response)
  /-- It stays silent, before the reply or in the middle of it. -/
  | silence
  /-- It drops the connection, or what it sends is no whole reply. -/
  | breakOff

namespace ScriptedReply

/-- The statuses whose replies have no body. -/
def bodiless : List Nat := [204, 304]

/-- What the client is told. -/
def observed : ScriptedReply → Http.Reply
  | reply r =>
    .response (if bodiless.contains r.status then { r with body := .empty } else r)
  | silence => .readTimeout
  | breakOff => .lost

end ScriptedReply

/-- One route: what a request has to be like, and the replies to such requests.
    Whatever is absent is not asked for. -/
structure Route where
  /-- The method. -/
  method : Option String := none
  /-- How the path ends. -/
  pathEnd : Option String := none
  /-- A part of the query. -/
  queryPart : Option String := none
  /-- Members of the body. -/
  members : List (String × Json) := []
  /-- The replies; the last one is repeated. -/
  replies : List ScriptedReply

namespace Route

/-- The path of a target. -/
def pathOf (target : String) : List Char := target.toList.takeWhile (· != '?')

/-- The query of a target. -/
def queryOf (target : String) : List Char := (target.toList.dropWhile (· != '?')).drop 1

/-- Whether a text occurs in another. -/
def occursIn (part : List Char) : List Char → Bool
  | [] => part.isEmpty
  | c :: rest => part.isPrefixOf (c :: rest) || occursIn part rest

/-- Whether a body has all of the given members. -/
def bodyHas (members : List (String × Json)) (body : Option Json) : Bool :=
  members.all fun (key, value) =>
    match body.bind (·.get? key) with
    | some found => value.same found
    | none => false

/-- Whether a request takes the route. -/
def accepts (r : Route) (sent : Outgoing) : Bool :=
  r.method.all (· == sent.request.method.name)
    && r.pathEnd.all (fun s => s.toList.isSuffixOf (pathOf sent.target))
    && r.queryPart.all (fun s => occursIn s.toList (queryOf sent.target))
    && bodyHas r.members sent.request.body

/-- The route after a request: the last reply stays. -/
def advanced (r : Route) : Route :=
  match r.replies with
  | _ :: next :: rest => { r with replies := next :: rest }
  | _ => r

end Route

/-- Whether a server can be reached. -/
inductive Reachability where
  /-- It accepts connections. -/
  | accepting
  /-- It refuses connections. -/
  | refusing
  /-- Connections to it fail. -/
  | outOfReach
  deriving DecidableEq, Repr

/-- A scripted server. -/
structure ScriptedServer where
  /-- The routes, in the order in which they are tried. -/
  routes : List Route := []
  /-- Whether the server can be reached. -/
  reachability : Reachability := .accepting
  /-- The requests that the server received, in their order. -/
  received : List Outgoing := []
  /-- What its clock shows, in milliseconds. -/
  clock : Nat := 0

namespace ScriptedServer

/-- The reply to a request that takes no route. -/
def noRoute : ScriptedReply := .reply ⟨501, .empty, "no route".toUTF8⟩

/-- The reply to a request by the first route that it takes, and the routes after it. -/
def answer (sent : Outgoing) : List Route → ScriptedReply × List Route
  | [] => (noRoute, [])
  | r :: rest =>
    if r.accepts sent then (r.replies.headD noRoute, r.advanced :: rest)
    else
      let (reply, rest) := answer sent rest
      (reply, r :: rest)

/-- What a request comes to. -/
def serve (sent : Outgoing) (server : ScriptedServer) : Http.Reply × ScriptedServer :=
  match server.reachability with
  | .outOfReach => (.lost, server)
  | .refusing => (.refused, server)
  | .accepting =>
    let (reply, routes) := answer sent server.routes
    (reply.observed, { server with routes, received := server.received ++ [sent] })

/-- Scripted servers as a world.  Tasks that run side by side move in their
    order, and the clock advances by a millisecond whenever it is read. -/
def world : Dialogue.World ScriptedServer where
  serve := serve
  time server := (server.clock, { server with clock := server.clock + 1 })

/-- The server without its memory of requests. -/
def forget (server : ScriptedServer) : ScriptedServer := { server with received := [] }

end ScriptedServer

end ResourceClient

import PropertyGraph.Config
import PropertyGraph.Cypher.Scope
import PropertyGraph.Engine.Cache
import PropertyGraph.Engine.Command
import PropertyGraph.Engine.Response

/-!
# Engines

A server with its configuration and a cache of parsed texts. A request is a text with
parameters: all of it is read and checked before its first statement runs.
-/

namespace PropertyGraph

open Cypher

structure Engine where
  config : Config
  server : Server
  cache : Cache

namespace Engine

def ofConfig (c : Config) : Engine :=
  ⟨c, .ofDefault c.defaultDatabase, { capacity := c.cacheCapacity }⟩

/-! ### Requests -/

structure Request where
  text : String
  parameters : Option Json := none
  /-- The time of the request, in milliseconds since 1970. -/
  clock : Number

/-- The parameters of a request: an object, or nothing at all. -/
def Request.bindings (r : Request) : Except Error (Dict String Value) :=
  match r.parameters with
  | none | some .null => .ok []
  | some (.obj members) => .ok (Value.ofJsonMembers members)
  | some j => .error (.meaning (.badParameters j.text))

/-- Statements whose names are all in scope. -/
def checked (parsed : Except ParseError (List Statement)) : Except Error (List Statement) := do
  let ss ← parsed.mapError .parse
  (ss.forM Statement.check).mapError .scope
  return ss

/-- Runs all statements of a request and gives the reply of the last one. -/
def execute (r : Request) (e : Engine) : Except Error Reply × Engine :=
  match r.bindings with
  | .error x => (.error x, e)
  | .ok bindings =>
    let (parsed, cache) := e.cache.parse r.text
    let e := { e with cache }
    match checked parsed with
    | .error x => (.error x, e)
    | .ok ss =>
      let (reply, server) :=
        (runStatements ⟨bindings, e.config.maxHops, r.clock⟩ ss).run e.server
      (reply, { e with server })

/-- Runs a request; an error is a response like others. Entities are shown as they are after
the whole of it. -/
def run (r : Request) (e : Engine) : Response × Engine :=
  match e.execute r with
  | (.error x, e) => (.ofError x, e)
  | (.ok reply, e) =>
    match e.server.store with
    | .ok g => (.ofReply g reply, e)
    | .error x => (.ofError x, e)

/-- Forgets everything but the configuration and the counts of the cache. -/
def reset (e : Engine) : Engine :=
  { e with server := .ofDefault e.config.defaultDatabase, cache := e.cache.clear }

end Engine

end PropertyGraph

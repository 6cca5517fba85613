import ResourceClient.Http.Message

/-! # Requests that may be replayed

    A request may be replayed freely when sending it twice has the effect of
    sending it once.  This holds for the methods that read, put in place or
    remove, and for a post to an endpoint that only reads, which the last
    segment of its path tells. -/

namespace ResourceClient.Http

/-- The last segments of paths at which a post only reads. -/
def readingEndpoints : List String := ["list", "byids", "search", "aggregate"]

/-- The last segment of a path without its query and without solidi at its end. -/
def lastSegment (path : String) : String :=
  let cs := path.toList.takeWhile (· != '?')
  let trimmed := cs.reverse.dropWhile (· == '/')
  .ofList (trimmed.takeWhile (· != '/')).reverse

/-- Whether a request may be replayed freely. -/
def mayReplay (method : Method) (path : String) : Bool :=
  method == .get || method == .put || method == .delete || method == .head ||
    (method == .post && readingEndpoints.contains (lastSegment path))

example : mayReplay .post "/assets/list/?a=/b" = true := by decide
example : mayReplay .post "/assets?x=/list" = false := by decide

end ResourceClient.Http

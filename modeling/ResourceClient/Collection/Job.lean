import ResourceClient.Collection.Basic
import ResourceClient.Job.Basic

/-! # Jobs of a collection -/

namespace ResourceClient.Collection

/-- Starts a job at an endpoint of the collection. -/
def runJob (c : Collection) (path : String) (body : Json) : Dialogue (Result Job) :=
  Job.start c.client (c.endpoint path) body

end ResourceClient.Collection

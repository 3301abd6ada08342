import Std.Data.HashMap
import Courier.Http.Response

/-! The latest response for each request, of as many requests as a limit allows.

The responses stand in a map, and the ids of their requests in a queue, the one updated
longest ago in front. A new response moves its id to the end; ids that are too many go
from the front, together with their responses. -/

namespace Courier.Http

structure Latest where
  /-- How many responses are kept. -/
  limit : Nat
  /-- The ids in the order of their last update. -/
  order : List String
  responses : Std.HashMap String Response

namespace Latest

/-- A store that keeps so many responses, and one at least. -/
def empty (limit : Nat) : Latest :=
  ⟨max limit 1, [], ∅⟩

/-- Takes ids off the front of the queue until the limit holds. -/
def evict (l : Latest) : Latest :=
  let extra := l.order.length - l.limit
  { l with
    order := l.order.drop extra
    responses := (l.order.take extra).foldl (fun m id => m.erase id) l.responses }

/-- Keeps a response under the id of its request, in the place of any other there. The queue is
searched for the id only if the map has it. -/
def add (l : Latest) (r : Response) : Latest :=
  let others := if r.api ∈ l.responses then l.order.filter (· ≠ r.api) else l.order
  evict { l with
    order := others ++ [r.api]
    responses := l.responses.insert r.api r }

/-- The latest response for a request. -/
def get? (l : Latest) (id : String) : Option Response :=
  l.responses[id]?

/-- How many responses are kept now. -/
def size (l : Latest) : Nat :=
  l.responses.size

def isEmpty (l : Latest) : Bool :=
  l.size = 0

/-- Forgets all responses. -/
def clear (l : Latest) : Latest :=
  { l with order := [], responses := ∅ }

end Latest

end Courier.Http

import CodeTwins.Client.Connection
import CodeTwins.Service.Routes

/-!
# A service in the same program

The service as the other side of a connection, whatever the address of the requests.
-/
namespace CodeTwins.Service

variable {τ : Type} [LT τ] [DecidableRel (α := τ) (· < ·)] [Add τ]

/-- What comes of a request to the service. The text of the time is given. -/
def transport (time : String) : Transport (Service Float τ) := fun r s =>
  let (reply, s) := s.respond time r
  (.reply reply.status (.json reply.body), s)

end CodeTwins.Service

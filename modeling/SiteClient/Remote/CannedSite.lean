import SiteClient.Remote.RoundTrip
/-!
# A site that answers from a list

The replies are given in advance; each round trip takes the next one and the last one repeats. What
was sent is kept.
-/

namespace SiteClient

/-- A site that answers from a list. -/
structure CannedSite where
  replies : List (Except RemoteError Body)
  /-- The bodies received, oldest first. -/
  sent : List Body := []

namespace CannedSite

/-- Answers any body with the next reply. -/
def roundTrip (body : Body) (site : CannedSite) : Except RemoteError Body × CannedSite :=
  let sent := site.sent ++ [body]
  match site.replies with
  | [] => (.error (.transport []), { site with sent })
  | [last] => (last, { site with sent })
  | next :: more => (next, { replies := more, sent })

def transport : Transport CannedSite where
  name := "Canned".toList
  roundTrip := roundTrip

end CannedSite
end SiteClient

import SiteClient.Session.Duration
import SiteClient.SiteConfig
/-!
# Polling intervals

A session that lasts for some time is checked ten times in that time, and its end is announced two
checks ahead, but never later than a quarter of an hour before.
-/

namespace SiteClient

/-- How often to check a session and when to warn. -/
structure KeepaliveSettings where
  /-- The time between two checks while there is no need to warn. -/
  checkFrequency : Duration
  /-- The remaining time below which the user is warned, and the time to the next check after
  that. -/
  warningLimit : Duration
  deriving DecidableEq, Repr

namespace KeepaliveSettings

/-- The user is never warned later than this. -/
def leastWarning : Duration := .ofSeconds (15 * 60)

/-- The settings for sessions of the given length. -/
def ofSessionTimeout (timeout : Duration) : KeepaliveSettings where
  checkFrequency := timeout.tenth
  warningLimit := (timeout.tenth.double?.getD .longest).max leastWarning

/-- The settings for the sessions of a site. -/
def ofConfig (config : SiteConfig) : KeepaliveSettings :=
  ofSessionTimeout (.ofSeconds config.sessionTimeout.toNat)

end KeepaliveSettings
end SiteClient

/-
# Settings

What can be set about a harness, with the value that holds where nothing is set.
-/
import HttpMock.Logging

namespace HttpMock

/-- The settings of a harness. -/
structure Settings where
  /-- The host of requests that name none. -/
  defaultHost : String
  /-- The name under which the server introduces itself in every response. -/
  serverName : Option String
  /-- The size in bytes of the largest body that is let through. -/
  maxBodySize : Nat
  /-- Whether a response may be cut down to the news that nothing was modified. -/
  conditionalRequests : Bool
  /-- How much is logged. -/
  logLevel : LogLevel
deriving DecidableEq, Repr

namespace Settings

/-- The settings where nothing is set. -/
def default : Settings := ⟨"localhost", none, 1048576, true, .info⟩

instance : Inhabited Settings := ⟨default⟩

end Settings
end HttpMock

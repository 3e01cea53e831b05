import Allstak.Json

/-!
# Envelopes

A unit of work for the transport: the endpoint path, the rate-limit category
and the JSON body.
-/

namespace Allstak

inductive DataCategory where
  | error
  | transaction
  | session
  | log
  | httpRequest
  | db
  | heartbeat
  | release
  deriving DecidableEq

def DataCategory.asStr : DataCategory → String
  | .error => "error"
  | .transaction => "transaction"
  | .session => "session"
  | .log => "log"
  | .httpRequest => "http_request"
  | .db => "db"
  | .heartbeat => "heartbeat"
  | .release => "release"

structure Envelope where
  path : String
  category : DataCategory
  body : Value

end Allstak

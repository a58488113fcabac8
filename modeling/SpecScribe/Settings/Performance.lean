import SpecScribe.Datum.Describe
import SpecScribe.Schema.Rule

/-!
Limits on requests: how long they may take, how often they are tried again, and how many are
sent in a minute and in one batch.
-/

namespace SpecScribe.Settings

structure Performance where
  requestTimeout : Int := 300
  maxRetries : Int := 3
  retryDelay : Int := 1
  requestsPerMinute : Int := 200
  batchSize : Int := 10

open Schema in
def Performance.read (ms : Members) : Checked Performance :=
  let timeout := withDefault ms "request_timeout" (atLeast 1 integer) 300
  let retries := withDefault ms "max_retries" (atLeast 0 integer) 3
  let delay := withDefault ms "retry_delay" (atLeast 0 integer) 1
  let rate := withDefault ms "rate_limit_rpm" (atLeast 1 integer) 200
  let batch := withDefault ms "batch_size" (atLeast 1 integer) 10
  match timeout, retries, delay, rate, batch with
  | .ok a, .ok b, .ok c, .ok d, .ok e => .ok ⟨a, b, c, d, e⟩
  | _, _, _, _, _ =>
    .error (timeout.errors ++ retries.errors ++ delay.errors ++ rate.errors ++ batch.errors)

instance : ToDatum Performance where
  toDatum p := .record
    [("request_timeout", toDatum p.requestTimeout), ("max_retries", toDatum p.maxRetries),
     ("retry_delay", toDatum p.retryDelay), ("rate_limit_rpm", toDatum p.requestsPerMinute),
     ("batch_size", toDatum p.batchSize)]

end SpecScribe.Settings

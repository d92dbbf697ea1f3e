/-
  Katapult.Observability.Progress

  Enrichment of the raw progress an agent reports.
-/

import Katapult.Domain.Format

namespace Katapult

/-- The raw progress report plus derived fields. -/
structure EnrichedProgress where
  transferID : UUID
  bytesTransferred : Int
  bytesTotal : Int
  percentComplete : ℚ := 0
  speedBytesPerSec : Float64
  formattedSpeed : String := ""
  estimatedTimeRemaining : String := ""
  chunksCompleted : Int
  chunksTotal : Int
  correlationID : String
  status : String
  errorMessage : String
  deriving DecidableEq

/-- The raw data of an agent's progress report. -/
structure RawProgress where
  transferID : UUID
  bytesTransferred : Int
  bytesTotal : Int
  speedBytesPerSec : Float64
  chunksCompleted : Int
  chunksTotal : Int
  status : String
  errorMessage : String

def formatSpeed (bytesPerSec : Float64) : String :=
  if bytesPerSec.atLeast (2 ^ 30) then (bytesPerSec.divided (2 ^ 30)).format 2 ++ " GB/s"
  else if bytesPerSec.atLeast (2 ^ 20) then (bytesPerSec.divided (2 ^ 20)).format 2 ++ " MB/s"
  else if bytesPerSec.atLeast (2 ^ 10) then (bytesPerSec.divided (2 ^ 10)).format 2 ++ " KB/s"
  else bytesPerSec.format 0 ++ " B/s"

/-- The remaining time at a positive speed, as a duration: the byte difference is an
    `int64`, the quotient is converted from nanoseconds. -/
def etaDuration (raw : RawProgress) : Duration :=
  match raw.speedBytesPerSec with
  | .finite speed =>
    let remaining : ℚ := wrapInt64 (raw.bytesTotal - raw.bytesTransferred) / speed
    int64OfFloat (remaining * second)
  -- a number of bytes divided by an infinite speed is zero
  | .infinite _ | .nan => 0

/-- `json.Marshal` succeeds: it has no form for a number that is not finite. -/
def EnrichedProgress.marshals (p : EnrichedProgress) : Bool := p.speedBytesPerSec.isFinite

def enrichProgress (raw : RawProgress) (correlationID : String) : EnrichedProgress where
  transferID := raw.transferID
  bytesTransferred := raw.bytesTransferred
  bytesTotal := raw.bytesTotal
  percentComplete :=
    if 0 < raw.bytesTotal then (raw.bytesTransferred : ℚ) / raw.bytesTotal * 100 else 0
  speedBytesPerSec := raw.speedBytesPerSec
  formattedSpeed := formatSpeed raw.speedBytesPerSec
  estimatedTimeRemaining :=
    if raw.speedBytesPerSec.positive ∧ 0 < raw.bytesTotal then
      Duration.string (Duration.truncate (etaDuration raw) second)
    else "unknown"
  chunksCompleted := raw.chunksCompleted
  chunksTotal := raw.chunksTotal
  correlationID := correlationID
  status := raw.status
  errorMessage := raw.errorMessage

end Katapult

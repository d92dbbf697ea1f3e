/-
  Katapult.Observability.Errors

  Classification of transfer errors, and the actionable texts made from it.
-/

import Katapult.Domain.Format

namespace Katapult

inductive ErrorCategory where
  | diskFull | permissionDenied | networkUnreachable | timeout | s3Error | unknown
  deriving DecidableEq, Repr

def ErrorCategory.text : ErrorCategory → String
  | .diskFull => "disk_full"
  | .permissionDenied => "permission_denied"
  | .networkUnreachable => "network_unreachable"
  | .timeout => "timeout"
  | .s3Error => "s3_error"
  | .unknown => "unknown"

/-- Optional context of an error, by category. -/
structure ErrorContext where
  availableSpace : String := ""
  requiredSpace : String := ""
  filePath : String := ""
  permissions : String := ""
  targetAddress : String := ""
  lastConnected : String := ""
  operationName : String := ""
  timeout : String := ""
  elapsed : String := ""
  s3Operation : String := ""
  s3Bucket : String := ""
  s3KeyPrefix : String := ""
  s3HTTPStatus : String := ""

structure ActionableError where
  category : ErrorCategory
  summary : String
  remediation : String
  originalError : String

/-- The source's `ActionableError.String`. -/
def ActionableError.string (a : ActionableError) : String :=
  a.summary ++ ". Suggested action: " ++ a.remediation

theorem ActionableError.string_ne_empty (a : ActionableError) : a.string ≠ "" :=
  append_ne_empty_of_left (append_ne_empty_of_right (by decide))

def classifyError : Option Err → ErrorCategory
  | none => .unknown
  | some err =>
    let msg := toLower err
    if contains msg "no space left" || contains msg "disk full" || contains msg "disk quota" then
      .diskFull
    else if contains msg "permission denied" || contains msg "access denied" then
      .permissionDenied
    else if contains msg "network unreachable" || contains msg "connection refused" ||
        contains msg "no route to host" || contains msg "connection reset" then
      .networkUnreachable
    else if contains msg "timeout" || contains msg "deadline exceeded" ||
        contains msg "context deadline" then
      .timeout
    else if contains msg "s3" || contains msg "nosuchbucket" ||
        contains msg "accessdenied" || contains msg "nosuchkey" then
      .s3Error
    else .unknown

def summarize (category : ErrorCategory) (original : String) (ctx : ErrorContext) : String :=
  match category with
  | .diskFull =>
    if ctx.availableSpace ≠ "" ∧ ctx.requiredSpace ≠ "" then
      "Destination disk full: " ++ ctx.availableSpace ++ " available, " ++
        ctx.requiredSpace ++ " required"
    else "Destination disk full"
  | .permissionDenied =>
    if ctx.filePath ≠ "" then
      "Permission denied on " ++ ctx.filePath ++
        if ctx.permissions ≠ "" then " (current: " ++ ctx.permissions ++ ")" else ""
    else "Permission denied"
  | .networkUnreachable =>
    (if ctx.targetAddress ≠ "" then "Network unreachable: target " ++ ctx.targetAddress
      else "Network unreachable") ++
      if ctx.lastConnected ≠ "" then " (last connected: " ++ ctx.lastConnected ++ ")" else ""
  | .timeout =>
    (if ctx.operationName ≠ "" then "Operation " ++ quote ctx.operationName ++ " timed out"
      else "Operation timed out") ++
      if ctx.timeout ≠ "" ∧ ctx.elapsed ≠ "" then
        " (timeout: " ++ ctx.timeout ++ ", elapsed: " ++ ctx.elapsed ++ ")"
      else ""
  | .s3Error =>
    (if ctx.s3Operation ≠ "" then "S3 " ++ ctx.s3Operation ++ " failed"
      else "S3 operation failed") ++
      (if ctx.s3Bucket ≠ "" then
        " (bucket: " ++ ctx.s3Bucket ++
          (if ctx.s3KeyPrefix ≠ "" then ", prefix: " ++ ctx.s3KeyPrefix else "") ++ ")"
      else "") ++
      if ctx.s3HTTPStatus ≠ "" then " HTTP " ++ ctx.s3HTTPStatus else ""
  | .unknown => "Transfer failed: " ++ original

def remediationFor : ErrorCategory → String
  | .diskFull => "Free disk space on the destination node or expand the PVC"
  | .permissionDenied => "Check file ownership and permissions on source and destination PVCs"
  | .networkUnreachable => "Verify network connectivity between clusters and check firewall rules"
  | .timeout => "Increase timeout or check for network/disk performance issues"
  | .s3Error => "Verify S3 credentials, bucket existence, and IAM permissions"
  | .unknown => "Check agent logs for details and retry the transfer"

def enrichError (err : Option Err) (ctx : ErrorContext) : ActionableError :=
  let category := classifyError err
  let original := err.getD ""
  { category := category
    summary := summarize category original ctx
    remediation := remediationFor category
    originalError := original }

end Katapult

/-!
# Error codes of the wire protocol
-/

namespace BrokerWatch.Wire.ErrorCode

/-- The name of an error code, or its number if it is none of those that a broker sends here. -/
def name (code : Int16) : String :=
  if code = -1 then "UNKNOWN_SERVER_ERROR"
  else if code = 7 then "REQUEST_TIMED_OUT"
  else if code = 29 then "TOPIC_AUTHORIZATION_FAILED"
  else if code = 31 then "CLUSTER_AUTHORIZATION_FAILED"
  else if code = 33 then "UNSUPPORTED_SASL_MECHANISM"
  else if code = 34 then "ILLEGAL_SASL_STATE"
  else if code = 35 then "UNSUPPORTED_VERSION"
  else if code = 56 then "KAFKA_STORAGE_ERROR"
  else if code = 57 then "LOG_DIR_NOT_FOUND"
  else if code = 58 then "SASL_AUTHENTICATION_FAILED"
  else s!"error code {code.toInt}"

/-- What a code reports: nothing, or the error of its name. -/
def error? (code : Int16) : Option String :=
  if code = 0 then none else some (name code)

end BrokerWatch.Wire.ErrorCode

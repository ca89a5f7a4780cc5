import BrokerWatch.Text.Utf8

/-!
# The PLAIN mechanism
-/

namespace BrokerWatch.Sasl

/-- The message of PLAIN: an empty authorization name, the user's name and the password, each of the
last two behind a NUL. -/
def plainToken (username password : String) : List UInt8 :=
  0 :: Text.Utf8.encode username ++ 0 :: Text.Utf8.encode password

end BrokerWatch.Sasl

import BrokerWatch.Sasl.Scram

/-!
# The SCRAM mechanisms: the server

The server's side of RFC 5802. A server keeps no password, only two keys made from it; it accepts a
client whose proof, once the server takes its own signature off, has the stored key as its digest.
-/

namespace BrokerWatch.Sasl.Scram

/-- What a server keeps of a user. -/
structure Account where
  algorithm : Digest.Algorithm
  salt : List UInt8
  iterations : Nat
  storedKey : List UInt8
  serverKey : List UInt8

/-- The account of a user whose password is salted already, by the equations of RFC 5802. -/
def Account.ofSalted (algorithm : Digest.Algorithm) (salted salt : List UInt8)
    (iterations : Nat) : Account where
  algorithm
  salt
  iterations
  storedKey := algorithm.digest (algorithm.hmac salted (Text.Utf8.encode "Client Key"))
  serverKey := algorithm.hmac salted (Text.Utf8.encode "Server Key")

def Account.of (algorithm : Digest.Algorithm) (password : String) (salt : List UInt8)
    (iterations : Nat) : Account :=
  .ofSalted algorithm (algorithm.stretch (Text.Utf8.encode password) salt iterations) salt
    iterations

/-- The server's first message: the client's nonce with the server's part behind it, the salt and the
number of iterations, and further attributes if there are any. -/
def Account.first (account : Account) (clientNonce suffix : String)
    (extensions : List (String × String)) : String :=
  let attributes := [("r", clientNonce ++ suffix), ("s", Base64.encode account.salt),
    ("i", account.iterations.repr)] ++ extensions
  ",".intercalate (attributes.map fun (name, value) => name ++ "=" ++ value)

structure ClientFinal where
  withoutProof : String
  proof : List UInt8

/-- Takes a client's last message apart at its proof, which is its last attribute. -/
def ClientFinal.read? (message : String) : Option ClientFinal := do
  let (front, last) ← Text.splitLast ',' message.toList
  let encoded ← behind? "p=" (String.ofList last)
  let proof ← (Base64.decode encoded).toOption
  return ⟨String.ofList front, proof⟩

/-- What both sides sign, as the server sees it. -/
def ClientFinal.signed (final : ClientFinal) (clientFirstBare serverFirst : String) : List UInt8 :=
  Text.Utf8.encode (clientFirstBare ++ "," ++ serverFirst ++ "," ++ final.withoutProof)

def Account.accepts (account : Account) (clientFirstBare serverFirst : String)
    (final : ClientFinal) : Bool :=
  let message := final.signed clientFirstBare serverFirst
  let own := account.algorithm.hmac account.storedKey message
  final.proof.length == own.length &&
    account.algorithm.digest (Digest.xor final.proof own) == account.storedKey

def Account.signature (account : Account) (clientFirstBare serverFirst : String)
    (final : ClientFinal) : List UInt8 :=
  account.algorithm.hmac account.serverKey (final.signed clientFirstBare serverFirst)

def Account.final (account : Account) (clientFirstBare serverFirst : String)
    (final : ClientFinal) : String :=
  "v=" ++ Base64.encode (account.signature clientFirstBare serverFirst final)

/-- The exchange of RFC 7677, from the salted password on: salting takes 4096 keyed digests. -/
example :
    let account : Account := .ofSalted .sha256
      [0xc4, 0xa4, 0x95, 0x10, 0x32, 0x3a, 0xb4, 0xf9, 0x52, 0xca, 0xc1, 0xfa, 0x99, 0x44, 0x19, 0x39,
        0xe7, 0x8e, 0xa7, 0x4d, 0x6b, 0xe8, 0x1d, 0xdf, 0x70, 0x96, 0xe8, 0x75, 0x13, 0xdc, 0x61, 0x5d]
      [91, 109, 153, 104, 157, 18, 53, 142, 236, 160, 75, 20, 18, 54, 250, 129] 4096
    let clientFirstBare := "n=user,r=rOprNGfwEbeRWgbNEkqO"
    let serverFirst := account.first "rOprNGfwEbeRWgbNEkqO" "%hvYDpWUa2RaTCAfuxFIlj)hNlF$k0" []
    let clientFinal := "c=biws,r=rOprNGfwEbeRWgbNEkqO%hvYDpWUa2RaTCAfuxFIlj)hNlF$k0," ++
      "p=dHzbZapWIk4jUhN+Ute9ytag9zjfMHgsqmmiz7AndVQ="
    (ClientFinal.read? clientFinal).map (fun final =>
        (account.accepts clientFirstBare serverFirst final,
          account.final clientFirstBare serverFirst final)) =
      some (true, "v=6rriTRBi23WpRR/wtup+mMhUZUn/dB5nLTJRsjl95G4=") := by
  decide +kernel

end BrokerWatch.Sasl.Scram

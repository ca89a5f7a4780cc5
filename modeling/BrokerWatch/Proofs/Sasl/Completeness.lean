import BrokerWatch.Proofs.Sasl.Acceptance
import BrokerWatch.Proofs.Sasl.Messages
import BrokerWatch.Sasl.ScramServer

/-!
# A client and a server with the same password accept each other

Each side signs the messages as it sees them, so they have to read the same values from each other's
messages: the client its challenge, and the server the text in front of the proof. Given that, the
proof is the client's key with the server's own signature laid over it, and taking the signature off
again leaves the key whose digest the server stores. Of the digests only the length of their results
is used.
-/

namespace BrokerWatch.Sasl.Scram

/-! ### Combining and taking off again -/

theorem length_xor (x y : List UInt8) : (Digest.xor x y).length = min x.length y.length :=
  List.length_zipWith

/-- What is combined twice with bytes of its own length comes back. -/
theorem xor_xor_cancel {x y : List UInt8} (h : x.length = y.length) :
    Digest.xor (Digest.xor x y) y = x := by
  induction x generalizing y with
  | nil =>
      cases y with
      | nil => rfl
      | cons b ys => cases h
  | cons a xs ih =>
      cases y with
      | nil => cases h
      | cons b ys =>
          have hbyte : a ^^^ b ^^^ b = a := by
            rw [UInt8.xor_assoc, UInt8.xor_self, UInt8.xor_zero]
          have htail : Digest.xor (Digest.xor xs ys) ys = xs := ih (Nat.succ.inj h)
          show (a ^^^ b ^^^ b) :: Digest.xor (Digest.xor xs ys) ys = a :: xs
          rw [hbyte, htail]

theorem length_proof {algorithm : Digest.Algorithm} {clientKey message : List UInt8}
    (h : clientKey.length = algorithm.size) :
    (proof algorithm clientKey message).length = algorithm.size := by
  rw [proof, length_xor, h, algorithm.length_hmac, Nat.min_self]

/-! ### What each side reads -/

/-- An attribute that a server may add to its first message. -/
def IsExtension (pair : String × String) : Prop :=
  IsAttribute pair ∧ pair.1 ∉ ["r", "s", "i", "e"]

instance (pair : String × String) : Decidable (IsExtension pair) :=
  inferInstanceAs (Decidable (_ ∧ _))

section

variable {nonce suffix : String} {extensions : List (String × String)}

theorem Account.attributes_first (account : Account) (hnonce : ',' ∉ nonce.toList)
    (hsuffix : ',' ∉ suffix.toList) (hextensions : ∀ pair ∈ extensions, IsExtension pair) :
    attributes (account.first nonce suffix extensions) =
      [("r", nonce ++ suffix), ("s", Base64.encode account.salt),
        ("i", account.iterations.repr)] ++ extensions := by
  refine attributes_intercalate fun pair hpair => ?_
  rw [List.mem_append] at hpair
  rcases hpair with hpair | hpair
  · simp only [List.mem_cons, List.not_mem_nil, or_false] at hpair
    rcases hpair with rfl | rfl | rfl
    · have hvalue : ',' ∉ (nonce ++ suffix).toList := by
        rw [String.toList_append, List.mem_append, not_or]
        exact ⟨hnonce, hsuffix⟩
      exact .of_name (by decide) hvalue
    · exact .of_name (by decide) (Base64.comma_notMem_encode account.salt)
    · exact .of_name (by decide) (Numeral.comma_notMem_repr account.iterations)
  · exact (hextensions pair hpair).1

/-- The client reads the challenge that the server wrote. -/
theorem Account.read_first (account : Account) (hnonce : ',' ∉ nonce.toList)
    (hsuffix : ',' ∉ suffix.toList) (hextensions : ∀ pair ∈ extensions, IsExtension pair)
    (hpos : 1 ≤ account.iterations) (hmax : account.iterations < UInt32.size) :
    Challenge.read nonce (account.first nonce suffix extensions) =
      .ok ⟨nonce ++ suffix, account.salt, account.iterations⟩ := by
  have hother : ∀ name ∈ ["r", "s", "i", "e"], ∀ pair ∈ extensions, pair.1 ≠ name := by
    intro name hname pair hpair h
    subst h
    exact (hextensions pair hpair).2 hname
  have hlast : ∀ name ∈ ["r", "s", "i", "e"],
      last? name (attributes (account.first nonce suffix extensions)) =
        last? name [("r", nonce ++ suffix), ("s", Base64.encode account.salt),
          ("i", account.iterations.repr)] := by
    intro name hname
    rw [account.attributes_first hnonce hsuffix hextensions, last?_append _ (hother name hname)]
  have herror : first? "e" (attributes (account.first nonce suffix extensions)) = none := by
    have hname : ∀ name ∈ ["r", "s", "i"], name ≠ "e" := by decide
    refine first?_eq_none fun pair hpair => ?_
    rw [account.attributes_first hnonce hsuffix hextensions, List.mem_append] at hpair
    rcases hpair with hpair | hpair
    · simp only [List.mem_cons, List.not_mem_nil, or_false] at hpair
      rcases hpair with rfl | rfl | rfl <;> exact hname _ (by simp)
    · exact hother "e" (by decide) pair hpair
  have hprefix : nonce.toList <+: (nonce ++ suffix).toList := by
    rw [String.toList_append]
    exact List.prefix_append ..
  have hnumber : Numeral.natural (UInt32.size - 1) account.iterations.repr.toList =
      .ok account.iterations :=
    Numeral.natural_repr (Nat.le_sub_one_of_lt hmax)
  rw [Challenge.read_eq_ok_iff]
  exact ⟨herror, hlast "r" (by decide), hprefix, hlast "s" (by decide),
    ⟨_, hlast "i" (by decide), hnumber⟩, Nat.ne_of_gt hpos⟩

/-- The server reads the client's nonce behind its name. -/
theorem attributes_firstBare (username : String) (hnonce : ',' ∉ nonce.toList) :
    attributes ("n=" ++ String.ofList (escape username.toList) ++ ",r=" ++ nonce) =
      [("n", String.ofList (escape username.toList)), ("r", nonce)] := by
  have hname : ',' ∉ (String.ofList (escape username.toList)).toList := by
    rw [String.toList_ofList]
    exact comma_notMem_escape username.toList
  have hsplit : "n=" ++ String.ofList (escape username.toList) ++ ",r=" ++ nonce =
      "n" ++ "=" ++ String.ofList (escape username.toList) ++ "," ++ ("r" ++ "=" ++ nonce) := by
    simp [← String.toList_inj, String.toList_append]
  rw [hsplit]
  exact attributes_two (.of_name (by decide) hname) (.of_name (by decide) hnonce)

theorem attributes_withoutProof (hnonce : ',' ∉ nonce.toList) :
    attributes (withoutProof nonce) = [("c", "biws"), ("r", nonce)] := by
  have hsplit : withoutProof nonce = "c" ++ "=" ++ "biws" ++ "," ++ ("r" ++ "=" ++ nonce) := by
    show "c=biws,r=" ++ nonce = _
    simp [← String.toList_inj, String.toList_append]
  rw [hsplit]
  exact attributes_two (by decide) (.of_name (by decide) hnonce)

/-- The server finds the proof behind the last comma, and what the client signed in front of it. -/
theorem ClientFinal.read?_answer (front : String) (proof : List UInt8) :
    ClientFinal.read? (front ++ ",p=" ++ Base64.encode proof) = some ⟨front, proof⟩ := by
  have hmessage : (front ++ ",p=" ++ Base64.encode proof).toList =
      front.toList ++ ',' :: ("p=" ++ Base64.encode proof).toList := by
    simp [String.toList_append]
  have hlast : ',' ∉ ("p=" ++ Base64.encode proof).toList := by
    rw [String.toList_append, List.mem_append, not_or]
    exact ⟨by decide, Base64.comma_notMem_encode proof⟩
  have hencoded : behind? "p=" ("p=" ++ Base64.encode proof) = some (Base64.encode proof) :=
    behind?_eq_some_iff.2 rfl
  have hproof : Base64.decode (Base64.encode proof) = .ok proof := Base64.decode_eq_ok_iff.2 rfl
  rw [read?, hmessage, Text.splitLast_append_cons _ hlast]
  simp only [Option.bind_eq_bind, Option.bind_some, String.ofList_toList, hencoded, hproof,
    Except.toOption, Option.pure_def]

end

/-! ### The exchange -/

/-- The server takes the proof of the client that knows the password. -/
theorem Account.accepts_proof (algorithm : Digest.Algorithm) (password : String)
    (salt : List UInt8) (iterations : Nat) (clientFirstBare serverFirst front : String) :
    let account := Account.of algorithm password salt iterations
    let message := Text.Utf8.encode (clientFirstBare ++ "," ++ serverFirst ++ "," ++ front)
    let proof := proof algorithm (Keys.of algorithm password salt iterations).client message
    algorithm.digest (Digest.xor proof (algorithm.hmac account.storedKey message)) =
        account.storedKey ∧
      account.accepts clientFirstBare serverFirst ⟨front, proof⟩ = true := by
  intro account message proof
  have hown : (algorithm.hmac account.storedKey message).length = algorithm.size :=
    algorithm.length_hmac _ _
  have hkey : (Keys.of algorithm password salt iterations).client.length = algorithm.size :=
    algorithm.length_hmac _ _
  have hproof : proof.length = (algorithm.hmac account.storedKey message).length :=
    (length_proof hkey).trans hown.symm
  have hback : Digest.xor proof (algorithm.hmac account.storedKey message) =
      (Keys.of algorithm password salt iterations).client :=
    xor_xor_cancel (hkey.trans hown.symm)
  have hdigest : algorithm.digest (Digest.xor proof (algorithm.hmac account.storedKey message)) =
      account.storedKey :=
    congrArg algorithm.digest hback
  refine ⟨hdigest, ?_⟩
  show (proof.length == (algorithm.hmac account.storedKey message).length &&
    algorithm.digest (Digest.xor proof (algorithm.hmac account.storedKey message)) ==
      account.storedKey) = true
  rw [Bool.and_eq_true, beq_iff_eq, beq_iff_eq]
  exact ⟨hproof, hdigest⟩

/-- A client and a server that keeps the keys of the same password go through the whole exchange:
the server reads the client's nonce, the client finds the server's challenge, the server finds in
front of the proof what the client signed, and each accepts the last message of the other. The
server's keys and signature are those of RFC 5802. The nonces may hold anything but commas, and the
server may add attributes of its own. -/
theorem exchange_completes {mechanism : Mechanism} {algorithm : Digest.Algorithm}
    (hnamed : NamedAfter mechanism algorithm) (username password nonce suffix : String)
    (hnonce : ',' ∉ nonce.toList) (hsuffix : ',' ∉ suffix.toList) (salt : List UInt8)
    (iterations : Nat) (hpos : 1 ≤ iterations) (hmax : iterations < UInt32.size)
    (extensions : List (String × String)) (hextensions : ∀ pair ∈ extensions, IsExtension pair) :
    let salted := algorithm.stretch (Text.Utf8.encode password) salt iterations
    let storedKey := algorithm.digest (algorithm.hmac salted (Text.Utf8.encode "Client Key"))
    let serverKey := algorithm.hmac salted (Text.Utf8.encode "Server Key")
    let account : Account := ⟨algorithm, salt, iterations, storedKey, serverKey⟩
    let serverFirst := account.first nonce suffix extensions
    ∃ client challenge message awaiting final,
      Client.new mechanism username password nonce = .ok client ∧
      behind? "n,," client.first = some client.firstBare ∧
      last? "r" (attributes client.firstBare) = some nonce ∧
      Challenge.read client.nonce serverFirst = .ok challenge ∧
      client.final serverFirst = .ok (message, awaiting) ∧
      ClientFinal.read? message = some final ∧
      attributes final.withoutProof = [("c", "biws"), ("r", nonce ++ suffix)] ∧
      let signed := Text.Utf8.encode
        (client.firstBare ++ "," ++ serverFirst ++ "," ++ ("c=biws,r=" ++ (nonce ++ suffix)))
      final.signed client.firstBare serverFirst = signed ∧
      authMessage client.firstBare serverFirst challenge.nonce = signed ∧
      algorithm.digest (Digest.xor final.proof (algorithm.hmac storedKey signed)) = storedKey ∧
      account.accepts client.firstBare serverFirst final = true ∧
      account.final client.firstBare serverFirst final =
        "v=" ++ Base64.encode (algorithm.hmac serverKey signed) ∧
      awaiting.verify (account.final client.firstBare serverFirst final) = .ok () := by
  intro salted storedKey serverKey account serverFirst
  let client : Client := ⟨algorithm, password,
    "n=" ++ String.ofList (escape username.toList) ++ ",r=" ++ nonce, nonce, none⟩
  let challenge : Challenge := ⟨nonce ++ suffix, salt, iterations⟩
  let message := authMessage client.firstBare serverFirst challenge.nonce
  let proof := proof algorithm (Keys.of algorithm password salt iterations).client message
  have hnew : Client.new mechanism username password nonce = .ok client :=
    Client.new_eq_ok_iff.2 ⟨algorithm, hnamed, rfl⟩
  have hread : Challenge.read client.nonce serverFirst = .ok challenge :=
    account.read_first hnonce hsuffix hextensions hpos hmax
  have hboth : ',' ∉ (nonce ++ suffix).toList := by
    rw [String.toList_append, List.mem_append, not_or]
    exact ⟨hnonce, hsuffix⟩
  have hserver : last? "r" (attributes client.firstBare) = some nonce := by
    rw [attributes_firstBare username hnonce]
    rfl
  obtain ⟨hdigest, haccepts⟩ := Account.accepts_proof algorithm password salt iterations
    client.firstBare serverFirst (withoutProof (nonce ++ suffix))
  -- The signature that the client expects is over the text that the server read from its answer.
  refine ⟨client, challenge, _, _, ⟨withoutProof (nonce ++ suffix), proof⟩, hnew,
    behind?_eq_some_iff.2 rfl, hserver, hread, Client.final_of_read hread,
    ClientFinal.read?_answer _ proof, attributes_withoutProof hboth, rfl, rfl, hdigest, haccepts,
    rfl, ?_⟩
  exact Client.verify_eq_ok_iff.2 ⟨_, rfl, rfl⟩

/-- An exchange in which `=` occurs in a nonce and in the value of an additional attribute. -/
theorem exchange_completes_pencil :
    ∃ client message awaiting final,
      Client.new .scramSha256 "user" "pencil" "rOprNGfwEbeRWgbNEkqO" = .ok client ∧
      client.final ((Account.of .sha256 "pencil" [91, 109, 153] 4096).first
        "rOprNGfwEbeRWgbNEkqO" "%hvYDpWUa2RaTCAfuxFIlj)hNlF$k0=" [("x", "a=b")]) =
        .ok (message, awaiting) ∧
      ClientFinal.read? message = some final ∧
      awaiting.verify ((Account.of .sha256 "pencil" [91, 109, 153] 4096).final client.firstBare
        ((Account.of .sha256 "pencil" [91, 109, 153] 4096).first
          "rOprNGfwEbeRWgbNEkqO" "%hvYDpWUa2RaTCAfuxFIlj)hNlF$k0=" [("x", "a=b")]) final) =
        .ok () := by
  obtain ⟨client, challenge, message, awaiting, final, hnew, -, -, -, hfinal, hread, -, -, -, -, -,
    -, hverify⟩ := exchange_completes .sha256 "user" "pencil" "rOprNGfwEbeRWgbNEkqO"
      "%hvYDpWUa2RaTCAfuxFIlj)hNlF$k0=" (by decide) (by decide) [91, 109, 153] 4096 (by decide)
      (by decide) [("x", "a=b")] (by decide)
  exact ⟨client, message, awaiting, final, hnew, hfinal, hread, hverify⟩

end BrokerWatch.Sasl.Scram

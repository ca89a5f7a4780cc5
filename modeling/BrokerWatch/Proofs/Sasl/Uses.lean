import BrokerWatch.Proofs.Sasl.Acceptance

/-!
# Clients of SCRAM used in any order

The order in which a client is used is its owner's affair. Whatever the uses were, all that they
leave in the client is the signature that belongs to the last challenge it answered: a challenge
that it could not answer, and every other use, leaves it as it was.
-/

namespace BrokerWatch.Sasl.Scram

/-- The message whose challenge was answered in a use, if one was. -/
def answered? : Use × Reply → Option String
  | (.final serverFirst, .sends _) => some serverFirst
  | _ => none

def lastAnswered? (said : List (Use × Reply)) : Option String :=
  said.reverse.findSome? answered?

theorem lastAnswered?_concat (said : List (Use × Reply)) (entry : Use × Reply) :
    lastAnswered? (said ++ [entry]) = (answered? entry).or (lastAnswered? said) := by
  rw [lastAnswered?, List.reverse_concat, List.findSome?_cons, lastAnswered?]
  cases answered? entry <;> rfl

theorem lastAnswered?_eq_none_iff {said : List (Use × Reply)} :
    lastAnswered? said = none ↔
      ∀ serverFirst message, (Use.final serverFirst, Reply.sends message) ∉ said := by
  simp only [lastAnswered?, List.findSome?_eq_none_iff, List.mem_reverse]
  constructor
  · intro h serverFirst message hmem
    exact Option.some_ne_none serverFirst (h _ hmem)
  · intro h entry hmem
    obtain ⟨use, reply⟩ := entry
    cases use with
    | first => rfl
    | verify serverFinal => rfl
    | final serverFirst =>
        cases reply with
        | sends message => exact absurd hmem (h serverFirst message)
        | accepts => rfl
        | fails fault => rfl

namespace Client

/-! ### What a use leaves -/

/-- What is known of a client behind uses: it is the client that it was, apart from the signature
that it expects, and this is the one that belongs to the challenge answered last. -/
structure Used (client : Client) (said : List (Use × Reply)) (now : Client) : Prop where
  same : now = { client with expected := now.expected }
  awaits : lastAnswered? said = none ∧ now.expected = none ∨
    ∃ serverFirst challenge, lastAnswered? said = some serverFirst ∧
      Challenge.read client.nonce serverFirst = .ok challenge ∧
      now.expected = some (client.serverSignature serverFirst challenge)

theorem used_new {client : Client} (h : client.expected = none) : Used client [] client where
  same := rfl
  awaits := .inl ⟨rfl, h⟩

theorem apply_verify_fst (client : Client) (serverFinal : String) :
    (client.apply (.verify serverFinal)).1 = client := by
  rw [apply]
  cases client.verify serverFinal <;> rfl

theorem apply_verify_eq_accepts_iff {client : Client} {serverFinal : String} :
    (client.apply (.verify serverFinal)).2 = .accepts ↔
      ∃ expected, client.expected = some expected ∧
        serverFinal = "v=" ++ Base64.encode expected := by
  rw [← verify_eq_ok_iff, apply]
  cases client.verify serverFinal with
  | ok u => exact iff_of_true rfl rfl
  | error fault => exact iff_of_false (fun h => nomatch h) (fun h => nomatch h)

theorem apply_final_of_read {client : Client} {serverFirst : String} {challenge : Challenge}
    (h : Challenge.read client.nonce serverFirst = .ok challenge) :
    client.apply (.final serverFirst) =
      ({ client with expected := some (client.serverSignature serverFirst challenge) },
        .sends (client.answer serverFirst challenge)) := by
  rw [apply, final_of_read h]

theorem apply_final_of_read_error {client : Client} {serverFirst : String} {fault : Fault}
    (h : Challenge.read client.nonce serverFirst = .error fault) :
    client.apply (.final serverFirst) = (client, .fails fault) := by
  rw [apply, final_of_read_error h]

theorem apply_final_fst_of_fails {client : Client} {serverFirst : String} {fault : Fault}
    (h : (client.apply (.final serverFirst)).2 = .fails fault) :
    (client.apply (.final serverFirst)).1 = client := by
  cases hread : Challenge.read client.nonce serverFirst with
  | error fault => rw [apply_final_of_read_error hread]
  | ok challenge =>
      rw [apply_final_of_read hread] at h
      cases h

namespace Used

variable {client now : Client} {said : List (Use × Reply)}

/-- A use in which no challenge is answered and which leaves the client as it is. -/
theorem unchanged (h : Used client said now) {entry : Use × Reply}
    (hentry : answered? entry = none) : Used client (said ++ [entry]) now where
  same := h.same
  awaits := by
    rw [lastAnswered?_concat, hentry, Option.none_or]
    exact h.awaits

theorem apply (h : Used client said now) (use : Use) :
    Used client (said ++ [(use, (now.apply use).2)]) (now.apply use).1 := by
  have hnonce : now.nonce = client.nonce := by rw [h.same]
  cases use with
  | first => exact h.unchanged rfl
  | verify serverFinal =>
      rw [apply_verify_fst]
      exact h.unchanged rfl
  | final serverFirst =>
      cases hread : Challenge.read now.nonce serverFirst with
      | error fault =>
          rw [apply_final_of_read_error hread]
          exact h.unchanged rfl
      | ok challenge =>
          -- The only use that leaves something behind: its signature replaces the one before.
          rw [apply_final_of_read hread]
          refine ⟨?_, .inr ⟨serverFirst, challenge, ?_, ?_, ?_⟩⟩
          · rw [h.same]
          · rw [lastAnswered?_concat]
            rfl
          · rw [← hnonce, hread]
          · rw [h.same]
            rfl

theorem run (h : Used client said now) (uses : List Use) :
    Used client (said ++ (now.run uses).2) (now.run uses).1 := by
  -- `Used` speaks of the client at the start, so the uses so far grow at their end.
  induction uses generalizing said now with
  | nil => simpa [Client.run] using h
  | cons use uses ih =>
      have hnext := ih (h.apply use)
      rw [List.append_assoc, List.singleton_append] at hnext
      exact hnext

theorem accepts_iff (h : Used client said now) {serverFinal : String} :
    (now.apply (.verify serverFinal)).2 = .accepts ↔
      ∃ serverFirst challenge, lastAnswered? said = some serverFirst ∧
        Challenge.read client.nonce serverFirst = .ok challenge ∧
        serverFinal = "v=" ++ Base64.encode (client.serverSignature serverFirst challenge) := by
  rw [apply_verify_eq_accepts_iff]
  obtain ⟨hlast, hexpected⟩ | ⟨serverFirst, challenge, hlast, hread, hexpected⟩ := h.awaits
  · rw [hexpected, hlast]
    simp
  · rw [hexpected, hlast]
    constructor
    · intro hfinal
      obtain ⟨expected, hsame, hfinal⟩ := hfinal
      cases hsame
      exact ⟨serverFirst, challenge, rfl, hread, hfinal⟩
    · intro hfinal
      obtain ⟨serverFirst', challenge', hsame, hread', hfinal⟩ := hfinal
      cases hsame
      rw [hread] at hread'
      cases hread'
      exact ⟨_, rfl, hfinal⟩

end Used

/-- Behind any uses a client's first message is what it was, and a use in which a challenge is not
answered leaves the client as it is. The client accepts exactly the message with the server's
signature, by RFC 5802, over the exchange of the challenge answered last: one text if there was such
a challenge, and none before. -/
theorem uses_in_any_order {mechanism : Mechanism} {username password nonce : String}
    {client : Client} (hnew : Client.new mechanism username password nonce = .ok client)
    (uses : List Use) :
    let now := (client.run uses).1
    let said := (client.run uses).2
    let firstBare := "n=" ++ String.ofList (escape username.toList) ++ ",r=" ++ nonce
    NamedAfter mechanism client.algorithm ∧
      now.apply .first = (now, .sends ("n,," ++ firstBare)) ∧
      (∀ serverFinal, (now.apply (.verify serverFinal)).1 = now) ∧
      (∀ serverFirst fault, (now.apply (.final serverFirst)).2 = .fails fault →
        (now.apply (.final serverFirst)).1 = now) ∧
      (∀ serverFinal, (now.apply (.verify serverFinal)).2 = .accepts ↔
        ∃ serverFirst challenge, lastAnswered? said = some serverFirst ∧
          Challenge.read nonce serverFirst = .ok challenge ∧
          let hmac := client.algorithm.hmac
          let salted := client.algorithm.stretch (Text.Utf8.encode password) challenge.salt
            challenge.iterations
          let serverKey := hmac salted (Text.Utf8.encode "Server Key")
          let authMessage := Text.Utf8.encode
            (firstBare ++ "," ++ serverFirst ++ "," ++ ("c=biws,r=" ++ challenge.nonce))
          serverFinal = "v=" ++ Base64.encode (hmac serverKey authMessage)) ∧
      ((∃ serverFirst message, (Use.final serverFirst, Reply.sends message) ∈ said) →
        ∃! serverFinal, (now.apply (.verify serverFinal)).2 = .accepts) ∧
      ((∀ serverFirst message, (Use.final serverFirst, Reply.sends message) ∉ said) →
        ∀ serverFinal, (now.apply (.verify serverFinal)).2 ≠ .accepts) := by
  intro now said firstBare
  obtain ⟨algorithm, hnamed, rfl⟩ := Client.new_eq_ok_iff.1 hnew
  have hused : Used _ said now := (used_new rfl).run uses
  have haccepts := @Used.accepts_iff _ _ _ hused
  refine ⟨hnamed, ?_, apply_verify_fst now, fun _ _ => apply_final_fst_of_fails, fun _ => haccepts,
    ?_, ?_⟩
  · have hfirst : now.first = "n,," ++ firstBare := by
      rw [hused.same]
      rfl
    rw [apply, hfirst]
  · intro hanswered
    obtain ⟨hlast, -⟩ | ⟨serverFirst, challenge, hlast, hread, hsignature⟩ := hused.awaits
    · obtain ⟨serverFirst, message, hmem⟩ := hanswered
      exact absurd hmem (lastAnswered?_eq_none_iff.1 hlast serverFirst message)
    · refine ⟨_, apply_verify_eq_accepts_iff.2 ⟨_, hsignature, rfl⟩, fun serverFinal h => ?_⟩
      obtain ⟨expected, hsame, hfinal⟩ := apply_verify_eq_accepts_iff.1 h
      rw [hsignature] at hsame
      cases hsame
      exact hfinal
  · intro hnone serverFinal h
    obtain ⟨serverFirst, _, hlast, -⟩ := haccepts.1 h
    rw [lastAnswered?_eq_none_iff.2 hnone] at hlast
    cases hlast

/-- A challenge that cannot be answered does not take back the one before it. -/
theorem uses_in_any_order_refused :
    ∃ client, Client.new .scramSha256 "user" "pencil" "abc" = .ok client ∧
      ∃! serverFinal, ((client.run [.final "r=abcd,s=AA==,i=1", .final "r=xyz"]).1.apply
        (.verify serverFinal)).2 = .accepts := by
  let client : Client := ⟨.sha256, "pencil", "n=user,r=abc", "abc", none⟩
  have hnew : Client.new .scramSha256 "user" "pencil" "abc" = .ok client := by decide +kernel
  let challenge : Challenge := ⟨"abcd", [0], 1⟩
  have hread : Challenge.read client.nonce "r=abcd,s=AA==,i=1" = .ok challenge := by
    decide +kernel
  have hanswer : (client.apply (.final "r=abcd,s=AA==,i=1")).2 =
      .sends (client.answer "r=abcd,s=AA==,i=1" challenge) :=
    congrArg Prod.snd (apply_final_of_read hread)
  obtain ⟨-, -, -, -, -, hone, -⟩ :=
    uses_in_any_order hnew [.final "r=abcd,s=AA==,i=1", .final "r=xyz"]
  refine ⟨client, hnew,
    hone ⟨"r=abcd,s=AA==,i=1", client.answer "r=abcd,s=AA==,i=1" challenge, ?_⟩⟩
  rw [← hanswer]
  exact List.mem_cons_self

end Client

end BrokerWatch.Sasl.Scram

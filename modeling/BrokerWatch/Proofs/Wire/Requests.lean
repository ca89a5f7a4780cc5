import BrokerWatch.Proofs.Results
import BrokerWatch.Proofs.Wire.Responses
import BrokerWatch.Wire.Request

/-!
# Requests come back from their stream

A frame says how long it is, so a reader that knows nothing of what was sent takes a stream of
frames apart again. The content of a frame is read to its end, whatever its body holds, and the
reader of a frame reads exactly what is written of the requests that fit. So bytes are the frames of
one list of requests at most, and the reader finds it.
-/

namespace BrokerWatch.Wire

variable {α β : Type}

/-! ### Readers of all that is there -/

/-- A reader takes all bytes and leaves none, where they are a written form of its value. -/
def ReadsAll (reader : Reader α) (written : α → List UInt8 → Prop) : Prop :=
  ∀ input value rest, reader.run input = .ok (value, rest) ↔ written value input ∧ rest = []

/-- The value that was found in a part of a stream, or the fault there. -/
def valueOf : Except ReadError (α × List UInt8) → Reader α
  | .ok (a, _) => return a
  | .error e => MonadExcept.throw e

variable {reader : Reader α} {written : α → List UInt8 → Prop}

namespace ReadsAll

theorem congr {written' : α → List UInt8 → Prop} (h : ReadsAll reader written)
    (hsame : ∀ value bytes, written value bytes ↔ written' value bytes) :
    ReadsAll reader written' := by
  intro input value rest
  rw [h, hsame]

/-- What is left can be anything. -/
theorem remaining (make : List UInt8 → α) :
    ReadsAll (do let left ← get; set ([] : List UInt8); return make left)
      fun value bytes => value = make bytes := by
  intro input value rest
  show Except.ok (make input, []) = .ok (value, rest) ↔ _
  simp [eq_comm]

/-- What was cut off a stream is read apart from what follows it. -/
theorem enclosed (h : ReadsAll reader written) (content : List UInt8) :
    Reads (valueOf (reader.run content)) fun value bytes => written value content ∧ bytes = [] := by
  cases hrun : reader.run content with
  | error e =>
      refine (Reads.throw e).congr fun value bytes => iff_of_false id fun hwritten => ?_
      rw [(h _ _ _).2 ⟨hwritten.1, rfl⟩] at hrun
      cases hrun
  | ok found =>
      obtain ⟨a, rest⟩ := found
      refine (Reads.pure a).congr fun value bytes => and_congr_left fun _ => ?_
      constructor
      · intro hvalue
        subst hvalue
        exact ((h _ _ _).1 hrun).1
      · intro hwritten
        rw [(h _ _ _).2 ⟨hwritten, rfl⟩] at hrun
        cases hrun
        rfl

end ReadsAll

/-- Behind a value that was read, all that is left is read. -/
theorem Reads.bind_all {next : α → Reader β} {written' : α → β → List UInt8 → Prop}
    (h : Reads reader written) (hnext : ∀ a, ReadsAll (next a) (written' a)) :
    ReadsAll (reader >>= next) fun value bytes =>
      ∃ a front back, written a front ∧ written' a value back ∧ bytes = front ++ back := by
  intro input value rest
  rw [StateT.run_bind, bind_eq_ok_iff]
  constructor
  · intro hrun
    obtain ⟨⟨a, left⟩, hfirst, hlast⟩ := hrun
    obtain ⟨front, hfront, rfl⟩ := (h _ _ _).1 hfirst
    obtain ⟨hback, rfl⟩ := (hnext a _ _ _).1 hlast
    exact ⟨⟨a, front, left, hfront, hback, rfl⟩, rfl⟩
  · intro hsplit
    obtain ⟨⟨a, front, back, hfront, hback, rfl⟩, rfl⟩ := hsplit
    exact ⟨(a, back), h.run_append hfront back, (hnext a _ _ _).2 ⟨hback, rfl⟩⟩

/-! ### One request -/

namespace Request

/-- Whether the lengths in a request's frame are those of what follows them. -/
def Fits (r : Request) : Prop :=
  TextFits r.client ∧ r.headerSize + r.body.length < 2 ^ 31

instance (r : Request) : Decidable r.Fits :=
  inferInstanceAs (Decidable (_ ∧ _))

theorem length_payload (r : Request) : r.payload.length = r.headerSize + r.body.length := by
  simp only [payload, Field.int16, Field.int32, Field.text, List.length_append,
    Bytes.length_ofNat, headerSize]
  omega

/-- The size that is counted is the one that is written. -/
theorem frame_eq_block (r : Request) : r.frame = Field.block r.payload := by
  rw [frame, Field.block, length_payload]

theorem readPayload_readsAll :
    ReadsAll readPayload fun r bytes => TextFits r.client ∧ bytes = r.payload := by
  refine ((Reader.int16_reads _).bind_all fun key => (Reader.int16_reads _).bind_all fun version =>
    (Reader.int32_reads _).bind_all fun correlation => (Reader.text_reads _).bind_all fun client =>
      ReadsAll.remaining (Request.mk ⟨key, version⟩ correlation client)).congr fun r bytes => ?_
  constructor
  · intro h
    obtain ⟨_, _, _, rfl, ⟨_, _, _, rfl, ⟨_, _, _, rfl, ⟨client, _, body, hclient, rfl, rfl⟩, rfl⟩,
      rfl⟩, rfl⟩ := h
    obtain ⟨hlt, rfl⟩ := hclient
    exact ⟨Nat.le_of_lt_succ hlt, by simp only [payload, List.append_assoc]⟩
  · intro h
    obtain ⟨hclient, rfl⟩ := h
    refine ⟨_, _, _, rfl, ⟨_, _, _, rfl, ⟨_, _, _, rfl, ⟨r.client, _, r.body,
      textWritten_text hclient, rfl, rfl⟩, rfl⟩, rfl⟩, ?_⟩
    simp only [payload, List.append_assoc]

theorem read_eq : read = (do
    let size ← Reader.int32 "request size"
    let content ← Reader.take "request" size.toNatClampNeg
    valueOf (readPayload.run content)) := by
  refine bind_congr fun size => bind_congr fun content => ?_
  cases readPayload.run content <;> rfl

/-- A request is read where its frame stands. -/
theorem read_reads : Reads read fun r bytes => r.Fits ∧ bytes = r.frame := by
  rw [read_eq]
  refine ((Reader.int32_reads _).bind fun size => (Reader.take_reads _ size.toNatClampNeg).bind
    fun content => readPayload_readsAll.enclosed content).congr fun r bytes => ?_
  constructor
  · intro h
    obtain ⟨size, _, _, rfl, ⟨_, _, _, ⟨rfl, hlength⟩, ⟨⟨hclient, rfl⟩, rfl⟩, rfl⟩, rfl⟩ := h
    rw [length_payload] at hlength
    -- A header has ten bytes at least, so no negative size stands in front of one.
    have hpos : ¬size < 0 := by
      intro hneg
      rw [Reader.toNatClampNeg_of_neg hneg, headerSize] at hlength
      omega
    refine ⟨⟨hclient, hlength ▸ size.toNatClampNeg_lt⟩, ?_⟩
    rw [Reader.int32_of_not_neg hpos, ← hlength, frame, List.append_nil]
  · intro h
    obtain ⟨⟨hclient, hsize⟩, rfl⟩ := h
    rw [← length_payload] at hsize
    obtain ⟨size, hpos, hlength⟩ := Reader.exists_int32_length hsize
    refine ⟨size, _, r.payload, rfl, ⟨r.payload, _, [], ⟨rfl, hlength.symm⟩, ⟨⟨hclient, rfl⟩, rfl⟩,
      (List.append_nil _).symm⟩, ?_⟩
    rw [Reader.int32_of_not_neg hpos, hlength, frame_eq_block, Field.block]

/-! ### A stream of requests -/

theorem frame_ne_nil (r : Request) : r.frame ≠ [] := by
  intro h
  have hlength := congrArg List.length h
  rw [frame, List.length_append, Bytes.length_ofNat, List.length_nil] at hlength
  omega

theorem flatMap_frame_eq_nil_iff {requests : List Request} :
    requests.flatMap (·.frame) = [] ↔ requests = [] := by
  cases requests with
  | nil => exact iff_of_true rfl rfl
  | cons r requests => simp [frame_ne_nil]

theorem readUpTo_nil_eq_ok_iff {fuel : Nat} {requests : List Request} :
    readUpTo fuel [] = .ok requests ↔
      (∀ r ∈ requests, r.Fits) ∧ [] = requests.flatMap (·.frame) := by
  rw [readUpTo, eq_comm (a := []), flatMap_frame_eq_nil_iff, Except.ok.injEq, eq_comm]
  constructor
  · rintro rfl
    simp
  · exact And.right

theorem readUpTo_succ_eq_ok_iff {fuel : Nat} {bytes : List UInt8} (hne : bytes ≠ [])
    {requests : List Request} :
    readUpTo (fuel + 1) bytes = .ok requests ↔
      ∃ r more, requests = r :: more ∧ r.Fits ∧
        ∃ rest, bytes = r.frame ++ rest ∧ readUpTo fuel rest = .ok more := by
  rw [readUpTo, bind_eq_ok_iff]
  · constructor
    · intro h
      obtain ⟨⟨r, rest⟩, hread, hlater⟩ := h
      obtain ⟨more, hmore, hpure⟩ := bind_eq_ok_iff.1 hlater
      obtain ⟨_, ⟨hfits, rfl⟩, hbytes⟩ := (read_reads _ _ _).1 hread
      cases hpure
      exact ⟨r, more, rfl, hfits, rest, hbytes, hmore⟩
    · intro h
      obtain ⟨r, more, rfl, hfits, rest, rfl, hmore⟩ := h
      exact ⟨(r, rest), read_reads.run_append ⟨hfits, rfl⟩ rest,
        bind_eq_ok_iff.2 ⟨more, hmore, rfl⟩⟩
  · exact hne

/-- A stream is read exactly if it is made of frames. The fuel is enough, since every frame takes a
byte at least. -/
theorem readUpTo_eq_ok_iff {fuel : Nat} {bytes : List UInt8} (hfuel : bytes.length ≤ fuel)
    {requests : List Request} :
    readUpTo fuel bytes = .ok requests ↔
      (∀ r ∈ requests, r.Fits) ∧ bytes = requests.flatMap (·.frame) := by
  induction fuel generalizing bytes requests with
  | zero =>
      rw [List.length_eq_zero_iff.1 (Nat.le_zero.1 hfuel), readUpTo_nil_eq_ok_iff]
  | succ fuel ih =>
      by_cases hne : bytes = []
      · rw [hne, readUpTo_nil_eq_ok_iff]
      · rw [readUpTo_succ_eq_ok_iff hne]
        constructor
        · intro h
          obtain ⟨r, more, rfl, hfits, rest, rfl, hmore⟩ := h
          have hframe := List.length_pos_iff.2 r.frame_ne_nil
          rw [List.length_append] at hfuel
          obtain ⟨hothers, rfl⟩ := (ih (by omega)).1 hmore
          exact ⟨List.forall_mem_cons.2 ⟨hfits, hothers⟩, List.flatMap_cons.symm⟩
        · intro h
          obtain ⟨hfits, rfl⟩ := h
          cases requests with
          | nil => exact absurd rfl hne
          | cons r more =>
              obtain ⟨hfirst, hothers⟩ := List.forall_mem_cons.1 hfits
              have hframe := List.length_pos_iff.2 r.frame_ne_nil
              rw [List.flatMap_cons, List.length_append] at hfuel
              exact ⟨r, more, rfl, hfirst, _, List.flatMap_cons,
                (ih (by omega)).2 ⟨hothers, rfl⟩⟩

/-! ### Bodies -/

theorem run_readHandshakeBody {mechanism : String} (h : TextFits mechanism) :
    readHandshakeBody.run (handshakeBody mechanism) = .ok (mechanism, []) := by
  have hread := (Reader.text_reads "mechanism").run_append (textWritten_text h) []
  rwa [List.append_nil] at hread

theorem run_readAuthenticateBody {message : List UInt8} (h : message.length < 2 ^ 31) :
    readAuthenticateBody.run (authenticateBody message) = .ok (message, []) := by
  have hread := (Reader.block_reads "message").run_append (.inl ⟨h, rfl⟩) []
  rwa [List.append_nil] at hread

end Request

/-- Bytes are read as requests exactly if they are the frames of these requests, one after the other
and with nothing behind them, and the lengths in the frames fit. So whatever requests that fit were
sent, they are found again in their order, and no other bytes are taken for requests. What the
bodies of an authentication carry is found again in the same way. -/
theorem requests_recovered :
    (∀ (bytes : List UInt8) (requests : List Request),
      Request.readAll bytes = .ok requests ↔
        (∀ r ∈ requests, r.Fits) ∧ bytes = requests.flatMap (·.frame)) ∧
    (∀ mechanism, TextFits mechanism →
      Request.readHandshakeBody.run (Request.handshakeBody mechanism) = .ok (mechanism, [])) ∧
    (∀ message : List UInt8, message.length < 2 ^ 31 →
      Request.readAuthenticateBody.run (Request.authenticateBody message) = .ok (message, [])) := by
  refine ⟨fun bytes requests => ?_, fun mechanism hfits => ?_, fun message hfits => ?_⟩
  · exact Request.readUpTo_eq_ok_iff (Nat.le_refl bytes.length)
  · exact Request.run_readHandshakeBody hfits
  · exact Request.run_readAuthenticateBody hfits

/-- A login in two steps, each request with a body that looks like the start of another frame. -/
theorem requests_recovered_login :
    let proposal : Request := ⟨.saslHandshake, 1, "probe", Request.handshakeBody "PLAIN"⟩
    let token : Request :=
      ⟨.saslAuthenticate, 2, "probe", Request.authenticateBody [0, 0, 0, 14, 0, 36]⟩
    (∀ r ∈ [proposal, token], r.Fits) ∧
      Request.readAll (proposal.frame ++ token.frame) = .ok [proposal, token] ∧
      TextFits "PLAIN" ∧ Request.readHandshakeBody.run proposal.body = .ok ("PLAIN", []) ∧
      Request.readAuthenticateBody.run token.body = .ok ([0, 0, 0, 14, 0, 36], []) := by
  intro proposal token
  have hfits : ∀ r ∈ [proposal, token], r.Fits := by decide +kernel
  have hname : TextFits "PLAIN" := by decide +kernel
  obtain ⟨hstream, hproposal, htoken⟩ := requests_recovered
  have hframes : proposal.frame ++ token.frame = [proposal, token].flatMap (·.frame) := by
    rw [List.flatMap_cons, List.flatMap_singleton]
  refine ⟨hfits, (hstream _ _).2 ⟨hfits, hframes⟩, hname, hproposal "PLAIN" hname, ?_⟩
  exact htoken _ (by decide)

end BrokerWatch.Wire

import BrokerWatch.Proofs.Connection.Frames

/-!
# Calls on one connection

Calls are numbered from one, whatever becomes of those before, and each reads on in the stream where
the one before it stopped. A call that gets a response has read a frame with its own number and
nothing else, so the first calls all get responses exactly if the stream begins with their frames in
order.
-/

namespace BrokerWatch.Connection

open Wire

structure Call where
  operation : Operation
  body : List UInt8

/-- Makes calls one after the other, each on what the one before has left of the connection, also
where that one failed. -/
def roundTrips : List Call → State → List (Except Failure (List UInt8)) × State
  | [], s => ([], s)
  | call :: calls, s =>
    let (result, s) := roundTrip call.operation call.body s
    let (results, s) := roundTrips calls s
    (result :: results, s)

theorem roundTrips_cons (call : Call) (calls : List Call) (s : State) :
    roundTrips (call :: calls) s =
      ((roundTrip call.operation call.body s).1 ::
          (roundTrips calls (roundTrip call.operation call.body s).2).1,
        (roundTrips calls (roundTrip call.operation call.body s).2).2) :=
  rfl

def Call.request (client : String) (place : Nat) (call : Call) : Request :=
  ⟨call.operation, Int32.ofNat (place + 1), client, call.body⟩

/-- A response's frame: its size, the number of the call it answers, its body. -/
def responseFrame (number : Nat) (body : List UInt8) : List UInt8 :=
  Field.int32 (Int32.ofNat (body.length + 4)) ++ Field.int32 (Int32.ofNat number) ++ body

/-- The frames of responses to calls in order, of which the first is the one after `answered`
others. -/
def responseFrames (answered : Nat) (bodies : List (List UInt8)) : List UInt8 :=
  (bodies.mapIdx fun place body => responseFrame (answered + place + 1) body).flatten

theorem responseFrames_cons (answered : Nat) (body : List UInt8) (bodies : List (List UInt8)) :
    responseFrames answered (body :: bodies) =
      responseFrame (answered + 1) body ++ responseFrames (answered + 1) bodies := by
  have hshift : ∀ place, answered + (place + 1) + 1 = answered + 1 + place + 1 := by omega
  simp only [responseFrames, List.mapIdx_cons, List.flatten_cons, Nat.add_zero, hshift]

/-! ### One call -/

theorem int32_ofNat_of_lt {n : Nat} (h : n < 2 ^ 31) :
    Field.int32 (Int32.ofNat n) = Bytes.ofNat 4 n := by
  obtain ⟨size, hpos, hsize⟩ := Reader.exists_int32_length h
  have hback : Int32.ofNat n = size := by
    apply Int32.toInt_inj.1
    have hnonneg : 0 ≤ size.toInt := Int32.le_iff_toInt_le.1 (Int32.not_lt.1 hpos)
    rw [Int32.toInt_ofNat_of_lt h, ← hsize]
    exact Int.toNat_of_nonneg hnonneg
  rw [hback, Reader.int32_of_not_neg hpos, hsize]

theorem framed_ofNat_iff {number : Nat} {body rest incoming : List UInt8} :
    Framed (Int32.ofNat number) body rest incoming ↔
      body.length + 4 ≤ 64 * 1024 * 1024 ∧ incoming = responseFrame number body ++ rest := by
  have hmax : maxResponse.toNatClampNeg = 64 * 1024 * 1024 := by decide
  rw [Framed, hmax]
  refine and_congr_right fun hsize => ?_
  have hlt : body.length + 4 < 2 ^ 31 := by omega
  rw [Field.block, List.length_append, Field.length_int32, Nat.add_comm 4, responseFrame,
    ← int32_ofNat_of_lt hlt]
  simp only [List.append_assoc]

/-- What is not read of a stream is an end of it. -/
theorem receive_suffix (correlation : Int32) (incoming : List UInt8) :
    (receive correlation incoming).2 <:+ incoming := by
  have hdrop : ∀ n, (incoming.drop 4).drop n <:+ incoming := fun n =>
    (List.drop_suffix n _).trans (List.drop_suffix 4 _)
  simp only [receive]
  split
  · exact List.nil_suffix
  · split
    · exact List.drop_suffix 4 _
    · split
      · exact List.nil_suffix
      · split <;> exact hdrop _

section Call

variable {answered : Nat} {s : State} (hs : s.correlation = Int32.ofNat answered) (call : Call)
include hs

theorem correlation_roundTrip :
    (roundTrip call.operation call.body s).2.correlation = Int32.ofNat (answered + 1) := by
  change s.correlation + 1 = _
  rw [hs, Int32.ofNat_add]
  rfl

theorem roundTrip_eq_ok_iff {body rest : List UInt8} :
    (roundTrip call.operation call.body s).1 = .ok body ∧
        (roundTrip call.operation call.body s).2.incoming = rest ↔
      body.length + 4 ≤ 64 * 1024 * 1024 ∧
        s.incoming = responseFrame (answered + 1) body ++ rest := by
  have hnumber : s.correlation + 1 = Int32.ofNat (answered + 1) := correlation_roundTrip hs call
  rw [← framed_ofNat_iff, ← receive_eq_ok_iff, ← hnumber]
  exact (@Prod.ext_iff _ _ (receive (s.correlation + 1) s.incoming) (.ok body, rest)).symm

end Call

/-! ### What calls leave -/

/-- A connection that was opened for a client on a stream and on which calls were made. -/
structure Used (client : String) (incoming : List UInt8) (calls : List Call) (s : State) :
    Prop where
  client_eq : s.client = client
  correlation_eq : s.correlation = Int32.ofNat calls.length
  sent_eq : s.sent = calls.mapIdx (Call.request client)
  suffix : s.incoming <:+ incoming

variable {client : String} {incoming : List UInt8}

theorem used_opened : Used client incoming [] (.opened client incoming) :=
  ⟨rfl, rfl, rfl, List.suffix_refl _⟩

theorem Used.roundTrip {calls : List Call} {s : State} (h : Used client incoming calls s)
    (call : Call) :
    Used client incoming (calls ++ [call]) (roundTrip call.operation call.body s).2 where
  client_eq := h.client_eq
  correlation_eq := by
    rw [correlation_roundTrip h.correlation_eq call, List.length_append, List.length_singleton]
  sent_eq := by
    have hnumber := correlation_roundTrip h.correlation_eq call
    change s.correlation + 1 = _ at hnumber
    change s.sent ++ [⟨call.operation, s.correlation + 1, s.client, call.body⟩] = _
    rw [List.mapIdx_concat, h.sent_eq, hnumber, h.client_eq, Call.request]
  suffix := (receive_suffix _ _).trans h.suffix

theorem Used.roundTrips {calls : List Call} {s : State} (h : Used client incoming calls s)
    (more : List Call) : Used client incoming (calls ++ more) (roundTrips more s).2 := by
  induction more generalizing calls s with
  | nil => simpa [Connection.roundTrips] using h
  | cons call more ih =>
      rw [← List.singleton_append, ← List.append_assoc]
      exact ih (h.roundTrip call)

/-! ### What calls get -/

theorem length_roundTrips (calls : List Call) (s : State) :
    (roundTrips calls s).1.length = calls.length := by
  induction calls generalizing s with
  | nil => rfl
  | cons call calls ih =>
      rw [roundTrips_cons, List.length_cons, ih, List.length_cons]

/-- A call gets what a call gets on the connection that those before it have left. -/
theorem getElem?_roundTrips {calls : List Call} {place : Nat} {call : Call}
    (h : calls[place]? = some call) (s : State) :
    (roundTrips calls s).1[place]? =
        some (roundTrip call.operation call.body (roundTrips (calls.take place) s).2).1 ∧
      (roundTrips (calls.take (place + 1)) s).2 =
        (roundTrip call.operation call.body (roundTrips (calls.take place) s).2).2 := by
  induction calls generalizing place s with
  | nil => cases h
  | cons first calls ih =>
      cases place with
      | zero =>
          cases h
          exact ⟨rfl, rfl⟩
      | succ place => exact ih h (roundTrip first.operation first.body s).2

theorem ok_prefix_roundTrips_iff {answered : Nat} {s : State}
    (hs : s.correlation = Int32.ofNat answered) (calls : List Call) (bodies : List (List UInt8)) :
    bodies.map Except.ok <+: (roundTrips calls s).1 ↔
      bodies.length ≤ calls.length ∧ (∀ body ∈ bodies, body.length + 4 ≤ 64 * 1024 * 1024) ∧
        responseFrames answered bodies <+: s.incoming := by
  induction bodies generalizing calls s answered with
  | nil => simp [responseFrames]
  | cons body bodies ih =>
      cases calls with
      | nil => simp [roundTrips]
      | cons call calls =>
          have hnext := ih (correlation_roundTrip hs call) calls
          have hcall := @roundTrip_eq_ok_iff _ _ hs call body
          rw [roundTrips_cons, List.map_cons, List.cons_prefix_cons, hnext, List.length_cons,
            List.length_cons, Nat.add_le_add_iff_right, List.forall_mem_cons, responseFrames_cons]
          constructor
          · intro h
            obtain ⟨hfirst, hlength, hsizes, hframes⟩ := h
            obtain ⟨hsize, hsplit⟩ := hcall.1 ⟨hfirst.symm, rfl⟩
            refine ⟨hlength, ⟨hsize, hsizes⟩, ?_⟩
            rw [hsplit]
            exact (List.prefix_append_right_inj _).2 hframes
          · intro h
            obtain ⟨hlength, ⟨hsize, hsizes⟩, rest, hrest⟩ := h
            rw [List.append_assoc] at hrest
            obtain ⟨hfirst, hleft⟩ := hcall.2 ⟨hsize, hrest.symm⟩
            exact ⟨hfirst.symm, hlength, hsizes, rest, hleft.symm⟩

/-! ### Calls on a fresh connection -/

/-- Of any calls on a fresh connection, each makes one request with its own number, also behind
calls that failed. It gets a response exactly if the frame of one with that number, and of a size
within bounds, stands where the calls before it have stopped reading; and then it stops reading
behind the frame. So the first calls all get responses exactly if the stream begins with the frames
of these. -/
theorem roundTrips_opened (client : String) (incoming : List UInt8) (calls : List Call) :
    let opened := State.opened client incoming
    let results := (roundTrips calls opened).1
    let left := fun place => (roundTrips (calls.take place) opened).2.incoming
    (roundTrips calls opened).2.sent = calls.mapIdx (fun place call =>
        (⟨call.operation, Int32.ofNat (place + 1), client, call.body⟩ : Request)) ∧
      results.length = calls.length ∧ left 0 = incoming ∧
      (∀ place, left place <:+ incoming) ∧
      (∀ place < calls.length, ∀ body, results[place]? = some (.ok body) ↔
        body.length + 4 ≤ 64 * 1024 * 1024 ∧
          left place = responseFrame (place + 1) body ++ left (place + 1)) ∧
      ∀ bodies : List (List UInt8), bodies.map Except.ok <+: results ↔
        bodies.length ≤ calls.length ∧ (∀ body ∈ bodies, body.length + 4 ≤ 64 * 1024 * 1024) ∧
          (bodies.mapIdx fun place body => responseFrame (place + 1) body).flatten <+:
            incoming := by
  intro opened results left
  have hused : ∀ calls, Used client incoming calls (roundTrips calls opened).2 :=
    fun calls => used_opened.roundTrips calls
  refine ⟨(hused calls).sent_eq, length_roundTrips calls opened, rfl,
    fun place => (hused _).suffix, fun place hplace body => ?_, fun bodies => ?_⟩
  · obtain ⟨hresult, hnext⟩ := getElem?_roundTrips (List.getElem?_eq_getElem hplace) opened
    have hnumber : (roundTrips (calls.take place) opened).2.correlation = Int32.ofNat place := by
      rw [(hused _).correlation_eq, List.length_take, Nat.min_eq_left hplace.le]
    have hcall := @roundTrip_eq_ok_iff _ _ hnumber calls[place] body (left (place + 1))
    change (roundTrips calls opened).1[place]? = _ ↔ _
    rw [← hcall, hresult, Option.some_inj]
    exact (and_iff_left (congrArg State.incoming hnext).symm).symm
  · have hframes : responseFrames 0 bodies =
        (bodies.mapIdx fun place body => responseFrame (place + 1) body).flatten := by
      simp only [responseFrames, Nat.zero_add]
    rw [← hframes]
    exact ok_prefix_roundTrips_iff rfl calls bodies

end BrokerWatch.Connection

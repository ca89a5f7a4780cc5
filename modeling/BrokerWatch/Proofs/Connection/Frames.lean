import BrokerWatch.Connection.Exchange
import BrokerWatch.Proofs.Wire.Reading

/-!
# Responses on a stream

A response is taken off a stream exactly where its frame stands at the front: its size, the number
of the request it answers, and its body, all together no longer than a connection allows.
-/

namespace BrokerWatch.Connection

open Wire

/-- The frame of the response to the request of a number, with its body, stands at the front of a
stream, and the rest of the stream behind it. -/
def Framed (correlation : Int32) (body rest incoming : List UInt8) : Prop :=
  body.length + 4 ≤ maxResponse.toNatClampNeg ∧
    incoming = Field.block (Field.int32 correlation ++ body) ++ rest

theorem ofNat_toNat_int32 (n : Int32) : Int32.ofNat (Bytes.toNat (Field.int32 n)) = n := by
  have hlt : n.toUInt32.toNat < 256 ^ 4 := n.toUInt32.toNat_lt
  rw [Field.int32, Bytes.toNat_ofNat, Nat.mod_eq_of_lt hlt]
  exact congrArg Int32.ofUInt32 UInt32.ofNat_toNat

theorem int32_ofNat_toNat {bytes : List UInt8} (h : bytes.length = 4) :
    Field.int32 (Int32.ofNat (Bytes.toNat bytes)) = bytes := by
  have hlt := Bytes.toNat_lt bytes
  have hnumber : (Int32.ofNat (Bytes.toNat bytes)).toUInt32.toNat = Bytes.toNat bytes := by
    rw [h] at hlt
    simpa using hlt
  rw [Field.int32, hnumber, ← h, Bytes.ofNat_toNat]

/-- The sizes that a connection allows. -/
theorem allowed_iff {size : Int32} :
    ¬(size < 4 ∨ maxResponse < size) ↔
      ¬size < 0 ∧ 4 ≤ size.toNatClampNeg ∧ size.toNatClampNeg ≤ maxResponse.toNatClampNeg := by
  have hfour : (4 : Int32).toInt = 4 := by decide
  have hzero : (0 : Int32).toInt = 0 := by decide
  have hmax : maxResponse.toInt = 67108864 := by decide
  have hmaxNat : maxResponse.toNatClampNeg = 67108864 := by decide
  have hsize : size.toNatClampNeg = size.toInt.toNat := rfl
  rw [Int32.lt_iff_toInt_lt, Int32.lt_iff_toInt_lt, Int32.lt_iff_toInt_lt, hfour, hzero, hmax,
    hmaxNat, hsize]
  omega

/-- What is taken off a stream stood at its front in a frame. -/
theorem framed_of_receive {correlation : Int32} {incoming body rest : List UInt8}
    (h : receive correlation incoming = (.ok body, rest)) :
    Framed correlation body rest incoming := by
  have hsplit := List.take_append_drop 4 incoming
  have hfour : (incoming.take 4).length ≤ 4 := List.length_take_le ..
  -- Every branch that ends in a fault is ruled out, and the checks passed on the way say how the
  -- stream is cut.
  simp only [receive] at h
  generalize incoming.take 4 = head at h hsplit hfour
  generalize incoming.drop 4 = tail at h hsplit
  by_cases hhead : head.length < 4
  · rw [if_pos hhead] at h
    cases h
  rw [if_neg hhead] at h
  have hsize := int32_ofNat_toNat (show head.length = 4 by omega)
  generalize Int32.ofNat (Bytes.toNat head) = size at h hsize
  by_cases hbad : size < 4 ∨ maxResponse < size
  · rw [if_pos hbad] at h
    cases h
  rw [if_neg hbad] at h
  obtain ⟨hpos, hmin, hmax⟩ := allowed_iff.1 hbad
  rw [Reader.int32_of_not_neg hpos] at hsize
  have htail := List.take_append_drop size.toNatClampNeg tail
  have hle : (tail.take size.toNatClampNeg).length ≤ size.toNatClampNeg := List.length_take_le ..
  generalize tail.take size.toNatClampNeg = frame at h htail hle
  generalize tail.drop size.toNatClampNeg = behind at h htail
  by_cases hshort : frame.length < size.toNatClampNeg
  · rw [if_pos hshort] at h
    cases h
  rw [if_neg hshort] at h
  by_cases hown : Int32.ofNat (Bytes.toNat (frame.take 4)) = correlation
  · rw [if_pos hown] at h
    cases h
    have hnumber : Field.int32 correlation = frame.take 4 := by
      rw [← hown, int32_ofNat_toNat (by rw [List.length_take]; omega)]
    refine ⟨by rw [List.length_drop]; omega, ?_⟩
    have hlength : frame.length = size.toNatClampNeg := by omega
    rw [hnumber, List.take_append_drop, Field.block, hlength, hsize, List.append_assoc, htail,
      hsplit]
  · rw [if_neg hown] at h
    cases h

/-- What stands at the front of a stream in a frame is taken off it. -/
theorem Framed.receive {correlation : Int32} {incoming body rest : List UInt8}
    (h : Framed correlation body rest incoming) :
    receive correlation incoming = (.ok body, rest) := by
  obtain ⟨hmax, rfl⟩ := h
  have hfour := Field.length_int32
  have hlength : (Field.int32 correlation ++ body).length = body.length + 4 := by
    rw [List.length_append, hfour, Nat.add_comm]
  have hlt : body.length + 4 < 2 ^ 31 := Nat.lt_of_le_of_lt hmax (by decide)
  obtain ⟨size, hpos, hsize⟩ := Reader.exists_int32_length hlt
  have hframe : (Field.int32 correlation ++ body).length = size.toNatClampNeg := by
    rw [hlength, hsize]
  have hhead : Field.block (Field.int32 correlation ++ body) ++ rest =
      Field.int32 size ++ (Field.int32 correlation ++ body ++ rest) := by
    rw [Field.block, hlength, Reader.int32_of_not_neg hpos, hsize, List.append_assoc]
  rw [hhead]
  simp only [Connection.receive]
  rw [List.take_left' (hfour size), List.drop_left' (hfour size), ofNat_toNat_int32,
    if_neg (by rw [hfour]; omega), if_neg (allowed_iff.2 ⟨hpos, by omega, by omega⟩),
    List.take_left' hframe, List.drop_left' hframe, if_neg (by omega),
    List.take_left' (hfour correlation), List.drop_left' (hfour correlation), ofNat_toNat_int32,
    if_pos rfl]

theorem receive_eq_ok_iff {correlation : Int32} {incoming body rest : List UInt8} :
    receive correlation incoming = (.ok body, rest) ↔ Framed correlation body rest incoming :=
  ⟨framed_of_receive, Framed.receive⟩

/-- A stream has one response at its front at most. -/
theorem Framed.unique {correlation : Int32} {incoming body rest body' rest' : List UInt8}
    (h : Framed correlation body rest incoming) (h' : Framed correlation body' rest' incoming) :
    body = body' ∧ rest = rest' := by
  rw [← receive_eq_ok_iff] at h h'
  rw [h] at h'
  cases h'
  exact ⟨rfl, rfl⟩

/-! ### Requests and their responses -/

section Exchanges

variable {α β R : Type} (decode : List UInt8 → Except ReadError R)

theorem bind_ok {use : Exchange α} {s s' : State} {a : α} (h : use s = (.ok a, s'))
    (next : α → Exchange β) : (use >>= next) s = next a s' := by
  simp only [bind, ExceptT.bind, ExceptT.mk, StateT.bind, h, ExceptT.bindCont]

theorem bind_error {use : Exchange α} {s s' : State} {e : Failure} (h : use s = (.error e, s'))
    (next : α → Exchange β) : (use >>= next) s = (.error e, s') := by
  simp only [bind, ExceptT.bind, ExceptT.mk, StateT.bind, h, ExceptT.bindCont]
  rfl

/-- At the front of a stream stands the response to the request of a number, and it is read as a
certain value. -/
def Answered (correlation : Int32) (incoming : List UInt8) (response : R) (rest : List UInt8) :
    Prop :=
  ∃ body, Framed correlation body rest incoming ∧ decode body = .ok response

variable {decode} in
theorem Answered.unique {correlation : Int32} {incoming rest rest' : List UInt8} {r r' : R}
    (h : Answered decode correlation incoming r rest)
    (h' : Answered decode correlation incoming r' rest') : r = r' ∧ rest = rest' := by
  obtain ⟨body, hframed, hdecode⟩ := h
  obtain ⟨body', hframed', hdecode'⟩ := h'
  obtain ⟨rfl, rfl⟩ := hframed.unique hframed'
  rw [hdecode] at hdecode'
  cases hdecode'
  exact ⟨rfl, rfl⟩

/-- A connection after its next request and with a certain rest of its stream. -/
def State.asked (s : State) (operation : Operation) (body rest : List UInt8) : State :=
  { s.send operation body with incoming := rest }

/-- A request is sent in any case; the exchange goes on if its response can be read, and ends
otherwise. -/
theorem asked_run (operation : Operation) (body : List UInt8) (next : R → Exchange α)
    (s : State) :
    (∃ response rest, Answered decode (s.correlation + 1) s.incoming response rest ∧
        (do next (← orReadFailure (decode (← roundTrip operation body)))) s =
          next response (s.asked operation body rest)) ∨
      (¬∃ response rest, Answered decode (s.correlation + 1) s.incoming response rest) ∧
        ∃ e rest, (do next (← orReadFailure (decode (← roundTrip operation body)))) s =
          (.error e, s.asked operation body rest) := by
  have hround : roundTrip operation body s =
      ((receive (s.correlation + 1) s.incoming).1,
        s.asked operation body (receive (s.correlation + 1) s.incoming).2) := rfl
  cases hreceive : receive (s.correlation + 1) s.incoming with
  | mk result rest =>
      rw [hreceive] at hround
      cases result with
      | error e =>
          refine .inr ⟨?_, e, rest, bind_error hround _⟩
          intro h
          obtain ⟨response, rest', back, hframed, -⟩ := h
          rw [hframed.receive] at hreceive
          cases hreceive
      | ok back =>
          cases hdecode : decode back with
          | ok response =>
              refine .inl ⟨response, rest, ⟨back, receive_eq_ok_iff.1 hreceive, hdecode⟩, ?_⟩
              rw [bind_ok hround, hdecode]
              rfl
          | error e =>
              -- There is one frame at most, and this one cannot be read.
              refine .inr ⟨?_, e.failure, rest, ?_⟩
              · intro h
                obtain ⟨response, rest', back', hframed, hback'⟩ := h
                rw [hframed.receive] at hreceive
                cases hreceive
                rw [hdecode] at hback'
                cases hback'
              · rw [bind_ok hround, hdecode]
                rfl

end Exchanges

end BrokerWatch.Connection

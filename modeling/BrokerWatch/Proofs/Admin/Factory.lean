import BrokerWatch.Admin.Factory
import BrokerWatch.Proofs.Settings.Resolution

/-!
# What a factory refuses

A factory joins the servers of settings into one text, from which those who open sessions cut them
again. Nothing is lost on the way, whether the servers were given or built, and settings are never
without a server. So all that is left for a factory to refuse is the mechanism of authentication.
-/

namespace BrokerWatch

open Sasl (Mechanism)

/-! ### Mechanisms by name -/

theorem Sasl.Mechanism.forall_ne_name_iff {text : String} :
    (∀ m : Mechanism, text ≠ m.name) ↔ text ∉ ["PLAIN", "SCRAM-SHA-256", "SCRAM-SHA-512"] := by
  constructor
  · intro h hmem
    simp only [List.mem_cons, List.not_mem_nil, or_false] at hmem
    obtain hname | hname | hname := hmem
    · exact h .plain hname
    · exact h .scramSha256 hname
    · exact h .scramSha512 hname
  · intro h m hname
    refine h ?_
    rw [hname]
    cases m <;> decide

/-- A name of a mechanism as it is looked up. -/
def Sasl.Mechanism.canonical (text : String) : String :=
  String.ofList ((Text.trimmed text.toList).map Char.toUpper)

theorem Sasl.Mechanism.parse_of_name {text : String} {m : Mechanism}
    (h : Mechanism.canonical text = m.name) : Mechanism.parse text = .ok m := by
  rw [Mechanism.canonical] at h
  rw [Mechanism.parse, h]
  cases m <;> rfl

theorem Sasl.Mechanism.parse_of_not_name {text : String}
    (h : ∀ m : Mechanism, Mechanism.canonical text ≠ m.name) :
    Mechanism.parse text = .error (.mechanism (Mechanism.canonical text)) := by
  rw [Mechanism.parse]
  split
  case _ hname => exact absurd hname (h .plain)
  case _ hname => exact absurd hname (h .scramSha256)
  case _ hname => exact absurd hname (h .scramSha512)
  case _ => rfl

theorem Sasl.Mechanism.parse_eq_error_iff {text : String} {failure : Failure} :
    Mechanism.parse text = .error failure ↔
      (∀ m : Mechanism, Mechanism.canonical text ≠ m.name) ∧
        failure = .mechanism (Mechanism.canonical text) := by
  constructor
  · intro h
    have hnot : ∀ m : Mechanism, Mechanism.canonical text ≠ m.name := by
      intro m hname
      rw [Mechanism.parse_of_name hname] at h
      cases h
    rw [Mechanism.parse_of_not_name hnot] at h
    exact ⟨hnot, (Except.error.inj h).symm⟩
  · intro h
    obtain ⟨hnot, rfl⟩ := h
    exact Mechanism.parse_of_not_name hnot

theorem Sasl.Choice.credentials_eq_error_iff {c : Choice} {failure : Failure} :
    c.credentials = .error failure ↔
      c.enabled = true ∧ Mechanism.parse c.mechanism = .error failure := by
  rw [Choice.credentials]
  by_cases henabled : c.enabled
  · rw [if_pos henabled, map_eq_error_iff, and_iff_right henabled]
  · rw [if_neg henabled]
    exact iff_of_false (fun h => nomatch h) fun h => henabled h.1

/-! ### Servers of settings -/

namespace Options

variable {o : Options} {environment : Discovery.Environment} {s : Settings}

theorem isServer_of_resolve (h : o.resolve environment = .ok s) :
    s.bootstrapServers ≠ [] ∧ ∀ server ∈ s.bootstrapServers, IsServer server := by
  obtain ⟨-, -, hgiven⟩ | ⟨-, t, -, -, hbuilt⟩ := servers_of_resolve h
  · exact isServer_of_given hgiven
  · rw [hbuilt]
    exact ⟨t.splitServers_ne_nil, fun server => isServer_of_mem⟩

end Options

namespace Admin.Factory

theorem build_of_ne_nil {servers : List String} (h : servers ≠ []) (sasl : Sasl.Choice)
    (timeout : Duration) :
    build servers sasl timeout = sasl.credentials.map fun credentials =>
      ⟨",".intercalate servers, credentials, timeout⟩ := by
  rw [build, if_neg (by simpa using h)]

/-- Settings have servers, each of them well formed and none lost when they are joined, so a factory
is refused for the name of a mechanism only. -/
theorem build_of_resolve {o : Options} {environment : Discovery.Environment} {s : Settings}
    (h : o.resolve environment = .ok s) (timeout : Duration) :
    s.bootstrapServers ≠ [] ∧
      (∀ server ∈ s.bootstrapServers, IsServer server) ∧
      Options.splitServers (",".intercalate s.bootstrapServers) = s.bootstrapServers ∧
      (∀ factory, build s.bootstrapServers s.sasl timeout = .ok factory →
        factory.bootstrapServers = ",".intercalate s.bootstrapServers) ∧
      ∀ failure, build s.bootstrapServers s.sasl timeout = .error failure ↔
        s.sasl.enabled = true ∧
          Mechanism.canonical s.sasl.mechanism ∉ ["PLAIN", "SCRAM-SHA-256", "SCRAM-SHA-512"] ∧
          failure = .mechanism (Mechanism.canonical s.sasl.mechanism) := by
  obtain ⟨hne, hservers⟩ := Options.isServer_of_resolve h
  refine ⟨hne, hservers, Options.splitServers_intercalate hne hservers, ?_, ?_⟩
  · intro factory hfactory
    rw [build_of_ne_nil hne] at hfactory
    obtain ⟨credentials, -, rfl⟩ := map_eq_ok_iff.1 hfactory
    rfl
  · intro failure
    rw [build_of_ne_nil hne, map_eq_error_iff, Sasl.Choice.credentials_eq_error_iff,
      Mechanism.parse_eq_error_iff, Mechanism.forall_ne_name_iff]

/-- The address of a workload whose name has a comma in it falls into two servers, and a blank name
between commas into none. -/
theorem build_of_resolve_commas :
    let o : Options :=
      { brokerId := some 0, workloadName := some " a,\t, b ", location := some "l",
        gvcName := some "g", saslEnabled := true, saslMechanism := " scram-sha-1 " }
    ∃ s, o.resolve (fun _ => none) = .ok s ∧
      s.bootstrapServers = ["replica-0. a", "b .l.g.cpln.local:9092"] ∧
      Options.splitServers (",".intercalate s.bootstrapServers) = s.bootstrapServers ∧
      build s.bootstrapServers s.sasl s.checkTimeout = .error (.mechanism "SCRAM-SHA-1") := by
  intro o
  let s : Settings := ⟨0, ["replica-0. a", "b .l.g.cpln.local:9092"],
    some ⟨" a,\t, b ", "l", "g", none, 1, 9092⟩, o.saslChoice, .ofSeconds 10, 8080, "info"⟩
  have hs : o.resolve (fun _ => none) = .ok s := by decide +kernel
  obtain ⟨-, -, hsplit, -, hrefused⟩ := build_of_resolve hs s.checkTimeout
  refine ⟨s, hs, rfl, hsplit, (hrefused _).2 ?_⟩
  decide +kernel

end Admin.Factory

end BrokerWatch

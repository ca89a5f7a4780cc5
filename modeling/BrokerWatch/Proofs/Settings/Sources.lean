import BrokerWatch.Proofs.Discovery

/-!
# What is given and what the environment holds

A value that is given counts and the environment does not; only where none is given a variable is
read in its place. An empty value is as good as none, in either place. So it can be told from the
options and the variables alone what the broker's number and the names of its surroundings are, and
why they are not known.
-/

namespace BrokerWatch.Discovery

/-- A value is there that is not empty. -/
def Given (value : Option String) (text : String) : Prop :=
  value = some text ∧ text ≠ ""

/-- There is no value, or none but an empty one. -/
def NotGiven (value : Option String) : Prop :=
  ∀ text, value = some text → text = ""

theorem given_iff {value : Option String} {text : String} :
    Given value text ↔ value.filter (!·.isEmpty) = some text := by
  rw [Option.filter_eq_some_iff, Given]
  simp

theorem notGiven_iff {value : Option String} :
    NotGiven value ↔ value.filter (!·.isEmpty) = none := by
  rw [Option.filter_eq_none_iff, NotGiven]
  simp

variable {environment : Environment}

theorem nonEmpty?_hostname :
    nonEmpty? environment .hostname = (environment "HOSTNAME").filter (!·.isEmpty) :=
  rfl

/-- The broker's number is the one that is given, whatever the environment holds. Where none is given
it is the one that the host name ends in. -/
theorem brokerId_eq_ok_iff {given : Option Int32} {id : Int32} :
    brokerId given environment = .ok id ↔ given = some id ∨
      given = none ∧ ∃ host, Given (environment "HOSTNAME") host ∧
        ∃ n : Nat, EndsIn host n ∧ n ≤ 2147483647 ∧ id.toInt = n := by
  simp only [given_iff, ← nonEmpty?_hostname, ← brokerIdOfHost_eq_ok_iff, brokerId]
  cases given with
  | some found => simp
  | none => cases nonEmpty? environment .hostname <;> simp

/-- The broker's number is not known where none is given and the host name is missing or ends in
none. -/
theorem brokerId_eq_error_iff {given : Option Int32} {fault : IdentityError} :
    brokerId given environment = .error fault ↔ given = none ∧
      (NotGiven (environment "HOSTNAME") ∧ fault = .unset .hostname ∨
        ∃ host, Given (environment "HOSTNAME") host ∧ fault.Explains host) := by
  simp only [given_iff, notGiven_iff, ← nonEmpty?_hostname, ← brokerIdOfHost_eq_error_iff, brokerId]
  cases given with
  | some found => simp
  | none => cases nonEmpty? environment .hostname <;> simp [eq_comm]

section

variable {given : Option String} {source : Source} {read : String → Except SourceError String}

/-- A name is the one that is given, whatever the environment holds. Where none is given it is the one
that is read from the variable. -/
theorem givenOr_eq_ok_iff {name : String} :
    givenOr given environment source read = .ok name ↔ Given given name ∨
      NotGiven given ∧ ∃ text, Given (environment source.name) text ∧ read text = .ok name := by
  simp only [given_iff, notGiven_iff, givenOr, nonEmpty?]
  cases given.filter (!·.isEmpty) with
  | some found => simp
  | none => cases (environment source.name).filter (!·.isEmpty) <;> simp

theorem givenOr_eq_error_iff {fault : SourceError} :
    givenOr given environment source read = .error fault ↔ NotGiven given ∧
      (NotGiven (environment source.name) ∧ fault = .unset source ∨
        ∃ text, Given (environment source.name) text ∧ read text = .error fault) := by
  simp only [given_iff, notGiven_iff, givenOr, nonEmpty?]
  cases given.filter (!·.isEmpty) with
  | some found => simp
  | none => cases (environment source.name).filter (!·.isEmpty) <;> simp [eq_comm]

end

end BrokerWatch.Discovery

import BrokerWatch.Proofs.Results
import BrokerWatch.Proofs.Settings.Servers
import BrokerWatch.Proofs.Settings.Sources

/-!
# The stages on the way to settings

Settings are reached in stages, each of which can fail for a reason of its own kind: the log level
and the timeout are checked, the broker's number is found, and where no server was given the names
are found from which the addresses are built. When a stage fails, and with what failure, is told here
by what the options and the environment hold, and so are the number and the names that are found.
-/

namespace BrokerWatch

open Discovery

theorem Logging.Level.parse_eq_error_iff {text word : String} {failure : Failure}
    (hword : String.ofList ((Text.trimmed text.toList).map Char.toLower) = word) :
    parse text = .error failure ↔
      word ∉ ["trace", "debug", "info", "warn", "warning", "error"] ∧
        failure = .config ("invalid log level " ++ Text.Quoted.text word ++
          " (expected trace, debug, info, warn or error)") := by
  have hmessage : ∀ quoted : String, "invalid log level " ++ quoted ++ " " ++
      parse.expected = "invalid log level " ++ quoted ++
        " (expected trace, debug, info, warn or error)" := by
    intro quoted
    rw [String.append_assoc]
    rfl
  rw [parse, hword]
  split
  case h_7 _ htrace hdebug hinfo hwarn hwarning herror =>
    have hother : word ∉ ["trace", "debug", "info", "warn", "warning", "error"] := by
      simpa using ⟨htrace, hdebug, hinfo, hwarn, hwarning, herror⟩
    rw [and_iff_right hother, ← hmessage]
    exact ⟨fun h => (Except.error.inj h).symm, fun h => congrArg Except.error h.symm⟩
  all_goals exact iff_of_false (fun h => nomatch h) fun h => h.1 (by decide)

namespace Options

inductive Stage
  | logLevel
  | timeout
  | identity
  | workload
  | location
  | gvc
  deriving DecidableEq, Repr

/-- The stages that options go through. The names are not needed where a server was given. -/
def stages (o : Options) : List Stage :=
  [.logLevel, .timeout, .identity] ++ if o.NamesServer then [] else [.workload, .location, .gvc]

/-! ### When a stage fails -/

/-- A name is not found: none is given, and the variable in its place is missing as well or holds a
link that is bad. -/
def Lacks (given : Option String) (environment : Environment) (key : String)
    (Bad : String → Failure → Prop) (failure : Failure) : Prop :=
  NotGiven given ∧
    (NotGiven (environment key) ∧ failure = .discovery (key ++ " environment variable not set") ∨
      ∃ link, Given (environment key) link ∧ Bad link failure)

def BadHost (host : String) (failure : Failure) : Prop :=
  (∀ n ≤ 2147483647, ¬EndsIn host n) ∧
    ∃ fault : IdentityError, fault.Explains host ∧ failure = .identity fault.message

def BadWorkload (link : String) (failure : Failure) : Prop :=
  (∀ name, name ≠ "" → ¬HasLastSegment link name) ∧
    ∃ fault : SourceError, fault.Explains link ∧ failure = .discovery fault.message

def BadLocation (link : String) (failure : Failure) : Prop :=
  HasLastPart link "" ∧
    failure = .discovery ("invalid CPLN_LOCATION format (empty location): " ++ link)

def Stage.Fails (o : Options) (environment : Environment) : Stage → Failure → Prop
  | logLevel, failure =>
    let word := String.ofList ((Text.trimmed o.logLevel.toList).map Char.toLower)
    word ∉ ["trace", "debug", "info", "warn", "warning", "error"] ∧
      failure = .config ("invalid log level " ++ Text.Quoted.text word ++
        " (expected trace, debug, info, warn or error)")
  | timeout, failure =>
    o.checkTimeout = .zero ∧ failure = .config "CHECK_TIMEOUT must be greater than zero"
  | identity, failure =>
    o.brokerId = none ∧
      (NotGiven (environment "HOSTNAME") ∧
          failure = .identity "HOSTNAME environment variable not set" ∨
        ∃ host, Given (environment "HOSTNAME") host ∧ BadHost host failure)
  | workload, failure => Lacks o.workloadName environment "CPLN_WORKLOAD" BadWorkload failure
  | location, failure => Lacks o.location environment "CPLN_LOCATION" BadLocation failure
  | gvc, failure => Lacks o.gvcName environment "CPLN_GVC" (fun _ _ => False) failure

/-- Why the program does not get past a stage, if it does not. -/
def Stage.fault? (o : Options) (environment : Environment) : Stage → Option Failure
  | logLevel => BrokerWatch.fault? (Logging.Level.parse o.logLevel)
  | timeout =>
    if o.checkTimeout = .zero then some (.config "CHECK_TIMEOUT must be greater than zero")
    else none
  | identity => (BrokerWatch.fault? (Discovery.brokerId o.brokerId environment)).map (·.failure)
  | workload => (BrokerWatch.fault? (Discovery.workload o.workloadName environment)).map (·.failure)
  | location => (BrokerWatch.fault? (Discovery.location o.location environment)).map (·.failure)
  | gvc => (BrokerWatch.fault? (Discovery.gvc o.gvcName environment)).map (·.failure)

variable {o : Options} {environment : Environment} {failure : Failure}

theorem badHost_iff {host : String} :
    BadHost host failure ↔
      ∃ fault, brokerIdOfHost host = .error fault ∧ fault.failure = failure := by
  constructor
  · rintro ⟨-, fault, hfault, rfl⟩
    exact ⟨fault, brokerIdOfHost_eq_error_iff.2 hfault, rfl⟩
  · rintro ⟨fault, hfault, rfl⟩
    rw [brokerIdOfHost_eq_error_iff] at hfault
    exact ⟨notEndsIn_of_explains hfault, fault, hfault, rfl⟩

theorem badWorkload_iff {link : String} :
    BadWorkload link failure ↔
      ∃ fault, workloadOfLink link = .error fault ∧ fault.failure = failure := by
  constructor
  · rintro ⟨-, fault, hfault, rfl⟩
    exact ⟨fault, workloadOfLink_eq_error_iff.2 hfault, rfl⟩
  · rintro ⟨fault, hfault, rfl⟩
    rw [workloadOfLink_eq_error_iff] at hfault
    exact ⟨notHasLastSegment_of_explains hfault, fault, hfault, rfl⟩

theorem badLocation_iff {link : String} :
    BadLocation link failure ↔
      ∃ fault, locationOfLink link = .error fault ∧ fault.failure = failure := by
  simp only [locationOfLink_eq_error_iff]
  constructor
  · rintro ⟨hlast, rfl⟩
    exact ⟨_, ⟨hlast, rfl⟩, rfl⟩
  · rintro ⟨_, ⟨hlast, rfl⟩, rfl⟩
    exact ⟨hlast, rfl⟩

theorem lacks_iff {given : Option String} {source : Source}
    {read : String → Except SourceError String} {Bad : String → Failure → Prop}
    (hbad : ∀ link failure, Bad link failure ↔
      ∃ fault, read link = .error fault ∧ fault.failure = failure) :
    (fault? (givenOr given environment source read)).map (·.failure) = some failure ↔
      Lacks given environment source.name Bad failure := by
  rw [map_fault?_eq_some_iff]
  constructor
  · rintro ⟨fault, hfault, rfl⟩
    obtain ⟨hnot, ⟨hnone, rfl⟩ | ⟨link, hlink, hread⟩⟩ := givenOr_eq_error_iff.1 hfault
    · exact ⟨hnot, .inl ⟨hnone, rfl⟩⟩
    · exact ⟨hnot, .inr ⟨link, hlink, (hbad link _).2 ⟨fault, hread, rfl⟩⟩⟩
  · rintro ⟨hnot, ⟨hnone, rfl⟩ | ⟨link, hlink, hlinkBad⟩⟩
    · exact ⟨_, givenOr_eq_error_iff.2 ⟨hnot, .inl ⟨hnone, rfl⟩⟩, rfl⟩
    · obtain ⟨fault, hread, hfailure⟩ := (hbad link failure).1 hlinkBad
      exact ⟨fault, givenOr_eq_error_iff.2 ⟨hnot, .inr ⟨link, hlink, hread⟩⟩, hfailure⟩

/-- The program gets past a stage exactly if the stage does not fail. -/
theorem Stage.fault?_eq_some_iff (stage : Stage) :
    stage.fault? o environment = some failure ↔ stage.Fails o environment failure := by
  cases stage with
  | logLevel =>
      rw [Stage.fault?, BrokerWatch.fault?_eq_some_iff]
      exact Logging.Level.parse_eq_error_iff rfl
  | timeout =>
      rw [Stage.fault?, Option.ite_none_right_eq_some, Option.some.injEq, eq_comm (b := failure)]
      rfl
  | identity =>
      rw [Stage.fault?, map_fault?_eq_some_iff]
      simp only [brokerId_eq_error_iff, Stage.Fails, badHost_iff, brokerIdOfHost_eq_error_iff]
      constructor
      · rintro ⟨fault, ⟨hid, ⟨hnone, rfl⟩ | ⟨host, hhost, hfault⟩⟩, rfl⟩
        · exact ⟨hid, .inl ⟨hnone, rfl⟩⟩
        · exact ⟨hid, .inr ⟨host, hhost, fault, hfault, rfl⟩⟩
      · rintro ⟨hid, ⟨hnone, rfl⟩ | ⟨host, hhost, fault, hfault, rfl⟩⟩
        · exact ⟨_, ⟨hid, .inl ⟨hnone, rfl⟩⟩, rfl⟩
        · exact ⟨fault, ⟨hid, .inr ⟨host, hhost, hfault⟩⟩, rfl⟩
  | workload => exact lacks_iff fun _ _ => badWorkload_iff
  | location => exact lacks_iff fun _ _ => badLocation_iff
  | gvc =>
      have hnever : ∀ (text : String) (failure : Failure), False ↔ ∃ fault : SourceError,
          (.ok text : Except SourceError String) = .error fault ∧ fault.failure = failure := by
        simp
      exact lacks_iff hnever

theorem Stage.fault?_eq_none_iff (stage : Stage) :
    stage.fault? o environment = none ↔ ∀ failure, ¬stage.Fails o environment failure := by
  simp only [Option.eq_none_iff_forall_ne_some, ne_eq, Stage.fault?_eq_some_iff]

/-! ### What is found -/

/-- The broker's number is the one that is given, whatever the environment holds, or else the one
that the host name ends in. -/
def TellsNumber (o : Options) (environment : Environment) (id : Int32) : Prop :=
  o.brokerId = some id ∨
    o.brokerId = none ∧ ∃ host, Given (environment "HOSTNAME") host ∧
      ∃ n : Nat, EndsIn host n ∧ n ≤ 2147483647 ∧ id.toInt = n

/-- A name is the one that is given, whatever the environment holds, or else the one that the
variable in its place tells. -/
def TellsName (given : Option String) (environment : Environment) (key : String)
    (Tells : String → String → Prop) (name : String) : Prop :=
  Given given name ∨ NotGiven given ∧ ∃ text, Given (environment key) text ∧ Tells text name

/-- A topology has the names that the options and the environment tell. -/
structure TellsTopology (o : Options) (environment : Environment) (t : Topology) : Prop where
  workload : TellsName o.workloadName environment "CPLN_WORKLOAD"
    (fun link name => name ≠ "" ∧ HasLastSegment link name) t.workloadName
  location : TellsName o.location environment "CPLN_LOCATION"
    (fun link name => name ≠ "" ∧ HasLastPart link name) t.location
  gvc : TellsName o.gvcName environment "CPLN_GVC" (fun text name => text = name) t.gvcName
  gvcAlias : ∀ name, t.gvcAlias = some name ↔
    TellsName o.gvcAlias environment "CPLN_GVC_ALIAS" (fun text name => text = name) name

theorem givenOr_eq_ok_iff_tellsName {given : Option String} {source : Source}
    {read : String → Except SourceError String} {Tells : String → String → Prop}
    (htells : ∀ text name, read text = .ok name ↔ Tells text name) {name : String} :
    givenOr given environment source read = .ok name ↔
      TellsName given environment source.name Tells name := by
  simp only [givenOr_eq_ok_iff, htells, TellsName]

theorem tellsTopology_of_topology {t : Topology} (h : o.topology environment = .ok t) :
    o.TellsTopology environment t := by
  obtain ⟨workloadName, hworkload, h⟩ := bind_eq_ok_iff.1 h
  obtain ⟨location, hlocation, h⟩ := bind_eq_ok_iff.1 h
  obtain ⟨gvcName, hgvc, h⟩ := bind_eq_ok_iff.1 h
  cases h
  have hsame : ∀ text name : String,
      (.ok text : Except SourceError String) = .ok name ↔ text = name := by
    simp
  refine ⟨?_, ?_, ?_, fun name => ?_⟩
  · exact (givenOr_eq_ok_iff_tellsName fun _ _ => workloadOfLink_eq_ok_iff).1 hworkload
  · exact (givenOr_eq_ok_iff_tellsName fun _ _ => locationOfLink_eq_ok_iff).1 hlocation
  · exact (givenOr_eq_ok_iff_tellsName hsame).1 hgvc
  · rw [toOption_eq_some_iff]
    exact givenOr_eq_ok_iff_tellsName hsame

end Options

end BrokerWatch

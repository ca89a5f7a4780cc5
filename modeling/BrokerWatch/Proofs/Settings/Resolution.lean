import BrokerWatch.Proofs.Settings.Stages

/-!
# From options to settings

Options fail with the failure of the first stage that fails, and come to settings where none does. A
stage looks at a variable only where nothing was given in its place, so the environment counts for no
more than that.
-/

namespace BrokerWatch

open Discovery (Environment Source NotGiven nonEmpty?)

namespace Options

variable {o : Options} {environment other : Environment}

/-! ### The first fault -/

theorem fault?_identity (o : Options) (environment : Environment) :
    fault? (o.identity environment) =
      [Stage.logLevel, .timeout, .identity].findSome? (·.fault? o environment) := by
  have hchain : fault? (o.identity environment) = (Stage.logLevel.fault? o environment).or
      ((Stage.timeout.fault? o environment).or (Stage.identity.fault? o environment)) := by
    refine fault?_bind fun _ => ?_
    refine fault?_ite_throw.trans ?_
    rw [fault?_mapError]
    rfl
  rw [hchain]
  simp only [findSome?_cons_or, List.findSome?_nil, Option.or_none]

theorem fault?_topology (o : Options) (environment : Environment) :
    (fault? (o.topology environment)).map (·.failure) =
      [Stage.workload, .location, .gvc].findSome? (·.fault? o environment) := by
  have hchain : fault? (o.topology environment) =
      (fault? (Discovery.workload o.workloadName environment)).or
        ((fault? (Discovery.location o.location environment)).or
          ((fault? (Discovery.gvc o.gvcName environment)).or none)) := by
    refine fault?_bind fun _ => fault?_bind fun _ => fault?_bind fun _ => ?_
    rfl
  rw [hchain]
  simp only [findSome?_cons_or, List.findSome?_nil, Option.map_or, Option.map_none, Stage.fault?]

theorem fault?_resolve (o : Options) (environment : Environment) :
    fault? (o.resolve environment) = o.stages.findSome? (·.fault? o environment) := by
  have hchain : fault? (o.resolve environment) =
      (fault? (o.identity environment)).or (fault? (o.servers environment)) := by
    refine fault?_bind fun _ => (fault?_bind fun _ => ?_).trans Option.or_none
    rfl
  rw [hchain, fault?_identity, stages, List.findSome?_append]
  by_cases hnames : o.NamesServer
  · obtain ⟨servers, -, hservers⟩ := servers_of_names hnames
    rw [if_pos hnames, hservers]
    rfl
  · rw [if_neg hnames, servers_of_not_names hnames, ← fault?_topology]
    cases o.topology environment <;> rfl

theorem resolve_eq_error_iff {failure : Failure} :
    o.resolve environment = .error failure ↔
      ∃ before stage after, o.stages = before ++ stage :: after ∧
        (∀ earlier ∈ before, ∀ e, ¬earlier.Fails o environment e) ∧
        stage.Fails o environment failure := by
  rw [← fault?_eq_some_iff, fault?_resolve, List.findSome?_eq_some_iff]
  simp only [Stage.fault?_eq_some_iff, Stage.fault?_eq_none_iff]
  constructor
  · rintro ⟨before, stage, after, hstages, hfails, hbefore⟩
    exact ⟨before, stage, after, hstages, hbefore, hfails⟩
  · rintro ⟨before, stage, after, hstages, hbefore, hfails⟩
    exact ⟨before, stage, after, hstages, hfails, hbefore⟩

theorem exists_resolve_iff :
    (∃ s, o.resolve environment = .ok s) ↔
      ∀ stage ∈ o.stages, ∀ failure, ¬stage.Fails o environment failure := by
  rw [← fault?_eq_none_iff, fault?_resolve, List.findSome?_eq_none_iff]
  simp only [Stage.fault?_eq_none_iff]

theorem resolve_eq_ok_iff {s : Settings} :
    o.resolve environment = .ok s ↔ ∃ brokerId servers topology,
      o.identity environment = .ok brokerId ∧ o.servers environment = .ok (servers, topology) ∧
      s = ⟨brokerId, servers, topology, o.saslChoice, o.checkTimeout, o.port, o.logLevel⟩ := by
  rw [resolve, bind_eq_ok_iff]
  constructor
  · intro h
    obtain ⟨brokerId, hid, hrest⟩ := h
    obtain ⟨⟨servers, topology⟩, hservers, hpure⟩ := bind_eq_ok_iff.1 hrest
    cases hpure
    exact ⟨brokerId, servers, topology, hid, hservers, rfl⟩
  · intro h
    obtain ⟨brokerId, servers, topology, hid, hservers, rfl⟩ := h
    exact ⟨brokerId, hid, bind_eq_ok_iff.2 ⟨_, hservers, rfl⟩⟩

/-- The servers of settings were given, or they are cut out of the addresses of a topology that the
settings keep. -/
theorem servers_of_resolve {s : Settings} (h : o.resolve environment = .ok s) :
    (o.NamesServer ∧ s.topology = none ∧ o.givenServers = some s.bootstrapServers) ∨
      (¬o.NamesServer ∧ ∃ t, s.topology = some t ∧ o.TellsTopology environment t ∧
        s.bootstrapServers = splitServers t.bootstrapServers) := by
  obtain ⟨brokerId, servers, topology, -, hservers, rfl⟩ := resolve_eq_ok_iff.1 h
  by_cases hnames : o.NamesServer
  · obtain ⟨given, hgiven, hsame⟩ := servers_of_names hnames
    rw [hsame] at hservers
    cases hservers
    exact .inl ⟨hnames, rfl, hgiven⟩
  · rw [servers_of_not_names hnames] at hservers
    cases ht : o.topology environment with
    | error e =>
        rw [ht] at hservers
        cases hservers
    | ok t =>
        rw [ht] at hservers
        obtain ⟨hsplit, hkept⟩ := Prod.mk.inj (Except.ok.inj hservers)
        exact .inr ⟨hnames, t, hkept.symm, tellsTopology_of_topology ht, hsplit.symm⟩

theorem tellsNumber_of_resolve {s : Settings} (h : o.resolve environment = .ok s) :
    o.TellsNumber environment s.brokerId := by
  obtain ⟨brokerId, _, _, hid, -, rfl⟩ := resolve_eq_ok_iff.1 h
  obtain ⟨_, -, hchecked⟩ := bind_eq_ok_iff.1 hid
  obtain ⟨-, hfound⟩ := ite_throw_bind_eq_ok_iff.1 hchecked
  exact Discovery.brokerId_eq_ok_iff.1 (mapError_eq_ok_iff.1 hfound)

/-! ### What is looked up -/

/-- Whether a variable is looked at on the way to settings. -/
def Consults (o : Options) : Source → Prop
  | .hostname => o.brokerId = none
  | .workload => ¬o.NamesServer ∧ NotGiven o.workloadName
  | .location => ¬o.NamesServer ∧ NotGiven o.location
  | .gvc => ¬o.NamesServer ∧ NotGiven o.gvcName
  | .gvcAlias => ¬o.NamesServer ∧ NotGiven o.gvcAlias

theorem brokerId_congr {given : Option Int32}
    (h : given = none → nonEmpty? other .hostname = nonEmpty? environment .hostname) :
    Discovery.brokerId given other = Discovery.brokerId given environment := by
  cases given with
  | none => rw [Discovery.brokerId, h rfl, Discovery.brokerId]
  | some id => rfl

theorem givenOr_congr {given : Option String} {source : Source}
    (h : NotGiven given → nonEmpty? other source = nonEmpty? environment source)
    (read : String → Except Discovery.SourceError String) :
    Discovery.givenOr given other source read =
      Discovery.givenOr given environment source read := by
  cases hgiven : given.filter (!·.isEmpty) with
  | some name => simp only [Discovery.givenOr, hgiven]
  | none => simp only [Discovery.givenOr, h (Discovery.notGiven_iff.2 hgiven)]

theorem topology_congr (hnames : ¬o.NamesServer)
    (h : ∀ source, o.Consults source → nonEmpty? other source = nonEmpty? environment source) :
    o.topology other = o.topology environment := by
  have hworkload : Discovery.workload o.workloadName other = _ :=
    givenOr_congr (fun hnot => h .workload ⟨hnames, hnot⟩) _
  have hlocation : Discovery.location o.location other = _ :=
    givenOr_congr (fun hnot => h .location ⟨hnames, hnot⟩) _
  have hgvc : Discovery.gvc o.gvcName other = _ :=
    givenOr_congr (fun hnot => h .gvc ⟨hnames, hnot⟩) _
  have halias : Discovery.gvcAlias o.gvcAlias other = _ :=
    givenOr_congr (fun hnot => h .gvcAlias ⟨hnames, hnot⟩) _
  rw [topology, hworkload, hlocation, hgvc, halias]
  rfl

theorem resolve_congr
    (h : ∀ source, o.Consults source → nonEmpty? other source = nonEmpty? environment source) :
    o.resolve other = o.resolve environment := by
  have hid : o.identity other = o.identity environment := by
    rw [identity, brokerId_congr (h .hostname), identity]
  have hservers : o.servers other = o.servers environment := by
    by_cases hnames : o.NamesServer
    · obtain ⟨servers, -, hsame⟩ := servers_of_names hnames
      rw [hsame, hsame]
    · rw [servers_of_not_names hnames, servers_of_not_names hnames, topology_congr hnames h]
  rw [resolve, hid, hservers, resolve]

/-- No stage looks at the scope's former name. -/
theorem Stage.fault?_congr (stage : Stage) (former : Option String)
    (h : ∀ source, source ≠ .gvcAlias → nonEmpty? other source = nonEmpty? environment source) :
    stage.fault? { o with gvcAlias := former } other = stage.fault? o environment := by
  cases stage with
  | logLevel | timeout => rfl
  | identity =>
      rw [Stage.fault?, brokerId_congr fun _ => h .hostname (by decide), Stage.fault?]
  | workload =>
      rw [Stage.fault?, Discovery.workload, givenOr_congr fun _ => h .workload (by decide)]
      rfl
  | location =>
      rw [Stage.fault?, Discovery.location, givenOr_congr fun _ => h .location (by decide)]
      rfl
  | gvc =>
      rw [Stage.fault?, Discovery.gvc, givenOr_congr fun _ => h .gvc (by decide)]
      rfl

theorem nonEmpty?_withoutEmpty (environment : Environment) (source : Source) :
    nonEmpty? (withoutEmpty environment) source = nonEmpty? environment source := by
  rw [nonEmpty?, withoutEmpty, Option.filter_filter, nonEmpty?]
  simp

theorem not_consults (hid : o.brokerId.isSome) (hnames : o.NamesServer) (source : Source) :
    ¬o.Consults source := by
  cases source with
  | hostname =>
      intro hnone
      rw [Consults] at hnone
      rw [hnone] at hid
      cases hid
  | workload | location | gvc | gvcAlias => exact fun h => h.1 hnames

/-- Options fail with the failure of the first stage that fails, and come to settings where none does.
These have the broker's number that was given or that the host name ends in. They have the servers
that were given, and a topology exactly where none was, with the names that were given or found, by
which the servers were built. The scope's former name, given or looked up, changes no failure. Of an
environment nothing counts but the variables that are consulted, and of those an empty one is as good
as none; where a number and a server are given, nothing of it counts. -/
theorem resolve_in_stages (o : Options) (environment : Environment) :
    (∀ failure, o.resolve environment = .error failure ↔
      ∃ before stage after, o.stages = before ++ stage :: after ∧
        (∀ earlier ∈ before, ∀ e, ¬earlier.Fails o environment e) ∧
        stage.Fails o environment failure) ∧
    ((∃ s, o.resolve environment = .ok s) ↔
      ∀ stage ∈ o.stages, ∀ failure, ¬stage.Fails o environment failure) ∧
    (∀ s, o.resolve environment = .ok s →
      o.TellsNumber environment s.brokerId ∧
        ((o.NamesServer ∧ s.topology = none ∧ o.givenServers = some s.bootstrapServers) ∨
          (¬o.NamesServer ∧ ∃ t, s.topology = some t ∧ o.TellsTopology environment t ∧
            s.bootstrapServers = splitServers t.bootstrapServers))) ∧
    (∀ former other,
      (∀ source, source ≠ .gvcAlias → nonEmpty? other source = nonEmpty? environment source) →
      ∀ failure, ({ o with gvcAlias := former } : Options).resolve other = .error failure ↔
        o.resolve environment = .error failure) ∧
    (∀ other,
      (∀ source, o.Consults source → nonEmpty? other source = nonEmpty? environment source) →
      o.resolve other = o.resolve environment) ∧
    o.resolve (withoutEmpty environment) = o.resolve environment ∧
    (o.brokerId.isSome → o.NamesServer → ∀ other, o.resolve other = o.resolve environment) := by
  refine ⟨fun failure => resolve_eq_error_iff, exists_resolve_iff,
    fun s h => ⟨tellsNumber_of_resolve h, servers_of_resolve h⟩,
    fun former other hagree failure => ?_, fun other => resolve_congr, ?_, ?_⟩
  · have hstages : ({ o with gvcAlias := former } : Options).stages = o.stages := rfl
    rw [← fault?_eq_some_iff, fault?_resolve, hstages, ← fault?_eq_some_iff, fault?_resolve]
    simp only [Stage.fault?_congr _ former hagree]
  · exact resolve_congr fun source _ => nonEmpty?_withoutEmpty environment source
  · intro hid hnames other
    exact resolve_congr fun source hconsults => absurd hconsults (not_consults hid hnames source)

/-- A blank list of servers is none, and the location was given, so a location in the environment
that ends in a slash does no harm. A bad log level is reported first, and an empty host name is none.
-/
theorem resolve_in_stages_blank :
    let o : Options :=
      { workloadName := some "", location := some "west", bootstrapServers := some " ,, " }
    let found : List (String × String) := [("HOSTNAME", "kafka-2"), ("CPLN_GVC", "g"),
      ("CPLN_WORKLOAD", "/org/o/gvc/g/workload/w")]
    let environment : Environment := fun key => found.lookup key
    let other : Environment := fun key => (("CPLN_LOCATION", "/org/o/") :: found).lookup key
    let loud : Options :=
      { brokerId := some 5, bootstrapServers := some "a:1, ", logLevel := "loud" }
    let nameless : Options := { bootstrapServers := some "a:1" }
    (∃ s, o.resolve environment = .ok s ∧ s.topology.isSome) ∧
      o.resolve other = o.resolve environment ∧
      (∃ reason, loud.resolve environment = .error (.config reason)) ∧
      loud.resolve other = loud.resolve environment ∧
      nameless.resolve (fun _ => some "") =
        .error (.identity "HOSTNAME environment variable not set") := by
  intro o found environment other loud nameless
  have hnone : ∀ stage ∈ o.stages, ∀ failure, ¬stage.Fails o environment failure := by
    simp only [← Stage.fault?_eq_none_iff]
    decide +kernel
  have hlocation : ¬o.Consults .location := fun h => absurd (h.2 "west" rfl) (by decide)
  have hagree : ∀ source, o.Consults source →
      nonEmpty? other source = nonEmpty? environment source := by
    intro source hconsults
    cases source with
    | location => exact absurd hconsults hlocation
    | hostname | workload | gvc | gvcAlias => decide +kernel
  have hnames : loud.NamesServer := by decide +kernel
  obtain ⟨-, hpasses, hsettles, -, hsame, -, -⟩ := resolve_in_stages o environment
  obtain ⟨hfails, -, -, -, -, -, halone⟩ := resolve_in_stages loud environment
  obtain ⟨hunknown, -, -, -, -, -, -⟩ := resolve_in_stages nameless fun _ => some ""
  refine ⟨?_, hsame other hagree, ⟨_, (hfails _).2 ⟨[], .logLevel, _, rfl, by simp, ?_, rfl⟩⟩,
    halone rfl hnames other, (hunknown _).2 ⟨[.logLevel, .timeout], .identity, _, rfl, ?_, rfl,
      .inl ⟨fun text h => (Option.some.inj h).symm, rfl⟩⟩⟩
  · obtain ⟨s, hs⟩ := hpasses.2 hnone
    obtain ⟨-, ⟨hgiven, -⟩ | ⟨-, t, ht, -⟩⟩ := hsettles s hs
    · exact absurd hgiven (by decide +kernel)
    · exact ⟨s, hs, by rw [ht]; rfl⟩
  · decide +kernel
  · simp only [← Stage.fault?_eq_none_iff]
    decide +kernel

end Options

end BrokerWatch

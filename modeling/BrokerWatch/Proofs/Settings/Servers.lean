import BrokerWatch.Proofs.Results
import BrokerWatch.Proofs.Text.Blank
import BrokerWatch.Proofs.Text.Split
import BrokerWatch.Settings.Basic

/-!
# The servers that settings name

The servers of settings are cut out of a text, which a user gave or which was built from names.
Either way the list has at least one entry, and its entries can be joined with commas and cut apart
again without loss.
-/

namespace BrokerWatch

/-! ### Cutting a text into servers -/

/-- What can stand in a list of servers: something, without a comma and with no blank at either end.
-/
structure IsServer (server : String) : Prop where
  ne_empty : server ≠ ""
  comma_notMem : ',' ∉ server.toList
  tight : Text.Tight server.toList

namespace Options

theorem mem_splitServers_iff {text server : String} :
    server ∈ splitServers text ↔ server ≠ "" ∧
      ∃ entry ∈ Text.fields ',' text.toList, Text.trimmed entry = server.toList := by
  simp only [splitServers, List.mem_map, List.mem_filter]
  constructor
  · intro h
    obtain ⟨_, ⟨⟨entry, hentry, rfl⟩, hne⟩, rfl⟩ := h
    exact ⟨by simpa using hne, entry, hentry, String.toList_ofList.symm⟩
  · intro h
    obtain ⟨hne, entry, hentry, htrimmed⟩ := h
    refine ⟨server.toList, ⟨⟨entry, hentry, htrimmed⟩, ?_⟩, String.ofList_toList⟩
    simpa using hne

theorem isServer_of_mem {text server : String} (h : server ∈ splitServers text) :
    IsServer server := by
  obtain ⟨hne, entry, hentry, htrimmed⟩ := mem_splitServers_iff.1 h
  refine ⟨hne, ?_, htrimmed ▸ Text.tight_trimmed entry⟩
  rw [← htrimmed]
  exact fun hcomma => Text.notMem_of_mem_fields hentry ((Text.trimmed_infix entry).subset hcomma)

theorem splitServers_ne_nil_iff {text : String} :
    splitServers text ≠ [] ↔
      ∃ entry ∈ Text.fields ',' text.toList, ∃ c ∈ entry, Text.isBlank c = false := by
  have hempty : splitServers text = [] ↔
      ∀ entry ∈ Text.fields ',' text.toList, Text.trimmed entry = [] := by
    simp [splitServers, List.filter_eq_nil_iff]
  simp only [Ne, hempty, Text.trimmed_eq_nil_iff, not_forall, Bool.not_eq_true, exists_prop]

theorem splitServers_ne_nil_of_mem {text : String} {c : Char} (hc : c ∈ text.toList)
    (hcomma : c ≠ ',') (hblank : Text.isBlank c = false) : splitServers text ≠ [] := by
  obtain ⟨entry, hentry, hmem⟩ := Text.exists_mem_fields_iff.2 ⟨hc, hcomma⟩
  exact splitServers_ne_nil_iff.2 ⟨entry, hentry, c, hmem, hblank⟩

theorem splitServers_append (front back : String) :
    splitServers (front ++ "," ++ back) = splitServers front ++ splitServers back := by
  have hcut : (front ++ "," ++ back).toList = front.toList ++ ',' :: back.toList := by simp
  simp only [splitServers, hcut, Text.fields_append_sep, List.map_append, List.filter_append]

/-- Texts that are joined with commas are cut as each of them alone. -/
theorem splitServers_intercalate_eq_flatMap (texts : List String) :
    splitServers (",".intercalate texts) = texts.flatMap splitServers := by
  induction texts with
  | nil => rfl
  | cons text texts ih =>
      cases texts with
      | nil => rw [String.intercalate_singleton, List.flatMap_singleton]
      | cons next texts =>
          rw [String.intercalate_cons_cons, splitServers_append, ih, ← List.flatMap_cons]

/-- Servers that are joined with commas are cut apart again. -/
theorem splitServers_intercalate {servers : List String} (hne : servers ≠ [])
    (h : ∀ server ∈ servers, IsServer server) :
    splitServers (",".intercalate servers) = servers := by
  have hfields : Text.fields ',' (",".intercalate servers).toList = servers.map (·.toList) := by
    rw [String.toList_intercalate]
    refine Text.fields_intercalate (by simpa using hne) ?_
    rw [List.forall_mem_map]
    exact fun server hserver => (h server hserver).comma_notMem
  have htrimmed : (servers.map (·.toList)).map Text.trimmed = servers.map (·.toList) := by
    rw [List.map_map]
    exact List.map_congr_left fun server hserver => (h server hserver).tight.trimmed_eq
  have hkept : (servers.map (·.toList)).filter (!·.isEmpty) = servers.map (·.toList) := by
    rw [List.filter_eq_self, List.forall_mem_map]
    intro server hserver
    simp [(h server hserver).ne_empty]
  rw [splitServers, hfields, htrimmed, hkept, List.map_map]
  simp [Function.comp_def]

end Options

/-! ### Where the text comes from -/

theorem Discovery.mem_replicaAddress (workload location gvc : String) (port : UInt16)
    (index : Nat) : 'r' ∈ (Discovery.replicaAddress workload location gvc port index).toList := by
  -- The equation of so long a concatenation is slow to derive, and is not needed.
  delta Discovery.replicaAddress
  simp only [String.append_assoc, String.toList_append, List.mem_append]
  exact .inl (by decide)

/-- However few replicas are asked for, the first one has an address. -/
theorem Topology.splitServers_ne_nil (t : Topology) :
    Options.splitServers t.bootstrapServers ≠ [] := by
  obtain ⟨more, hmore⟩ : ∃ more, Discovery.replicas t.replicaCount = more + 1 :=
    Nat.exists_eq_add_one.2 (Nat.le_max_left ..)
  have hmem : 'r' ∈ t.bootstrapServers.toList := by
    rw [Topology.bootstrapServers, Discovery.bootstrapServers, hmore, List.range_succ_eq_map,
      List.map_cons, String.toList_intercalate, List.map_cons]
    exact Text.mem_intercalate_cons (Discovery.mem_replicaAddress ..) _
  exact Options.splitServers_ne_nil_of_mem hmem (by decide) (by decide)

namespace Options

/-- Whether the list of servers that a user gave has an entry that is not blank. -/
def NamesServer (o : Options) : Prop :=
  ∃ text, o.bootstrapServers = some text ∧
    ∃ entry ∈ Text.fields ',' text.toList, ∃ c ∈ entry, Text.isBlank c = false

theorem givenServers_eq_some_iff {o : Options} {servers : List String} :
    o.givenServers = some servers ↔
      ∃ text, o.bootstrapServers = some text ∧ splitServers text = servers ∧ servers ≠ [] := by
  simp only [givenServers, Option.filter_eq_some_iff, Option.map_eq_some_iff]
  constructor
  · intro h
    obtain ⟨⟨text, htext, hsplit⟩, hne⟩ := h
    exact ⟨text, htext, hsplit, by simpa using hne⟩
  · intro h
    obtain ⟨text, htext, hsplit, hne⟩ := h
    exact ⟨⟨text, htext, hsplit⟩, by simpa using hne⟩

theorem givenServers_isSome_iff {o : Options} : o.givenServers.isSome ↔ o.NamesServer := by
  simp only [Option.isSome_iff_exists, givenServers_eq_some_iff, NamesServer,
    ← splitServers_ne_nil_iff]
  constructor
  · intro h
    obtain ⟨_, text, htext, rfl, hne⟩ := h
    exact ⟨text, htext, hne⟩
  · intro h
    obtain ⟨text, htext, hne⟩ := h
    exact ⟨_, text, htext, rfl, hne⟩

instance (o : Options) : Decidable o.NamesServer :=
  decidable_of_iff _ givenServers_isSome_iff

theorem isServer_of_given {o : Options} {servers : List String}
    (h : o.givenServers = some servers) :
    servers ≠ [] ∧ ∀ server ∈ servers, IsServer server := by
  obtain ⟨text, -, rfl, hne⟩ := givenServers_eq_some_iff.1 h
  exact ⟨hne, fun server => isServer_of_mem⟩

theorem servers_of_names {o : Options} (h : o.NamesServer) :
    ∃ servers, o.givenServers = some servers ∧
      ∀ environment, o.servers environment = .ok (servers, none) := by
  obtain ⟨servers, hgiven⟩ := Option.isSome_iff_exists.1 (givenServers_isSome_iff.2 h)
  refine ⟨servers, hgiven, fun environment => ?_⟩
  rw [Options.servers, hgiven]

theorem servers_of_not_names {o : Options} (h : ¬o.NamesServer)
    (environment : Discovery.Environment) :
    o.servers environment = ((o.topology environment).mapError (·.failure)).map
      fun t => (splitServers t.bootstrapServers, some t) := by
  have hgiven : o.givenServers = none := by
    rwa [← Option.not_isSome_iff_eq_none, givenServers_isSome_iff]
  rw [Options.servers, hgiven]
  cases o.topology environment <;> rfl

end Options

end BrokerWatch
